import LeddyRaspPi.Lib.Histories
import LeddyRaspPi.Lib.Grid
import LeddyRaspPi.Lib.PowerCut
import LeddyRaspPi.FrameSink
import LeddyRaspPi.RoundTrip
import LeddyRaspPi.Helper.Shows
import LeddyRaspPi.Helper.Passes
import LeddyRaspPi.Backends
import LeddyRaspPi.Agent.Backoff
import LeddyRaspPi.Agent.Brightness
import LeddyRaspPi.Agent.Frames
import LeddyRaspPi.Agent.HelperLoss
import LeddyRaspPi.Agent.Latch
import LeddyRaspPi.Agent.Outage
import LeddyRaspPi.Agent.Packets
import LeddyRaspPi.Agent.Persistence
import LeddyRaspPi.Agent.Precedence
import LeddyRaspPi.Agent.Reconfigure
import LeddyRaspPi.Agent.Replies
import LeddyRaspPi.Agent.Watchdog
import LeddyRaspPi.Agent.Unbroken
import LeddyRaspPi.Rig.Ledger
import LeddyRaspPi.Rig.System
import LeddyRaspPi.Helper.Viewport
import LeddyRaspPi.Agent.Blackout
import LeddyRaspPi.Rig.Panels
import LeddyRaspPi.Agent.Snapshots
import LeddyRaspPi.Agent.Telemetry
import LeddyRaspPi.Agent.Restarts
import LeddyRaspPi.Agent.Served
import LeddyRaspPi.Lib.Lockstep
import LeddyRaspPi.Agent.Twins
import LeddyRaspPi.Rig.Alike
import LeddyRaspPi.Helper.Options
import LeddyRaspPi.Agent.Described
import LeddyRaspPi.Rig.Stops
import LeddyRaspPi.Rig.Delivery
import LeddyRaspPi.Rig.Silence
import LeddyRaspPi.Rig.Replay
