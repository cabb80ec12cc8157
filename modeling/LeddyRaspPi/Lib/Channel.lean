import LeddyRaspPi.Lib.Code

/-!
# Channels

A writer puts codewords into a channel and a reader takes them off its front, each at its own pace;
a writer that goes away may break off in the middle of a codeword. `Carries` is the conservation law
of such a channel: what was sent is what was received followed by what is in flight. Each move of
the two parties keeps it, so in every interleaving the reader has received a prefix of what was sent
(`Carries.received_prefix`), and all of it once no codeword is left in the channel
(`Carries.drained`).
-/

namespace Code

variable {α β : Type} (C : Code α β)

/-- Of the values sent the reader has received the first few; the codewords of the others are in the
channel in order, and behind them a tail with which no codeword begins. -/
structure Carries (sent received : List α) (tail flight : List β) : Prop where
  valid : ∀ a ∈ sent, C.valid a
  split : ∃ pending, sent = received ++ pending ∧ flight = C.stream pending ++ tail
  stuck : ¬ C.Begins tail

variable {C} {sent received as : List α} {s tail flight rest : List β} {a : α}

/-- The stream of two sequences is the one behind the other. -/
theorem stream_append (as bs : List α) : C.stream (as ++ bs) = C.stream as ++ C.stream bs :=
  List.flatMap_append

/-- A channel that has not been used. -/
theorem carries_nil : C.Carries [] [] [] [] where
  valid := fun _ h => absurd h List.not_mem_nil
  split := ⟨[], rfl, rfl⟩
  stuck := not_begins_nil

/-- Some codewords, one after the other. -/
theorem leading_stream (has : ∀ a ∈ as, C.valid a) : C.Leading (C.stream as) as [] where
  valid := has
  split := (List.append_nil _).symm
  stuck := not_begins_nil

/-- The writer sends the codewords of some values; it goes away if it breaks off in the middle of
another one. -/
theorem Carries.send (h : C.Carries sent received [] flight) (hs : C.Leading s as tail) :
    C.Carries (sent ++ as) received tail (flight ++ s) where
  valid a ha := (List.mem_append.1 ha).elim (h.valid a) (hs.valid a)
  split := by
    obtain ⟨pending, hsent, hflight⟩ := h.split
    refine ⟨pending ++ as, by rw [hsent, List.append_assoc], ?_⟩
    rw [hflight, hs.split, stream_append, List.append_nil, List.append_assoc]
  stuck := hs.stuck

/-- A codeword at the front of the channel is that of the next value. -/
theorem Carries.receive (h : C.Carries sent received tail (C.encode a ++ rest)) (ha : C.valid a) :
    C.Carries sent (received ++ [a]) tail rest where
  valid := h.valid
  split := by
    obtain ⟨pending, hsent, hflight⟩ := h.split
    cases pending with
    | nil => exact absurd ⟨a, rest, ha, hflight.symm⟩ h.stuck
    | cons b pending =>
      rw [stream_cons, List.append_assoc] at hflight
      have hb : C.valid b := h.valid b (by rw [hsent]; simp)
      obtain ⟨rfl, hrest⟩ := C.encode_inj ha hb hflight
      exact ⟨pending, by rw [hsent, List.append_assoc]; rfl, hrest⟩
  stuck := h.stuck

/-- The reader has received a prefix of what was sent: nothing is lost in between, repeated or
reordered. -/
theorem Carries.received_prefix (h : C.Carries sent received tail flight) : received <+: sent := by
  obtain ⟨pending, hsent, _⟩ := h.split
  exact ⟨pending, hsent.symm⟩

/-- What the reader takes off the front is the codeword of what it receives. -/
theorem Carries.front (h : C.Carries sent received tail flight)
    (h' : C.Carries sent (received ++ [a]) tail rest) : flight = C.encode a ++ rest := by
  obtain ⟨pending, hsent, hflight⟩ := h.split
  obtain ⟨pending', hsent', hrest⟩ := h'.split
  have hpending : pending = a :: pending' := by
    rw [hsent, List.append_assoc] at hsent'
    exact List.append_cancel_left hsent'
  rw [hflight, hpending, stream_cons, List.append_assoc, hrest]

/-- Where no codeword begins any more, everything sent has been received and the tail is left. -/
theorem Carries.drained (h : C.Carries sent received tail flight) (hflight : ¬ C.Begins flight) :
    received = sent ∧ flight = tail := by
  obtain ⟨pending, hsent, hsplit⟩ := h.split
  cases pending with
  | nil => exact ⟨by rw [hsent, List.append_nil], hsplit⟩
  | cons b pending =>
    rw [stream_cons, List.append_assoc] at hsplit
    exact absurd ⟨b, _, h.valid b (by rw [hsent]; simp), hsplit⟩ hflight

end Code
