import LeddyRaspPi.Interfaces
import LeddyRaspPi.Lib.Fallible
import Mathlib.Logic.Function.Basic

/-!
# Paths and files

The part of `std::path` and `std::fs` the agent uses. A path is the sequence of its components, as
`Path::components` normalises it and as paths are compared; a file system says what reading each
path finds. Whether a call that changes files succeeds is decided outside, so it is an argument.

A path stands for the file it leads to, and two paths for two files. That a file may have several
names (through a link, `..`, or a relative and an absolute spelling) is left out: where a theorem
asks that two paths differ, read that they name different files.
-/

namespace LeddyRaspPi

/-! ## Paths -/

/-- `OsStr`: text, or bytes that are not UTF-8. -/
inductive OsStr where
  | text (s : String)
  | raw (bytes : List UInt8)
  deriving DecidableEq

/-- `OsStr::to_str`. -/
def OsStr.toStr : OsStr → Option String
  | .text s => some s
  | .raw _ => none

/-- `std::path::Component`. -/
inductive Component where
  | rootDir
  | curDir
  | parentDir
  | normal (name : OsStr)
  deriving DecidableEq

/-- `std::path::Path`, by its components. Those do not tell a path with a slash at its end, with which
the system asks for a directory, from the one without. -/
structure Path where
  components : List Component
  deriving DecidableEq

namespace Path

/-- `Path::file_name`: the last component, unless it is no name. -/
def fileName (path : Path) : Option OsStr :=
  match path.components.getLast? with
  | some (.normal name) => some name
  | _ => none

/-- `Path::parent`: the path without its last component; the root and the empty path have none. -/
def parent (path : Path) : Option Path :=
  match path.components.getLast? with
  | none => none
  | some .rootDir => none
  | some _ => some ⟨path.components.dropLast⟩

/-- `Path::with_file_name`: a name at the end is replaced, otherwise the new one is added. -/
def withFileName (path : Path) (name : String) : Path :=
  match path.fileName with
  | some _ => ⟨path.components.dropLast ++ [.normal (.text name)]⟩
  | none => ⟨path.components ++ [.normal (.text name)]⟩

/-- `path.parent().filter(|parent| !parent.as_os_str().is_empty())`. -/
def nonemptyParent (path : Path) : Option Path :=
  path.parent.filter fun parent => !parent.components.isEmpty

/-- A path has the name it was given. -/
@[simp] theorem fileName_withFileName (path : Path) (name : String) :
    (path.withFileName name).fileName = some (.text name) := by
  unfold withFileName
  split <;> simp [fileName]

/-- A path differs from the one with another file name. -/
theorem withFileName_ne {path : Path} {name : String} (h : path.fileName ≠ some (.text name)) :
    path.withFileName name ≠ path := by
  intro heq
  exact h (by rw [← heq, fileName_withFileName])

end Path

/-! ## Files -/

/-- What reading a path finds: nothing, a file, or something that cannot be read. -/
inductive Entry where
  | absent
  | file (bytes : List UInt8)
  | unreadable (error : IoError)
  deriving DecidableEq

/-- What each path leads to. No two paths are names of one file. -/
abbrev FileSystem := Path → Entry

/-- How a call of `fs::write` goes: the whole content is written, or the call fails. The file is
untouched when it fails at opening, otherwise it holds a prefix of the content. -/
inductive WriteOutcome where
  | complete
  | failed (error : IoError) (kept : Option Nat)

namespace FileSystem

/-- `fs::read`. -/
def read (fs : FileSystem) (path : Path) : Except IoError (List UInt8) :=
  match fs path with
  | .absent => .error ⟨.notFound, "No such file or directory"⟩
  | .file bytes => .ok bytes
  | .unreadable error => .error error

/-- `fs::create_dir_all`. No file changes. -/
def createDirAll (_path : Path) (outcome : Except IoError Unit) :
    EStateM IoError FileSystem Unit :=
  ofExcept outcome

/-- `if let Some(parent) = .. { fs::create_dir_all(parent)?; }`, as it stands before every write of
the agent. -/
def createParent (path : Path) (outcome : Except IoError Unit) : EStateM IoError FileSystem Unit :=
  match path.nonemptyParent with
  | some parent => createDirAll parent outcome
  | none => pure ()

/-- `fs::write`. -/
def write (path : Path) (bytes : List UInt8) : WriteOutcome → EStateM IoError FileSystem Unit
  | .complete => modify fun fs => Function.update fs path (.file bytes)
  | .failed error none => throw error
  | .failed error (some kept) => do
    modify fun fs => Function.update fs path (.file (bytes.take kept))
    throw error

/-- `fs::rename`: the target is replaced as a whole, or nothing changes. -/
def rename (source target : Path) : Except IoError Unit → EStateM IoError FileSystem Unit
  | .ok () => modify fun fs => Function.update (Function.update fs target (fs source)) source .absent
  | .error error => throw error

open Fallible

/-- Making room for a file changes no file. -/
theorem createParent_ends (path : Path) (outcome : Except IoError Unit) (fs : FileSystem) :
    Ends (createParent path outcome) fs (fun _ fs' => fs' = fs) (fun _ fs' => fs' = fs) := by
  unfold createParent
  cases path.nonemptyParent with
  | none => rfl
  | some parent => simp [createDirAll]

/-- A write leaves the other files as they are, and one that completes leaves its content. -/
theorem write_ends (path : Path) (bytes : List UInt8) (outcome : WriteOutcome)
    (fs : FileSystem) :
    Ends (write path bytes outcome) fs
      (fun _ fs' => fs' = Function.update fs path (.file bytes))
      (fun _ fs' => ∀ p, p ≠ path → fs' p = fs p) := by
  cases outcome with
  | complete => simp [write]
  | failed error kept =>
    cases kept with
    | none => simp [write]
    | some kept =>
      simp only [write, ends_bind, ends_modify, ends_throw]
      exact fun p hp => Function.update_of_ne hp _ _

/-- A rename moves the source over the target, or changes nothing. -/
theorem rename_ends (source target : Path) (outcome : Except IoError Unit) (fs : FileSystem) :
    Ends (rename source target outcome) fs
      (fun _ fs' =>
        fs' = Function.update (Function.update fs target (fs source)) source .absent)
      (fun _ fs' => fs' = fs) := by
  cases outcome <;> simp [rename]

end FileSystem

end LeddyRaspPi
