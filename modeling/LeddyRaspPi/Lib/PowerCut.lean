import Mathlib.Logic.Function.Basic
import Mathlib.Tactic.Common

/-!
# Power cuts

A log lists what a program has done to its files, each entry with what a later power cut makes of
it: what is left of the data of a write, and whether a rename has survived. `live` is the disk as
the program saw it, `durable` the one that the cut leaves. Nothing in a log is ever synced, so the
two are bound by nothing but `Remains`. A file that is only ever replaced by a rename is a register
(`durable_register`): it holds what is left of the last replacement whose rename has survived.
-/

namespace PowerCut

/-! ## What is left of data -/

section
variable {β : Type} {blank : β} {data left : List β}

/-- What may be left of data that were not synced: the file is cut off somewhere, and where its
blocks were not stored it reads as blanks. -/
def Remains (blank : β) (data left : List β) : Prop :=
  left.length ≤ data.length ∧
    ∀ (i : Nat) (b : β), left[i]? = some b → data[i]? = some b ∨ b = blank

/-- All of the data may remain. -/
theorem remains_self : Remains blank data data := ⟨Nat.le_refl _, fun _ _ h => .inl h⟩

/-- Or nothing of it. -/
theorem remains_nil : Remains blank data [] := ⟨Nat.zero_le _, fun _ _ h => by cases h⟩

/-- Nothing is lost where the length is right and no blank shows. -/
theorem Remains.eq (h : Remains blank data left) (hlen : left.length = data.length)
    (hblank : blank ∉ left) : left = data := by
  refine List.ext_getElem? fun i => ?_
  cases hi : left[i]? with
  | none =>
    rw [List.getElem?_eq_none_iff, hlen] at hi
    exact (List.getElem?_eq_none hi).symm
  | some b =>
    rcases h.2 i b hi with hdata | rfl
    · exact hdata.symm
    · exact absurd (List.mem_of_getElem? hi) hblank

end

/-! ## Logs -/

variable {ν ε α : Type} [DecidableEq ν]

/-- A change of files, with what a power cut makes of it. -/
inductive Op (ν ε : Type) where
  /-- A file is created or truncated and written. -/
  | write (name : ν) (content left : ε)
  /-- A file is moved over another one. -/
  | rename (source target : ν) (kept : Bool)

/-- A rename. -/
def Op.renames : Op ν ε → Bool
  | .write .. => false
  | .rename .. => true

variable (gone : ε)

/-- The disk after a change, as the program sees it. -/
def Op.live (disk : ν → ε) : Op ν ε → ν → ε
  | .write name content _ => Function.update disk name content
  | .rename source target _ =>
    Function.update (Function.update disk target (disk source)) source gone

/-- The disk after a change, as the cut leaves it. -/
def Op.durable (disk : ν → ε) : Op ν ε → ν → ε
  | .write name _ left => Function.update disk name left
  | .rename source target true =>
    Function.update (Function.update disk target (disk source)) source gone
  | .rename _ _ false => disk

/-- The disk after a log, as the program sees it. -/
def live (disk : ν → ε) (log : List (Op ν ε)) : ν → ε := log.foldl (Op.live gone) disk

/-- The disk after a log, as the cut leaves it. -/
def durable (disk : ν → ε) (log : List (Op ν ε)) : ν → ε := log.foldl (Op.durable gone) disk

variable {gone} {disk : ν → ε} {log log' : List (Op ν ε)}

/-- The files after a longer log. -/
theorem live_append : live gone disk (log ++ log') = live gone (live gone disk log) log' :=
  List.foldl_append

@[simp] theorem durable_nil : durable gone disk [] = disk := rfl

@[simp] theorem durable_cons (op : Op ν ε) :
    durable gone disk (op :: log) = durable gone (op.durable gone disk) log := rfl

/-- What a longer log has made durable. -/
theorem durable_append :
    durable gone disk (log ++ log') = durable gone (durable gone disk log) log' :=
  List.foldl_append

/-! ## Replacing a file -/

variable {temporary target : ν}

/-- A write to another file leaves the file alone. -/
theorem durable_write_other (gone : ε) (hne : temporary ≠ target) (content left : ε) :
    durable gone disk [.write temporary content left] target = disk target :=
  Function.update_of_ne hne.symm _ _

/-- A file written elsewhere and moved into place is what is left of that file, or is as it was. -/
theorem durable_replace (hne : temporary ≠ target) (content left : ε) (kept : Bool) :
    durable gone disk [.write temporary content left, .rename temporary target kept] target =
      if kept then left else disk target := by
  cases kept with
  | false => exact durable_write_other gone hne content left
  | true =>
    simp only [durable_cons, durable_nil, Op.durable, Function.update_self, if_true]
    rw [Function.update_of_ne hne.symm, Function.update_self]

/-- A file that each part of a log replaces or leaves alone holds what the last replacement has put
there. -/
theorem durable_register {part : α → List (Op ν ε)} {replaces : α → Bool} {put : α → ε}
    {as : List α} (hpart : ∀ a ∈ as, ∀ disk, durable gone disk (part a) target =
      if replaces a then put a else disk target) (disk : ν → ε) :
    durable gone disk (as.flatMap part) target =
      ((as.filter replaces).getLast?.map put).getD (disk target) := by
  induction as generalizing disk with
  | nil => rfl
  | cons a as ih =>
    rw [List.flatMap_cons, durable_append, ih fun b hb => hpart b (List.mem_cons_of_mem _ hb),
      hpart a List.mem_cons_self]
    cases hreplaces : replaces a with
    | false =>
      rw [List.filter_cons_of_neg (by rw [hreplaces]; exact Bool.false_ne_true),
        if_neg Bool.false_ne_true]
    | true =>
      rw [List.filter_cons_of_pos hreplaces, List.getLast?_cons, if_pos rfl]
      cases (as.filter replaces).getLast? <;> rfl

end PowerCut
