import Mathlib.Data.List.Chain

/-!
# Histories and runs

A history lists what happened with the latest entry first, so the entries after an entry are its
past. `Always P h` says that every entry of `h` stands in the relation `P` to its past: the shape of
a safety property of a trace. `run` feeds a transition function a list of inputs, `Along` says that
every transition of a run meets a guard, and the two invariant rules take a fact about one step to a
fact about every run.
-/

namespace History

variable {α : Type}

/-- Every entry of the history stands in the relation `P` to the entries before it. -/
def Always (P : List α → α → Prop) : List α → Prop
  | [] => True
  | a :: past => P past a ∧ Always P past

variable {P Q : List α → α → Prop} {h : List α}

@[simp] theorem always_nil : Always P ([] : List α) := trivial

@[simp] theorem always_cons (a : α) (past : List α) :
    Always P (a :: past) ↔ P past a ∧ Always P past := Iff.rfl

instance instDecidableAlways [∀ past a, Decidable (P past a)] : ∀ h, Decidable (Always P h)
  | [] => isTrue trivial
  | a :: past =>
    have := instDecidableAlways past
    inferInstanceAs (Decidable (P past a ∧ Always P past))

/-- A property of every entry that follows from two others, entry by entry. -/
theorem Always.imp {R : List α → α → Prop} (hP : Always P h) (hQ : Always Q h)
    (himp : ∀ past a, P past a → Q past a → R past a) : Always R h := by
  induction h with
  | nil => trivial
  | cons a h ih => exact ⟨himp h a hP.1 hQ.1, ih hP.2 hQ.2⟩

/-- So does an entry further back. -/
theorem Always.of_suffix {a : α} {past : List α} (hP : Always P h) (hsuffix : a :: past <:+ h) :
    P past a := by
  induction h with
  | nil => exact absurd (List.suffix_nil.1 hsuffix) (List.cons_ne_nil _ _)
  | cons b h ih =>
    rcases List.suffix_cons_iff.1 hsuffix with heq | hsuffix
    · cases heq
      exact hP.1
    · exact ih hP.2 hsuffix

end History

namespace Transition

variable {σ ι : Type} {step : σ → ι → σ} {I : σ → Prop} {C : σ → ι → Prop} {s : σ} {is : List ι}

/-- The state after the inputs `is`, first to last. -/
def run (step : σ → ι → σ) (s : σ) (is : List ι) : σ := is.foldl step s

@[simp] theorem run_nil : run step s [] = s := rfl

@[simp] theorem run_cons (i : ι) : run step s (i :: is) = run step (step s i) is := rfl

/-- Every transition of the run meets the guard `C`, which sees the state before and the input. -/
def Along (step : σ → ι → σ) (C : σ → ι → Prop) : σ → List ι → Prop
  | _, [] => True
  | s, i :: is => C s i ∧ Along step C (step s i) is

instance instDecidableAlong [∀ s i, Decidable (C s i)] : ∀ s is, Decidable (Along step C s is)
  | _, [] => isTrue trivial
  | s, i :: is =>
    have := instDecidableAlong (step s i) is
    inferInstanceAs (Decidable (C s i ∧ Along step C (step s i) is))

/-- A run that meets a guard meets any weaker one. -/
theorem Along.imp {C' : σ → ι → Prop} (h : Along step C s is) (himp : ∀ s i, C s i → C' s i) :
    Along step C' s is := by
  induction is generalizing s with
  | nil => trivial
  | cons i is ih => exact ⟨himp s i h.1, ih h.2⟩

/-- A guard that is always met is met along every run. -/
theorem along_of_forall (h : ∀ s i, C s i) : Along step C s is := by
  induction is generalizing s with
  | nil => trivial
  | cons i is ih => exact ⟨h s i, ih⟩

/-- So is one that each input of the run meets in any state. -/
theorem along_of_mem (h : ∀ i ∈ is, ∀ s, C s i) : Along step C s is := by
  induction is generalizing s with
  | nil => trivial
  | cons i is ih =>
    exact ⟨h i List.mem_cons_self s, ih fun j hj => h j (List.mem_cons_of_mem i hj)⟩

/-- The inputs of a run may be taken in two parts. -/
theorem run_append {js : List ι} : run step s (is ++ js) = run step (run step s is) js :=
  List.foldl_append

/-- The same input over and over. -/
theorem run_replicate {i : ι} {n : Nat} :
    run step s (List.replicate n i) = (fun s => step s i)^[n] s := by
  induction n generalizing s with
  | zero => rfl
  | succ n ih =>
    rw [List.replicate_succ, run_cons, ih]
    rfl

/-- A run in two parts. -/
theorem along_append {js : List ι} :
    Along step C s (is ++ js) ↔ Along step C s is ∧ Along step C (run step s is) js := by
  induction is generalizing s with
  | nil => simp [Along]
  | cons i is ih => simp [Along, ih, and_assoc]

/-- What every step preserves, every run preserves. -/
theorem run_preserves (hstep : ∀ s i, I s → I (step s i)) (hs : I s) : I (run step s is) := by
  induction is generalizing s with
  | nil => exact hs
  | cons i is ih => exact ih (hstep s i hs)

/-- What every step that meets the guard preserves, every guarded run preserves. -/
theorem run_preserves_along (hstep : ∀ s i, C s i → I s → I (step s i)) (hs : I s)
    (hC : Along step C s is) : I (run step s is) := by
  induction is generalizing s with
  | nil => exact hs
  | cons i is ih => exact ih (hstep s i hC.1 hs) hC.2

/-- If the guard keeps `I`, and a step that misses the guard leads out of `I` to a place no step
leaves, every run that does not meet the guard ends there. -/
theorem run_of_not_along {B : σ → Prop} (hkeep : ∀ s i, C s i → I s → I (step s i))
    (hmiss : ∀ s i, ¬ C s i → I s → B (step s i)) (hstay : ∀ s i, B s → B (step s i)) (hs : I s)
    (h : ¬ Along step C s is) : B (run step s is) := by
  induction is generalizing s with
  | nil => exact absurd trivial h
  | cons i is ih =>
    rw [run_cons]
    by_cases hC : C s i
    · exact ih (hkeep s i hC hs) fun halong => h ⟨hC, halong⟩
    · exact run_preserves hstay (hmiss s i hC hs)

end Transition
