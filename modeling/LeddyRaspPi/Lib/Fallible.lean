import Mathlib.Tactic.Common

/-!
# Fallible computations over a state that survives the error

`EStateM ε σ` is the shape of a function that works on `&mut` arguments and leaves by `?` or by an
exception: the changes it made before the error stay made. `Ends m s Q E` says how the run of `m`
from `s` may end: by a value, in a state `Q` allows, or by an error, in a state `E` allows. Each
combinator has one rule that rewrites `Ends` of the compound to `Ends` of the parts; all of them are
simp lemmas, so `simp only` with the rules of the operations runs a computation symbolically.
`Ignores` says of a change of the state that a computation does not notice it.
-/

namespace Fallible

variable {ε ε' σ τ α β : Type}

/-- How the run of `m` from `s` may end: by a value and a state that `Q` allows, or by an error and
a state that `E` allows. -/
def Ends (m : EStateM ε σ α) (s : σ) (Q : α → σ → Prop) (E : ε → σ → Prop) : Prop :=
  match m s with
  | .ok a s' => Q a s'
  | .error e s' => E e s'

/-- Runs `m` on the part of the state that `get` reads and `put` writes back. -/
def focus (get : σ → τ) (put : τ → σ → σ) (m : EStateM ε τ α) : EStateM ε σ α := fun s =>
  match m (get s) with
  | .ok a t => .ok a (put t s)
  | .error e t => .error e (put t s)

/-- Goes on if `c` holds, leaves by `e` otherwise. -/
def require (c : Prop) [Decidable c] (e : ε) : EStateM ε σ Unit :=
  if c then pure () else throw e

/-- Goes on with the value if there is one, leaves by `e` otherwise. -/
def expect (x : Option α) (e : ε) : EStateM ε σ α :=
  match x with
  | some a => pure a
  | none => throw e

/-- `for (i = 0; i < n; ++i) body(i)`. -/
def forRange : Nat → (Nat → EStateM ε σ Unit) → EStateM ε σ Unit
  | 0, _ => pure ()
  | n + 1, body => do
    forRange n body
    body n

/-- How a computation has ended, and in which state. -/
def outcome : EStateM.Result ε σ α → Except ε α × σ
  | .ok a s => (.ok a, s)
  | .error e s => (.error e, s)

variable {s s' : σ} {Q Q' : α → σ → Prop} {E E' : ε → σ → Prop}

/-- Two computations without a state, one after the other. -/
theorem bind_ok_iff {x : Except ε α} {f : α → Except ε β} {b : β} :
    (x >>= f) = .ok b ↔ ∃ a, x = .ok a ∧ f a = .ok b := by
  cases x with
  | ok a =>
    constructor
    · exact fun h => ⟨a, rfl, h⟩
    · rintro ⟨_, ha, h⟩
      cases ha
      exact h
  | error error =>
    constructor
    · intro h
      cases h
    · rintro ⟨_, ha, _⟩
      cases ha

/-! ## The rules -/

/-- How a computation ends that is known to return. -/
theorem ends_of_ok {m : EStateM ε σ α} {a : α} (h : m s = .ok a s') :
    Ends m s Q E ↔ Q a s' := by
  simp [Ends, h]

/-- How a computation ends that is known to fail. -/
theorem ends_of_error {m : EStateM ε σ α} {e : ε} (h : m s = .error e s') :
    Ends m s Q E ↔ E e s' := by
  simp [Ends, h]

/-- A first part that returns hands its value and state over to the rest. -/
theorem bind_of_ok {m : EStateM ε σ β} {f : β → EStateM ε σ α} {b : β} (h : m s = .ok b s') :
    (m >>= f) s = f b s' := by
  simp only [Bind.bind, EStateM.bind, h]

/-- An error of the first part is one of the whole. -/
theorem bind_of_error {m : EStateM ε σ β} {f : β → EStateM ε σ α} {e : ε} (h : m s = .error e s') :
    (m >>= f) s = .error e s' := by
  simp only [Bind.bind, EStateM.bind, h]

@[simp] theorem ends_pure (a : α) : Ends (pure a : EStateM ε σ α) s Q E ↔ Q a s := Iff.rfl

@[simp] theorem ends_throw (e : ε) : Ends (throw e : EStateM ε σ α) s Q E ↔ E e s := Iff.rfl

@[simp] theorem ends_get {Q : σ → σ → Prop} :
    Ends (get : EStateM ε σ σ) s Q E ↔ Q s s := Iff.rfl

@[simp] theorem ends_set {Q : PUnit → σ → Prop} (t : σ) :
    Ends (set t : EStateM ε σ PUnit) s Q E ↔ Q ⟨⟩ t := Iff.rfl

@[simp] theorem ends_modify {Q : PUnit → σ → Prop} (f : σ → σ) :
    Ends (modify f : EStateM ε σ PUnit) s Q E ↔ Q ⟨⟩ (f s) := Iff.rfl

/-- A sequence fails where its first part fails, else it ends as its second part. -/
@[simp] theorem ends_bind (m : EStateM ε σ β) (f : β → EStateM ε σ α) :
    Ends (m >>= f) s Q E ↔ Ends m s (fun b t => Ends (f b) t Q E) E := by
  simp only [Ends, Bind.bind, EStateM.bind]
  cases m s <;> exact Iff.rfl

/-- A result that is given ends the way it is. -/
@[simp] theorem ends_ofExcept (x : Except ε α) :
    Ends (ofExcept x : EStateM ε σ α) s Q E ↔
      (∀ a, x = .ok a → Q a s) ∧ ∀ e, x = .error e → E e s := by
  cases x <;> simp [ofExcept]

/-- So does one whose error is converted, as `?` does. -/
theorem ends_ofExcept_mapError (f : ε' → ε) (x : Except ε' α) :
    Ends (ofExcept (x.mapError f) : EStateM ε σ α) s Q E ↔
      (∀ a, x = .ok a → Q a s) ∧ ∀ e, x = .error e → E (f e) s := by
  cases x <;> simp [Except.mapError]

/-- Converting the error changes no state. -/
@[simp] theorem ends_adaptExcept (f : ε' → ε) (m : EStateM ε' σ α) :
    Ends (EStateM.adaptExcept f m) s Q E ↔ Ends m s Q (fun e t => E (f e) t) := by
  simp only [Ends, EStateM.adaptExcept]
  cases m s <;> exact Iff.rfl

/-- A computation on a part of the state puts the part back, also where it fails. -/
@[simp] theorem ends_focus (get : σ → τ) (put : τ → σ → σ) (m : EStateM ε τ α) :
    Ends (focus get put m) s Q E ↔
      Ends m (get s) (fun a t => Q a (put t s)) (fun e t => E e (put t s)) := by
  simp only [Ends, focus]
  cases m (get s) <;> exact Iff.rfl

/-- A guard returns where its condition holds and fails where it does not. -/
@[simp] theorem ends_require {Q : Unit → σ → Prop} (c : Prop) [Decidable c] (e : ε) :
    Ends (require c e : EStateM ε σ Unit) s Q E ↔ (c → Q () s) ∧ (¬ c → E e s) := by
  by_cases hc : c <;> simp [require, hc]

/-- An option ends as its value, or with the error where it has none. -/
@[simp] theorem ends_expect (x : Option α) (e : ε) :
    Ends (expect x e : EStateM ε σ α) s Q E ↔ (∀ a, x = some a → Q a s) ∧ (x = none → E e s) := by
  cases x <;> simp [expect]

/-! ## Consequence -/

/-- An end that is allowed is allowed by anything weaker. -/
theorem Ends.mono {m : EStateM ε σ α} (h : Ends m s Q E) (hQ : ∀ a t, Q a t → Q' a t)
    (hE : ∀ e t, E e t → E' e t) : Ends m s Q' E' := by
  unfold Ends at *
  cases hm : m s with
  | ok a t => rw [hm] at h; exact hQ a t h
  | error e t => rw [hm] at h; exact hE e t h

/-- Where every end is allowed, so is that of any run. -/
theorem ends_of_forall {m : EStateM ε σ α} (hQ : ∀ a t, Q a t) (hE : ∀ e t, E e t) :
    Ends m s Q E := by
  unfold Ends
  cases m s with
  | ok a t => exact hQ a t
  | error e t => exact hE e t

/-- The invariant rule for `forRange`: what holds before the first pass and goes from each pass to
the next holds after the last. -/
theorem ends_forRange {n : Nat} {body : Nat → EStateM ε σ Unit} (I : Nat → σ → Prop) (h0 : I 0 s)
    (hstep : ∀ i < n, ∀ t, I i t → Ends (body i) t (fun _ => I (i + 1)) E) :
    Ends (forRange n body) s (fun _ => I n) E := by
  induction n with
  | zero => exact h0
  | succ n ih =>
    rw [forRange, ends_bind]
    refine (ih fun i hi => hstep i (by omega)).mono (fun _ t ht => ?_) fun _ _ h => h
    exact hstep n (by omega) t ht

/-- The invariant rule for two nested loops over the cells of a grid, counting the cells row by
row. -/
theorem ends_forGrid {rows columns : Nat} {body : Nat → Nat → EStateM ε σ Unit}
    (I : Nat → σ → Prop) (h0 : I 0 s)
    (hstep : ∀ y < rows, ∀ x < columns, ∀ t, I (y * columns + x) t →
      Ends (body y x) t (fun _ => I (y * columns + x + 1)) E) :
    Ends (forRange rows fun y => forRange columns (body y)) s (fun _ => I (rows * columns)) E := by
  refine ends_forRange (fun y => I (y * columns)) (by rwa [Nat.zero_mul]) fun y hy t ht => ?_
  rw [Nat.succ_mul]
  exact ends_forRange (fun x => I (y * columns + x)) ht (hstep y hy)

/-- Two facts about how one run ends hold together. -/
theorem Ends.and {m : EStateM ε σ α} (h : Ends m s Q E) (h' : Ends m s Q' E') :
    Ends m s (fun a t => Q a t ∧ Q' a t) (fun e t => E e t ∧ E' e t) := by
  unfold Ends at *
  cases hm : m s with
  | ok a t => rw [hm] at h h'; exact ⟨h, h'⟩
  | error e t => rw [hm] at h h'; exact ⟨h, h'⟩

/-- What holds of every end holds of the end there is. -/
theorem ends_outcome {m : EStateM ε σ α} :
    Ends m s Q E ↔ (∀ a t, outcome (m s) = (.ok a, t) → Q a t) ∧
      ∀ e t, outcome (m s) = (.error e, t) → E e t := by
  unfold Ends outcome
  cases m s <;> simp

/-- A fact about the final state alone, of whichever end there is. -/
theorem Ends.of_outcome {m : EStateM ε σ α} {P : σ → Prop} {result : Except ε α}
    (h : Ends m s (fun _ => P) fun _ => P) (hran : outcome (m s) = (result, s')) : P s' := by
  cases result with
  | ok a => exact (ends_outcome.1 h).1 a s' hran
  | error e => exact (ends_outcome.1 h).2 e s' hran

/-! ## What a computation does not notice -/

/-- How a computation has ended, with the state changed. -/
def mapState (f : σ → σ) : EStateM.Result ε σ α → EStateM.Result ε σ α
  | .ok a s => .ok a (f s)
  | .error e s => .error e (f s)

/-- The computation does not notice the change `f` of the state, unless it meets something, which it
then does not get away from. -/
structure Ignores (f : σ → σ) (met : σ → Prop) (m : EStateM ε σ α) : Prop where
  stays : ∀ s, met s → met (outcome (m s)).2
  commutes : ∀ s, ¬ met (outcome (m s)).2 → m (f s) = mapState f (m s)

section
variable {f : σ → σ} {met : σ → Prop}

/-- A value is the same whatever the state. -/
theorem ignores_pure (a : α) : Ignores f met (pure a : EStateM ε σ α) :=
  ⟨fun _ h => h, fun _ _ => rfl⟩

/-- So is an error. -/
theorem ignores_throw (e : ε) : Ignores f met (throw e : EStateM ε σ α) :=
  ⟨fun _ h => h, fun _ _ => rfl⟩

/-- Two computations that do not notice a change do not notice it one after the other. -/
theorem Ignores.bind {m : EStateM ε σ β} {k : β → EStateM ε σ α} (hm : Ignores f met m)
    (hk : ∀ b, Ignores f met (k b)) : Ignores f met (m >>= k) where
  stays s hs := by
    have hfirst := hm.stays s hs
    simp only [Bind.bind, EStateM.bind]
    cases hrun : m s with
    | ok b t => rw [hrun] at hfirst; exact (hk b).stays t hfirst
    | error e t => rw [hrun] at hfirst; exact hfirst
  commutes s hs := by
    have hfirst := hm.commutes s
    simp only [Bind.bind, EStateM.bind] at hs ⊢
    cases hrun : m s with
    | ok b t =>
      -- What the first part had met, the second would not have got away from.
      rw [hrun] at hfirst hs
      rw [hfirst fun hmet => hs ((hk b).stays t hmet)]
      exact (hk b).commutes t hs
    | error e t =>
      rw [hrun] at hfirst hs
      rw [hfirst hs]
      rfl

/-- A computation may look at the state, where it makes nothing of what has changed. -/
theorem ignores_get {k : σ → EStateM ε σ α} (hk : ∀ s, Ignores f met (k s))
    (hsame : ∀ s, k (f s) = k s) : Ignores f met (get >>= k) where
  stays s hs := (hk s).stays s hs
  commutes s hs := (congrFun (hsame s) (f s)).trans ((hk s).commutes s hs)

/-- An assignment that goes together with the change does not notice it. -/
theorem ignores_modify {g : σ → σ} (hcommutes : ∀ s, g (f s) = f (g s))
    (hstays : ∀ s, met s → met (g s)) : Ignores f met (modify g : EStateM ε σ PUnit) where
  stays s hs := hstays s hs
  commutes s _ := congrArg (EStateM.Result.ok PUnit.unit) (hcommutes s)

/-- A check does not look at the state. -/
theorem ignores_require (c : Prop) [Decidable c] (e : ε) :
    Ignores f met (require c e : EStateM ε σ Unit) := by
  unfold require
  split
  · exact ignores_pure ()
  · exact ignores_throw e

/-- Nor does one for a value. -/
theorem ignores_expect (x : Option α) (e : ε) : Ignores f met (expect x e : EStateM ε σ α) := by
  cases x with
  | some a => exact ignores_pure a
  | none => exact ignores_throw e

/-- No computation notices a change that is none. -/
theorem ignores_id (m : EStateM ε σ α) : Ignores id (fun _ => False) m where
  stays _ h := h
  commutes s _ := by
    show m s = mapState id (m s)
    cases m s <;> rfl

/-- A computation on a part of the state notices the change of that part at most. -/
theorem Ignores.focus {get : σ → τ} {put : τ → σ → σ} {g : τ → τ} {met : τ → Prop}
    {m : EStateM ε τ α} (h : Ignores g met m) (hget : ∀ s, get (f s) = g (get s))
    (hput : ∀ t s, put (g t) (f s) = f (put t s)) (hlens : ∀ t s, get (put t s) = t) :
    Ignores f (fun s => met (get s)) (focus get put m) where
  stays s hs := by
    have hpart := h.stays (get s) hs
    unfold Fallible.focus
    cases hrun : m (get s) with
    | ok a t => rw [hrun] at hpart; exact (hlens t s).symm ▸ hpart
    | error e t => rw [hrun] at hpart; exact (hlens t s).symm ▸ hpart
  commutes s hs := by
    have hpart := h.commutes (get s)
    unfold Fallible.focus at hs ⊢
    rw [hget]
    cases hrun : m (get s) with
    | ok a t =>
      rw [hrun] at hpart hs
      rw [hpart fun hmet => hs ((hlens t s).symm ▸ hmet)]
      exact congrArg (EStateM.Result.ok a) (hput t s)
    | error e t =>
      rw [hrun] at hpart hs
      rw [hpart fun hmet => hs ((hlens t s).symm ▸ hmet)]
      exact congrArg (EStateM.Result.error e) (hput t s)

/-- Turning its errors into others changes nothing about it. -/
theorem Ignores.adaptExcept {g : ε' → ε} {m : EStateM ε' σ α} (h : Ignores f met m) :
    Ignores f met (EStateM.adaptExcept g m) where
  stays s hs := by
    have hpart := h.stays s hs
    unfold EStateM.adaptExcept
    cases hrun : m s with
    | ok a t => rw [hrun] at hpart; exact hpart
    | error e t => rw [hrun] at hpart; exact hpart
  commutes s hs := by
    have hpart := h.commutes s
    unfold EStateM.adaptExcept at hs ⊢
    cases hrun : m s with
    | ok a t => rw [hrun] at hpart hs; rw [hpart hs]; rfl
    | error e t => rw [hrun] at hpart hs; rw [hpart hs]; rfl

end

end Fallible
