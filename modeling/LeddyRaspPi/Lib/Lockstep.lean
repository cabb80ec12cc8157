import LeddyRaspPi.Lib.Fallible

/-!
# Two runs in lockstep

`Lockstep m m' s s' Q E` compares the run of `m` from `s` with that of `m'` from `s'`: both return,
and `Q` relates their values and states, or both fail, and `E` relates their errors and states. It is
the rule set of `Ends` for two computations at once; the rule of sequencing goes one way only, as two
computations may meet again after they have parted. `Respects R m` says that from states that `R`
relates `m` gives the same result, in states that `R` relates: it tells nothing that `R` hides.
-/

namespace Fallible

variable {ε ε' δ δ' σ σ' τ τ' α α' β β' : Type}

/-- Both runs return or both fail, related one way or the other. -/
def Lockstep (m : EStateM ε σ α) (m' : EStateM ε' σ' α') (s : σ) (s' : σ')
    (Q : α → σ → α' → σ' → Prop) (E : ε → σ → ε' → σ' → Prop) : Prop :=
  match m s, m' s' with
  | .ok a t, .ok a' t' => Q a t a' t'
  | .error e t, .error e' t' => E e t e' t'
  | _, _ => False

/-- The same value or error, in related states. -/
def Same (R : σ → σ' → Prop) (a : α) (t : σ) (a' : α) (t' : σ') : Prop := a = a' ∧ R t t'

variable {s : σ} {s' : σ'} {Q Q' : α → σ → α' → σ' → Prop} {E E' : ε → σ → ε' → σ' → Prop}

/-! ## The rules -/

@[simp] theorem lockstep_pure (a : α) (a' : α') :
    Lockstep (pure a : EStateM ε σ α) (pure a' : EStateM ε' σ' α') s s' Q E ↔ Q a s a' s' := Iff.rfl

@[simp] theorem lockstep_throw (e : ε) (e' : ε') :
    Lockstep (throw e : EStateM ε σ α) (throw e' : EStateM ε' σ' α') s s' Q E ↔ E e s e' s' :=
  Iff.rfl

@[simp] theorem lockstep_get {Q : σ → σ → σ' → σ' → Prop} :
    Lockstep (get : EStateM ε σ σ) (get : EStateM ε' σ' σ') s s' Q E ↔ Q s s s' s' := Iff.rfl

@[simp] theorem lockstep_set {Q : PUnit → σ → PUnit → σ' → Prop} (t : σ) (t' : σ') :
    Lockstep (set t : EStateM ε σ PUnit) (set t' : EStateM ε' σ' PUnit) s s' Q E ↔
      Q ⟨⟩ t ⟨⟩ t' := Iff.rfl

@[simp] theorem lockstep_modify {Q : PUnit → σ → PUnit → σ' → Prop} (f : σ → σ) (f' : σ' → σ') :
    Lockstep (modify f : EStateM ε σ PUnit) (modify f' : EStateM ε' σ' PUnit) s s' Q E ↔
      Q ⟨⟩ (f s) ⟨⟩ (f' s') := Iff.rfl

/-- Two computations that stay in step do so if each part of them does. -/
theorem lockstep_bind {m : EStateM ε σ β} {f : β → EStateM ε σ α} {m' : EStateM ε' σ' β'}
    {f' : β' → EStateM ε' σ' α'}
    (h : Lockstep m m' s s' (fun b t b' t' => Lockstep (f b) (f' b') t t' Q E) E) :
    Lockstep (m >>= f) (m' >>= f') s s' Q E := by
  simp only [Lockstep, Bind.bind, EStateM.bind] at h ⊢
  cases hm : m s <;> cases hm' : m' s' <;> rw [hm, hm'] at h
  case ok.ok => exact h
  case error.error => exact h
  all_goals exact h.elim

/-- Converting the errors on both sides changes no state. -/
theorem lockstep_adaptExcept {E : δ → σ → δ' → σ' → Prop} (f : ε → δ) (f' : ε' → δ')
    (m : EStateM ε σ α) (m' : EStateM ε' σ' α') :
    Lockstep (EStateM.adaptExcept f m) (EStateM.adaptExcept f' m') s s' Q E ↔
      Lockstep m m' s s' Q fun e t e' t' => E (f e) t (f' e') t' := by
  simp only [Lockstep, EStateM.adaptExcept]
  cases m s <;> cases m' s' <;> exact Iff.rfl

/-- Two computations on parts of the states put the parts back. -/
theorem lockstep_focus (get : σ → τ) (put : τ → σ → σ) (get' : σ' → τ') (put' : τ' → σ' → σ')
    (m : EStateM ε τ α) (m' : EStateM ε' τ' α') :
    Lockstep (focus get put m) (focus get' put' m') s s' Q E ↔
      Lockstep m m' (get s) (get' s') (fun a t a' t' => Q a (put t s) a' (put' t' s'))
        fun e t e' t' => E e (put t s) e' (put' t' s') := by
  simp only [Lockstep, focus]
  cases m (get s) <;> cases m' (get' s') <;> exact Iff.rfl

/-! ## Consequence -/

/-- A lockstep with stronger conditions is one with weaker ones. -/
theorem Lockstep.mono {m : EStateM ε σ α} {m' : EStateM ε' σ' α'} (h : Lockstep m m' s s' Q E)
    (hQ : ∀ a t a' t', Q a t a' t' → Q' a t a' t')
    (hE : ∀ e t e' t', E e t e' t' → E' e t e' t') : Lockstep m m' s s' Q' E' := by
  unfold Lockstep at *
  cases hm : m s <;> cases hm' : m' s' <;> rw [hm, hm'] at h
  case ok.ok => exact hQ _ _ _ _ h
  case error.error => exact hE _ _ _ _ h
  all_goals exact h.elim

/-- What is known of one of the runs. -/
theorem Lockstep.and_ends {m : EStateM ε σ α} {m' : EStateM ε' σ' α'} {P : α → σ → Prop}
    {P' : ε → σ → Prop} (h : Lockstep m m' s s' Q E) (hends : Ends m s P P') :
    Lockstep m m' s s' (fun a t a' t' => Q a t a' t' ∧ P a t) E := by
  unfold Lockstep at *
  unfold Ends at hends
  cases hm : m s <;> cases hm' : m' s' <;> rw [hm, hm'] at h <;> rw [hm] at hends
  case ok.ok => exact ⟨h, hends⟩
  case error.error => exact h
  all_goals exact h.elim

/-- Two runs that return are in step. -/
theorem lockstep_of_ends {m : EStateM ε σ α} {m' : EStateM ε' σ' α'} {P : α → σ → Prop}
    {P' : α' → σ' → Prop} (h : Ends m s P fun _ _ => False) (h' : Ends m' s' P' fun _ _ => False)
    (hQ : ∀ a t a' t', P a t → P' a' t' → Q a t a' t') : Lockstep m m' s s' Q E := by
  unfold Ends at h h'
  unfold Lockstep
  cases hm : m s with
  | error e t => rw [hm] at h; exact h.elim
  | ok a t =>
    cases hm' : m' s' with
    | error e' t' => rw [hm'] at h'; exact h'.elim
    | ok a' t' =>
      rw [hm] at h
      rw [hm'] at h'
      exact hQ a t a' t' h h'

/-! ## Respecting a relation -/

section
variable {R : σ → σ → Prop} {S : τ → τ → Prop} {m : EStateM ε σ α}

/-- From related states the computation leads to the same value or error, in related states. -/
def Respects (R : σ → σ → Prop) (m : EStateM ε σ α) : Prop :=
  ∀ s s', R s s' → Lockstep m m s s' (Same R) (Same R)

theorem respects_pure (a : α) : Respects R (pure a : EStateM ε σ α) := fun _ _ h => ⟨rfl, h⟩

theorem respects_throw (e : ε) : Respects R (throw e : EStateM ε σ α) := fun _ _ h => ⟨rfl, h⟩

/-- A result that is given on both sides is the same on both sides. -/
theorem respects_ofExcept (x : Except ε α) : Respects R (ofExcept x : EStateM ε σ α) := by
  cases x with
  | ok a => exact respects_pure a
  | error e => exact respects_throw e

/-- A change of the state that keeps states related respects the relation. -/
theorem respects_modify {f : σ → σ} (h : ∀ s s', R s s' → R (f s) (f s')) :
    Respects R (modify f : EStateM ε σ PUnit) := fun s s' hs => ⟨rfl, h s s' hs⟩

/-- A sequence of parts that respect a relation respects it. -/
theorem Respects.bind {m : EStateM ε σ β} {f : β → EStateM ε σ α} (hm : Respects R m)
    (hf : ∀ b, Respects R (f b)) : Respects R (m >>= f) := by
  intro s s' hs
  refine lockstep_bind ((hm s s' hs).mono (fun b t b' t' hb => ?_) fun _ _ _ _ h => h)
  obtain ⟨rfl, ht⟩ := hb
  exact hf b t t' ht

/-- A computation that reads the state of its own. -/
theorem respects_get_bind {f : σ → EStateM ε σ α}
    (hf : ∀ s s', R s s' → Lockstep (f s) (f s') s s' (Same R) (Same R)) :
    Respects R (get >>= f) := fun s s' hs => lockstep_bind (lockstep_get.2 (hf s s' hs))

/-- Converting the error respects what the computation respects. -/
theorem Respects.adaptExcept (h : Respects R m) (f : ε → δ) :
    Respects R (EStateM.adaptExcept f m) := by
  intro s s' hs
  rw [lockstep_adaptExcept]
  refine (h s s' hs).mono (fun _ _ _ _ h => h) fun e t e' t' h => ?_
  exact ⟨congrArg f h.1, h.2⟩

/-- So does running it on a part of the state, if the parts are related and put back. -/
theorem Respects.focus {m : EStateM ε τ α} (h : Respects S m) {get : σ → τ} {put : τ → σ → σ}
    (hget : ∀ s s', R s s' → S (get s) (get s'))
    (hput : ∀ s s' t t', R s s' → S t t' → R (put t s) (put t' s')) :
    Respects R (focus get put m) := by
  intro s s' hs
  rw [lockstep_focus]
  refine (h _ _ (hget s s' hs)).mono (fun a t a' t' h => ?_) fun e t e' t' h => ?_
  · exact ⟨h.1, hput s s' t t' hs h.2⟩
  · exact ⟨h.1, hput s s' t t' hs h.2⟩

end

end Fallible
