import Mathlib.Tactic.Common
import Mathlib.Data.List.Basic

/-!
# Self-delimiting codes

A `Code` gives each valid value a nonempty codeword from which the value and the end of the codeword
can be read off, whatever follows. So a string has at most one split into leading codewords and a
rest that begins with none (`Leading.unique`), it always has one (`exists_leading`), and the split of
a stream of codewords that is cut somewhere consists of the codewords before the cut
(`leading_take`).
-/

/-- A code in which no codeword is empty and a codeword tells where it ends. -/
structure Code (α β : Type) where
  encode : α → List β
  valid : α → Prop
  encode_ne_nil : ∀ {a}, valid a → encode a ≠ []
  encode_inj : ∀ {a b s t}, valid a → valid b → encode a ++ s = encode b ++ t → a = b ∧ s = t

namespace Code

variable {α β : Type} (C : Code α β)

/-- The codewords of a sequence of values, one after the other. -/
def stream (as : List α) : List β := as.flatMap C.encode

@[simp] theorem stream_nil : C.stream [] = [] := rfl

@[simp] theorem stream_cons (a : α) (as : List α) :
    C.stream (a :: as) = C.encode a ++ C.stream as := by
  simp [stream]

/-- The string begins with a codeword. -/
def Begins (s : List β) : Prop := ∃ a rest, C.valid a ∧ s = C.encode a ++ rest

/-- The leading codewords of `s` are those of `as`, and `rest` is what follows them. -/
structure Leading (s : List β) (as : List α) (rest : List β) : Prop where
  valid : ∀ a ∈ as, C.valid a
  split : s = C.stream as ++ rest
  stuck : ¬ C.Begins rest

variable {C} {s rest rest' : List β} {as bs : List α}

/-- No codeword begins the empty string. -/
theorem not_begins_nil : ¬ C.Begins [] := by
  intro h
  obtain ⟨a, rest, ha, heq⟩ := h
  exact C.encode_ne_nil ha (List.append_eq_nil_iff.1 heq.symm).1

/-- A string that begins with no codeword is all rest. -/
theorem Leading.nil (h : ¬ C.Begins s) : C.Leading s [] s :=
  ⟨fun _ ha => absurd ha List.not_mem_nil, rfl, h⟩

/-- A codeword in front is one more leading codeword. -/
theorem Leading.cons {a : α} (ha : C.valid a) (h : C.Leading s as rest) :
    C.Leading (C.encode a ++ s) (a :: as) rest where
  valid := List.forall_mem_cons.2 ⟨ha, h.valid⟩
  split := by rw [stream_cons, List.append_assoc, ← h.split]
  stuck := h.stuck

/-- A string has one split into leading codewords and a rest. -/
theorem Leading.unique (h : C.Leading s as rest) (h' : C.Leading s bs rest') :
    as = bs ∧ rest = rest' := by
  induction as generalizing s bs with
  | nil =>
    cases bs with
    | nil => exact ⟨rfl, by have := h.split.symm.trans h'.split; simpa using this⟩
    | cons b bs =>
      refine absurd ⟨b, C.stream bs ++ rest', h'.valid b (by simp), ?_⟩ h.stuck
      simpa using h.split.symm.trans h'.split
  | cons a as ih =>
    have hsplit := h.split
    cases bs with
    | nil =>
      refine absurd ⟨a, C.stream as ++ rest, h.valid a (by simp), ?_⟩ h'.stuck
      simpa using h'.split.symm.trans h.split
    | cons b bs =>
      have heq : C.encode a ++ (C.stream as ++ rest) = C.encode b ++ (C.stream bs ++ rest') := by
        simpa using h.split.symm.trans h'.split
      obtain ⟨rfl, htail⟩ := C.encode_inj (h.valid a (by simp)) (h'.valid b (by simp)) heq
      obtain ⟨rfl, hrest⟩ := ih (s := C.stream as ++ rest)
        ⟨fun x hx => h.valid x (by simp [hx]), rfl, h.stuck⟩
        ⟨fun x hx => h'.valid x (by simp [hx]), htail, h'.stuck⟩
      exact ⟨rfl, hrest⟩

/-- There are at most as many codewords as letters. -/
theorem Leading.length_le (h : C.Leading s as rest) : as.length ≤ s.length := by
  have hstream : ∀ as : List α, (∀ a ∈ as, C.valid a) → as.length ≤ (C.stream as).length := by
    intro as
    induction as with
    | nil => simp
    | cons a as ih =>
      intro hvalid
      have hhead := List.length_pos_iff.2 (C.encode_ne_nil (hvalid a (by simp)))
      have htail := ih fun x hx => hvalid x (by simp [hx])
      rw [stream_cons, List.length_append, List.length_cons]
      omega
  rw [h.split, List.length_append]
  exact Nat.le_trans (hstream as h.valid) (Nat.le_add_right _ _)

/-- Every string has a split: take codewords off its front as long as there are any. -/
theorem exists_leading (s : List β) : ∃ as rest, C.Leading s as rest := by
  induction hn : s.length using Nat.strongRecOn generalizing s with
  | _ n ih =>
    by_cases hs : C.Begins s
    · obtain ⟨a, t, ha, rfl⟩ := hs
      have hlt : t.length < n := by
        have := List.length_pos_iff.2 (C.encode_ne_nil ha)
        rw [List.length_append] at hn
        omega
      obtain ⟨as, rest, h⟩ := ih t.length hlt t rfl
      exact ⟨a :: as, rest, h.cons ha⟩
    · exact ⟨[], s, .nil hs⟩

/-- Cutting a codeword short leaves no codeword at the front. -/
theorem not_begins_take {a : α} {k : Nat} (ha : C.valid a) (hk : k < (C.encode a).length) :
    ¬ C.Begins ((C.encode a).take k) := by
  intro h
  obtain ⟨b, t, hb, heq⟩ := h
  have hwhole : C.encode a ++ [] = C.encode b ++ (t ++ (C.encode a).drop k) := by
    rw [← List.append_assoc, ← heq, List.take_append_drop, List.append_nil]
  obtain ⟨-, hnil⟩ := C.encode_inj ha hb hwhole
  have hdrop : (C.encode a).length ≤ k := by
    simpa using (List.append_eq_nil_iff.1 hnil.symm).2
  omega

/-- A stream of codewords cut after `k` symbols: its leading codewords are the first `n`, those that
end at or before the cut, and nothing is left over exactly when the cut is where one ends. -/
theorem leading_take (has : ∀ a ∈ as, C.valid a) {k : Nat} (hk : k ≤ (C.stream as).length) :
    ∃ n rest, n ≤ as.length ∧
      (∀ i < as.length, (C.stream (as.take (i + 1))).length ≤ k ↔ i < n) ∧
      C.Leading ((C.stream as).take k) (as.take n) rest ∧
      (rest = [] ↔ ∃ m ≤ as.length, k = (C.stream (as.take m)).length) := by
  induction as generalizing k with
  | nil => exact ⟨0, [], by simp, by simp, by simpa using .nil not_begins_nil, by simpa using hk⟩
  | cons a as ih =>
    have ha := has a (by simp)
    have hpos := List.length_pos_iff.2 (C.encode_ne_nil ha)
    rw [stream_cons, List.length_append] at hk
    by_cases hcut : (C.encode a).length ≤ k
    · -- The first codeword ends before the cut: read it off and cut the others.
      obtain ⟨n, rest, hn, hends, hlead, hrest⟩ :=
        ih (fun b hb => has b (by simp [hb])) (k := k - (C.encode a).length) (by omega)
      refine ⟨n + 1, rest, by simpa using hn, fun i hi => ?_, ?_, ?_⟩
      · cases i with
        | zero => simpa using hcut
        | succ i =>
          rw [List.take_succ_cons, stream_cons, List.length_append, Nat.add_lt_add_iff_right,
            ← hends i (by simpa using hi)]
          omega
      · rw [stream_cons, List.take_append, List.take_of_length_le hcut, List.take_succ_cons]
        exact hlead.cons ha
      · rw [hrest]
        constructor
        · intro h
          obtain ⟨m, hm, h⟩ := h
          refine ⟨m + 1, by simpa using hm, ?_⟩
          simp only [List.take_succ_cons, stream_cons, List.length_append]
          omega
        · intro h
          obtain ⟨m, hm, h⟩ := h
          cases m with
          | zero => simp only [List.take_zero, stream_nil, List.length_nil] at h; omega
          | succ m =>
            refine ⟨m, by simpa using hm, ?_⟩
            simp only [List.take_succ_cons, stream_cons, List.length_append] at h
            omega
    · -- The cut falls into the first codeword.
      have htake : (C.stream (a :: as)).take k = (C.encode a).take k := by
        rw [stream_cons, List.take_append_of_le_length (by omega)]
      refine ⟨0, (C.encode a).take k, by simp, fun i _ => ?_, ?_, ?_⟩
      · simp only [List.take_succ_cons, stream_cons, List.length_append]
        omega
      · rw [htake]
        exact .nil (not_begins_take ha (by omega))
      · rw [List.take_eq_nil_iff]
        constructor
        · rintro (rfl | h)
          · exact ⟨0, by simp, by simp⟩
          · exact absurd h (C.encode_ne_nil ha)
        · intro h
          obtain ⟨m, hm, h⟩ := h
          cases m with
          | zero => exact .inl (by simpa using h)
          | succ m =>
            simp only [List.take_succ_cons, stream_cons, List.length_append] at h
            omega

end Code
