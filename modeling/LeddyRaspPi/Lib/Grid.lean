import Mathlib.Data.Fin.Rev
import Mathlib.Logic.Equiv.Fin.Basic

/-!
# Chains through a grid

A display is a grid of cells, a row and a column, that a chain runs through row by row: from the top
row or the bottom one, from the left end of each row or the right one, and with the direction
reversed on every other row if the chain is a serpentine. `Chain.place` is the cell of the chain's
own grid that a cell of the display stands at, and `rowMajor` the number of a cell, row by row. Both
are equivalences, so no cell is hit twice and none is left out.
-/

namespace Grid

variable {height width : Nat}

/-- Counts from the other end if `b` holds. -/
def mirror (b : Bool) (n : Nat) : Equiv.Perm (Fin n) := if b then Fin.revPerm else Equiv.refl _

/-- The mirrored position as a number. -/
theorem mirror_val (b : Bool) (n : Nat) (i : Fin n) :
    (mirror b n i).val = if b then n - 1 - i.val else i.val := by
  cases b
  · rfl
  · simp [mirror]
    omega

/-- Mirroring undoes itself. -/
@[simp] theorem mirror_symm (b : Bool) (n : Nat) : (mirror b n).symm = mirror b n := by
  cases b <;> rfl

/-- So mirroring twice changes nothing. -/
@[simp] theorem mirror_mirror (b : Bool) (n : Nat) (i : Fin n) : mirror b n (mirror b n i) = i := by
  cases b
  · rfl
  · exact Fin.rev_rev i

/-- The way a chain takes through a grid. -/
structure Chain where
  startsRight : Bool
  startsBottom : Bool
  serpentine : Bool

namespace Chain

/-- Whether the chain runs from right to left in its row `r`. -/
def leftwards (chain : Chain) (r : Nat) : Bool :=
  xor chain.startsRight (chain.serpentine && r % 2 == 1)

/-- Where the chain has a cell of the display: in which of its rows, and how far from the left. -/
def place (chain : Chain) (height width : Nat) : Equiv.Perm (Fin height × Fin width) :=
  Equiv.prodShear (mirror chain.startsBottom height) fun y =>
    mirror (chain.leftwards (mirror chain.startsBottom height y)) width

variable (chain : Chain) (cell : Fin height × Fin width)

/-- The row depends on the corner the chain starts from only. -/
theorem place_fst : (chain.place height width cell).1 = mirror chain.startsBottom height cell.1 :=
  rfl

/-- The column depends on the direction of the chain in that row too. -/
theorem place_snd : (chain.place height width cell).2 =
    mirror (chain.leftwards (mirror chain.startsBottom height cell.1)) width cell.2 := rfl

/-- The row of the display at a place of the chain. -/
theorem place_symm_fst :
    ((chain.place height width).symm cell).1 = mirror chain.startsBottom height cell.1 := by
  simp [place, Equiv.prodShear]

/-- The column of the display there. -/
theorem place_symm_snd :
    ((chain.place height width).symm cell).2 = mirror (chain.leftwards cell.1) width cell.2 := by
  simp [place, Equiv.prodShear]

end Chain

/-- The number of a cell, row by row. -/
def rowMajor : Fin height × Fin width ≃ Fin (height * width) := finProdFinEquiv

/-- A cell's number: the full rows before it and its column. -/
theorem rowMajor_val (cell : Fin height × Fin width) :
    (rowMajor cell).val = cell.1.val * width + cell.2.val := by
  rw [rowMajor, finProdFinEquiv_apply_val, Nat.add_comm, Nat.mul_comm]

/-- A cell's number comes before `n + 1` if it comes before `n`, or if it is the cell with the
number `n`. -/
theorem rowMajor_lt_succ {cell last : Fin height × Fin width} :
    (rowMajor cell).val < (rowMajor last).val + 1 ↔
      (rowMajor cell).val < (rowMajor last).val ∨ cell = last := by
  rw [Nat.lt_succ_iff_lt_or_eq, Fin.val_inj, rowMajor.injective.eq_iff]

end Grid
