import Mathlib.Data.List.Basic
import Mathlib.Tactic.Common

/-!
# Memory as a function of the offset

A block of memory is the function that gives the cell at each offset from a base pointer. Reading
`n` cells is `slice`, copying a list of cells in is `write`; an overlapping move is a `write` of a
`slice`, so that its source is read before its target changes.
-/

namespace Memory

variable {α : Type*}

/-- The `n` cells from offset `lo` on. -/
def slice (m : Nat → α) (lo n : Nat) : List α :=
  (List.range n).map fun i => m (lo + i)

/-- Overwrite the cells from offset `lo` on with `xs`. -/
def write (m : Nat → α) (lo : Nat) (xs : List α) : Nat → α := fun i =>
  if i < lo then m i else xs.getD (i - lo) (m i)

/-! ### Slices -/

@[simp] lemma slice_length (m : Nat → α) (lo n : Nat) : (slice m lo n).length = n := by
  simp [slice]

@[simp] lemma slice_zero (m : Nat → α) (lo : Nat) : slice m lo 0 = [] := rfl

@[simp] lemma slice_getElem (m : Nat → α) (lo n i : Nat) (h : i < (slice m lo n).length) :
    (slice m lo n)[i] = m (lo + i) := by
  simp [slice]

lemma slice_congr {m m' : Nat → α} {lo lo' n : Nat} (h : ∀ i < n, m (lo + i) = m' (lo' + i)) :
    slice m lo n = slice m' lo' n := by
  apply List.map_congr_left
  intro i hi
  exact h i (List.mem_range.mp hi)

lemma slice_add (m : Nat → α) (lo a b : Nat) :
    slice m lo (a + b) = slice m lo a ++ slice m (lo + a) b := by
  simp [slice, List.range_add, Function.comp_def, Nat.add_assoc]

lemma slice_drop (m : Nat → α) (lo : Nat) {n k : Nat} (h : k ≤ n) :
    (slice m lo n).drop k = slice m (lo + k) (n - k) := by
  obtain ⟨b, rfl⟩ := Nat.exists_eq_add_of_le h
  rw [slice_add, List.drop_left' (slice_length m lo k), Nat.add_sub_cancel_left]

/-! ### Writes -/

lemma write_of_lt (m : Nat → α) {lo i : Nat} (xs : List α) (h : i < lo) :
    write m lo xs i = m i := by
  simp [write, h]

lemma write_add (m : Nat → α) (lo : Nat) {xs : List α} {i : Nat} (h : i < xs.length) :
    write m lo xs (lo + i) = xs[i] := by
  have hge : ¬ lo + i < lo := by omega
  simp [write, hge, h]

@[simp] lemma write_nil (m : Nat → α) (lo : Nat) : write m lo [] = m := by
  funext i
  simp [write]

/-- Reading back what has just been written. -/
@[simp] lemma slice_write_self (m : Nat → α) (lo : Nat) (xs : List α) :
    slice (write m lo xs) lo xs.length = xs := by
  apply List.ext_getElem (slice_length _ _ _)
  intro i _ hi
  rw [slice_getElem, write_add m lo hi]

/-- A write leaves what lies before it alone. -/
lemma slice_write_before (m : Nat → α) {lo n k : Nat} (xs : List α) (h : lo + n ≤ k) :
    slice (write m k xs) lo n = slice m lo n :=
  slice_congr fun _ hi => write_of_lt m xs (by omega)

/-- A write leaves what lies behind it alone. -/
lemma slice_write_after (m : Nat → α) {lo n k : Nat} {xs : List α} (h : lo + xs.length ≤ k) :
    slice (write m lo xs) k n = slice m k n := by
  apply slice_congr
  intro i _
  have hge : ¬k + i < lo := by omega
  have hlen : xs.length ≤ k + i - lo := by omega
  simp [write, hge, List.getElem?_eq_none hlen]

/-- Writing right behind a slice appends to it. -/
lemma slice_write_append (m : Nat → α) (lo n : Nat) (xs : List α) :
    slice (write m (lo + n) xs) lo (n + xs.length) = slice m lo n ++ xs := by
  rw [slice_add, slice_write_before m xs (Nat.le_refl _), slice_write_self]

end Memory
