import Mathlib.Data.List.Basic
import Mathlib.Tactic.Common

/-!
# Loops over blocks

A loop that takes a list in blocks of a fixed length as long as there is a whole block. Going on
with what is left, once there is more to take, gives what one loop over all gives.
-/

namespace Blocks

variable {σ α : Type*}

/-- While there are `n` elements, take them with `step`. -/
def absorbLoop (step : σ → List α → σ) (n : Nat) : Nat → σ → List α → σ × List α
  | 0, s, x => (s, x)
  | fuel + 1, s, x =>
    if n ≤ x.length then absorbLoop step n fuel (step s (x.take n)) (x.drop n) else (s, x)

/-- The state after all whole blocks, and what is left of the list. -/
def absorb (step : σ → List α → σ) (n : Nat) (s : σ) (x : List α) : σ × List α :=
  absorbLoop step n x.length s x

variable {step : σ → List α → σ} {n : Nat} {s : σ} {x y : List α}

/-- One unit of fuel for each element is enough. -/
lemma absorbLoop_eq_of_le (hn : 0 < n) {k l : Nat} (hk : x.length ≤ k) (hl : x.length ≤ l) :
    absorbLoop step n k s x = absorbLoop step n l s x := by
  induction k generalizing l s x with
  | zero =>
    have hshort : ¬n ≤ x.length := by omega
    cases l with
    | zero => rfl
    | succ l => rw [absorbLoop, absorbLoop, if_neg hshort]
  | succ k ih =>
    cases l with
    | zero =>
      have hshort : ¬n ≤ x.length := by omega
      rw [absorbLoop, absorbLoop, if_neg hshort]
    | succ l =>
      rw [absorbLoop, absorbLoop]
      split
      next => exact ih (by rw [List.length_drop]; omega) (by rw [List.length_drop]; omega)
      next => rfl

lemma absorb_of_lt (h : x.length < n) : absorb step n s x = (s, x) := by
  rw [absorb]
  cases hx : x.length with
  | zero => rfl
  | succ k => rw [absorbLoop, if_neg (by omega)]

lemma absorb_of_le (hn : 0 < n) (h : n ≤ x.length) :
    absorb step n s x = absorb step n (step s (x.take n)) (x.drop n) := by
  have hdrop : (x.drop n).length = x.length - n := List.length_drop
  obtain ⟨k, hk⟩ : ∃ k, x.length = k + 1 := ⟨x.length - 1, by omega⟩
  rw [absorb, hk, absorbLoop, if_pos h]
  exact absorbLoop_eq_of_le hn (by omega) (by omega)

/-- Less than a block is left. -/
lemma length_absorb (hn : 0 < n) : (absorb step n s x).2.length = x.length % n := by
  induction hm : x.length using Nat.strongRecOn generalizing s x with
  | ind m ih =>
    by_cases h : n ≤ x.length
    · have hdrop : (x.drop n).length = x.length - n := List.length_drop
      rw [absorb_of_le hn h, ih (x.length - n) (by omega) hdrop, ← hm, ← Nat.mod_eq_sub_mod h]
    · rw [absorb_of_lt (Nat.lt_of_not_le h), ← hm, Nat.mod_eq_of_lt (Nat.lt_of_not_le h)]

/-- What is left is taken up again in front of what comes next. -/
theorem absorb_append (hn : 0 < n) :
    absorb step n s (x ++ y) =
      absorb step n (absorb step n s x).1 ((absorb step n s x).2 ++ y) := by
  induction hm : x.length using Nat.strongRecOn generalizing s x with
  | ind m ih =>
    by_cases h : n ≤ x.length
    · have hall : n ≤ (x ++ y).length := by rw [List.length_append]; omega
      have hdrop : (x.drop n).length = x.length - n := List.length_drop
      rw [absorb_of_le hn hall, absorb_of_le hn h, List.take_append_of_le_length h,
        List.drop_append_of_le_length h]
      exact ih (x.length - n) (by omega) hdrop
    · rw [absorb_of_lt (Nat.lt_of_not_le h)]

end Blocks
