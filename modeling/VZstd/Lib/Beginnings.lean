import Mathlib.Data.List.Infix
import Mathlib.Data.Nat.Find
import Mathlib.Tactic.Common

/-!
# Beginnings of streams

A relation says which lists are streams, and what each stream gives. The beginning of a stream gives
what all streams give that begin so.
-/

namespace Beginnings

variable {α β : Type*}

/-! ### The longest list -/

section Longest

variable {P : List α → Prop} {b : List α}

/-- `x` has the property `P`, and every list that has it is a beginning of `x`. -/
structure IsLongest (P : List α → Prop) (x : List α) : Prop where
  holds : P x
  longest : ∀ {y}, P y → y <+: x

lemma exists_isLongest (hnil : P []) (hbound : ∀ {y}, P y → y <+: b) : ∃ x, IsLongest P x := by
  classical
  have hzero : P (b.take 0) := hnil
  refine ⟨b.take (Nat.findGreatest (fun n => P (b.take n)) b.length),
    Nat.findGreatest_spec (P := fun n => P (b.take n)) (Nat.zero_le _) hzero, fun {y} hy => ?_⟩
  have heq : y = b.take y.length := List.prefix_iff_eq_take.mp (hbound hy)
  have hle : y.length ≤ Nat.findGreatest (fun n => P (b.take n)) b.length :=
    Nat.le_findGreatest (hbound hy).length_le (heq ▸ hy)
  rw [heq]
  exact List.take_prefix_take_left hle

end Longest

/-! ### What a beginning gives -/

variable {R : List α → List β → Prop} {a a' x : List α} {y : List β}

/-- A stream begins with `a`. -/
def Begins (R : List α → List β → Prop) (a : List α) : Prop :=
  ∃ x y, R x y ∧ a <+: x

/-- What every stream that begins with `a` gives begins with `y`. -/
def Gives (R : List α → List β → Prop) (a : List α) (y : List β) : Prop :=
  ∀ x z, R x z → a <+: x → y <+: z

/-- `y` is given by the part of `a` that a stream begins with. -/
def IsGiven (R : List α → List β → Prop) (a : List α) (y : List β) : Prop :=
  ∃ b, b <+: a ∧ Begins R b ∧ Gives R b y

lemma Begins.of_prefix (h : Begins R a') (ha : a <+: a') : Begins R a := by
  obtain ⟨x, y, hR, hx⟩ := h
  exact ⟨x, y, hR, ha.trans hx⟩

lemma IsGiven.mono (h : IsGiven R a y) (ha : a <+: a') : IsGiven R a' y := by
  obtain ⟨b, hb, hbegins, hgives⟩ := h
  exact ⟨b, hb.trans ha, hbegins, hgives⟩

lemma exists_isLongest_isGiven (hnil : R [] []) (a : List α) : ∃ y, IsLongest (IsGiven R a) y := by
  have hbegins : Begins R [] := ⟨[], [], hnil, List.prefix_refl _⟩
  obtain ⟨b, ⟨hb, x, z, hR, hx⟩, hlongest⟩ :=
    exists_isLongest (P := fun b => b <+: a ∧ Begins R b) ⟨List.nil_prefix, hbegins⟩ And.left
  refine exists_isLongest (b := z) ⟨[], List.nil_prefix, hbegins, fun _ _ _ _ => List.nil_prefix⟩ ?_
  rintro y ⟨c, hc, hbegins', hgives⟩
  exact hgives x z hR ((hlongest ⟨hc, hbegins'⟩).trans hx)

open Classical in
/-- What `a` gives. -/
noncomputable def given (R : List α → List β → Prop) (a : List α) : List β :=
  if h : ∃ y, IsLongest (IsGiven R a) y then h.choose else []

lemma isLongest_given (hnil : R [] []) (a : List α) : IsLongest (IsGiven R a) (given R a) := by
  rw [given, dif_pos (exists_isLongest_isGiven hnil a)]
  exact (exists_isLongest_isGiven hnil a).choose_spec

lemma given_mono (hnil : R [] []) (ha : a <+: a') : given R a <+: given R a' :=
  (isLongest_given hnil a').longest ((isLongest_given hnil a).holds.mono ha)

/-- A beginning of a stream gives no more than the stream. -/
lemma given_prefix_of_rel (hnil : R [] []) (h : R x y) (ha : a <+: x) : given R a <+: y := by
  obtain ⟨b, hb, -, hgives⟩ := (isLongest_given hnil a).holds
  exact hgives x y h (hb.trans ha)

lemma prefix_given (hnil : R [] []) (hbegins : Begins R a) (h : Gives R a y) : y <+: given R a :=
  (isLongest_given hnil a).longest ⟨a, List.prefix_refl _, hbegins, h⟩

/-- A stream that is also a beginning of others gives what it gives as a beginning. -/
lemma given_eq (hnil : R [] []) (h : R x y) (hgives : Gives R x y) : given R x = y := by
  have hprefix := prefix_given hnil ⟨x, y, h, List.prefix_refl _⟩ hgives
  have hle := given_prefix_of_rel hnil h (List.prefix_refl _)
  exact hle.eq_of_length (Nat.le_antisymm hle.length_le hprefix.length_le)

end Beginnings
