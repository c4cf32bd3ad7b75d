import Mathlib.Tactic.Common

/-!
# Loops that say when they are done

`while (someMoreWork)`: turns on a state, each of which says whether another one is to follow.
-/

namespace Turns

variable {σ ε : Type*}

/-- Take turns while more work is left, at most `n`. -/
def turns (stuck : ε) (turn : σ → Except ε (σ × Bool)) : Nat → σ → Except ε σ
  | 0, _ => .error stuck
  | n + 1, s =>
    match turn s with
    | .error e => .error e
    | .ok (s, more) => if more then turns stuck turn n s else .ok s

variable {stuck : ε} {turn : σ → Except ε (σ × Bool)} {n m : Nat} {s t : σ}

lemma turns_eq_ok :
    turns stuck turn (n + 1) s = .ok t ↔
      ∃ s' more, turn s = .ok (s', more) ∧
        if more then turns stuck turn n s' = .ok t else s' = t := by
  rw [turns]
  cases turn s with
  | error e => simp
  | ok r =>
    obtain ⟨s', more⟩ := r
    cases more <;> simp

/-- What all turns keep holds before the last one, and at the end. -/
lemma turns_keeps {P : σ → Prop}
    (hturn : ∀ ⦃s s' more⦄, P s → turn s = .ok (s', more) → P s') (hP : P s)
    (h : turns stuck turn n s = .ok t) : ∃ s', P s' ∧ turn s' = .ok (t, false) ∧ P t := by
  induction n generalizing s with
  | zero => cases h
  | succ n ih =>
    obtain ⟨s', more, hs, h⟩ := turns_eq_ok.mp h
    cases more with
    | true => exact ih (hturn hP hs) h
    | false =>
      obtain rfl : s' = t := h
      exact ⟨s, hP, hs, hturn hP hs⟩

/-- Where no turn fails, and each one that is not the last takes something away, the loop ends. -/
lemma turns_reaches {P Q : σ → Prop} {size : σ → Nat}
    (hturn : ∀ ⦃s⦄, P s → ∃ s' more, turn s = .ok (s', more) ∧
      if more then P s' ∧ size s' < size s else Q s') (hP : P s) (hn : size s < n) :
    ∃ t, turns stuck turn n s = .ok t ∧ Q t := by
  induction n generalizing s with
  | zero => exact absurd hn (Nat.not_lt_zero _)
  | succ n ih =>
    obtain ⟨s', more, hs, hnext⟩ := hturn hP
    cases more with
    | true =>
      obtain ⟨hP', hlt⟩ := hnext
      obtain ⟨t, ht, hQ⟩ := ih hP' (by omega)
      exact ⟨t, turns_eq_ok.mpr ⟨s', true, hs, ht⟩, hQ⟩
    | false => exact ⟨s', turns_eq_ok.mpr ⟨s', false, hs, rfl⟩, hnext⟩

/-- Where no such turn fails, the loop ends. -/
lemma turns_ends {P : σ → Prop} {size : σ → Nat}
    (hturn : ∀ ⦃s⦄, P s → ∃ s' more, turn s = .ok (s', more) ∧
      (more = true → P s' ∧ size s' < size s)) (hP : P s) (hn : size s < n) :
    ∃ t, turns stuck turn n s = .ok t := by
  have hturn' : ∀ ⦃s⦄, P s → ∃ s' more, turn s = .ok (s', more) ∧
      if more then P s' ∧ size s' < size s else True := by
    intro s hP
    obtain ⟨s', more, hs, hnext⟩ := hturn hP
    refine ⟨s', more, hs, ?_⟩
    cases more with
    | true => exact hnext rfl
    | false => trivial
  have hrun : ∃ t, turns stuck turn n s = .ok t ∧ True := turns_reaches hturn' hP hn
  exact hrun.imp fun _ => And.left

/-- Where each turn that is not the last takes something away, it does not matter how many turns are
allowed: the loop ends by itself, or a turn fails. -/
lemma turns_eq_turns {stuck' : ε} {P : σ → Prop} {size : σ → Nat}
    (hturn : ∀ ⦃s s' more⦄, P s → turn s = .ok (s', more) →
      P s' ∧ (more = true → size s' < size s)) (hP : P s) (hn : size s < n) (hm : size s < m) :
    turns stuck turn n s = turns stuck' turn m s := by
  induction n generalizing s m with
  | zero => exact absurd hn (Nat.not_lt_zero _)
  | succ n ih =>
    cases m with
    | zero => exact absurd hm (Nat.not_lt_zero _)
    | succ m =>
      rw [turns, turns]
      cases hs : turn s with
      | error e => rfl
      | ok r =>
        obtain ⟨s', more⟩ := r
        obtain ⟨hP', hlt⟩ := hturn hP hs
        cases more with
        | false => rfl
        | true =>
          have hlt := hlt rfl
          exact ih hP' (by omega) (by omega)

end Turns
