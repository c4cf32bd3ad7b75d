import Mathlib.Data.List.Basic
import Mathlib.Tactic.Common

/-!
# Transducers

A machine that reads one symbol at a time and writes a list of symbols at each step.
-/

structure Transducer (σ α β : Type) where
  init : σ
  step : σ → α → σ × List β

namespace Transducer

variable {σ α β : Type} (m : Transducer σ α β)

/-- From a given state, the state after a word and what is written on the way. -/
def run : σ → List α → σ × List β
  | s, [] => (s, [])
  | s, x :: xs => ((run (m.step s x).1 xs).1, (m.step s x).2 ++ (run (m.step s x).1 xs).2)

def state (xs : List α) : σ := (m.run m.init xs).1

def output (xs : List α) : List β := (m.run m.init xs).2

variable {m} {s : σ} {x : α} {xs ys : List α}

lemma run_append :
    m.run s (xs ++ ys) =
      ((m.run (m.run s xs).1 ys).1, (m.run s xs).2 ++ (m.run (m.run s xs).1 ys).2) := by
  induction xs generalizing s with
  | nil => rfl
  | cons x xs ih => simp [run, ih]

@[simp] lemma state_nil : m.state [] = m.init := rfl

@[simp] lemma output_nil : m.output [] = [] := rfl

lemma state_append : m.state (xs ++ ys) = (m.run (m.state xs) ys).1 := by
  rw [state, run_append, state]

lemma output_append : m.output (xs ++ ys) = m.output xs ++ (m.run (m.state xs) ys).2 := by
  rw [output, run_append, output, state]

/-- What has been written stays written. -/
lemma output_prefix (h : xs <+: ys) : m.output xs <+: m.output ys := by
  obtain ⟨zs, rfl⟩ := h
  exact ⟨_, output_append.symm⟩

lemma output_concat : m.output (xs ++ [x]) = m.output xs ++ (m.step (m.state xs) x).2 := by
  rw [output_append]
  simp [run]

/-- A state that no symbol leads out of. -/
lemma state_of_absorbing (h : ∀ x, (m.step s x).1 = s) (hxs : m.state xs = s) (hys : xs <+: ys) :
    m.state ys = s := by
  obtain ⟨zs, rfl⟩ := hys
  rw [state_append, hxs]
  induction zs with
  | nil => rfl
  | cons z zs ih => rw [run, h, ih]

section Restart

variable (h : ∀ x, m.step s x = m.step m.init x) (hxs : m.state xs = s)
include h hxs

lemma run_restart (hys : ys ≠ []) : m.run (m.state xs) ys = m.run m.init ys := by
  obtain ⟨y, ys, rfl⟩ := List.exists_cons_of_ne_nil hys
  rw [run, run, hxs, h]

/-- In a state that acts as the first one does, a new word begins. -/
lemma state_restart (hys : ys ≠ []) : m.state (xs ++ ys) = m.state ys := by
  rw [state_append, run_restart h hxs hys, state]

lemma output_restart : m.output (xs ++ ys) = m.output xs ++ m.output ys := by
  rw [output_append]
  cases ys with
  | nil => rfl
  | cons y ys =>
    rw [run_restart h hxs (List.cons_ne_nil y ys)]
    rfl

end Restart

end Transducer
