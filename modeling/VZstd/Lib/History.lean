import Mathlib.Data.List.Induction
import Mathlib.Tactic.Common

/-!
# Histories

A history is a list with the latest event at its end. `Always P l` says that `P` held of each event
when it happened, given the events before it; an invariant of the past is proved by adding one event
at a time.
-/

namespace History

variable {α : Type*} {P Q : List α → α → Prop} {l : List α} {e : α}

/-- `P past e` at every event `e` of the history. -/
def Always (P : List α → α → Prop) (l : List α) : Prop :=
  ∀ past e future, l = past ++ e :: future → P past e

lemma always_nil : Always P [] := by
  intro past e future h
  simp at h

lemma always_snoc : Always P (l ++ [e]) ↔ Always P l ∧ P l e := by
  constructor
  · intro h
    refine ⟨fun past x future hl => ?_, h l e [] rfl⟩
    apply h past x (future ++ [e])
    rw [hl, List.append_assoc, List.cons_append]
  · rintro ⟨hl, he⟩ past x future h
    rcases List.eq_nil_or_concat future with rfl | ⟨future', y, rfl⟩
    · obtain ⟨rfl, heq⟩ := List.append_inj' h rfl
      cases heq
      exact he
    · have hassoc : l ++ [e] = (past ++ x :: future') ++ [y] := by simpa using h
      obtain ⟨heq, _⟩ := List.append_inj' hassoc rfl
      exact hl past x future' heq

lemma Always.of_append {m : List α} (h : Always P (l ++ m)) : Always P l := by
  rintro past e future rfl
  refine h past e (future ++ m) ?_
  rw [List.append_assoc, List.cons_append]

lemma Always.mono (h : ∀ past e, P past e → Q past e) (hl : Always P l) : Always Q l :=
  fun past e future heq => h past e (hl past e future heq)

lemma always_iff_forall_mem {R : α → Prop} : Always (fun _ e => R e) l ↔ ∀ e ∈ l, R e := by
  constructor
  · intro h e he
    obtain ⟨past, future, heq⟩ := List.append_of_mem he
    exact h past e future heq
  · rintro h past e future rfl
    exact h e (by simp)

instance [∀ past e, Decidable (P past e)] : Decidable (Always P l) :=
  decidable_of_iff (∀ i : Fin l.length, P (l.take i) l[i]) <| by
    constructor
    · rintro h past e future rfl
      have hpast := h ⟨past.length, by simp⟩
      simpa using hpast
    · intro h i
      refine h (l.take i) l[i] (l.drop (i + 1)) ?_
      have hcons : l.drop i = l[i] :: l.drop (i + 1) := List.drop_eq_getElem_cons i.isLt
      rw [← hcons, List.take_append_drop]

/-- Two properties always hold together when they agree at each event before which the second
always held. -/
lemma Always.iff (h : Always (fun past e => Always Q past → (P past e ↔ Q past e)) l) :
    Always P l ↔ Always Q l := by
  induction l using List.reverseRecOn with
  | nil => exact ⟨fun _ => always_nil, fun _ => always_nil⟩
  | append_singleton l e ih =>
    obtain ⟨hl, he⟩ := always_snoc.mp h
    rw [always_snoc, always_snoc, ih hl]
    constructor
    · rintro ⟨hQ, hP⟩
      exact ⟨hQ, (he hQ).mp hP⟩
    · rintro ⟨hQ, hQe⟩
      exact ⟨hQ, (he hQ).mpr hQe⟩

end History
