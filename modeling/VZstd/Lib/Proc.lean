import Mathlib.Data.List.Basic
import Mathlib.Tactic.Common

/-!
# Procedures that change a state and may raise

`EStateM ε σ` keeps the state changes made before an error, which is what a language with mutable
parameters and error returns does. This file has the rules to reason about such procedures:

* `Triple`: a precondition, a postcondition, and a condition on the state an error leaves behind;
* `Keeps`: an invariant that holds afterwards however the procedure ends;
* `Lockstep`: two runs that end alike, in related states.

Each comes with a rule for `whileFuel`, a loop that raises `stop` when its fuel runs out; with
fuel `n` it shows the state after `n` passes, so a `Triple` for every fuel speaks of every pass.
-/

namespace Proc

variable {ε σ τ α β : Type}

/-- The state a run ends in, whether it returned or raised. -/
def final : EStateM.Result ε σ α → σ
  | .ok _ s => s
  | .error _ s => s

/-- What a run returned or raised, without the state. -/
def outcome : EStateM.Result ε σ α → Except ε α
  | .ok a _ => .ok a
  | .error e _ => .error e

@[simp] lemma final_ok (a : α) (s : σ) : final (.ok a s : EStateM.Result ε σ α) = s := rfl

@[simp] lemma final_error (e : ε) (s : σ) : final (.error e s : EStateM.Result ε σ α) = s := rfl

@[simp] lemma outcome_ok (a : α) (s : σ) :
    outcome (.ok a s : EStateM.Result ε σ α) = .ok a := rfl

@[simp] lemma outcome_error (e : ε) (s : σ) :
    outcome (.error e s : EStateM.Result ε σ α) = .error e := rfl

lemma eq_ok_of_outcome {r : EStateM.Result ε σ α} {a : α} (h : outcome r = .ok a) :
    r = .ok a (final r) := by
  cases r with
  | ok b s => rw [Except.ok.inj h, final_ok]
  | error e s => cases h

/-! ### Running the primitives -/

@[simp] lemma pure_run (a : α) (s : σ) : (pure a : EStateM ε σ α) s = .ok a s := rfl

@[simp] lemma throw_run (e : ε) (s : σ) : (throw e : EStateM ε σ α) s = .error e s := rfl

@[simp] lemma get_run (s : σ) : (get : EStateM ε σ σ) s = .ok s s := rfl

@[simp] lemma set_run (s t : σ) : (set t : EStateM ε σ Unit) s = .ok () t := rfl

@[simp] lemma modify_run (f : σ → σ) (s : σ) : (modify f : EStateM ε σ Unit) s = .ok () (f s) := rfl

lemma bind_run (x : EStateM ε σ α) (f : α → EStateM ε σ β) (s : σ) :
    (x >>= f) s = match x s with
      | .ok a s' => f a s'
      | .error e s' => .error e s' := rfl

lemma bind_ok {x : EStateM ε σ α} {f : α → EStateM ε σ β} {s s' : σ} {a : α}
    (h : x s = .ok a s') : (x >>= f) s = f a s' := by
  rw [bind_run, h]

lemma bind_error {x : EStateM ε σ α} {f : α → EStateM ε σ β} {s s' : σ} {e : ε}
    (h : x s = .error e s') : (x >>= f) s = .error e s' := by
  rw [bind_run, h]

@[simp] lemma get_bind (f : σ → EStateM ε σ β) (s : σ) : (get >>= f) s = f s s := rfl

@[simp] lemma modify_bind (g : σ → σ) (f : Unit → EStateM ε σ β) (s : σ) :
    ((modify g : EStateM ε σ Unit) >>= f) s = f () (g s) := rfl

@[simp] lemma pure_bind_run (a : α) (f : α → EStateM ε σ β) (s : σ) :
    ((pure a : EStateM ε σ α) >>= f) s = f a s := rfl

@[simp] lemma throw_bind (e : ε) (f : α → EStateM ε σ β) (s : σ) :
    ((throw e : EStateM ε σ α) >>= f) s = .error e s := rfl

/-! ### Loops -/

/-- `while cond a do a ← body a`, raising `stop` when `n` passes were not enough. -/
def whileFuel (stop : ε) (cond : α → Bool) (body : α → EStateM ε σ α) :
    Nat → α → EStateM ε σ α
  | 0, a => if cond a then throw stop else pure a
  | n + 1, a => if cond a then body a >>= whileFuel stop cond body n else pure a

section whileFuel

variable {stop : ε} {cond : α → Bool} {body : α → EStateM ε σ α} {a : α}

lemma whileFuel_done (n : Nat) (h : cond a = false) :
    whileFuel stop cond body n a = pure a := by
  cases n <;> simp [whileFuel, h]

lemma whileFuel_succ (n : Nat) (h : cond a = true) :
    whileFuel stop cond body (n + 1) a = body a >>= whileFuel stop cond body n := by
  simp [whileFuel, h]

end whileFuel

/-! ### Pre- and postconditions -/

/-- `Q` holds of what was returned, or `E` of what was raised. -/
def Ends (Q : α → σ → Prop) (E : ε → σ → Prop) : EStateM.Result ε σ α → Prop
  | .ok a s => Q a s
  | .error e s => E e s

/-- Started where `P` holds, `x` returns into `Q` or raises into `E`. -/
def Triple (P : σ → Prop) (x : EStateM ε σ α) (Q : α → σ → Prop) (E : ε → σ → Prop) : Prop :=
  ∀ s, P s → Ends Q E (x s)

section Triple

variable {P P' : σ → Prop} {Q Q' : α → σ → Prop} {R : β → σ → Prop} {E E' : ε → σ → Prop}

lemma Ends.mono {r : EStateM.Result ε σ α} (h : Ends Q E r) (hQ : ∀ a s, Q a s → Q' a s)
    (hE : ∀ e s, E e s → E' e s) : Ends Q' E' r := by
  cases r with
  | ok a s => exact hQ a s h
  | error e s => exact hE e s h

lemma Triple.conseq {x : EStateM ε σ α} (h : Triple P x Q E) (hP : ∀ s, P' s → P s)
    (hQ : ∀ a s, Q a s → Q' a s) (hE : ∀ e s, E e s → E' e s) : Triple P' x Q' E' :=
  fun s hs => (h s (hP s hs)).mono hQ hE

lemma Triple.pure (a : α) (h : ∀ s, P s → Q a s) : Triple P (pure a : EStateM ε σ α) Q E :=
  fun s hs => h s hs

lemma Triple.throw (e : ε) (h : ∀ s, P s → E e s) : Triple P (throw e : EStateM ε σ α) Q E :=
  fun s hs => h s hs

lemma Triple.bind {x : EStateM ε σ α} {f : α → EStateM ε σ β} (hx : Triple P x Q E)
    (hf : ∀ a, Triple (Q a) (f a) R E) : Triple P (x >>= f) R E := by
  intro s hs
  have hxs := hx s hs
  rw [bind_run]
  cases hr : x s with
  | ok a s' => exact hf a s' (by simpa [Ends, hr] using hxs)
  | error e s' => simpa [Ends, hr] using hxs

/-- The loop rule: an invariant that the body keeps holds whenever the loop ends, also when its
fuel runs out. -/
lemma Triple.whileFuel {stop : ε} {cond : α → Bool} {body : α → EStateM ε σ α}
    {Inv : α → σ → Prop}
    (hbody : ∀ a, cond a = true → Triple (Inv a) (body a) Inv E)
    (hstop : ∀ a s, Inv a s → E stop s) (n : Nat) (a : α) :
    Triple (Inv a) (whileFuel stop cond body n a) (fun b s => Inv b s ∧ cond b = false) E := by
  induction n generalizing a with
  | zero =>
    by_cases hc : cond a = true
    · simpa [Proc.whileFuel, hc] using Triple.throw stop (hstop a)
    · rw [whileFuel_done 0 (by simpa using hc)]
      exact Triple.pure a fun s hs => ⟨hs, by simpa using hc⟩
  | succ n ih =>
    by_cases hc : cond a = true
    · rw [whileFuel_succ n hc]
      exact Triple.bind (hbody a hc) fun b => ih b
    · rw [whileFuel_done _ (by simpa using hc)]
      exact Triple.pure a fun s hs => ⟨hs, by simpa using hc⟩

end Triple

/-! ### Invariants -/

/-- `I` survives `x`, however `x` ends. -/
def Keeps (I : σ → Prop) (x : EStateM ε σ α) : Prop :=
  Triple I x (fun _ => I) (fun _ => I)

section Keeps

variable {I : σ → Prop}

lemma Keeps.final {x : EStateM ε σ α} (h : Keeps I x) {s : σ} (hs : I s) : I (final (x s)) := by
  have hxs := h s hs
  cases hr : x s <;> simpa [Ends, hr] using hxs

lemma Keeps.pure (a : α) : Keeps I (pure a : EStateM ε σ α) :=
  Triple.pure a fun _ hs => hs

lemma Keeps.throw (e : ε) : Keeps I (throw e : EStateM ε σ α) :=
  Triple.throw e fun _ hs => hs

lemma Keeps.bind {x : EStateM ε σ α} {f : α → EStateM ε σ β} (hx : Keeps I x)
    (hf : ∀ a, Keeps I (f a)) : Keeps I (x >>= f) :=
  Triple.bind hx hf

lemma Keeps.whileFuel {stop : ε} {cond : α → Bool} {body : α → EStateM ε σ α}
    (hbody : ∀ a, Keeps I (body a)) (n : Nat) (a : α) :
    Keeps I (whileFuel stop cond body n a) :=
  (Triple.whileFuel (fun a _ => hbody a) (fun _ _ h => h) n a).conseq
    (fun _ h => h) (fun _ _ h => h.1) fun _ _ h => h

/-- A loop with a variant has enough fuel. `G` is a property of the state that, once false, stays
false; as long as it holds, every pass makes `μ` smaller, and so `stop` is raised in a state where
`G` is false, if at all. -/
lemma whileFuel_total {stop : ε} {cond : α → Bool} {body : α → EStateM ε σ α}
    {Inv : α → σ → Prop} (G : σ → Prop) (μ : α → σ → Nat)
    (hbody : ∀ a s, cond a = true → Inv a s →
      Ends (fun b s' => Inv b s' ∧ (G s' → μ b s' < μ a s)) (fun e s' => e = stop → ¬G s')
        (body a s))
    (hG : ∀ a, Keeps (fun s => ¬G s) (body a)) (n : Nat) (a : α) (s : σ) (hs : Inv a s)
    (hμ : G s → μ a s < n) :
    Ends (fun _ _ => True) (fun e s' => e = stop → ¬G s') (whileFuel stop cond body n a s) := by
  induction n generalizing a s with
  | zero =>
    by_cases hc : cond a = true
    · have hstop : whileFuel stop cond body 0 a = throw stop := by simp [whileFuel, hc]
      rw [hstop]
      exact fun _ hGs => absurd (hμ hGs) (Nat.not_lt_zero _)
    · rw [whileFuel_done 0 (by simpa using hc)]
      trivial
  | succ n ih =>
    by_cases hc : cond a = true
    · rw [whileFuel_succ n hc, bind_run]
      have hb := hbody a s hc hs
      cases hr : body a s with
      | ok b s' =>
        obtain ⟨hInv, hlt⟩ : Inv b s' ∧ (G s' → μ b s' < μ a s) := by simpa [Ends, hr] using hb
        refine ih b s' hInv fun hGs' => ?_
        have hGs : G s := by
          by_contra hbad
          exact absurd hGs' (by simpa [hr] using (hG a).final hbad)
        exact Nat.lt_of_lt_of_le (hlt hGs') (Nat.le_of_lt_succ (hμ hGs))
      | error e s' => simpa [Ends, hr] using hb
    · rw [whileFuel_done _ (by simpa using hc)]
      trivial

end Keeps

/-! ### Runs of several procedures -/

/-- Run procedures one after the other, also after one that raised. -/
def runAll : List (EStateM ε σ α) → σ → List (Except ε α) × σ
  | [], s => ([], s)
  | x :: xs, s =>
    let r := x s
    let rest := runAll xs (final r)
    (outcome r :: rest.1, rest.2)

lemma Keeps.runAll {I : σ → Prop} {xs : List (EStateM ε σ α)} (h : ∀ x ∈ xs, Keeps I x)
    {s : σ} (hs : I s) : I (runAll xs s).2 := by
  induction xs generalizing s with
  | nil => exact hs
  | cons x xs ih =>
    exact ih (fun y hy => h y (List.mem_cons_of_mem x hy)) ((h x List.mem_cons_self).final hs)

/-! ### Two runs side by side -/

/-- Both returned the same or both raised the same, and the states are related. -/
def Agree (R : σ → τ → Prop) : EStateM.Result ε σ α → EStateM.Result ε τ α → Prop
  | .ok a s, .ok b t => a = b ∧ R s t
  | .error e s, .error f t => e = f ∧ R s t
  | _, _ => False

/-- From related states, `x` and `y` end alike and in related states. -/
def Lockstep (R : σ → τ → Prop) (x : EStateM ε σ α) (y : EStateM ε τ α) : Prop :=
  ∀ s t, R s t → Agree R (x s) (y t)

section Lockstep

variable {R : σ → τ → Prop}

lemma Lockstep.pure (a : α) :
    Lockstep R (pure a : EStateM ε σ α) (pure a : EStateM ε τ α) :=
  fun _ _ h => ⟨rfl, h⟩

lemma Lockstep.throw (e : ε) :
    Lockstep R (throw e : EStateM ε σ α) (throw e : EStateM ε τ α) :=
  fun _ _ h => ⟨rfl, h⟩

lemma Lockstep.bind {x : EStateM ε σ α} {y : EStateM ε τ α} {f : α → EStateM ε σ β}
    {g : α → EStateM ε τ β} (hxy : Lockstep R x y) (hfg : ∀ a, Lockstep R (f a) (g a)) :
    Lockstep R (x >>= f) (y >>= g) := by
  intro s t hst
  have h := hxy s t hst
  rw [bind_run, bind_run]
  cases hx : x s <;> cases hy : y t <;> rw [hx, hy] at h
  · obtain ⟨rfl, hR⟩ := h
    exact hfg _ _ _ hR
  · exact h.elim
  · exact h.elim
  · exact h

lemma Lockstep.whileFuel {stop : ε} {cond : α → Bool} {f : α → EStateM ε σ α}
    {g : α → EStateM ε τ α} (hfg : ∀ a, Lockstep R (f a) (g a)) (n : Nat) (a : α) :
    Lockstep R (whileFuel stop cond f n a) (whileFuel stop cond g n a) := by
  induction n generalizing a with
  | zero =>
    by_cases hc : cond a = true
    · simpa [Proc.whileFuel, hc] using Lockstep.throw stop
    · simpa [Proc.whileFuel, hc] using Lockstep.pure a
  | succ n ih =>
    by_cases hc : cond a = true
    · rw [whileFuel_succ n hc, whileFuel_succ n hc]
      exact Lockstep.bind (hfg a) ih
    · rw [whileFuel_done _ (by simpa using hc), whileFuel_done _ (by simpa using hc)]
      exact Lockstep.pure a

/-- Procedures that go in lockstep one by one do so as a run. -/
lemma Lockstep.runAll {xs : List (EStateM ε σ α)} {ys : List (EStateM ε τ α)}
    (h : List.Forall₂ (Lockstep R) xs ys) {s : σ} {t : τ} (hst : R s t) :
    (runAll xs s).1 = (runAll ys t).1 ∧ R (runAll xs s).2 (runAll ys t).2 := by
  induction h generalizing s t with
  | nil => exact ⟨rfl, hst⟩
  | @cons x y xs ys hxy _ ih =>
    have hag := hxy s t hst
    simp only [Proc.runAll]
    cases hx : x s <;> cases hy : y t <;> rw [hx, hy] at hag
    · obtain ⟨rfl, hR⟩ := hag
      simpa using ih hR
    · exact hag.elim
    · exact hag.elim
    · obtain ⟨rfl, hR⟩ := hag
      simpa using ih hR

end Lockstep

end Proc
