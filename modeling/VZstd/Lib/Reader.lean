import Mathlib.Data.List.Basic
import Mathlib.Tactic.Common

/-!
# Readers

A reader takes something from the front of a list, and leaves the rest. The two loops of a reader:
one that goes on until a step was the last, and one that goes on until the list is exhausted.
-/

namespace Reader

variable {α β ε σ τ : Type*}

/-- `p` takes a part of the list that does not depend on what comes behind. -/
def Exact (p : List α → Except ε (β × List α)) : Prop :=
  ∀ ⦃src b rest⦄, p src = .ok (b, rest) →
    ∃ used, src = used ++ rest ∧ ∀ r, p (used ++ r) = .ok (b, r)

/-- `p` takes something. -/
def Shrinks (p : List α → Except ε (β × List α)) : Prop :=
  ∀ ⦃src b rest⦄, p src = .ok (b, rest) → rest.length < src.length

/-- What has been read is read again when more comes behind. -/
lemma Exact.append {p : List α → Except ε (β × List α)} (hp : Exact p) {src rest : List α} {b : β}
    (h : p src = .ok (b, rest)) (r : List α) : p (src ++ r) = .ok (b, rest ++ r) := by
  obtain ⟨used, rfl, hused⟩ := hp h
  rw [List.append_assoc]
  exact hused _

/-! ### Until the last step -/

section Loop

/-- Take steps until one is the last, at most `n`. -/
def readLoop (stuck : ε) (step : σ → List α → Except ε ((σ × Bool) × List α)) :
    Nat → σ → List α → Except ε (σ × List α)
  | 0, _, _ => .error stuck
  | n + 1, s, src =>
    match step s src with
    | .error e => .error e
    | .ok ((s, last), rest) => if last then .ok (s, rest) else readLoop stuck step n s rest

variable {stuck : ε} {step : σ → List α → Except ε ((σ × Bool) × List α)} {n m : Nat} {s t : σ}
  {src rest : List α}

lemma readLoop_eq_ok :
    readLoop stuck step (n + 1) s src = .ok (t, rest) ↔
      ∃ s' last rest', step s src = .ok ((s', last), rest') ∧
        if last then (s', rest') = (t, rest)
        else readLoop stuck step n s' rest' = .ok (t, rest) := by
  rw [readLoop]
  cases step s src with
  | error e => simp
  | ok r =>
    obtain ⟨⟨s', last⟩, rest'⟩ := r
    cases last <;> simp

/-- A step for each element is enough. -/
lemma readLoop_congr (hstep : ∀ s, Shrinks (step s)) (hn : src.length < n) (hm : src.length < m) :
    readLoop stuck step n s src = readLoop stuck step m s src := by
  induction n generalizing m s src with
  | zero => exact absurd hn (Nat.not_lt_zero _)
  | succ n ih =>
    obtain ⟨m, rfl⟩ := Nat.exists_eq_succ_of_ne_zero (Nat.ne_zero_of_lt hm)
    rw [readLoop, readLoop]
    cases h : step s src with
    | error e => rfl
    | ok r =>
      obtain ⟨⟨s', last⟩, rest'⟩ := r
      have hlt := hstep s h
      cases last with
      | true => rfl
      | false => exact ih (by omega) (by omega)

/-- What a loop takes, it takes again. -/
lemma readLoop_exact (hexact : ∀ s, Exact (step s))
    (h : readLoop stuck step n s src = .ok (t, rest)) :
    ∃ used, src = used ++ rest ∧ ∀ m, n ≤ m → ∀ r,
      readLoop stuck step m s (used ++ r) = .ok (t, r) := by
  induction n generalizing s src with
  | zero => exact nomatch h
  | succ n ih =>
    obtain ⟨s', last, rest', hs, h⟩ := readLoop_eq_ok.mp h
    obtain ⟨used, rfl, hused⟩ := hexact s hs
    cases last with
    | true =>
      obtain ⟨rfl, rfl⟩ := Prod.mk.inj h
      refine ⟨used, rfl, fun m hm r => ?_⟩
      obtain ⟨m, rfl⟩ := Nat.exists_eq_succ_of_ne_zero (Nat.ne_zero_of_lt hm)
      exact readLoop_eq_ok.mpr ⟨s', true, r, hused r, rfl⟩
    | false =>
      obtain ⟨used', rfl, hused'⟩ := ih h
      refine ⟨used ++ used', (List.append_assoc _ _ _).symm, fun m hm r => ?_⟩
      obtain ⟨m, rfl⟩ := Nat.exists_eq_succ_of_ne_zero (Nat.ne_zero_of_lt hm)
      rw [List.append_assoc]
      exact readLoop_eq_ok.mpr
        ⟨s', false, used' ++ r, hused _, hused' m (Nat.le_of_succ_le_succ hm) r⟩

lemma readLoop_shrinks (hstep : ∀ s, Shrinks (step s)) :
    Shrinks (readLoop stuck step n s) := by
  intro src t rest h
  induction n generalizing s src with
  | zero => exact nomatch h
  | succ n ih =>
    obtain ⟨s', last, rest', hs, h⟩ := readLoop_eq_ok.mp h
    have hlt := hstep s hs
    cases last with
    | true => exact (Prod.mk.inj h).2 ▸ hlt
    | false => exact Nat.lt_trans (ih h) hlt

/-- A loop whose steps are matched by those of another one. -/
lemma readLoop_simulates {ε' : Type*} {stuck' : ε'}
    {step' : τ → List α → Except ε' ((τ × Bool) × List α)} {R : σ → τ → Prop}
    (hstep : ∀ ⦃s u src s' last rest⦄, R s u → step s src = .ok ((s', last), rest) →
      ∃ u', step' u src = .ok ((u', last), rest) ∧ R s' u')
    {u : τ} (hR : R s u) (h : readLoop stuck step n s src = .ok (t, rest)) :
    ∃ v, readLoop stuck' step' n u src = .ok (v, rest) ∧ R t v := by
  induction n generalizing s u src with
  | zero => exact nomatch h
  | succ n ih =>
    obtain ⟨s', last, rest', hs, h⟩ := readLoop_eq_ok.mp h
    obtain ⟨u', hu, hR'⟩ := hstep hR hs
    cases last with
    | true =>
      obtain ⟨rfl, rfl⟩ := Prod.mk.inj h
      exact ⟨u', readLoop_eq_ok.mpr ⟨u', true, rest', hu, rfl⟩, hR'⟩
    | false =>
      obtain ⟨v, hv, hR''⟩ := ih hR' h
      exact ⟨v, readLoop_eq_ok.mpr ⟨u', false, rest', hu, hv⟩, hR''⟩

/-- What all steps keep. -/
lemma readLoop_keeps {P : σ → Prop}
    (hstep : ∀ ⦃s src s' last rest⦄, P s → step s src = .ok ((s', last), rest) → P s')
    (hP : P s) (h : readLoop stuck step n s src = .ok (t, rest)) : P t := by
  induction n generalizing s src with
  | zero => exact nomatch h
  | succ n ih =>
    obtain ⟨s', last, rest', hs, h⟩ := readLoop_eq_ok.mp h
    cases last with
    | true => exact (Prod.mk.inj h).1 ▸ hstep hP hs
    | false => exact ih (hstep hP hs) h

/-- Steps that take all of a list, one after the other. The flag is that of the last one. -/
inductive Passes (step : σ → List α → Except ε ((σ × Bool) × List α)) :
    σ → List α → σ → Bool → Prop
  | refl (s : σ) : Passes step s [] s false
  | step {s t u : σ} {x y : List α} {last : Bool} (h : Passes step s x t false)
      (hy : ∀ r, step t (y ++ r) = .ok ((u, last), r)) : Passes step s (x ++ y) u last

lemma Passes.single {x : List α} {last : Bool} (h : ∀ r, step s (x ++ r) = .ok ((t, last), r)) :
    Passes step s x t last := by
  have hpass := Passes.step (.refl s) h
  rwa [List.nil_append] at hpass

lemma Passes.trans {u : σ} {x y : List α} {last : Bool} (h : Passes step s x t false)
    (h' : Passes step t y u last) : Passes step s (x ++ y) u last := by
  induction h' with
  | refl => simpa using h
  | step _ hy ih =>
    rw [← List.append_assoc]
    exact .step ih hy

/-- What all passes keep. -/
lemma Passes.keeps {P : σ → Prop}
    (hstep : ∀ ⦃s src s' last rest⦄, P s → step s src = .ok ((s', last), rest) → P s')
    {x : List α} {last : Bool} (h : Passes step s x t last) (hP : P s) : P t := by
  induction h with
  | refl => exact hP
  | step _ hy ih => exact hstep ih (hy [])

/-- A loop takes the steps that there are. -/
lemma Passes.readLoop_append (hstep : ∀ s, Shrinks (step s)) {x : List α}
    (h : Passes step s x t false) {r : List α} (hn : (x ++ r).length < n) (hm : r.length < m) :
    readLoop stuck step n s (x ++ r) = readLoop stuck step m t r := by
  generalize hlast : false = last at h
  induction h generalizing n m r with
  | refl => exact readLoop_congr hstep hn hm
  | step _ hy ih =>
    subst hlast
    rw [List.append_assoc] at hn ⊢
    rw [ih hn (Nat.lt_succ_self _) rfl, readLoop, hy r]
    exact readLoop_congr hstep (hstep _ (hy r)) hm

/-- And ends with the last one. -/
lemma Passes.readLoop_eq_ok (hstep : ∀ s, Shrinks (step s)) {x : List α}
    (h : Passes step s x t true) {r : List α} (hn : (x ++ r).length < n) :
    readLoop stuck step n s (x ++ r) = .ok (t, r) := by
  cases h with
  | step h hy =>
    rw [List.append_assoc] at hn ⊢
    rw [h.readLoop_append hstep hn (Nat.lt_succ_self _), readLoop, hy r]
    rfl

/-- Steps up to the last one are not the start of steps of which none is the last. -/
lemma Passes.not_prefix (stuck : ε) (hstep : ∀ s, Shrinks (step s)) {u : σ} {x y : List α}
    (h : Passes step s x t false) (h' : Passes step s y u true) : ¬y <+: x := by
  rintro ⟨r, rfl⟩
  have hall : readLoop stuck step _ s (y ++ r ++ []) = readLoop stuck step 1 t [] :=
    h.readLoop_append hstep (Nat.lt_succ_self _) Nat.zero_lt_one
  rw [List.append_nil, h'.readLoop_eq_ok hstep (Nat.lt_succ_self _)] at hall
  obtain ⟨s', last, rest, hs, -⟩ := Reader.readLoop_eq_ok.mp hall.symm
  exact absurd (hstep t hs) (Nat.not_lt_zero _)

/-- Steps up to the last one can be told from their own elements. -/
lemma Passes.unique (stuck : ε) (hstep : ∀ s, Shrinks (step s)) {u : σ} {x y r r' : List α}
    (h : Passes step s x t true) (h' : Passes step s y u true) (heq : x ++ r = y ++ r') :
    t = u ∧ x = y := by
  have hall : readLoop stuck step _ s (x ++ r) = .ok (t, r) :=
    h.readLoop_eq_ok hstep (Nat.lt_succ_self _)
  rw [heq, h'.readLoop_eq_ok hstep (heq ▸ Nat.lt_succ_self _)] at hall
  obtain ⟨hu, rfl⟩ := Prod.mk.inj (Except.ok.inj hall)
  exact ⟨hu.symm, List.append_cancel_right heq⟩

end Loop

/-! ### Until the list is exhausted -/

section All

/-- Take steps while there are `k` elements, at most `n`. -/
def readAll (stuck : ε) (k : Nat) (step : σ → List α → Except ε (σ × List α)) :
    Nat → σ → List α → Except ε (σ × List α)
  | 0, s, src => if src.length < k then .ok (s, src) else .error stuck
  | n + 1, s, src =>
    if src.length < k then .ok (s, src)
    else
      match step s src with
      | .error e => .error e
      | .ok (s, rest) => readAll stuck k step n s rest

variable {stuck : ε} {k : Nat} {step : σ → List α → Except ε (σ × List α)} {n m : Nat} {s t : σ}
  {src rest r : List α}

lemma readAll_of_lt (h : src.length < k) : readAll stuck k step n s src = .ok (s, src) := by
  cases n <;> simp [readAll, h]

lemma readAll_of_le (h : k ≤ src.length) {s' : σ} (hs : step s src = .ok (s', rest)) :
    readAll stuck k step (n + 1) s src = readAll stuck k step n s' rest := by
  rw [readAll, if_neg (Nat.not_lt.mpr h), hs]

/-- A step for each element is enough. -/
lemma readAll_congr (hstep : ∀ s, Shrinks (step s)) (hn : src.length ≤ n) (hm : src.length ≤ m)
    (hk : 0 < k) : readAll stuck k step n s src = readAll stuck k step m s src := by
  induction n generalizing m s src with
  | zero =>
    have hlt : src.length < k := by omega
    rw [readAll_of_lt hlt, readAll_of_lt hlt]
  | succ n ih =>
    by_cases hlt : src.length < k
    · rw [readAll_of_lt hlt, readAll_of_lt hlt]
    · obtain ⟨m, rfl⟩ : ∃ m', m = m' + 1 := ⟨m - 1, by omega⟩
      rw [readAll, readAll, if_neg hlt, if_neg hlt]
      cases h : step s src with
      | error e => rfl
      | ok r =>
        have hshort := hstep s h
        exact ih (by omega) (by omega)

/-- What all steps keep holds at the end. -/
lemma readAll_keeps {P : σ → List α → Prop}
    (hstep : ∀ ⦃s src s' rest⦄, P s src → k ≤ src.length → step s src = .ok (s', rest) → P s' rest)
    (hP : P s src) (h : readAll stuck k step n s src = .ok (t, rest)) :
    P t rest ∧ rest.length < k := by
  induction n generalizing s src with
  | zero =>
    rw [readAll] at h
    split at h
    next hlt =>
      obtain ⟨rfl, rfl⟩ := Prod.mk.inj (Except.ok.inj h)
      exact ⟨hP, hlt⟩
    next => exact nomatch h
  | succ n ih =>
    rw [readAll] at h
    split at h
    next hlt =>
      obtain ⟨rfl, rfl⟩ := Prod.mk.inj (Except.ok.inj h)
      exact ⟨hP, hlt⟩
    next hle =>
      cases hs : step s src with
      | error e => rw [hs] at h; exact nomatch h
      | ok p =>
        rw [hs] at h
        exact ih (hstep hP (Nat.not_lt.mp hle) hs) h

/-- Where no step can fail, the loop does not. -/
lemma readAll_succeeds {P : σ → List α → Prop} (hk : 0 < k)
    (hstep : ∀ ⦃s src⦄, P s src → k ≤ src.length →
      ∃ s' rest, step s src = .ok (s', rest) ∧ rest.length < src.length ∧ P s' rest)
    (hP : P s src) (hn : src.length ≤ n) :
    ∃ t rest, readAll stuck k step n s src = .ok (t, rest) ∧ P t rest := by
  induction n generalizing s src with
  | zero => exact ⟨s, src, readAll_of_lt (by omega), hP⟩
  | succ n ih =>
    by_cases hlt : src.length < k
    · exact ⟨s, src, readAll_of_lt hlt, hP⟩
    · obtain ⟨s', rest, hs, hshort, hP'⟩ := hstep hP (Nat.not_lt.mp hlt)
      rw [readAll_of_le (Nat.not_lt.mp hlt) hs]
      exact ih hP' (by omega)

/-- Reading one list and then another behind it. -/
theorem readAll_append (hk : 0 < k) (hexact : ∀ s, Exact (step s)) (hstep : ∀ s, Shrinks (step s))
    (hn : src.length ≤ n) (hm : (src ++ r).length ≤ m)
    (h : readAll stuck k step n s src = .ok (t, [])) :
    readAll stuck k step m s (src ++ r) = readAll stuck k step r.length t r := by
  induction n generalizing m s src with
  | zero =>
    obtain rfl : src = [] := List.eq_nil_of_length_eq_zero (Nat.le_zero.mp hn)
    rw [readAll_of_lt hk] at h
    obtain ⟨rfl, _⟩ := Prod.mk.inj (Except.ok.inj h)
    exact readAll_congr hstep hm (Nat.le_refl _) hk
  | succ n ih =>
    by_cases hlt : src.length < k
    · rw [readAll_of_lt hlt] at h
      obtain ⟨rfl, rfl⟩ := Prod.mk.inj (Except.ok.inj h)
      exact readAll_congr hstep hm (Nat.le_refl _) hk
    · rw [List.length_append] at hm
      obtain ⟨m, rfl⟩ : ∃ m', m = m' + 1 := ⟨m - 1, by omega⟩
      rw [readAll, if_neg hlt] at h
      cases hs : step s src with
      | error e => rw [hs] at h; exact nomatch h
      | ok p =>
        obtain ⟨s', rest⟩ := p
        rw [hs] at h
        have hshort := hstep s hs
        rw [readAll_of_le (by rw [List.length_append]; omega) ((hexact s).append hs r)]
        exact ih (by omega) (by rw [List.length_append]; omega) h

/-- A loop whose steps are matched by those of another one, which may also stop with `e`. -/
lemma readAll_simulates_or {ε' : Type*} {stuck' e : ε'}
    {step' : τ → List α → Except ε' (τ × List α)} {R : σ → τ → Prop}
    (hstep : ∀ ⦃s u src s' rest⦄, R s u → step s src = .ok (s', rest) →
      (∃ u', step' u src = .ok (u', rest) ∧ R s' u') ∨ step' u src = .error e)
    {u : τ} (hR : R s u) (h : readAll stuck k step n s src = .ok (t, rest)) :
    (∃ v, readAll stuck' k step' n u src = .ok (v, rest) ∧ R t v) ∨
      readAll stuck' k step' n u src = .error e := by
  induction n generalizing s u src with
  | zero =>
    rw [readAll] at h
    split at h
    next hlt =>
      obtain ⟨rfl, rfl⟩ := Prod.mk.inj (Except.ok.inj h)
      exact .inl ⟨u, readAll_of_lt hlt, hR⟩
    next => exact nomatch h
  | succ n ih =>
    rw [readAll] at h
    split at h
    next hlt =>
      obtain ⟨rfl, rfl⟩ := Prod.mk.inj (Except.ok.inj h)
      exact .inl ⟨u, readAll_of_lt hlt, hR⟩
    next hle =>
      cases hs : step s src with
      | error e => rw [hs] at h; exact nomatch h
      | ok p =>
        obtain ⟨s', rest'⟩ := p
        rw [hs] at h
        rcases hstep hR hs with ⟨u', hu, hR'⟩ | hu
        · rw [readAll_of_le (Nat.not_lt.mp hle) hu]
          exact ih hR' h
        · right
          rw [readAll, if_neg hle, hu]

/-- A loop whose steps are matched by those of another one. -/
lemma readAll_simulates {ε' : Type*} {stuck' : ε'}
    {step' : τ → List α → Except ε' (τ × List α)} {R : σ → τ → Prop}
    (hstep : ∀ ⦃s u src s' rest⦄, R s u → step s src = .ok (s', rest) →
      ∃ u', step' u src = .ok (u', rest) ∧ R s' u')
    {u : τ} (hR : R s u) (h : readAll stuck k step n s src = .ok (t, rest)) :
    ∃ v, readAll stuck' k step' n u src = .ok (v, rest) ∧ R t v := by
  induction n generalizing s u src with
  | zero =>
    rw [readAll] at h
    split at h
    next hlt =>
      obtain ⟨rfl, rfl⟩ := Prod.mk.inj (Except.ok.inj h)
      exact ⟨u, readAll_of_lt hlt, hR⟩
    next => exact nomatch h
  | succ n ih =>
    rw [readAll] at h
    split at h
    next hlt =>
      obtain ⟨rfl, rfl⟩ := Prod.mk.inj (Except.ok.inj h)
      exact ⟨u, readAll_of_lt hlt, hR⟩
    next hle =>
      cases hs : step s src with
      | error e => rw [hs] at h; exact nomatch h
      | ok p =>
        obtain ⟨s', rest'⟩ := p
        rw [hs] at h
        obtain ⟨u', hu, hR'⟩ := hstep hR hs
        rw [readAll_of_le (Nat.not_lt.mp hle) hu]
        exact ih hR' h

end All

end Reader
