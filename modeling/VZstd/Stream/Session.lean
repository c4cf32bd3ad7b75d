import VZstd.Stream.Conservation

/-!
# Codec sessions

The calls of a codec from a given state on, each made in the state that the one before left. What a
codec is assumed to do is said of its sessions, so that it may depend on all that it has read.
-/

namespace VZstd

open History

variable {S Op K : Type}

/-- The calls of a session that starts in `s`, and the state after them. -/
inductive Codec.Session (codec : Codec S Op) (s : S) : List (Call S Op) → S → Prop where
  | start : Session codec s [] s
  | call {cs t} (h : Session codec s cs t) (op : Op) {output : OutBuffer} {input : InBuffer}
      (hout : output.pos ≤ output.size) (hin : input.pos ≤ input.size) :
      Session codec s (cs ++ [codec.ask t op output input])
        (codec.call t op output input).state

namespace Codec.Session

variable {codec : Codec S Op} {s t : S} {cs : List (Call S Op)} {c : Call S Op}

/-- The last call of a session was made in the state that the calls before it left. -/
lemma last (h : codec.Session s (cs ++ [c]) t) :
    codec.Session s cs c.state ∧ c.output.pos ≤ c.output.size ∧ c.input.pos ≤ c.input.size ∧
      c = codec.ask c.state c.op c.output c.input ∧ t = c.reply.state := by
  generalize hds : cs ++ [c] = ds at h
  cases h with
  | start => simp at hds
  | call h op hout hin =>
    obtain ⟨rfl, hc⟩ := List.append_inj' hds rfl
    obtain rfl : c = _ := by simpa using hc
    exact ⟨h, hout, hin, rfl, rfl⟩

end Codec.Session

/-- No call failed. -/
def NoErrors (cs : List (Call S Op)) : Prop := ∀ c ∈ cs, isError c.reply.ret = false

lemma noErrors_append {cs ds : List (Call S Op)} :
    NoErrors (cs ++ ds) ↔ NoErrors cs ∧ NoErrors ds := by
  simp [NoErrors, or_imp, forall_and]

lemma noErrors_singleton {c : Call S Op} : NoErrors [c] ↔ isError c.reply.ret = false := by
  simp [NoErrors]

/-- Each call is given bytes of `x` from where the one before it stopped. -/
def Presents (x : List UInt8) (cs : List (Call S Op)) : Prop :=
  Always (fun past c => bytesRead past ++ c.input.window <+: x) cs

lemma Presents.trans {x y : List UInt8} {cs : List (Call S Op)} (h : Presents x cs)
    (hxy : x <+: y) : Presents y cs :=
  h.mono fun _ _ hc => hc.trans hxy

namespace World

/-- The calls of the history are a session from `s`, now in the state of the codec. -/
structure InSession (dir : Direction S Op) (s : S) (w : World S Op K) : Prop
    extends w.Bounded dir where
  session : dir.codec.Session s w.log.calls w.codec

variable {dir : Direction S Op} {s : S} {w : World S Op K}

lemma inSession_start (sink : K) (beyond : Nat → Nat → UInt8) :
    (World.start dir s sink beyond).InSession dir s where
  toBounded := bounded_start s sink beyond
  session := .start

lemma InSession.answer (h : w.InSession dir s) (op : Op) :
    (w.answer (w.request dir.codec op)).InSession dir s where
  toBounded := h.toBounded.answer op
  session := by
    rw [World.log_answer, Log.calls_append]
    exact h.session.call op h.outPos h.input.pos_le

lemma inSessionInvariant (dir : Direction S Op) (s : S) :
    Invariant dir.codec (World.InSession dir s : World S Op K → Prop) where
  stage w xs h hfit := ⟨h.toBounded.stage hfit, by simpa using h.session⟩
  answer _ op h := h.answer op
  drained w k b h _ := ⟨h.toBounded.drained _ k b, by simpa using h.session⟩
  compact w h _ := ⟨h.toBounded.compact, by simpa using h.session⟩

/-- As long as the compactions are harmless, each call was given the staged bytes that follow those
read before it. What earlier calls were given and did not read is among them. -/
structure Presented (dir : Direction S Op) (w : World S Op K) : Prop extends w.Conserved dir where
  presented : w.log.Harmless → Presents w.log.staged w.log.calls
  again : w.log.Harmless →
    Always (fun past c => Presents (bytesRead past ++ c.input.window) past) w.log.calls

lemma presented_start (sink : K) (beyond : Nat → Nat → UInt8) :
    (World.start dir s sink beyond).Presented dir where
  toConserved := conserved_start s sink beyond
  presented := fun _ => always_nil
  again := fun _ => always_nil

lemma Presented.answer (h : w.Presented dir) (op : Op) :
    (w.answer (w.request dir.codec op)).Presented dir where
  toConserved := h.toConserved.answer op
  presented := by
    intro hlog
    have hpast := Log.Harmless.of_append hlog
    have hbalance := h.balance hpast
    simp only [log_answer, Log.calls_append, Log.calls_singleton, Log.staged_append,
      Log.staged_singleton, Event.bytesStaged, List.append_nil]
    refine always_snoc.mpr ⟨h.presented hpast, ?_⟩
    exact hbalance ▸ List.prefix_refl _
  again := by
    intro hlog
    have hpast := Log.Harmless.of_append hlog
    have hpresented := h.presented hpast
    rw [← h.balance hpast] at hpresented
    rw [log_answer, Log.calls_append]
    exact always_snoc.mpr ⟨h.again hpast, hpresented⟩

lemma presentedInvariant (dir : Direction S Op) :
    Invariant dir.codec (World.Presented dir : World S Op K → Prop) where
  stage w xs h hfit := by
    refine ⟨h.toConserved.stage hfit, fun hlog => ?_, fun hlog => ?_⟩
    · have hpast := h.presented (Log.Harmless.of_append hlog)
      simp only [log_stage, Log.calls_append, Log.calls_singleton, Log.staged_append]
      simpa using hpast.trans (List.prefix_append _ _)
    · simpa using h.again (Log.Harmless.of_append hlog)
  answer _ op h := h.answer op
  drained w k b h _ := by
    refine ⟨h.toConserved.drained _ k b, fun hlog => ?_, fun hlog => ?_⟩
    · simpa using h.presented (Log.Harmless.of_append hlog)
    · simpa using h.again (Log.Harmless.of_append hlog)
  compact w h _ := by
    refine ⟨h.toConserved.compact, fun hlog => ?_, fun hlog => ?_⟩
    · simpa using h.presented (Log.Harmless.of_append hlog)
    · simpa using h.again (Log.Harmless.of_append hlog)

end World

end VZstd
