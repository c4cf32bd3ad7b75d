import VZstd.Lib.History
import VZstd.Stream.Bounds

/-!
# The staged bytes

The bytes that the codec has read, followed by the unread bytes of the input buffer, are the staged
bytes, as long as each compaction was harmless: `drain_buffer` moves the first `pos` of the unread
bytes and leaves the rest where they are.
-/

namespace VZstd

open Proc History

variable {S Op K : Type}

/-- A compaction kept the unread bytes. -/
def Event.Harmless : Event S Op → Prop
  | compacted before _ => before.Harmless
  | _ => True

/-- After a compaction, no byte was lost, repeated, altered or moved. -/
def Event.Conserving (past : Log S Op) : Event S Op → Prop
  | compacted _ after => past.consumed ++ after.window = past.staged
  | _ => True

instance (e : Event S Op) : Decidable e.Harmless :=
  match e with
  | .compacted before _ => inferInstanceAs (Decidable before.Harmless)
  | .staged _ | .called _ | .drained _ _ | .returned _ => isTrue trivial

/-- Every compaction was harmless. -/
def Log.Harmless (l : Log S Op) : Prop := ∀ e ∈ l, e.Harmless

instance (l : Log S Op) : Decidable l.Harmless := inferInstanceAs (Decidable (∀ e ∈ l, _))

/-- No byte was lost, repeated, altered or moved at any compaction. -/
def Log.Conserving (l : Log S Op) : Prop := Always Event.Conserving l

namespace Log

variable {l : Log S Op}

lemma Harmless.of_append {l' : Log S Op} (h : Harmless (l ++ l')) : Harmless l :=
  fun e he => h e (List.mem_append_left l' he)

lemma harmless_snoc {e : Event S Op} : Harmless (l ++ [e]) ↔ l.Harmless ∧ e.Harmless := by
  simp [Harmless, or_imp, forall_and]

end Log

namespace World

/-- The accounting of the input bytes. -/
structure Conserved (dir : Direction S Op) (w : World S Op K) : Prop extends w.Bounded dir where
  /-- not even a bad compaction changes how many bytes there are -/
  count : w.log.consumed.length + w.sctx.input.window.length = w.log.staged.length
  balance : w.log.Harmless → w.log.consumed ++ w.sctx.input.window = w.log.staged
  moments : Always (fun past e => Log.Harmless past → (e.Conserving past ↔ e.Harmless)) w.log

variable {dir : Direction S Op} {w : World S Op K}

lemma conserved_start (codec : S) (sink : K) (beyond : Nat → Nat → UInt8) :
    (World.start dir codec sink beyond).Conserved dir where
  toBounded := bounded_start codec sink beyond
  count := rfl
  balance := fun _ => rfl
  moments := always_nil

lemma Conserved.stage (h : w.Conserved dir) {xs : List UInt8}
    (hfit : w.sctx.input.size + xs.length ≤ w.sctx.input.cap) : (w.stage xs).Conserved dir where
  toBounded := h.toBounded.stage hfit
  count := by
    rw [input_stage, InBuffer.window_stage h.input.pos_le]
    simp [← h.count, Nat.add_assoc]
  balance := by
    intro hlog
    have hbalance := h.balance (Log.Harmless.of_append hlog)
    rw [input_stage, InBuffer.window_stage h.input.pos_le]
    simp [← hbalance]
  moments := always_snoc.mpr ⟨h.moments, fun _ => Iff.rfl⟩

/-- A call moves a prefix of the window behind the bytes read before. -/
lemma Conserved.answer (h : w.Conserved dir) (op : Op) :
    (w.answer (w.request dir.codec op)).Conserved dir where
  toBounded := h.toBounded.answer op
  count := by
    have hcount := h.count
    have hpos := h.input.pos_le
    have hconsumed := w.request_consumed_le dir.codec op
    rw [input_answer, Call.inputAfter, request_input, InBuffer.window_advance (by omega)]
    simp [Call.consumed] at hcount ⊢
    omega
  balance := by
    intro hlog
    have hbalance := h.balance (Log.Harmless.of_append hlog)
    have hpos := h.input.pos_le
    have hconsumed := w.request_consumed_le dir.codec op
    rw [input_answer, Call.inputAfter, request_input, InBuffer.window_advance (by omega)]
    simp [Call.consumed, hbalance]
  moments := always_snoc.mpr ⟨h.moments, fun _ => Iff.rfl⟩

lemma Conserved.drained (h : w.Conserved dir) (xs : List UInt8) (k : K) (b : Bool) :
    (w.drained xs k b).Conserved dir where
  toBounded := h.toBounded.drained xs k b
  count := by simpa using h.count
  balance := by
    intro hlog
    simpa using h.balance (Log.Harmless.of_append hlog)
  moments := always_snoc.mpr ⟨h.moments, fun _ => Iff.rfl⟩

/-- A compaction keeps the account exactly when it is harmless. -/
lemma Conserved.compact_iff (h : w.Conserved dir) (hlog : w.log.Harmless) :
    w.log.consumed ++ w.compact.sctx.input.window = w.log.staged ↔ w.sctx.input.Harmless := by
  rw [← h.balance hlog, List.append_cancel_left_eq, input_compact,
    InBuffer.window_compact_eq_iff h.input]

lemma Conserved.compact (h : w.Conserved dir) : w.compact.Conserved dir where
  toBounded := h.toBounded.compact
  count := by simpa using h.count
  balance := by
    intro hlog
    rw [log_compact] at hlog ⊢
    obtain ⟨hpast, hlast⟩ := Log.harmless_snoc.mp hlog
    simpa using (h.compact_iff hpast).mpr hlast
  moments := always_snoc.mpr ⟨h.moments, fun hlog => h.compact_iff hlog⟩

lemma conservedInvariant (dir : Direction S Op) :
    Invariant dir.codec (World.Conserved dir : World S Op K → Prop) where
  stage _ _ h hfit := h.stage hfit
  answer _ op h := h.answer op
  drained _ k b h _ := h.drained _ k b
  compact _ h _ := h.compact

/-- The compactions of a run lose nothing if and only if each of them is harmless. -/
lemma Conserved.conserving_iff (h : w.Conserved dir) : w.log.Conserving ↔ w.log.Harmless := by
  have hmem : Always (fun _ e => e.Harmless) w.log ↔ w.log.Harmless := always_iff_forall_mem
  rw [← hmem]
  apply Always.iff
  exact h.moments.mono fun past e hiff hpast => hiff (always_iff_forall_mem.mp hpast)

end World

end VZstd
