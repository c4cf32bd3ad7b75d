import VZstd.Stream.Spec

/-!
# The bounds of the buffers

In every state that the chunk and end operations reach, `pos ≤ size ≤ cap` holds in both buffers, so
that every conversion to an `int` is exact.
-/

namespace VZstd

open Proc

variable {S Op K : Type}

/-- The buffers have the sizes of the direction and their indices lie within. -/
structure World.Bounded (dir : Direction S Op) (w : World S Op K) : Prop where
  input : w.sctx.input.InBounds
  cap : w.sctx.input.cap = dir.inSize
  outSize : w.sctx.output.size = dir.outSize
  outPos : w.sctx.output.pos ≤ w.sctx.output.size

namespace World

variable {dir : Direction S Op} {w : World S Op K}

lemma bounded_start (codec : S) (sink : K) (beyond : Nat → Nat → UInt8) :
    (World.start dir codec sink beyond).Bounded dir := by
  constructor
  · exact ⟨Nat.le_refl 0, Nat.zero_le _⟩
  · rfl
  · rfl
  · exact Nat.zero_le _

/-- `StreamContext.reset` leaves the sizes alone. -/
lemma Bounded.resetBuffers (h : w.Bounded dir) :
    World.Bounded dir { w with sctx := w.sctx.reset } := by
  constructor
  · exact ⟨Nat.le_refl 0, Nat.zero_le _⟩
  · exact h.cap
  · exact h.outSize
  · exact Nat.zero_le _

lemma Bounded.size_le (h : w.Bounded dir) : w.sctx.input.size ≤ dir.inSize :=
  h.cap ▸ h.input.size_le

/-- What a drain callback is given is all that the output buffer holds. -/
lemma Bounded.drainBytes_eq (h : w.Bounded dir) : w.drainBytes = w.sctx.output.contents := by
  have hpos := h.outPos
  have hsize := h.outSize
  have hlt := dir.outSize_lt
  rw [drainBytes, i32_of_inRange (by omega)]
  rfl

/-- The room that the next piece can take, `max_len`. -/
lemma maxLen_eq (hsize : w.sctx.input.size ≤ dir.inSize) :
    i32 (dir.inSize - i32 w.sctx.input.size) = (dir.inSize - w.sctx.input.size : Nat) := by
  have hlt := dir.inSize_lt
  have hnarrow : i32 w.sctx.input.size = w.sctx.input.size := i32_of_inRange (by omega)
  rw [hnarrow, i32_of_inRange (by omega)]
  omega

lemma Bounded.stage (h : w.Bounded dir) {xs : List UInt8}
    (hfit : w.sctx.input.size + xs.length ≤ w.sctx.input.cap) : (w.stage xs).Bounded dir where
  input := ⟨Nat.le_trans h.input.pos_le (Nat.le_add_right _ _), hfit⟩
  cap := h.cap
  outSize := h.outSize
  outPos := h.outPos

lemma Bounded.answer (h : w.Bounded dir) (op : Op) :
    (w.answer (w.request dir.codec op)).Bounded dir := by
  have hin := h.input.pos_le
  have hout := h.outPos
  have hconsumed := w.request_consumed_le dir.codec op
  have hproduced := w.request_produced_le dir.codec op
  constructor
  · refine ⟨?_, h.input.size_le⟩
    rw [input_answer, Call.inputAfter, InBuffer.advance_pos, InBuffer.advance_size]
    exact (Nat.add_le_add_left hconsumed _).trans (Nat.add_sub_cancel' hin).le
  · exact h.cap
  · exact h.outSize
  · rw [output_answer, Call.outputAfter, OutBuffer.append_pos, OutBuffer.append_size]
    exact (Nat.add_le_add_left hproduced _).trans (Nat.add_sub_cancel' hout).le

lemma Bounded.drained (h : w.Bounded dir) (xs : List UInt8) (k : K) (b : Bool) :
    (w.drained xs k b).Bounded dir := by
  cases b with
  | true => exact ⟨h.input, h.cap, h.outSize, Nat.zero_le _⟩
  | false => exact ⟨h.input, h.cap, h.outSize, h.outPos⟩

lemma Bounded.compact (h : w.Bounded dir) : w.compact.Bounded dir := by
  have hsize := h.input.size_le
  constructor
  · constructor
    · rw [input_compact, InBuffer.compact_pos]
      exact Nat.zero_le _
    · rw [input_compact, InBuffer.compact_size, InBuffer.compact_cap]
      exact (Nat.sub_le _ _).trans hsize
  · rw [input_compact, InBuffer.compact_cap]
    exact h.cap
  · exact h.outSize
  · exact h.outPos

lemma keeps_resetStream : Keeps (World.Bounded dir) (resetStream : StreamM S Op K Unit) :=
  fun _ h => h.resetBuffers

/-- The bounds survive every operation of the direction. -/
lemma boundedInvariant (dir : Direction S Op) :
    Invariant dir.codec (World.Bounded dir : World S Op K → Prop) where
  stage _ _ h hfit := h.stage hfit
  answer _ op h := h.answer op
  drained _ k b h _ := h.drained _ k b
  compact _ h _ := h.compact

end World

end VZstd
