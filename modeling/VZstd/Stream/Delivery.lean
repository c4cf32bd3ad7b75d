import VZstd.Stream.Bounds
import VZstd.Stream.Functions

/-!
# Exactly-once delivery

What the drain callbacks took, followed by what is still in the output buffer, is what the codec
has put out. A failed codec call and a failed drain are two ways to leave a chunk call; neither
loses a byte or hands it out twice.
-/

namespace VZstd

open Proc

variable {S Op C D K : Type}

namespace World

/-- The accounting of the output bytes. -/
structure Accounted (dir : Direction S Op) (w : World S Op K) : Prop extends w.Bounded dir where
  balance : w.log.delivered ++ w.sctx.output.contents = w.log.produced

variable {dir : Direction S Op} {w : World S Op K}

lemma accounted_start (codec : S) (sink : K) (beyond : Nat → Nat → UInt8) :
    (World.start dir codec sink beyond).Accounted dir where
  toBounded := bounded_start codec sink beyond
  balance := rfl

lemma Accounted.answer (h : w.Accounted dir) (op : Op) :
    (w.answer (w.request dir.codec op)).Accounted dir where
  toBounded := h.toBounded.answer op
  balance := by
    simp only [output_answer, Call.outputAfter, OutBuffer.contents_append, log_answer,
      Log.delivered_append, Log.produced_append]
    rw [request_output, ← List.append_assoc, ← h.balance]
    simp

/-- A drain moves the contents behind the delivered bytes; a failed one moves nothing. -/
lemma Accounted.drained (h : w.Accounted dir) (k : K) (b : Bool) :
    (w.drained w.drainBytes k b).Accounted dir where
  toBounded := h.toBounded.drained _ k b
  balance := by
    have hbytes := h.toBounded.drainBytes_eq
    have hbalance := h.balance
    cases b with
    | true =>
      have hempty : ({ w.sctx.output with pos := 0 } : OutBuffer).contents = [] := rfl
      rw [output_drained_true, hempty, hbytes]
      simpa using hbalance
    | false => simpa using hbalance

lemma accountedInvariant (dir : Direction S Op) :
    Invariant dir.codec (World.Accounted dir : World S Op K → Prop) where
  stage w xs h hfit := ⟨h.toBounded.stage hfit, by simpa using h.balance⟩
  answer _ op h := h.answer op
  drained _ k b h _ := h.drained k b
  compact w h _ := ⟨h.toBounded.compact, by simpa using h.balance⟩

/-- With an empty output buffer, all has been delivered. -/
lemma Accounted.delivered_eq (h : w.Accounted dir) (hpos : w.sctx.output.pos = 0) :
    w.log.delivered = w.log.produced := by
  have hempty : w.sctx.output.contents = [] := by
    rw [OutBuffer.contents, hpos, Memory.slice_zero]
  rw [← h.balance, hempty, List.append_nil]

end World

/-- Output is delivered exactly once and in order, in either direction and however the calls of
the run ended. -/
theorem delivered_append_contents :
    (∀ {C K : Type} (api : CompressApi C) (calls : List (CompressCall K)) (codec : C) (sink : K)
        (beyond : Nat → Nat → UInt8),
      let w := (runCompress api calls (World.start (compression api) codec sink beyond)).2
      w.log.delivered ++ w.sctx.output.contents = w.log.produced) ∧
    (∀ {D K : Type} (api : DecompressApi D) (calls : List (DecompressCall K)) (codec : D) (sink : K)
        (beyond : Nat → Nat → UInt8),
      let w := (runDecompress api calls (World.start (decompression api) codec sink beyond)).2
      w.log.delivered ++ w.sctx.output.contents = w.log.produced) := by
  constructor
  · intro C K api calls codec sink beyond
    exact (keeps_runCompress (World.accountedInvariant _) calls
      (World.accounted_start codec sink beyond)).balance
  · intro D K api calls codec sink beyond
    exact (keeps_runDecompress (World.accountedInvariant _) calls
      (World.accounted_start codec sink beyond)).balance

end VZstd
