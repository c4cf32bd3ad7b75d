import VZstd.Stream.Progress
import VZstd.Stream.Functions

/-!
# No staged byte is lost

In a run, the bytes read so far followed by the unread ones are the staged bytes after every drain
if and only if every compaction was harmless: the count that `drain_buffer` passes to `vmemmove` is
the number of the bytes read, where the number of the unread ones is meant.
-/

namespace VZstd

open Proc

variable {S Op C D K : Type}

/-- The account of the staged bytes is right now, and was after every compaction. -/
def World.NothingLost (w : World S Op K) : Prop :=
  w.log.Conserving ∧ w.log.consumed ++ w.sctx.input.window = w.log.staged

lemma World.Conserved.nothingLost_iff {dir : Direction S Op} {w : World S Op K}
    (h : w.Conserved dir) : w.NothingLost ↔ w.log.Harmless := by
  constructor
  · rintro ⟨hconserving, _⟩
    exact h.conserving_iff.mp hconserving
  · intro hharmless
    exact ⟨h.conserving_iff.mpr hharmless, h.balance hharmless⟩

/-- In every run of either direction, nothing staged is lost if and only if every compaction was
harmless; and a chunk call that succeeds has staged the chunk. -/
theorem nothingLost_iff_harmless (capi : CompressApi C) (dapi : DecompressApi D)
    (ccalls : List (CompressCall K)) (dcalls : List (DecompressCall K)) (c : C) (d : D) (sink : K)
    (beyond : Nat → Nat → UInt8) :
    (let w := (runCompress capi ccalls (World.start (compression capi) c sink beyond)).2
     (w.NothingLost ↔ w.log.Harmless) ∧
      ∀ fuel src last drain w', compressChunkAt capi fuel src last drain w = .ok () w' →
        w'.log.staged = w.log.staged ++ src.content) ∧
    (let w := (runDecompress dapi dcalls (World.start (decompression dapi) d sink beyond)).2
     (w.NothingLost ↔ w.log.Harmless) ∧
      ∀ fuel src last drain w', decompressChunkAt dapi fuel src last drain w = .ok () w' →
        w'.log.staged = w.log.staged ++ src.content) := by
  constructor
  · intro w
    have hw : w.Conserved (compression capi) :=
      keeps_runCompress (World.conservedInvariant _) ccalls (World.conserved_start c sink beyond)
    refine ⟨hw.nothingLost_iff, ?_⟩
    intro fuel src last drain w' hr
    obtain ⟨l, hprogress, hrest, _⟩ := chunkAt_ok hw hr
    exact hprogress.staged_eq hrest
  · intro w
    have hw : w.Conserved (decompression dapi) :=
      keeps_runDecompress (World.conservedInvariant _) dcalls (World.conserved_start d sink beyond)
    refine ⟨hw.nothingLost_iff, ?_⟩
    intro fuel src last drain w' hr
    obtain ⟨l, hprogress, hrest, _⟩ := chunkAt_ok hw hr
    exact hprogress.staged_eq hrest

/-- A codec that reads one byte at each call. -/
def nibbler : Codec Unit Op where
  call _ _ _ input :=
    { state := (), ret := 1, consumed := min 1 (input.size - input.pos), produced := [] }
  consumed_le _ _ _ _ := Nat.min_le_right _ _
  produced_le _ _ _ _ := Nat.zero_le _

/-- Of `[1, 2, 3]` the codec has read the 1, and `[2, 2]` is left. -/
theorem nibbler_loses_a_byte :
    let call : CompressCall Unit :=
      .chunkAt 1 (.ofArr ⟨[1, 2, 3], by decide⟩) false fun _ _ => ((), none)
    let w := (runCompress (.ofCodec nibbler) [call]
      (World.start (compression (.ofCodec nibbler)) () () fun _ _ => 0)).2
    w.log.staged = [1, 2, 3] ∧ w.log.consumed ++ w.sctx.input.window = [1, 2, 2] ∧
      ¬w.NothingLost := by
  intro call w
  have hstaged : w.log.staged = [1, 2, 3] := by decide +kernel
  have hread : w.log.consumed ++ w.sctx.input.window = [1, 2, 2] := by decide +kernel
  refine ⟨hstaged, hread, ?_⟩
  rintro ⟨_, hbalance⟩
  rw [hstaged, hread] at hbalance
  simp at hbalance

end VZstd
