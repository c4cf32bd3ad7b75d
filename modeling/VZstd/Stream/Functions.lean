import VZstd.DecompressContext
import VZstd.Stream.Spec

/-!
# The two directions

`compress_stream.v` and `decompress_stream.v`: the sizes of the buffers, the codec and the
directive of each direction, and the public functions as the shared operations at those values.
-/

namespace VZstd

open Proc

variable {S Op C D K α : Type}

def compressStreamOutSize : Nat := (i32 cStreamOutSize.toNat).toNat

def compressStreamInSize : Nat := (i32 cStreamInSize.toNat).toNat

def decompressStreamOutSize : Nat := (i32 dStreamOutSize.toNat).toNat

def decompressStreamInSize : Nat := (i32 dStreamInSize.toNat).toNat

@[simp] lemma compressStreamOutSize_eq : compressStreamOutSize = 131591 := by decide +kernel

@[simp] lemma compressStreamInSize_eq : compressStreamInSize = 131072 := by decide +kernel

@[simp] lemma decompressStreamOutSize_eq : decompressStreamOutSize = 131072 := by decide +kernel

@[simp] lemma decompressStreamInSize_eq : decompressStreamInSize = 131075 := by decide +kernel

def compression (api : CompressApi C) : Direction C EndDirective where
  codec := api.compressStream2
  op := fun done => if done then .eEnd else .eContinue
  inSize := compressStreamInSize
  outSize := compressStreamOutSize
  unfinished := "unfinished compression"
  inSize_pos := by simp
  inSize_lt := by simp
  outSize_pos := by simp
  outSize_lt := by simp

def decompression (api : DecompressApi D) : Direction D Unit where
  codec := api.decompressStream
  op := fun _ => ()
  inSize := decompressStreamInSize
  outSize := decompressStreamOutSize
  unfinished := "unfinished decompression"
  inSize_pos := by simp
  inSize_lt := by simp
  outSize_pos := by simp
  outSize_lt := by simp

def newCompressStreamContext : StreamContext :=
  newStreamContext compressStreamOutSize compressStreamInSize

def newDecompressStreamContext : StreamContext :=
  newStreamContext decompressStreamOutSize decompressStreamInSize

/-- A run starts with the stream context that the constructor of its direction makes. -/
lemma start_compression_sctx (api : CompressApi C) (c : C) (sink : K)
    (beyond : Nat → Nat → UInt8) :
    (World.start (compression api) c sink beyond).sctx = newCompressStreamContext := rfl

lemma start_decompression_sctx (api : DecompressApi D) (d : D) (sink : K)
    (beyond : Nat → Nat → UInt8) :
    (World.start (decompression api) d sink beyond).sctx = newDecompressStreamContext := rfl

def compressChunkAt (api : CompressApi C) (fuel : Nat) (src : Chunk) (last : Bool)
    (drain : Drain K) : StreamM C EndDirective K Unit :=
  chunkAt (compression api) fuel src last drain

def compressChunk (api : CompressApi C) (fuel : Nat) (src : ByteArr) (last : Bool)
    (drain : Drain K) : StreamM C EndDirective K Unit :=
  compressChunkAt api fuel (.ofArr src) last drain

def compressEnd (api : CompressApi C) (drain : Drain K) : StreamM C EndDirective K Unit :=
  endWith api.compressStream2 .eEnd drain

def decompressChunkAt (api : DecompressApi D) (fuel : Nat) (src : Chunk) (last : Bool)
    (drain : Drain K) : StreamM D Unit K Unit :=
  chunkAt (decompression api) fuel src last drain

def decompressChunk (api : DecompressApi D) (fuel : Nat) (src : ByteArr) (last : Bool)
    (drain : Drain K) : StreamM D Unit K Unit :=
  decompressChunkAt api fuel (.ofArr src) last drain

/-- The call wrote the end of a frame. -/
def Call.ClosesFrame (c : Call C EndDirective) : Prop := c.op = .eEnd ∧ c.reply.ret = 0

/-- The call decoded a frame to its end. -/
def Call.EndsFrame (c : Call D Unit) : Prop := c.reply.ret = 0

/-- A context with a streaming function only: everything else succeeds and does nothing. -/
def CompressApi.ofCodec (codec : Codec C EndDirective) : CompressApi C where
  compressStream2 := codec
  reset c _ := (c, 0)
  setParameter c _ _ := (c, 0)
  getParameter _ _ := (0, 0)
  setPledgedSrcSize c _ := (c, 0)
  compress2 c _ _ _ := (c, ⟨0, []⟩)
  free _ := 0

def DecompressApi.ofCodec (codec : Codec D Unit) : DecompressApi D where
  decompressStream := codec
  reset d _ := (d, 0)
  setParameter d _ _ := (d, 0)
  getParameter _ _ := (0, 0)
  setMaxWindowSize d _ := (d, 0)
  decompressDCtx d _ _ _ := (d, ⟨0, []⟩)
  free _ := 0

/-- A codec that copies, and whose session state is the number of bytes it has copied. -/
def copier : Codec Nat Op where
  call s _ output input :=
    let n := min input.window.length output.room
    { state := s + n, ret := 0, consumed := n, produced := input.window.take n }
  consumed_le _ _ output input := by
    rw [← InBuffer.window_length]
    exact Nat.min_le_left _ _
  produced_le _ _ output input := by
    rw [List.length_take]
    exact (Nat.min_le_left _ _).trans (Nat.min_le_right _ _)

/-! ### Calls on a stream, as data -/

/-- A call that a client of a compression stream makes. -/
inductive CompressCall (K : Type) where
  | chunkAt (fuel : Nat) (src : Chunk) (last : Bool) (drain : Drain K)
  | finish (drain : Drain K)

def CompressCall.run (api : CompressApi C) : CompressCall K → StreamM C EndDirective K Unit
  | chunkAt fuel src last drain => compressChunkAt api fuel src last drain
  | finish drain => compressEnd api drain

/-- A call that a client of a decompression stream makes. -/
structure DecompressCall (K : Type) where
  fuel : Nat
  src : Chunk
  last : Bool
  drain : Drain K

def DecompressCall.run (api : DecompressApi D) (c : DecompressCall K) : StreamM D Unit K Unit :=
  decompressChunkAt api c.fuel c.src c.last c.drain

/-- The calls of a client one after the other, also after one that failed. -/
def runCompress (api : CompressApi C) (calls : List (CompressCall K)) (w : World C EndDirective K) :
    List (Except Stop Unit) × World C EndDirective K :=
  runAll (calls.map (CompressCall.run api)) w

def runDecompress (api : DecompressApi D) (calls : List (DecompressCall K)) (w : World D Unit K) :
    List (Except Stop Unit) × World D Unit K :=
  runAll (calls.map (DecompressCall.run api)) w

/-- The calls of a client, between which it may also `reset` the stream context. -/
inductive StreamOp (α : Type) where
  | call (call : α)
  | reset

def StreamOp.run (run : α → StreamM S Op K Unit) : StreamOp α → StreamM S Op K Unit
  | call c => run c
  | reset => resetStream

def runCompressOps (api : CompressApi C) (ops : List (StreamOp (CompressCall K)))
    (w : World C EndDirective K) : List (Except Stop Unit) × World C EndDirective K :=
  runAll (ops.map (StreamOp.run (CompressCall.run api))) w

def runDecompressOps (api : DecompressApi D) (ops : List (StreamOp (DecompressCall K)))
    (w : World D Unit K) : List (Except Stop Unit) × World D Unit K :=
  runAll (ops.map (StreamOp.run (DecompressCall.run api))) w

/-! ### Run lemmas -/

lemma Invariant.keeps_compressCall {api : CompressApi C} {I : World C EndDirective K → Prop}
    (h : Invariant (compression api).codec I) (call : CompressCall K) : Keeps I (call.run api) := by
  cases call with
  | chunkAt fuel src last drain => exact h.keeps_chunkAt fuel src last drain
  | finish drain => exact h.keeps_endWith .eEnd drain

lemma Invariant.keeps_decompressCall {api : DecompressApi D} {I : World D Unit K → Prop}
    (h : Invariant (decompression api).codec I) (call : DecompressCall K) :
    Keeps I (call.run api) :=
  h.keeps_chunkAt call.fuel call.src call.last call.drain

lemma keeps_runAll_map {I : World S Op K → Prop} {run : α → StreamM S Op K Unit}
    (h : ∀ a, Keeps I (run a)) (as : List α) {w : World S Op K} (hw : I w) :
    I (runAll (as.map run) w).2 := by
  refine Keeps.runAll ?_ hw
  intro x hx
  obtain ⟨a, _, rfl⟩ := List.mem_map.mp hx
  exact h a

/-- An invariant of the compressing codec holds after every run of calls. -/
lemma keeps_runCompress {api : CompressApi C} {I : World C EndDirective K → Prop}
    (h : Invariant (compression api).codec I) (calls : List (CompressCall K))
    {w : World C EndDirective K} (hw : I w) : I (runCompress api calls w).2 :=
  keeps_runAll_map h.keeps_compressCall calls hw

lemma keeps_runDecompress {api : DecompressApi D} {I : World D Unit K → Prop}
    (h : Invariant (decompression api).codec I) (calls : List (DecompressCall K))
    {w : World D Unit K} (hw : I w) : I (runDecompress api calls w).2 :=
  keeps_runAll_map h.keeps_decompressCall calls hw

lemma StreamOp.keeps_run {I : World S Op K → Prop} {run : α → StreamM S Op K Unit}
    (h : ∀ a, Keeps I (run a)) (hreset : Keeps I (resetStream : StreamM S Op K Unit))
    (op : StreamOp α) : Keeps I (op.run run) := by
  cases op with
  | call c => exact h c
  | reset => exact hreset

lemma keeps_runCompressOps {api : CompressApi C} {I : World C EndDirective K → Prop}
    (h : Invariant (compression api).codec I)
    (hreset : Keeps I (resetStream : StreamM C EndDirective K Unit))
    (ops : List (StreamOp (CompressCall K))) {w : World C EndDirective K} (hw : I w) :
    I (runCompressOps api ops w).2 :=
  keeps_runAll_map (StreamOp.keeps_run h.keeps_compressCall hreset) ops hw

lemma keeps_runDecompressOps {api : DecompressApi D} {I : World D Unit K → Prop}
    (h : Invariant (decompression api).codec I)
    (hreset : Keeps I (resetStream : StreamM D Unit K Unit))
    (ops : List (StreamOp (DecompressCall K))) {w : World D Unit K} (hw : I w) :
    I (runDecompressOps api ops w).2 :=
  keeps_runAll_map (StreamOp.keeps_run h.keeps_decompressCall hreset) ops hw

end VZstd
