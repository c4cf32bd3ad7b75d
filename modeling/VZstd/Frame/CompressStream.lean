import VZstd.Frame.RoundTrip
import VZstd.Lib.Turns
import VZstd.Stream.Functions

/-!
# Compressing a stream

`ZSTD_compressStream2` without worker threads, with both buffers inside the context: input is
collected until it fills a block or has to be flushed, and compressed either straight into the
output or into a buffer of its own, from where it is flushed.
-/

namespace VZstd

open Memory Turns

variable {S : Type}

/-- `ZSTD_cStreamStage`. -/
inductive StreamStage where
  | init
  | load
  | flush
  deriving DecidableEq, Repr

/-- The part of `ZSTD_CCtx` that streaming adds. -/
structure CStream (S : Type) extends CCtx S where
  streamStage : StreamStage
  inBuff : Nat → UInt8
  inBuffSize : Nat
  inToCompress : Nat
  inBuffPos : Nat
  inBuffTarget : Nat
  outBuff : Nat → UInt8
  outBuffSize : Nat
  outBuffContentSize : Nat
  outBuffFlushedSize : Nat
  frameEnded : Bool

/-- `ZSTD_CCtx_reset(zcs, ZSTD_reset_session_only)`. -/
def CStream.resetSession (zcs : CStream S) : CStream S :=
  { zcs with streamStage := .init, pledgedSrcSizePlusOne := 0 }

/-- The size that is pledged for a frame: with `ZSTD_e_end`, that of the input. -/
def CStream.pledgedSrcSize (zcs : CStream S) (endOp : EndDirective) (inSize : Nat) : UInt64 :=
  (if endOp = .eEnd then UInt64.ofNat inSize + 1 else zcs.pledgedSrcSizePlusOne) - 1

/-- `ZSTD_CCtx_init_compressStream2`. `params` are the requested parameters, as they are resolved
for a source of the pledged size. -/
def BlockCompressor.initCompressStream2 (c : BlockCompressor S) (params : UInt64 → AppliedParams)
    (zcs : CStream S) (endOp : EndDirective) (inSize : Nat) : CStream S :=
  let pledgedSrcSize := zcs.pledgedSrcSize endOp inSize
  let p := params pledgedSrcSize
  let cctx := c.resetCCtx p pledgedSrcSize
  { toCCtx := cctx
    streamStage := .load
    inBuff := zcs.inBuff
    inBuffSize := max 1 (min (2 ^ p.windowLog) pledgedSrcSize.toNat) + cctx.blockSizeMax
    inToCompress := 0
    inBuffPos := 0
    inBuffTarget :=
      cctx.blockSizeMax + (decide (UInt64.ofNat cctx.blockSizeMax = pledgedSrcSize)).toNat
    outBuff := zcs.outBuff
    outBuffSize := (zstdCompressBound (.ofNat cctx.blockSizeMax)).toNat + 1
    outBuffContentSize := 0
    outBuffFlushedSize := 0
    frameEnded := false }

/-- The variables of `ZSTD_compressStream_generic`: what is left of the input, what has been written
to the output, and the room that is left in it. -/
structure StreamVars (S : Type) where
  zcs : CStream S
  src : List UInt8
  out : List UInt8
  room : Nat

/-- `op += bytes`. -/
def StreamVars.put (v : StreamVars S) (bytes : List UInt8) : StreamVars S :=
  { v with out := v.out ++ bytes, room := v.room - bytes.length }

/-- There is enough space for `n` bytes of content in the output. -/
def StreamVars.RoomFor (v : StreamVars S) (n : Nat) : Prop :=
  (zstdCompressBound (.ofNat n)).toNat ≤ v.room

instance (v : StreamVars S) (n : Nat) : Decidable (v.RoomFor n) :=
  inferInstanceAs (Decidable (_ ≤ _))

/-- All of the input as the end of a frame, straight into the output. -/
def BlockCompressor.compressRest (c : BlockCompressor S) (v : StreamVars S) :
    Except UInt64 (StreamVars S × Bool) :=
  match c.compressEnd v.zcs.toCCtx v.room v.src with
  | .error e => .error e
  | .ok (cctx, bytes) =>
    let zcs : CStream S := { v.zcs with toCCtx := cctx, frameEnded := true }
    .ok (({ v with zcs := zcs.resetSession, src := [] } : StreamVars S).put bytes, false)

/-- Load input into the buffer. -/
def StreamVars.load (v : StreamVars S) : StreamVars S :=
  let loaded := min (v.zcs.inBuffTarget - v.zcs.inBuffPos) v.src.length
  { v with
    zcs := { v.zcs with
      inBuff := write v.zcs.inBuff v.zcs.inBuffPos (v.src.take loaded)
      inBuffPos := v.zcs.inBuffPos + loaded }
    src := v.src.drop loaded }

/-- There is not enough to compress, and nothing to flush. -/
def CStream.StopsLoading (zcs : CStream S) (flushMode : EndDirective) : Prop :=
  (flushMode = .eContinue ∧ zcs.inBuffPos < zcs.inBuffTarget) ∨
    (flushMode = .eFlush ∧ zcs.inBuffPos = zcs.inToCompress)

instance (zcs : CStream S) (flushMode : EndDirective) : Decidable (zcs.StopsLoading flushMode) :=
  inferInstanceAs (Decidable (_ ∨ _))

/-- The content that has been collected. -/
def CStream.block (zcs : CStream S) : List UInt8 :=
  slice zcs.inBuff zcs.inToCompress (zcs.inBuffPos - zcs.inToCompress)

/-- Prepare the next block. -/
def CStream.prepareNextBlock (zcs : CStream S) : CStream S :=
  if zcs.inBuffSize < zcs.inBuffPos + zcs.blockSizeMax then
    { zcs with inBuffPos := 0, inBuffTarget := zcs.blockSizeMax, inToCompress := 0 }
  else
    { zcs with
      inBuffTarget := zcs.inBuffPos + zcs.blockSizeMax
      inToCompress := zcs.inBuffPos }

/-- The flush stage. -/
def StreamVars.flush (v : StreamVars S) : StreamVars S × Bool :=
  let toFlush := v.zcs.outBuffContentSize - v.zcs.outBuffFlushedSize
  let flushed := min toFlush v.room
  let zcs : CStream S := { v.zcs with outBuffFlushedSize := v.zcs.outBuffFlushedSize + flushed }
  let v : StreamVars S :=
    ({ v with zcs := zcs } : StreamVars S).put
      (slice v.zcs.outBuff v.zcs.outBuffFlushedSize flushed)
  if toFlush ≠ flushed then (v, false)
  else
    let zcs : CStream S := { v.zcs with outBuffContentSize := 0, outBuffFlushedSize := 0 }
    if zcs.frameEnded then ({ v with zcs := zcs.resetSession }, false)
    else ({ v with zcs := { zcs with streamStage := .load } }, true)

/-- `ZSTD_compressEnd_public` for the last part of a frame, `ZSTD_compressContinue_public` else. -/
def BlockCompressor.compressPart (c : BlockCompressor S) (lastBlock : Bool) (cctx : CCtx S)
    (dstCapacity : Nat) (src : List UInt8) : Except UInt64 (CCtx S × List UInt8) :=
  if lastBlock then c.compressEnd cctx dstCapacity src
  else c.compressContinueInternal cctx dstCapacity src false

/-- The state behind a part, with the next block prepared. -/
def CStream.next (zcs : CStream S) (cctx : CCtx S) (lastBlock : Bool) : CStream S :=
  ({ zcs with toCCtx := cctx, frameEnded := lastBlock } : CStream S).prepareNextBlock

/-- The compression stage, on what has been loaded. -/
def BlockCompressor.compressLoaded (c : BlockCompressor S) (flushMode : EndDirective)
    (v : StreamVars S) : Except UInt64 (StreamVars S × Bool) :=
  let block := v.zcs.block
  let oSize := if v.RoomFor block.length then v.room else v.zcs.outBuffSize
  let lastBlock := decide (flushMode = .eEnd ∧ v.src = [])
  match c.compressPart lastBlock v.zcs.toCCtx oSize block with
  | .error e => .error e
  | .ok (cctx, bytes) =>
    let zcs := v.zcs.next cctx lastBlock
    if v.RoomFor block.length then
      .ok (({ v with zcs := if lastBlock then zcs.resetSession else zcs } : StreamVars S).put bytes,
        !lastBlock)
    else
      .ok ({ v with zcs := { zcs with
        outBuff := write zcs.outBuff 0 bytes
        outBuffContentSize := bytes.length
        outBuffFlushedSize := 0
        streamStage := .flush } } : StreamVars S).flush

/-- One turn of `ZSTD_compressStream_generic`. The flag is `someMoreWork`. -/
def BlockCompressor.streamTurn (c : BlockCompressor S) (flushMode : EndDirective)
    (v : StreamVars S) : Except UInt64 (StreamVars S × Bool) :=
  match v.zcs.streamStage with
  | .init => .error (0 - 62)
  | .load =>
    if flushMode = .eEnd ∧ v.RoomFor v.src.length ∧ v.zcs.inBuffPos = 0 then c.compressRest v
    else
      let v := v.load
      if v.zcs.StopsLoading flushMode then .ok (v, false)
      else c.compressLoaded flushMode v
  | .flush => .ok v.flush

/-- How much there is to be compressed. -/
def StreamVars.pending (v : StreamVars S) : Nat :=
  v.src.length + (v.zcs.inBuffPos - v.zcs.inToCompress)

/-- `ZSTD_compressStream_generic`. -/
def BlockCompressor.compressStreamGeneric (c : BlockCompressor S) (flushMode : EndDirective)
    (v : StreamVars S) : Except UInt64 (StreamVars S) :=
  turns (0 - 1) (c.streamTurn flushMode) (v.pending + 2) v

/-- The answer to a call that fails with the error code `e`: no position has been moved. The state
that the code has reached is not followed, and the one before the call stands in for it: what is
proved of a session is about the calls up to the first that fails. -/
def Reply.failed (s : S) (e : UInt64) : Reply S where
  state := s
  ret := if isError e then e else 0 - 1
  consumed := 0
  produced := []

/-- `ZSTD_compressStream2`. -/
def BlockCompressor.compressStream2 (c : BlockCompressor S) (params : UInt64 → AppliedParams)
    (zcs : CStream S) (endOp : EndDirective) (output : OutBuffer) (input : InBuffer) :
    Reply (CStream S) :=
  if output.size < output.pos then .failed zcs (0 - 70)
  else if input.size < input.pos then .failed zcs (0 - 72)
  else
    let zcs₁ :=
      if zcs.streamStage = .init then
        c.initCompressStream2 params zcs endOp (input.size - input.pos)
      else zcs
    match c.compressStreamGeneric endOp
        { zcs := zcs₁, src := input.window, out := [], room := output.room } with
    | .error e => .failed zcs e
    | .ok v =>
      { state := v.zcs
        ret := .ofNat (v.zcs.outBuffContentSize - v.zcs.outBuffFlushedSize)
        consumed := input.window.length - v.src.length
        produced := v.out }

/-- `ZSTD_createCCtx`, before any call. -/
def BlockCompressor.createCStream (c : BlockCompressor S) (params : UInt64 → AppliedParams) :
    CStream S where
  toCCtx := { c.resetCCtx (params contentSizeUnknown) contentSizeUnknown with stage := .created }
  streamStage := .init
  inBuff _ := 0
  inBuffSize := 0
  inToCompress := 0
  inBuffPos := 0
  inBuffTarget := 0
  outBuff _ := 0
  outBuffSize := 0
  outBuffContentSize := 0
  outBuffFlushedSize := 0
  frameEnded := false

/-! ### The buffers -/

/-- The sizes of the buffers of a frame: one block fits into each of them. -/
structure CStream.Allocated (zcs : CStream S) : Prop where
  blockSizeMax_pos : 0 < zcs.blockSizeMax
  blockSizeMax_le : zcs.blockSizeMax ≤ 131072
  le_inBuffSize : zcs.blockSizeMax ≤ zcs.inBuffSize
  outBuffSize : zcs.outBuffSize = (zstdCompressBound (.ofNat zcs.blockSizeMax)).toNat + 1

lemma CStream.Allocated.congr {zcs zcs' : CStream S} (h : zcs.Allocated)
    (hblock : zcs'.blockSizeMax = zcs.blockSizeMax) (hin : zcs'.inBuffSize = zcs.inBuffSize)
    (hout : zcs'.outBuffSize = zcs.outBuffSize) : zcs'.Allocated where
  blockSizeMax_pos := hblock ▸ h.blockSizeMax_pos
  blockSizeMax_le := hblock ▸ h.blockSizeMax_le
  le_inBuffSize := hblock ▸ hin ▸ h.le_inBuffSize
  outBuffSize := hblock ▸ hout ▸ h.outBuffSize

lemma CStream.Allocated.outBuffSize_le {zcs : CStream S} (h : zcs.Allocated) :
    zcs.outBuffSize ≤ 131649 := by
  have hmax := h.blockSizeMax_le
  have hn : (UInt64.ofNat zcs.blockSizeMax).toNat = zcs.blockSizeMax :=
    UInt64.toNat_ofNat_of_lt' (Nat.lt_of_le_of_lt hmax (by decide))
  have hlt : (UInt64.ofNat zcs.blockSizeMax).toNat < maxInputSize.toNat :=
    hn.symm ▸ Nat.lt_of_le_of_lt hmax (by decide)
  rw [h.outBuffSize, toNat_compressBound_of_lt hlt, hn]
  split <;> omega

/-- Where the positions in the buffers of a frame stand. -/
structure CStream.InBuffers (zcs : CStream S) : Prop extends zcs.Allocated where
  toCompress_le : zcs.inToCompress ≤ zcs.inBuffPos
  pos_le : zcs.inBuffPos ≤ zcs.inBuffTarget
  lt_target : zcs.inToCompress < zcs.inBuffTarget
  target_le : zcs.inBuffTarget ≤ zcs.inBuffSize
  flushed_le : zcs.outBuffFlushedSize ≤ zcs.outBuffContentSize
  content_le : zcs.outBuffContentSize ≤ zcs.outBuffSize

/-- Outside of a frame the buffers are not used, and outside of the flush stage nothing is left to
flush. -/
structure CStream.Buffered (zcs : CStream S) : Prop where
  inBuffers : zcs.streamStage ≠ .init → zcs.InBuffers
  flushed : zcs.streamStage ≠ .flush → zcs.outBuffContentSize = zcs.outBuffFlushedSize

variable {c : BlockCompressor S} {params : UInt64 → AppliedParams} {zcs : CStream S}
  {v v' : StreamVars S} {flushMode : EndDirective} {more : Bool}

lemma buffered_createCStream (c : BlockCompressor S) (params : UInt64 → AppliedParams) :
    (c.createCStream params).Buffered where
  inBuffers h := absurd rfl h
  flushed _ := rfl

lemma inBuffers_initCompressStream2 (zcs : CStream S) (endOp : EndDirective) (inSize : Nat) :
    (c.initCompressStream2 params zcs endOp inSize).InBuffers := by
  have hle := Bool.toNat_le (decide (UInt64.ofNat (c.resetCCtx
    (params (zcs.pledgedSrcSize endOp inSize)) (zcs.pledgedSrcSize endOp inSize)).blockSizeMax =
      zcs.pledgedSrcSize endOp inSize))
  have hf := inFrame_resetCCtx c (params (zcs.pledgedSrcSize endOp inSize))
    (zcs.pledgedSrcSize endOp inSize)
  have hpos := hf.blockSizeMax_pos
  have hmax := hf.blockSizeMax_le.trans (params (zcs.pledgedSrcSize endOp inSize)).maxBlockSize_le
  refine ⟨⟨hpos, hmax, Nat.le_add_left _ _, rfl⟩, Nat.le_refl _, Nat.zero_le _,
    Nat.lt_of_lt_of_le hpos (Nat.le_add_right _ _), ?_, Nat.le_refl _, Nat.zero_le _⟩
  dsimp only [BlockCompressor.initCompressStream2]
  omega

lemma CStream.InBuffers.load (h : v.zcs.InBuffers) : v.load.zcs.InBuffers := by
  have hpos := h.pos_le
  have hto := h.toCompress_le
  refine ⟨h.toAllocated.congr rfl rfl rfl, ?_, ?_, h.lt_target, h.target_le, h.flushed_le,
    h.content_le⟩
  · dsimp only [StreamVars.load]
    omega
  · dsimp only [StreamVars.load]
    omega

lemma CStream.InBuffers.prepareNextBlock (h : zcs.InBuffers) :
    zcs.prepareNextBlock.InBuffers ∧ zcs.prepareNextBlock.block = [] := by
  have hpos := h.blockSizeMax_pos
  rw [CStream.prepareNextBlock]
  split
  next =>
    exact ⟨⟨h.toAllocated.congr rfl rfl rfl, Nat.le_refl _, Nat.zero_le _, hpos, h.le_inBuffSize,
      h.flushed_le, h.content_le⟩, rfl⟩
  next hle =>
    refine ⟨⟨h.toAllocated.congr rfl rfl rfl, Nat.le_refl _, Nat.le_add_right _ _,
      Nat.lt_add_of_pos_right hpos, Nat.not_lt.mp hle, h.flushed_le, h.content_le⟩, ?_⟩
    rw [CStream.block, Nat.sub_self]
    rfl

/-- Loading appends to what has been collected. -/
lemma CStream.InBuffers.block_load (h : v.zcs.InBuffers) : ∃ loaded,
    v.src = loaded ++ v.load.src ∧ v.load.zcs.block = v.zcs.block ++ loaded ∧
      (v.load.src = [] ∨ v.load.zcs.inBuffPos = v.zcs.inBuffTarget) := by
  have hto := h.toCompress_le
  have hpos := h.pos_le
  refine ⟨v.src.take (min (v.zcs.inBuffTarget - v.zcs.inBuffPos) v.src.length),
    (List.take_append_drop _ _).symm, ?_, ?_⟩
  · have hlen : (v.src.take (min (v.zcs.inBuffTarget - v.zcs.inBuffPos) v.src.length)).length =
        min (v.zcs.inBuffTarget - v.zcs.inBuffPos) v.src.length := by
      rw [List.length_take]
      omega
    have happend := slice_write_append v.zcs.inBuff v.zcs.inToCompress
      (v.zcs.inBuffPos - v.zcs.inToCompress)
      (v.src.take (min (v.zcs.inBuffTarget - v.zcs.inBuffPos) v.src.length))
    rw [Nat.add_sub_cancel' hto, hlen] at happend
    rw [CStream.block, CStream.block, ← happend]
    dsimp only [StreamVars.load]
    rw [Nat.sub_add_comm hto]
  · dsimp only [StreamVars.load]
    rw [List.drop_eq_nil_iff]
    omega

/-- What is left to flush. -/
def CStream.toFlush (zcs : CStream S) : List UInt8 :=
  slice zcs.outBuff zcs.outBuffFlushedSize (zcs.outBuffContentSize - zcs.outBuffFlushedSize)

lemma CStream.toFlush_of_flushed (h : zcs.outBuffContentSize = zcs.outBuffFlushedSize) :
    zcs.toFlush = [] := by
  rw [CStream.toFlush, h, Nat.sub_self]
  rfl

lemma CStream.Buffered.toFlush_le (hb : zcs.Buffered) :
    zcs.outBuffContentSize - zcs.outBuffFlushedSize ≤ 131649 := by
  by_cases hstage : zcs.streamStage = .flush
  · have hin := hb.inBuffers (by simp [hstage])
    have hsize := hin.outBuffSize_le
    have hcontent := hin.content_le
    omega
  · have hflushed := hb.flushed hstage
    omega

/-- The result of a call is 0 when nothing is left to flush. -/
lemma CStream.Buffered.ret_eq_zero_iff (hb : zcs.Buffered) :
    UInt64.ofNat (zcs.outBuffContentSize - zcs.outBuffFlushedSize) = 0 ↔ zcs.toFlush = [] := by
  have hlt : zcs.outBuffContentSize - zcs.outBuffFlushedSize < UInt64.size :=
    Nat.lt_of_le_of_lt hb.toFlush_le (by decide)
  rw [← UInt64.toNat_inj, UInt64.toNat_ofNat_of_lt' hlt, ← List.length_eq_zero_iff,
    CStream.toFlush, slice_length]
  rfl

/-- How a flush ends: the output is full, or the frame has ended, or there is more to load. -/
inductive CStream.Flushes (zcs : CStream S) (room : Nat) (bytes : List UInt8) :
    CStream S → Bool → Prop
  | full (rest : List UInt8) (hrest : rest ≠ []) (h : zcs.toFlush = bytes ++ rest)
      (hroom : bytes.length = room) :
      Flushes zcs room bytes
        { zcs with outBuffFlushedSize := zcs.outBuffFlushedSize + bytes.length } false
  | ended (h : zcs.toFlush = bytes) (hended : zcs.frameEnded = true) :
      Flushes zcs room bytes
        ({ zcs with outBuffContentSize := 0, outBuffFlushedSize := 0 } : CStream S).resetSession
          false
  | done (h : zcs.toFlush = bytes) (hended : zcs.frameEnded = false) :
      Flushes zcs room bytes
        { zcs with
          outBuffContentSize := 0
          outBuffFlushedSize := 0
          streamStage := .load } true

lemma flush_eq (h : v.flush = (v', more)) : ∃ bytes, bytes.length ≤ v.room ∧
    v' = ({ v with zcs := v'.zcs } : StreamVars S).put bytes ∧
    v.zcs.Flushes v.room bytes v'.zcs more := by
  have hlen := slice_length v.zcs.outBuff v.zcs.outBuffFlushedSize
    (min (v.zcs.outBuffContentSize - v.zcs.outBuffFlushedSize) v.room)
  refine ⟨slice v.zcs.outBuff v.zcs.outBuffFlushedSize
    (min (v.zcs.outBuffContentSize - v.zcs.outBuffFlushedSize) v.room), by omega, ?_⟩
  rw [StreamVars.flush] at h
  dsimp only at h
  by_cases hfull : v.zcs.outBuffContentSize - v.zcs.outBuffFlushedSize ≠
      min (v.zcs.outBuffContentSize - v.zcs.outBuffFlushedSize) v.room
  · rw [if_pos hfull] at h
    obtain ⟨rfl, rfl⟩ := Prod.mk.inj h
    refine ⟨rfl, ?_⟩
    have hsplit : v.zcs.outBuffContentSize - v.zcs.outBuffFlushedSize =
        min (v.zcs.outBuffContentSize - v.zcs.outBuffFlushedSize) v.room +
          (v.zcs.outBuffContentSize - v.zcs.outBuffFlushedSize - v.room) := by omega
    obtain ⟨rest, hrest, hflush⟩ : ∃ rest, rest ≠ [] ∧ v.zcs.toFlush =
        slice v.zcs.outBuff v.zcs.outBuffFlushedSize
          (min (v.zcs.outBuffContentSize - v.zcs.outBuffFlushedSize) v.room) ++ rest := by
      refine ⟨slice v.zcs.outBuff (v.zcs.outBuffFlushedSize +
        min (v.zcs.outBuffContentSize - v.zcs.outBuffFlushedSize) v.room)
          (v.zcs.outBuffContentSize - v.zcs.outBuffFlushedSize - v.room), ?_, ?_⟩
      · rw [← List.length_pos_iff, slice_length]
        omega
      · rw [← slice_add, ← hsplit, CStream.toFlush]
    have hends := CStream.Flushes.full rest hrest hflush (hlen.trans (by omega : _ = v.room))
    rw [hlen] at hends
    exact hends
  · rw [if_neg hfull] at h
    have hall := of_not_not hfull
    have hflush : v.zcs.toFlush = slice v.zcs.outBuff v.zcs.outBuffFlushedSize
        (min (v.zcs.outBuffContentSize - v.zcs.outBuffFlushedSize) v.room) := by
      rw [CStream.toFlush, ← hall]
    cases hended : v.zcs.frameEnded with
    | true =>
      rw [if_pos (by exact hended)] at h
      obtain ⟨rfl, rfl⟩ := Prod.mk.inj h
      exact ⟨rfl, .ended hflush hended⟩
    | false =>
      rw [if_neg (by simp [StreamVars.put, hended])] at h
      obtain ⟨rfl, rfl⟩ := Prod.mk.inj h
      exact ⟨rfl, .done hflush hended⟩

/-! ### What a turn can do -/

lemma length_compressPart_le {last : Bool} {cctx cctx' : CCtx S} {dstCapacity : Nat}
    {src bytes : List UInt8} (h : c.compressPart last cctx dstCapacity src = .ok (cctx', bytes)) :
    bytes.length ≤ dstCapacity := by
  cases last with
  | true => exact length_compressEnd_le h
  | false => exact length_compressContinueInternal_le h

lemma blockSizeMax_compressPart {last : Bool} {cctx cctx' : CCtx S} {dstCapacity : Nat}
    {src bytes : List UInt8} (h : c.compressPart last cctx dstCapacity src = .ok (cctx', bytes)) :
    cctx'.blockSizeMax = cctx.blockSizeMax := by
  cases last with
  | true => exact blockSizeMax_compressEnd h
  | false => exact blockSizeMax_compressContinueInternal h

/-- The state behind a part that goes to the buffer, from where it is flushed. -/
def CStream.nextBuffered (zcs : CStream S) (cctx : CCtx S) (lastBlock : Bool)
    (bytes : List UInt8) : CStream S :=
  { zcs.next cctx lastBlock with
    outBuff := write (zcs.next cctx lastBlock).outBuff 0 bytes
    outBuffContentSize := bytes.length
    outBuffFlushedSize := 0
    streamStage := .flush }

/-- The turns of `ZSTD_compressStream_generic`. -/
inductive BlockCompressor.Turn (c : BlockCompressor S) (flushMode : EndDirective)
    (v : StreamVars S) : StreamVars S → Bool → Prop
  /-- all of the input is the rest of the frame -/
  | rest (cctx : CCtx S) (bytes : List UInt8) (hload : v.zcs.streamStage = .load)
      (hmode : flushMode = .eEnd) (hpos : v.zcs.inBuffPos = 0)
      (h : c.compressEnd v.zcs.toCCtx v.room v.src = .ok (cctx, bytes)) :
      Turn c flushMode v
        (({ v with
            zcs := ({ v.zcs with toCCtx := cctx, frameEnded := true } : CStream S).resetSession
            src := [] } : StreamVars S).put bytes) false
  /-- a block is not complete, or there is nothing to flush -/
  | wait (hload : v.zcs.streamStage = .load) (hstop : v.load.zcs.StopsLoading flushMode) :
      Turn c flushMode v v.load false
  /-- a part is compressed straight into the output -/
  | direct (cctx : CCtx S) (bytes : List UInt8) (last : Bool) (hload : v.zcs.streamStage = .load)
      (hstop : ¬v.load.zcs.StopsLoading flushMode)
      (hlast : last = decide (flushMode = .eEnd ∧ v.load.src = []))
      (h : c.compressPart last v.load.zcs.toCCtx v.load.room v.load.zcs.block = .ok (cctx, bytes)) :
      Turn c flushMode v
        (({ v.load with
            zcs := if last then (v.load.zcs.next cctx last).resetSession
              else v.load.zcs.next cctx last } : StreamVars S).put bytes) (!last)
  /-- a part is compressed into the buffer -/
  | buffer (cctx : CCtx S) (bytes : List UInt8) (last : Bool) (v' : StreamVars S) (more : Bool)
      (hload : v.zcs.streamStage = .load) (hstop : ¬v.load.zcs.StopsLoading flushMode)
      (hlast : last = decide (flushMode = .eEnd ∧ v.load.src = []))
      (h : c.compressPart last v.load.zcs.toCCtx v.load.zcs.outBuffSize v.load.zcs.block =
        .ok (cctx, bytes))
      (hflush : ({ v.load with zcs := v.load.zcs.nextBuffered cctx last bytes } :
        StreamVars S).flush = (v', more)) : Turn c flushMode v v' more
  /-- what is in the buffer is flushed -/
  | flush (v' : StreamVars S) (more : Bool) (hstage : v.zcs.streamStage = .flush)
      (hflush : v.flush = (v', more)) : Turn c flushMode v v' more

lemma streamTurn_eq_ok (h : c.streamTurn flushMode v = .ok (v', more)) :
    c.Turn flushMode v v' more := by
  rw [BlockCompressor.streamTurn] at h
  split at h
  next => cases h
  next hload =>
    split at h
    next hrest =>
      rw [BlockCompressor.compressRest] at h
      split at h
      next => cases h
      next cctx bytes hend =>
        obtain ⟨rfl, rfl⟩ := Prod.mk.inj (Except.ok.inj h)
        exact .rest cctx bytes hload hrest.1 hrest.2.2 hend
    next =>
      dsimp only at h
      split at h
      next hstop =>
        obtain ⟨rfl, rfl⟩ := Prod.mk.inj (Except.ok.inj h)
        exact .wait hload hstop
      next hstop =>
        rw [BlockCompressor.compressLoaded] at h
        dsimp only at h
        split at h
        next => cases h
        next cctx bytes hpart =>
          split at h
          next hroom =>
            rw [if_pos hroom] at hpart
            obtain ⟨rfl, rfl⟩ := Prod.mk.inj (Except.ok.inj h)
            exact .direct cctx bytes _ hload hstop rfl hpart
          next hroom =>
            rw [if_neg hroom] at hpart
            exact .buffer cctx bytes _ v' more hload hstop rfl hpart (Except.ok.inj h)
  next hstage => exact .flush v' more hstage (Except.ok.inj h)

/-- What a call moves: it takes from the front of the input, and writes into the room. -/
structure StreamVars.Moves (v v' : StreamVars S) : Prop where
  src : v'.src <:+ v.src
  room_le : v'.room ≤ v.room
  length_out : v'.out.length + v'.room = v.out.length + v.room

lemma StreamVars.Moves.refl (v : StreamVars S) : v.Moves v :=
  ⟨List.suffix_refl _, Nat.le_refl _, rfl⟩

lemma StreamVars.Moves.trans {v'' : StreamVars S} (h : v.Moves v') (h' : v'.Moves v'') :
    v.Moves v'' :=
  ⟨h'.src.trans h.src, h'.room_le.trans h.room_le, h'.length_out.trans h.length_out⟩

lemma StreamVars.moves_put {w : StreamVars S} {bytes : List UInt8} (hsrc : w.src <:+ v.src)
    (hout : w.out = v.out) (hroom : w.room = v.room) (hle : bytes.length ≤ v.room) :
    v.Moves (w.put bytes) := by
  refine ⟨hsrc, ?_, ?_⟩
  · dsimp only [StreamVars.put]
    omega
  · dsimp only [StreamVars.put]
    rw [List.length_append, hout, hroom]
    omega

lemma BlockCompressor.Turn.moves (h : c.Turn flushMode v v' more) : v.Moves v' := by
  have hload : v.load.src <:+ v.src := List.drop_suffix _ _
  cases h with
  | rest cctx bytes _ _ _ h =>
    exact StreamVars.moves_put List.nil_suffix rfl rfl (length_compressEnd_le h)
  | wait => exact ⟨hload, Nat.le_refl _, rfl⟩
  | direct cctx bytes last _ _ _ h =>
    exact StreamVars.moves_put hload rfl rfl (length_compressPart_le h)
  | buffer cctx bytes last _ _ _ _ _ h hflush =>
    obtain ⟨flushed, hle, hv', -⟩ := flush_eq hflush
    rw [hv']
    exact StreamVars.moves_put hload rfl rfl hle
  | flush _ _ _ hflush =>
    obtain ⟨flushed, hle, hv', -⟩ := flush_eq hflush
    rw [hv']
    exact StreamVars.moves_put (List.suffix_refl _) rfl rfl hle

lemma moves_turns {n : Nat} (h : turns (0 - 1) (c.streamTurn flushMode) n v = .ok v') :
    v.Moves v' := by
  obtain ⟨-, -, -, hmoves⟩ := turns_keeps (P := v.Moves)
    (fun _ _ _ hw hturn => hw.trans (streamTurn_eq_ok hturn).moves) (.refl v) h
  exact hmoves

/-! ### The codec -/

/-- A call that succeeds. -/
lemma compressStream2_eq_ok {endOp : EndDirective} {output : OutBuffer} {input : InBuffer}
    (hout : output.pos ≤ output.size) (hin : input.pos ≤ input.size)
    (hret : isError (c.compressStream2 params zcs endOp output input).ret = false) :
    ∃ v, c.compressStreamGeneric endOp
        { zcs := if zcs.streamStage = .init then
            c.initCompressStream2 params zcs endOp (input.size - input.pos) else zcs
          src := input.window
          out := []
          room := output.room } = .ok v ∧
      c.compressStream2 params zcs endOp output input =
        { state := v.zcs
          ret := .ofNat (v.zcs.outBuffContentSize - v.zcs.outBuffFlushedSize)
          consumed := input.window.length - v.src.length
          produced := v.out } := by
  have hfailed : ∀ e, isError (Reply.failed zcs e).ret = true := by
    intro e
    dsimp only [Reply.failed]
    split
    next he => exact he
    next => decide
  rw [BlockCompressor.compressStream2, if_neg (Nat.not_lt.mpr hout),
    if_neg (Nat.not_lt.mpr hin)] at hret ⊢
  dsimp only at hret ⊢
  cases hrun : c.compressStreamGeneric endOp
      { zcs := if zcs.streamStage = .init then
          c.initCompressStream2 params zcs endOp (input.size - input.pos) else zcs
        src := input.window
        out := []
        room := output.room } with
  | error e =>
    rw [hrun] at hret
    rw [hfailed e] at hret
    cases hret
  | ok v => exact ⟨v, rfl, rfl⟩

/-- `ZSTD_compressStream2` as the codec of a compression stream. -/
def BlockCompressor.streamCodec (c : BlockCompressor S) (params : UInt64 → AppliedParams) :
    Codec (CStream S) EndDirective where
  call := c.compressStream2 params
  consumed_le zcs endOp output input := by
    have hwindow := input.window_length
    rw [BlockCompressor.compressStream2]
    split
    next => exact Nat.zero_le _
    next =>
      split
      next => exact Nat.zero_le _
      next =>
        dsimp only
        split
        next => exact Nat.zero_le _
        next => exact (Nat.sub_le _ _).trans hwindow.le
  produced_le zcs endOp output input := by
    rw [BlockCompressor.compressStream2]
    split
    next => exact Nat.zero_le _
    next =>
      split
      next => exact Nat.zero_le _
      next =>
        dsimp only
        split
        next => exact Nat.zero_le _
        next v hv =>
          have hroom := (moves_turns hv).length_out
          rw [List.length_nil, Nat.zero_add] at hroom
          exact (Nat.le_add_right _ _).trans hroom.le

/-! ### The buffers stay within their bounds -/

lemma CStream.Flushes.buffered {room : Nat} {bytes : List UInt8} {zcs' : CStream S}
    (h : zcs.Flushes room bytes zcs' more) (hb : zcs.InBuffers)
    (hstage : zcs.streamStage = .flush) : zcs'.Buffered := by
  have hflushed := hb.flushed_le
  cases h with
  | full rest hrest h hroom =>
    have hlen := congrArg List.length h
    have hpos := List.length_pos_iff.mpr hrest
    rw [CStream.toFlush, slice_length, List.length_append] at hlen
    refine ⟨fun _ => ⟨hb.toAllocated.congr rfl rfl rfl, hb.toCompress_le, hb.pos_le, hb.lt_target,
      hb.target_le, ?_, hb.content_le⟩, fun hne => absurd hstage hne⟩
    dsimp only
    omega
  | ended => exact ⟨fun hne => absurd rfl hne, fun _ => rfl⟩
  | done =>
    exact ⟨fun _ => ⟨hb.toAllocated.congr rfl rfl rfl, hb.toCompress_le, hb.pos_le, hb.lt_target,
      hb.target_le, Nat.le_refl _, Nat.zero_le _⟩, fun _ => rfl⟩

lemma CStream.InBuffers.next (h : zcs.InBuffers) {cctx : CCtx S}
    (hsame : cctx.blockSizeMax = zcs.blockSizeMax) (last : Bool) :
    (zcs.next cctx last).InBuffers ∧ (zcs.next cctx last).block = [] := by
  exact CStream.InBuffers.prepareNextBlock ⟨h.toAllocated.congr hsame rfl rfl, h.toCompress_le,
    h.pos_le, h.lt_target, h.target_le, h.flushed_le, h.content_le⟩

lemma CStream.InBuffers.nextBuffered (h : zcs.InBuffers) {cctx : CCtx S} {bytes : List UInt8}
    (hsame : cctx.blockSizeMax = zcs.blockSizeMax) (hle : bytes.length ≤ zcs.outBuffSize)
    (last : Bool) : (zcs.nextBuffered cctx last bytes).InBuffers := by
  have hnext := (h.next hsame last).1
  have hsize : (zcs.next cctx last).outBuffSize = zcs.outBuffSize := by
    rw [CStream.next, CStream.prepareNextBlock]
    split <;> rfl
  exact ⟨hnext.toAllocated.congr rfl rfl rfl, hnext.toCompress_le, hnext.pos_le, hnext.lt_target,
    hnext.target_le, Nat.zero_le _, hsize ▸ hle⟩

/-- The step lemma. -/
lemma BlockCompressor.Turn.buffered (h : c.Turn flushMode v v' more) (hb : v.zcs.Buffered) :
    v'.zcs.Buffered := by
  cases h with
  | rest => exact ⟨fun hne => absurd rfl hne, fun _ => hb.flushed (by simp [*])⟩
  | wait hload =>
    have hne : v.zcs.streamStage ≠ .init := by simp [hload]
    exact ⟨fun _ => (hb.inBuffers hne).load, fun _ => hb.flushed (by simp [hload])⟩
  | direct cctx bytes last hload _ _ h =>
    have hne : v.zcs.streamStage ≠ .init := by simp [hload]
    have hflushed := hb.flushed (by simp [hload])
    have hnext := ((hb.inBuffers hne).load.next (blockSizeMax_compressPart h) last).1
    have hcontent : (v.load.zcs.next cctx last).outBuffContentSize =
        (v.load.zcs.next cctx last).outBuffFlushedSize := by
      rw [CStream.next, CStream.prepareNextBlock]
      split <;> exact hflushed
    dsimp only [StreamVars.put]
    cases last with
    | true => exact ⟨fun hne => absurd rfl hne, fun _ => hcontent⟩
    | false => exact ⟨fun _ => hnext, fun _ => hcontent⟩
  | buffer cctx bytes last _ _ hload _ _ h hflush =>
    have hne : v.zcs.streamStage ≠ .init := by simp [hload]
    obtain ⟨flushed, -, hv', hflushes⟩ := flush_eq hflush
    exact hflushes.buffered ((hb.inBuffers hne).load.nextBuffered (blockSizeMax_compressPart h)
      (length_compressPart_le h) last) rfl
  | flush _ _ hstage hflush =>
    obtain ⟨flushed, -, hv', hflushes⟩ := flush_eq hflush
    exact hflushes.buffered (hb.inBuffers (by simp [hstage])) hstage

lemma buffered_start (c : BlockCompressor S) (params : UInt64 → AppliedParams) (hb : zcs.Buffered)
    (endOp : EndDirective) (inSize : Nat) :
    (if zcs.streamStage = .init then c.initCompressStream2 params zcs endOp inSize
      else zcs).Buffered ∧
    (if zcs.streamStage = .init then c.initCompressStream2 params zcs endOp inSize
      else zcs).streamStage ≠ .init := by
  split
  next =>
    exact ⟨⟨fun _ => inBuffers_initCompressStream2 zcs endOp inSize, fun _ => rfl⟩,
      fun hinit => by cases hinit⟩
  next hstage => exact ⟨hb, hstage⟩

end VZstd
