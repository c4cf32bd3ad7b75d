import VZstd.Frame.CompressStream
import VZstd.Frame.DecompressContinue

/-!
# Decompressing a stream

`ZSTD_decompressStream` with an output buffer of its own: input is taken as it is where enough of
it is there, and collected where not. What has been decoded stays in the output buffer, from where
it is flushed, and which is restarted when the next block might not fit.
-/

namespace VZstd

open LittleEndian Memory Turns

/-- `ZSTD_dStreamStage`. -/
inductive DStreamStage where
  | init
  | loadHeader
  | read
  | load
  | flush
  deriving DecidableEq, Repr

/-- The part of `ZSTD_DCtx` that streaming adds. The header buffer holds `lhSize` bytes. -/
structure DStream (E : Type) extends DFrame E where
  maxWindowSize : Nat
  streamStage : DStreamStage
  inBuff : Nat → UInt8
  inBuffSize : Nat
  inPos : Nat
  outBuff : Nat → UInt8
  outBuffSize : Nat
  outStart : Nat
  outEnd : Nat
  hostageByte : Bool
  noForwardProgress : Nat
  oversizedDuration : Nat

/-- The variables of `ZSTD_decompressStream`: what is left of the input, what has been written to
the output, the room that is left in it, and the result where a header is not yet complete. -/
structure DStreamVars (E : Type) where
  zds : DStream E
  src : List UInt8
  out : List UInt8
  room : Nat
  hint : Option Nat

/-- `WILDCOPY_OVERLENGTH`. -/
def wildcopyOverlength : Nat := 32

/-- `ZSTD_NO_FORWARD_PROGRESS_MAX`. -/
def noForwardProgressMax : Nat := 16

/-- `ZSTD_decodingBufferSize_internal`. -/
def decodingBufferSize (windowSize : Nat) (frameContentSize : UInt64) (blockSizeMax : Nat) : Nat :=
  let blockSize := min (min windowSize 131072) blockSizeMax
  min frameContentSize.toNat (windowSize + blockSize * 2 + wildcopyOverlength * 2)

variable {E : Type}

/-- `ZSTD_DCtx_updateOversizedDuration`. -/
def DStream.updateOversizedDuration (zds : DStream E) (neededInBuffSize neededOutBuffSize : Nat) :
    DStream E :=
  { zds with oversizedDuration :=
      if (neededInBuffSize + neededOutBuffSize) * 3 ≤ zds.inBuffSize + zds.outBuffSize then
        zds.oversizedDuration + 1
      else 0 }

/-- Adapt buffer sizes to frame header instructions. -/
def DStream.resizeBuffers (zds : DStream E) : DStream E :=
  let neededInBuffSize := max zds.fParams.blockSizeMax.toNat 4
  let neededOutBuffSize := decodingBufferSize zds.fParams.windowSize.toNat
    zds.fParams.frameContentSize zds.fParams.blockSizeMax.toNat
  let zds := zds.updateOversizedDuration neededInBuffSize neededOutBuffSize
  if (zds.inBuffSize < neededInBuffSize ∨ zds.outBuffSize < neededOutBuffSize) ∨
      128 ≤ zds.oversizedDuration then
    { zds with inBuffSize := neededInBuffSize, outBuffSize := neededOutBuffSize }
  else zds

/-- Control max memory usage, and the size of the blocks. -/
def DStream.limitMemory (zds : DStream E) : Except UInt64 (DStream E) :=
  let windowSize := max zds.fParams.windowSize (.ofNat (2 ^ windowLogAbsoluteMin))
  if zds.maxWindowSize < windowSize.toNat then .error (0 - 16)
  else
    let blockSizeMax :=
      if zds.maxBlockSizeParam ≠ 0 then min zds.fParams.blockSizeMax (.ofNat zds.maxBlockSizeParam)
      else zds.fParams.blockSizeMax
    let fParams : FrameHeader :=
      { zds.fParams with windowSize := windowSize, blockSizeMax := blockSizeMax }
    .ok ({ zds with fParams := fParams } : DStream E).resizeBuffers

/-- Consume header. `fParams` is what `ZSTD_getFrameHeader_advanced` has found in it. -/
def BlockDecoder.consumeHeader (d : BlockDecoder E) (zds : DStream E) (fParams : FrameHeader) :
    Except UInt64 (DStream E) :=
  let dctx : DFrame E := { d.decompressBeginFrame zds.toDFrame with fParams := fParams }
  if zds.format = .zstd1 ∧ isSkippable (readLE zds.headerBuffer 0 4) then
    let dctx : DFrame E :=
      { dctx with expected := readLE zds.headerBuffer frameIdSize 4, stage := .skipFrame }
    ({ zds with toDFrame := dctx } : DStream E).limitMemory
  else
    match dctx.readFrameHeader zds.headerBuffer with
    | .error e => .error e
    | .ok dctx => ({ zds with toDFrame := dctx.nextBlock } : DStream E).limitMemory

/-- `op += bytes`. -/
def DStreamVars.put (v : DStreamVars E) (bytes : List UInt8) : DStreamVars E :=
  { v with out := v.out ++ bytes, room := v.room - bytes.length }

/-- `ZSTD_decompressContinueStream`. -/
def BlockDecoder.decompressContinueStream (d : BlockDecoder E) (zds : DStream E)
    (src : List UInt8) : Except UInt64 (DStream E) :=
  let isSkipFrame := decide (zds.stage = .skipFrame)
  let dstSize := if isSkipFrame then 0 else zds.outBuffSize - zds.outStart
  match d.decompressContinue zds.toDFrame zds.outBuff zds.outStart dstSize src with
  | .error e => .error e
  | .ok (dctx, bytes) =>
    let zds : DStream E :=
      { zds with toDFrame := dctx, outBuff := write zds.outBuff zds.outStart bytes }
    if bytes.length = 0 ∧ isSkipFrame = false then .ok { zds with streamStage := .read }
    else .ok { zds with outEnd := zds.outStart + bytes.length, streamStage := .flush }

/-- `zdss_load`. -/
def BlockDecoder.loadStage (d : BlockDecoder E) (v : DStreamVars E) :
    Except UInt64 (DStreamVars E × Bool) :=
  let neededInSize := v.zds.expected
  let toLoad := neededInSize - v.zds.inPos
  let loadedSize := min toLoad v.src.length
  if v.zds.stage ≠ .skipFrame ∧ v.zds.inBuffSize - v.zds.inPos < toLoad then .error (0 - 20)
  else
    let inBuff :=
      if v.zds.stage = .skipFrame then v.zds.inBuff
      else write v.zds.inBuff v.zds.inPos (v.src.take loadedSize)
    let v : DStreamVars E :=
      { v with
        zds := { v.zds with inBuff := inBuff, inPos := v.zds.inPos + loadedSize }
        src := v.src.drop loadedSize }
    if loadedSize < toLoad then .ok (v, false)
    else
      match d.decompressContinueStream { v.zds with inPos := 0 }
          (slice v.zds.inBuff 0 neededInSize) with
      | .error e => .error e
      | .ok zds => .ok ({ v with zds := zds }, true)

/-- `zdss_read`. -/
def BlockDecoder.readStage (d : BlockDecoder E) (v : DStreamVars E) :
    Except UInt64 (DStreamVars E × Bool) :=
  let neededInSize := v.zds.nextSrcSizeToDecompressWithInputSize v.src.length
  if neededInSize = 0 then .ok ({ v with zds := { v.zds with streamStage := .init } }, false)
  else if neededInSize ≤ v.src.length then
    match d.decompressContinueStream v.zds (v.src.take neededInSize) with
    | .error e => .error e
    | .ok zds => .ok ({ v with zds := zds, src := v.src.drop neededInSize }, true)
  else if v.src = [] then .ok (v, false)
  else d.loadStage { v with zds := { v.zds with streamStage := .load } }

/-- `zdss_flush`. -/
def DStreamVars.flush (v : DStreamVars E) : DStreamVars E × Bool :=
  let toFlushSize := v.zds.outEnd - v.zds.outStart
  let flushedSize := min toFlushSize v.room
  let outStart := v.zds.outStart + flushedSize
  let v : DStreamVars E :=
    ({ v with zds := { v.zds with outStart := outStart } } : DStreamVars E).put
      (slice v.zds.outBuff v.zds.outStart flushedSize)
  if flushedSize ≠ toFlushSize then (v, false)
  else if v.zds.outBuffSize < v.zds.fParams.frameContentSize.toNat ∧
      v.zds.outBuffSize < v.zds.outStart + v.zds.fParams.blockSizeMax.toNat then
    ({ v with zds := { v.zds with streamStage := .read, outStart := 0, outEnd := 0 } }, true)
  else ({ v with zds := { v.zds with streamStage := .read } }, true)

/-- The size of the frame that starts at `istart`, where single-pass mode can be used. -/
def singlePass (fParams : FrameHeader) (format : Format) (room : Nat) (istart : List UInt8) :
    Option Nat :=
  if fParams.frameContentSize ≠ contentSizeUnknown ∧ fParams.frameType ≠ .skippableFrame ∧
      fParams.frameContentSize.toNat ≤ room then
    match findFrameSizeInfo istart format with
    | .error _ => none
    | .ok info => if info.compressedSize ≤ istart.length then some info.compressedSize else none
  else none

/-- More of the header, of which `hSize` bytes are needed. Where the input ends before, the first
bytes are checked. -/
def DStreamVars.loadMore (v : DStreamVars E) (hSize : Nat) : DStreamVars E × Bool :=
  let toLoad := hSize - v.zds.headerBuffer.length
  let headerBuffer := v.zds.headerBuffer ++ v.src.take toLoad
  let v : DStreamVars E :=
    { v with
      zds := { v.zds with headerBuffer := headerBuffer }
      src := v.src.drop toLoad }
  if hSize ≤ headerBuffer.length then (v, true)
  else
    let hint :=
      max (frameHeaderSizeMin v.zds.format) hSize - headerBuffer.length + blockHeaderLength
    match getFrameHeaderAdvanced headerBuffer v.zds.format with
    | .error e => ({ v with hint := some (if isError e then e.toNat else hint) }, false)
    | .ok _ => ({ v with hint := some hint }, false)

/-- `zdss_loadHeader`. The input of the call starts at `istart`. -/
def BlockDecoder.loadHeaderStage (d : BlockDecoder E) (istart : List UInt8) (v : DStreamVars E) :
    Except UInt64 (DStreamVars E × Bool) :=
  match getFrameHeaderAdvanced v.zds.headerBuffer v.zds.format with
  | .error hSize => if isError hSize then .error hSize else .ok (v.loadMore hSize.toNat)
  | .ok fParams =>
    match singlePass fParams v.zds.format v.room istart with
    | some cSize =>
      match d.decompressMultiFrame v.zds.toDCtx v.room (istart.take cSize) with
      | .error e => .error e
      | .ok x =>
        let zds : DStream E :=
          { v.zds with expected := 0, stage := .getFrameHeaderSize, streamStage := .init }
        .ok (({ v with zds := zds, src := istart.drop cSize } : DStreamVars E).put x, false)
    | none =>
      match d.consumeHeader v.zds fParams with
      | .error e => .error e
      | .ok zds => d.readStage { v with zds := { zds with streamStage := .read } }

/-- `zdss_init`. -/
def DStream.initStream (zds : DStream E) : DStream E :=
  { zds with
    streamStage := .loadHeader
    headerBuffer := []
    inPos := 0
    outStart := 0
    outEnd := 0
    hostageByte := false }

/-- One turn of the loop. The flag is `someMoreWork`. -/
def BlockDecoder.decompressTurn (d : BlockDecoder E) (istart : List UInt8) (v : DStreamVars E) :
    Except UInt64 (DStreamVars E × Bool) :=
  match v.zds.streamStage with
  | .init => d.loadHeaderStage istart { v with zds := v.zds.initStream }
  | .loadHeader => d.loadHeaderStage istart v
  | .read => d.readStage v
  | .load => d.loadStage v
  | .flush => .ok v.flush

/-- How many turns there can be: each one takes something of the input, or flushes. -/
def DStreamVars.work (v : DStreamVars E) : Nat :=
  2 * v.src.length + if v.zds.streamStage = .flush then 1 else 0

/-- The result of a call that has ended outside of a header. -/
def DStream.result (zds : DStream E) : Nat :=
  zds.expected + (if zds.stage = .decompressBlock then blockHeaderLength else 0) - zds.inPos

/-- What a call of `ZSTD_decompressStream` returns, and how much of `input` it says that it has
read: the last byte of a frame is kept back until all of its content is flushed. -/
def DStream.reply (zds : DStream E) (consumed inputSize : Nat) (produced : List UInt8) :
    Reply (DStream E) :=
  if zds.expected ≠ 0 then
    { state := zds, ret := .ofNat zds.result, consumed := consumed, produced := produced }
  else if zds.outEnd = zds.outStart then
    if zds.hostageByte then
      if inputSize ≤ consumed then
        { state := { zds with streamStage := .read }
          ret := 1
          consumed := consumed
          produced := produced }
      else { state := zds, ret := 0, consumed := consumed + 1, produced := produced }
    else { state := zds, ret := 0, consumed := consumed, produced := produced }
  else if zds.hostageByte then
    { state := zds, ret := 1, consumed := consumed, produced := produced }
  else
    { state := { zds with hostageByte := true }
      ret := 1
      consumed := consumed - 1
      produced := produced }

/-- The end of a call: too many calls in a row without progress are an error. -/
def DStreamVars.finish (v : DStreamVars E) (istart : List UInt8) : Reply (DStream E) :=
  match v.hint with
  | some hint =>
    { state := v.zds
      ret := .ofNat hint
      consumed := istart.length - v.src.length
      produced := v.out }
  | none =>
    if v.src.length = istart.length ∧ v.out = [] then
      let zds : DStream E := { v.zds with noForwardProgress := v.zds.noForwardProgress + 1 }
      if noForwardProgressMax ≤ zds.noForwardProgress ∧ v.room = 0 then .failed zds (0 - 80)
      else if noForwardProgressMax ≤ zds.noForwardProgress ∧ v.src = [] then .failed zds (0 - 82)
      else zds.reply 0 istart.length v.out
    else
      ({ v.zds with noForwardProgress := 0 } : DStream E).reply (istart.length - v.src.length)
        istart.length v.out

/-- `ZSTD_decompressStream`. -/
def BlockDecoder.decompressStream (d : BlockDecoder E) (zds : DStream E) (output : OutBuffer)
    (input : InBuffer) : Reply (DStream E) :=
  if input.size < input.pos then .failed zds (0 - 72)
  else if output.size < output.pos then .failed zds (0 - 70)
  else
    let v : DStreamVars E :=
      { zds := zds, src := input.window, out := [], room := output.room, hint := none }
    match turns (0 - 1) (d.decompressTurn input.window) (v.work + 2) v with
    | .error e => .failed zds e
    | .ok v => v.finish input.window

/-- `ZSTD_createDCtx`. -/
def BlockDecoder.createDStream (d : BlockDecoder E) (dctx : DCtx) (maxWindowSize : Nat) :
    DStream E where
  toDCtx := dctx
  stage := .getFrameHeaderSize
  expected := 0
  headerBuffer := []
  headerSize := 0
  fParams :=
    { frameContentSize := 0
      windowSize := 0
      blockSizeMax := 0
      frameType := .frame
      headerSize := 0
      dictID := 0
      checksumFlag := 0 }
  bType := .reserved
  rleSize := 0
  validateChecksum := false
  decodedSize := 0
  entropy := d.decompressBegin
  xxhState := xxh64Reset 0
  dictEnd := 0
  dictLength := 0
  prefixStart := 0
  previousDstEnd := none
  maxWindowSize := maxWindowSize
  streamStage := .init
  inBuff _ := 0
  inBuffSize := 0
  inPos := 0
  outBuff _ := 0
  outBuffSize := 0
  outStart := 0
  outEnd := 0
  hostageByte := false
  noForwardProgress := 0
  oversizedDuration := 0

end VZstd
