import VZstd.Frame.Blocks
import VZstd.Frame.Header
import VZstd.Lib.Reader
import VZstd.Xxh64

/-!
# Compressing frames

`ZSTD_compressContinue_internal`, `ZSTD_compressEnd_public` and what they call, down to the sections
of a compressed block, which are left to a `BlockCompressor`. No dictionary is loaded, and sequences
are neither collected nor produced outside.
-/

namespace VZstd

open LittleEndian Reader

/-- What a compression context applies of its parameters. Those that are not listed here are the
same for all frames of a context, or follow from the ones that are. -/
structure AppliedParams extends CCtxParams where
  chainLog : Nat
  hashLog : Nat
  searchLog : Nat
  minMatch : Nat
  targetLength : Nat
  strategy : Nat
  maxBlockSize : Nat
  preBlockSplitterLevel : Nat
  /-- `ZSTD_useTargetCBlockSize` or `ZSTD_blockSplitterEnabled`. -/
  inParts : Bool
  le_maxBlockSize : 1024 ≤ maxBlockSize
  maxBlockSize_le : maxBlockSize ≤ 131072

/-- What is done below a block, with the parameters of the frame. `S` is the state of the block:
match finder, entropy tables and repeat codes. -/
structure BlockCompressor (S : Type) where
  /-- The state that `ZSTD_resetCCtx_internal` leaves. -/
  compressBegin (p : AppliedParams) : S
  /-- `ZSTD_splitBlock`, for 128 KB. -/
  splitBlock (src : List UInt8) (level : Nat) : Nat
  /-- The flag is `ZSTDbss_compress`. -/
  buildSeqStore (p : AppliedParams) (s : S) (src : List UInt8) : Except UInt64 (S × Bool)
  /-- Nothing is returned for a block that is not compressible. -/
  entropyCompressSeqStore (p : AppliedParams) (s : S) (dstCapacity : Nat) (src : List UInt8) :
    Except UInt64 (S × List UInt8)
  /-- The flag says whether `ZSTD_blockState_confirmRepcodesAndEntropyTables` is called. -/
  endBlock (s : S) (confirm : Bool) : S
  /-- `ZSTD_compressBlock_targetCBlockSize` or `ZSTD_compressBlock_splitBlock`: one block or more,
  with their headers. -/
  compressBlockInParts (p : AppliedParams) (s : S) (isFirstBlock : Bool) (dstCapacity : Nat)
    (src : List UInt8) (lastBlock : Bool) : Except UInt64 (S × List UInt8)
  le_splitBlock (src : List UInt8) (level : Nat) : 8192 ≤ splitBlock src level
  splitBlock_le (src : List UInt8) (level : Nat) : splitBlock src level ≤ 131072
  entropyCompress_fits : ∀ ⦃p s dstCapacity src s' bytes⦄,
    entropyCompressSeqStore p s dstCapacity src = .ok (s', bytes) → bytes.length ≤ dstCapacity
  inParts_fits : ∀ ⦃p s isFirstBlock dstCapacity src lastBlock s' bytes⦄,
    compressBlockInParts p s isFirstBlock dstCapacity src lastBlock = .ok (s', bytes) →
      bytes.length ≤ dstCapacity

variable {S : Type}

/-! ### Blocks -/

/-- `ZSTD_isRLE`. -/
def isRLE (src : List UInt8) : Bool := src.all (· == src.headD 0)

/-- `ZSTD_compressBlock_internal`. -/
def BlockCompressor.compressBlockInternal (c : BlockCompressor S) (p : AppliedParams) (s : S)
    (isFirstBlock : Bool) (dstCapacity : Nat) (src : List UInt8) :
    Except UInt64 (S × List UInt8) :=
  match c.buildSeqStore p s src with
  | .error e => .error e
  | .ok (s, false) => .ok (c.endBlock s false, [])
  | .ok (s, true) =>
    match c.entropyCompressSeqStore p s dstCapacity src with
    | .error e => .error e
    | .ok (s, bytes) =>
      let rleMaxLength := 25
      let bytes :=
        if !isFirstBlock && decide (bytes.length < rleMaxLength) && isRLE src then [src.headD 0]
        else bytes
      .ok (c.endBlock s (decide (1 < bytes.length)), bytes)

/-- `ZSTD_noCompressBlock`. -/
def noCompressBlock (dstCapacity : Nat) (src : List UInt8) (lastBlock : Bool) :
    Except UInt64 (List UInt8) :=
  if dstCapacity < src.length + blockHeaderLength then .error (0 - 70)
  else .ok (writeBlockHeader lastBlock .raw src.length ++ src)

/-- A block with its header, or the blocks that it is split into. -/
def BlockCompressor.compressBlock (c : BlockCompressor S) (p : AppliedParams) (s : S)
    (isFirstBlock : Bool) (dstCapacity : Nat) (src : List UInt8) (lastBlock : Bool) :
    Except UInt64 (S × List UInt8) :=
  if p.inParts then c.compressBlockInParts p s isFirstBlock dstCapacity src lastBlock
  else
    match c.compressBlockInternal p s isFirstBlock (dstCapacity - blockHeaderLength) src with
    | .error e => .error e
    | .ok (s, []) => (noCompressBlock dstCapacity src lastBlock).map (s, ·)
    | .ok (s, [b]) => .ok (s, writeBlockHeader lastBlock .rle src.length ++ [b])
    | .ok (s, bytes) => .ok (s, writeBlockHeader lastBlock .compressed bytes.length ++ bytes)

/-- `splitLevels`. -/
def splitLevels : List Nat := [0, 0, 1, 2, 2, 3, 3, 4, 4, 4]

/-- `ZSTD_optimalBlockSize`. -/
def BlockCompressor.optimalBlockSize (c : BlockCompressor S) (p : AppliedParams)
    (blockSizeMax : Nat) (savings : Int) (src : List UInt8) : Nat :=
  if src.length < 131072 ∨ blockSizeMax < 131072 then min src.length blockSizeMax
  else if savings < 3 then 131072
  else if p.preBlockSplitterLevel = 1 then 131072
  else if p.preBlockSplitterLevel = 0 then c.splitBlock src (splitLevels.getD p.strategy 0)
  else c.splitBlock src (p.preBlockSplitterLevel - 2)

/-- The variables of the loop on blocks. -/
structure ChunkState (S : Type) where
  blockState : S
  isFirstBlock : Bool
  dstCapacity : Nat
  savings : Int
  out : List UInt8

/-- One turn of the loop on blocks. -/
def BlockCompressor.compressNextBlock (c : BlockCompressor S) (p : AppliedParams)
    (blockSizeMax : Nat) (lastFrameChunk : Bool) (s : ChunkState S) (src : List UInt8) :
    Except UInt64 (ChunkState S × List UInt8) :=
  let blockSize := c.optimalBlockSize p blockSizeMax s.savings src
  let lastBlock := lastFrameChunk && decide (blockSize = src.length)
  if s.dstCapacity < blockHeaderLength + minCBlockSize + 1 then .error (0 - 70)
  else
    match c.compressBlock p s.blockState s.isFirstBlock s.dstCapacity (src.take blockSize)
        lastBlock with
    | .error e => .error e
    | .ok (blockState, bytes) =>
      .ok ({ blockState := blockState
             isFirstBlock := false
             dstCapacity := s.dstCapacity - bytes.length
             savings := s.savings + ((blockSize : Int) - bytes.length)
             out := s.out ++ bytes }, src.drop blockSize)

/-! ### Chunks -/

/-- `ZSTD_compressionStage_e`. -/
inductive CompressionStage where
  | created
  | init
  | ongoing
  | ending
  deriving DecidableEq, Repr

/-- `ZSTD_CCtx`. -/
structure CCtx (S : Type) where
  stage : CompressionStage
  appliedParams : AppliedParams
  pledgedSrcSizePlusOne : UInt64
  consumedSrcSize : UInt64
  producedCSize : UInt64
  blockSizeMax : Nat
  isFirstBlock : Bool
  xxhState : XXH64State
  blockState : S

/-- The parameters that are applied to a frame: a size that is not known is not written. -/
def AppliedParams.applied (p : AppliedParams) (pledgedSrcSize : UInt64) : AppliedParams :=
  if pledgedSrcSize = contentSizeUnknown then { p with contentSizeFlag := false } else p

/-- `ZSTD_resetCCtx_internal`. -/
def BlockCompressor.resetCCtx (c : BlockCompressor S) (p : AppliedParams)
    (pledgedSrcSize : UInt64) : CCtx S where
  stage := .init
  appliedParams := p.applied pledgedSrcSize
  pledgedSrcSizePlusOne := pledgedSrcSize + 1
  consumedSrcSize := 0
  producedCSize := 0
  blockSizeMax := min p.maxBlockSize (max 1 (min (2 ^ p.windowLog) pledgedSrcSize.toNat))
  isFirstBlock := true
  xxhState := xxh64Reset 0
  blockState := c.compressBegin (p.applied pledgedSrcSize)

/-- `ZSTD_compress_frameChunk`. -/
def BlockCompressor.compressFrameChunk (c : BlockCompressor S) (cctx : CCtx S)
    (dstCapacity : Nat) (src : List UInt8) (lastFrameChunk : Bool) :
    Except UInt64 (CCtx S × List UInt8) :=
  let s : ChunkState S :=
    { blockState := cctx.blockState
      isFirstBlock := cctx.isFirstBlock
      dstCapacity := dstCapacity
      savings := (cctx.consumedSrcSize.toNat : Int) - cctx.producedCSize.toNat
      out := [] }
  match readAll (0 - 1) 1 (c.compressNextBlock cctx.appliedParams cctx.blockSizeMax lastFrameChunk)
      src.length s src with
  | .error e => .error e
  | .ok (s, _) =>
    .ok ({ cctx with
        xxhState :=
          if cctx.appliedParams.checksumFlag ∧ src ≠ [] then xxh64Update cctx.xxhState src
          else cctx.xxhState
        blockState := s.blockState
        isFirstBlock := s.isFirstBlock
        stage := if lastFrameChunk ∧ s.out ≠ [] then .ending else cctx.stage }, s.out)

/-- The header, if it is not yet written. -/
def CCtx.startFrame (cctx : CCtx S) (dstCapacity : Nat) : Except UInt64 (CCtx S × List UInt8) :=
  if cctx.stage = .init then
    (writeFrameHeader dstCapacity cctx.appliedParams.toCCtxParams
      (cctx.pledgedSrcSizePlusOne - 1) 0).map ({ cctx with stage := .ongoing }, ·)
  else .ok (cctx, [])

/-- `ZSTD_compressContinue_internal`, in frame mode. -/
def BlockCompressor.compressContinueInternal (c : BlockCompressor S) (cctx : CCtx S)
    (dstCapacity : Nat) (src : List UInt8) (lastFrameChunk : Bool) :
    Except UInt64 (CCtx S × List UInt8) :=
  if cctx.stage = .created then .error (0 - 60)
  else
    match cctx.startFrame dstCapacity with
    | .error e => .error e
    | .ok (cctx, header) =>
      if src = [] then .ok (cctx, header)
      else
        match c.compressFrameChunk cctx (dstCapacity - header.length) src lastFrameChunk with
        | .error e => .error e
        | .ok (cctx, blocks) =>
          let cctx : CCtx S :=
            { cctx with
              consumedSrcSize := cctx.consumedSrcSize + UInt64.ofNat src.length
              producedCSize := cctx.producedCSize + UInt64.ofNat (blocks.length + header.length) }
          if cctx.pledgedSrcSizePlusOne ≠ 0 ∧
              cctx.pledgedSrcSizePlusOne < cctx.consumedSrcSize + 1 then .error (0 - 72)
          else .ok (cctx, header ++ blocks)

/-- The blocks of a frame end with an empty one, unless the last one has been marked. -/
def CCtx.endBlocks (cctx : CCtx S) (dstCapacity : Nat) : Except UInt64 (List UInt8) :=
  if cctx.stage ≠ .ending then
    if dstCapacity < 3 then .error (0 - 70) else .ok (writeBlockHeader true .raw 0)
  else .ok []

/-- The checksum, if there is one. -/
def CCtx.writeChecksum (cctx : CCtx S) (dstCapacity : Nat) : Except UInt64 (List UInt8) :=
  if cctx.appliedParams.checksumFlag then
    if dstCapacity < 4 then .error (0 - 70)
    else .ok (encode 4 (xxh64Digest cctx.xxhState).toNat)
  else .ok []

/-- `ZSTD_writeEpilogue`. -/
def CCtx.writeEpilogue (cctx : CCtx S) (dstCapacity : Nat) : Except UInt64 (CCtx S × List UInt8) :=
  if cctx.stage = .created then .error (0 - 60)
  else
    match (if cctx.stage = .init then
        writeFrameHeader dstCapacity cctx.appliedParams.toCCtxParams 0 0 else .ok []) with
    | .error e => .error e
    | .ok header =>
      match cctx.endBlocks (dstCapacity - header.length) with
      | .error e => .error e
      | .ok block =>
        match cctx.writeChecksum (dstCapacity - header.length - block.length) with
        | .error e => .error e
        | .ok checksum => .ok ({ cctx with stage := .created }, header ++ (block ++ checksum))

/-- `ZSTD_compressEnd_public`. -/
def BlockCompressor.compressEnd (c : BlockCompressor S) (cctx : CCtx S) (dstCapacity : Nat)
    (src : List UInt8) : Except UInt64 (CCtx S × List UInt8) :=
  match c.compressContinueInternal cctx dstCapacity src true with
  | .error e => .error e
  | .ok (cctx, blocks) =>
    match cctx.writeEpilogue (dstCapacity - blocks.length) with
    | .error e => .error e
    | .ok (cctx, ending) =>
      if cctx.pledgedSrcSizePlusOne ≠ 0 ∧
          cctx.pledgedSrcSizePlusOne ≠ cctx.consumedSrcSize + 1 then .error (0 - 72)
      else .ok (cctx, blocks ++ ending)

/-- The calls of `ZSTD_compressContinue_public`, each with its room and its part of the content. -/
def BlockCompressor.compressChunks (c : BlockCompressor S) (cctx : CCtx S) :
    List (Nat × List UInt8) → Except UInt64 (CCtx S × List UInt8)
  | [] => .ok (cctx, [])
  | (dstCapacity, src) :: chunks =>
    match c.compressContinueInternal cctx dstCapacity src false with
    | .error e => .error e
    | .ok (cctx, bytes) => (c.compressChunks cctx chunks).map fun r => (r.1, bytes ++ r.2)

/-- `ZSTD_compress2`, and `ZSTD_compress` with the parameters of a level: one call with all of the
content. The parameters depend on its size, which is pledged. -/
def BlockCompressor.compress2 (c : BlockCompressor S) (params : UInt64 → AppliedParams)
    (dstCapacity : Nat) (src : List UInt8) : Except UInt64 (List UInt8) :=
  let pledgedSrcSize := UInt64.ofNat src.length
  (c.compressEnd (c.resetCCtx (params pledgedSrcSize) pledgedSrcSize) dstCapacity src).map Prod.snd

/-- The compressor where no block is worth compressing, as is the case for less than 7 bytes. -/
def noCompress : BlockCompressor Unit where
  compressBegin _ := ()
  splitBlock _ _ := 131072
  buildSeqStore _ _ _ := .ok ((), false)
  entropyCompressSeqStore _ _ _ _ := .ok ((), [])
  endBlock _ _ := ()
  compressBlockInParts _ _ _ _ _ _ := .error (0 - 1)
  le_splitBlock _ _ := by decide
  splitBlock_le _ _ := Nat.le_refl _
  entropyCompress_fits := by
    rintro _ _ _ _ _ bytes h
    obtain ⟨-, rfl⟩ := Prod.mk.inj (Except.ok.inj h)
    exact Nat.zero_le _
  inParts_fits := by
    rintro _ _ _ _ _ _ _ _ h
    cases h

/-- The parameters of level 3, with a checksum. -/
def level3 : AppliedParams where
  toCCtxParams := .level3
  chainLog := 16
  hashLog := 17
  searchLog := 1
  minMatch := 5
  targetLength := 0
  strategy := 2
  maxBlockSize := 131072
  preBlockSplitterLevel := 0
  inParts := false
  le_maxBlockSize := by decide
  maxBlockSize_le := Nat.le_refl _

/-! ### What the calls for one frame keep -/

/-- The content `x` of a frame has been taken so far. -/
structure CCtx.InFrame (cctx : CCtx S) (p : AppliedParams) (pledgedSrcSize : UInt64)
    (x : List UInt8) : Prop where
  stage : cctx.stage ≠ .created
  appliedParams : cctx.appliedParams = p.applied pledgedSrcSize
  pledged : cctx.pledgedSrcSizePlusOne = pledgedSrcSize + 1
  consumed : cctx.consumedSrcSize = .ofNat x.length
  blockSizeMax : cctx.blockSizeMax =
    min p.maxBlockSize (max 1 (min (2 ^ p.windowLog) pledgedSrcSize.toNat))

section InFrame

variable {c : BlockCompressor S} {p : AppliedParams} {pledgedSrcSize : UInt64}
  {cctx cctx' : CCtx S} {dstCapacity : Nat} {x src bytes header : List UInt8}
  {lastFrameChunk : Bool}

lemma map_eq_ok {ε α β : Type*} {f : α → β} {r : Except ε α} {b : β} :
    r.map f = .ok b ↔ ∃ a, r = .ok a ∧ f a = b := by
  cases r <;> simp [Except.map]

lemma inFrame_resetCCtx (c : BlockCompressor S) (p : AppliedParams) (pledgedSrcSize : UInt64) :
    (c.resetCCtx p pledgedSrcSize).InFrame p pledgedSrcSize [] where
  stage := by simp [BlockCompressor.resetCCtx]
  appliedParams := rfl
  pledged := rfl
  consumed := rfl
  blockSizeMax := rfl

namespace CCtx.InFrame

lemma blockSizeMax_pos (h : cctx.InFrame p pledgedSrcSize x) : 0 < cctx.blockSizeMax := by
  have hmax := p.le_maxBlockSize
  rw [h.blockSizeMax]
  omega

lemma blockSizeMax_le (h : cctx.InFrame p pledgedSrcSize x) :
    cctx.blockSizeMax ≤ p.maxBlockSize := by
  rw [h.blockSizeMax]
  exact Nat.min_le_left _ _

lemma blockSizeMax_le_window (h : cctx.InFrame p pledgedSrcSize x) :
    cctx.blockSizeMax ≤ 2 ^ p.windowLog := by
  have hpos : 0 < 2 ^ p.windowLog := Nat.two_pow_pos _
  rw [h.blockSizeMax]
  omega

end CCtx.InFrame

/-- The header comes first. -/
lemma startFrame_eq_ok (h : cctx.startFrame dstCapacity = .ok (cctx', header)) :
    if cctx.stage = .init then
      cctx' = { cctx with stage := .ongoing } ∧
        header = cctx.appliedParams.header (cctx.pledgedSrcSizePlusOne - 1) 0
    else cctx' = cctx ∧ header = [] := by
  rw [CCtx.startFrame] at h
  split at h
  next hinit =>
    obtain ⟨written, hwritten, heq⟩ := map_eq_ok.mp h
    obtain ⟨rfl, rfl⟩ := Prod.mk.inj heq
    rw [if_pos hinit]
    rw [writeFrameHeader] at hwritten
    split at hwritten
    next => cases hwritten
    next => exact ⟨rfl, (Except.ok.inj hwritten).symm⟩
  next hinit =>
    obtain ⟨rfl, rfl⟩ := Prod.mk.inj (Except.ok.inj h)
    rw [if_neg hinit]
    exact ⟨rfl, rfl⟩

/-- A chunk has been compressed when the loop on its blocks has ended. -/
lemma compressFrameChunk_eq_ok
    (h : c.compressFrameChunk cctx dstCapacity src lastFrameChunk = .ok (cctx', bytes)) :
    ∃ s rest, readAll (0 - 1) 1
          (c.compressNextBlock cctx.appliedParams cctx.blockSizeMax lastFrameChunk) src.length
          { blockState := cctx.blockState
            isFirstBlock := cctx.isFirstBlock
            dstCapacity := dstCapacity
            savings := (cctx.consumedSrcSize.toNat : Int) - cctx.producedCSize.toNat
            out := [] } src = .ok (s, rest) ∧
        bytes = s.out ∧
        cctx' = { cctx with
          xxhState :=
            if cctx.appliedParams.checksumFlag ∧ src ≠ [] then xxh64Update cctx.xxhState src
            else cctx.xxhState
          blockState := s.blockState
          isFirstBlock := s.isFirstBlock
          stage := if lastFrameChunk ∧ s.out ≠ [] then .ending else cctx.stage } := by
  rw [BlockCompressor.compressFrameChunk] at h
  split at h
  next => cases h
  next s rest hloop =>
    obtain ⟨rfl, rfl⟩ := Prod.mk.inj (Except.ok.inj h)
    exact ⟨s, rest, hloop, rfl, rfl⟩

/-- A call with a part of the content: the header if it is the first, and the blocks. -/
lemma compressContinueInternal_eq_ok (hstage : cctx.stage ≠ .created)
    (h : c.compressContinueInternal cctx dstCapacity src lastFrameChunk = .ok (cctx', bytes)) :
    ∃ cctx₁ header, cctx.startFrame dstCapacity = .ok (cctx₁, header) ∧
      ((src = [] ∧ cctx' = cctx₁ ∧ bytes = header) ∨
      (src ≠ [] ∧ ∃ cctx₂ blocks,
        c.compressFrameChunk cctx₁ (dstCapacity - header.length) src lastFrameChunk =
          .ok (cctx₂, blocks) ∧
        cctx' = { cctx₂ with
          consumedSrcSize := cctx₂.consumedSrcSize + UInt64.ofNat src.length
          producedCSize := cctx₂.producedCSize + UInt64.ofNat (blocks.length + header.length) } ∧
        bytes = header ++ blocks ∧
        ¬(cctx'.pledgedSrcSizePlusOne ≠ 0 ∧
          cctx'.pledgedSrcSizePlusOne < cctx'.consumedSrcSize + 1))) := by
  rw [BlockCompressor.compressContinueInternal, if_neg hstage] at h
  split at h
  next => cases h
  next cctx₁ header hstart =>
    refine ⟨cctx₁, header, hstart, ?_⟩
    split at h
    next hnil =>
      obtain ⟨rfl, rfl⟩ := Prod.mk.inj (Except.ok.inj h)
      exact .inl ⟨hnil, rfl, rfl⟩
    next hne =>
      split at h
      next => cases h
      next cctx₂ blocks hchunk =>
        dsimp only at h
        split at h
        next => cases h
        next hpledged =>
          obtain ⟨rfl, rfl⟩ := Prod.mk.inj (Except.ok.inj h)
          exact .inr ⟨hne, cctx₂, blocks, hchunk, rfl, rfl, hpledged⟩

namespace CCtx.InFrame

lemma startFrame (hf : cctx.InFrame p pledgedSrcSize x)
    (h : cctx.startFrame dstCapacity = .ok (cctx', header)) :
    cctx'.InFrame p pledgedSrcSize x ∧ cctx'.stage ≠ .init ∧
      (cctx.stage ≠ .ending → cctx'.stage ≠ .ending) := by
  have hstart := startFrame_eq_ok h
  split at hstart
  next =>
    obtain ⟨rfl, -⟩ := hstart
    exact ⟨⟨by simp, hf.appliedParams, hf.pledged, hf.consumed, hf.blockSizeMax⟩, by simp, by simp⟩
  next hinit =>
    obtain ⟨rfl, -⟩ := hstart
    exact ⟨hf, hinit, id⟩

lemma compressContinueInternal (hf : cctx.InFrame p pledgedSrcSize x)
    (hstage : cctx.stage ≠ .ending)
    (h : c.compressContinueInternal cctx dstCapacity src lastFrameChunk = .ok (cctx', bytes)) :
    cctx'.InFrame p pledgedSrcSize (x ++ src) ∧ cctx'.stage ≠ .init ∧
      (lastFrameChunk = false → cctx'.stage ≠ .ending) := by
  obtain ⟨cctx₁, header, hstart, hsrc⟩ := compressContinueInternal_eq_ok hf.stage h
  obtain ⟨hf₁, hinit, hending⟩ := hf.startFrame hstart
  specialize hending hstage
  rcases hsrc with ⟨rfl, rfl, -⟩ | ⟨-, cctx₂, blocks, hchunk, rfl, -, -⟩
  · rw [List.append_nil]
    exact ⟨hf₁, hinit, fun _ => hending⟩
  · obtain ⟨s, rest, -, -, rfl⟩ := compressFrameChunk_eq_ok hchunk
    refine ⟨⟨?_, hf₁.appliedParams, hf₁.pledged, ?_, hf₁.blockSizeMax⟩, ?_, ?_⟩
    · dsimp only
      split
      next => simp
      next => exact hf₁.stage
    · dsimp only
      rw [hf₁.consumed, List.length_append, UInt64.ofNat_add]
    · dsimp only
      split
      next => simp
      next => exact hinit
    · rintro rfl
      simpa using hending

/-- The run lemma. -/
lemma compressChunks {chunks : List (Nat × List UInt8)} (hf : cctx.InFrame p pledgedSrcSize x)
    (hstage : cctx.stage ≠ .ending) (h : c.compressChunks cctx chunks = .ok (cctx', bytes)) :
    cctx'.InFrame p pledgedSrcSize (x ++ (chunks.map Prod.snd).flatten) ∧
      cctx'.stage ≠ .ending := by
  induction chunks generalizing cctx x bytes with
  | nil =>
    obtain ⟨rfl, rfl⟩ := Prod.mk.inj (Except.ok.inj h)
    rw [List.map_nil, List.flatten_nil, List.append_nil]
    exact ⟨hf, hstage⟩
  | cons chunk chunks ih =>
    rw [BlockCompressor.compressChunks] at h
    split at h
    next => cases h
    next cctx₁ written hcontinue =>
      obtain ⟨⟨cctx₂, later⟩, hlater, heq⟩ := map_eq_ok.mp h
      obtain ⟨rfl, rfl⟩ := Prod.mk.inj heq
      obtain ⟨hf₁, -, hending⟩ := hf.compressContinueInternal hstage hcontinue
      rw [List.map_cons, List.flatten_cons, ← List.append_assoc]
      exact ih hf₁ (hending rfl) hlater

end CCtx.InFrame

/-- The last call: the blocks of what is left, the end of the frame, and the size that was
pledged. -/
lemma compressEnd_eq_ok (h : c.compressEnd cctx dstCapacity src = .ok (cctx', bytes)) :
    ∃ cctx₁ blocks ending, c.compressContinueInternal cctx dstCapacity src true =
        .ok (cctx₁, blocks) ∧
      cctx₁.writeEpilogue (dstCapacity - blocks.length) = .ok (cctx', ending) ∧
      bytes = blocks ++ ending ∧
      (cctx'.pledgedSrcSizePlusOne ≠ 0 → cctx'.pledgedSrcSizePlusOne =
        cctx'.consumedSrcSize + 1) := by
  rw [BlockCompressor.compressEnd] at h
  split at h
  next => cases h
  next cctx₁ blocks hcontinue =>
    split at h
    next => cases h
    next cctx₂ ending hepilogue =>
      split at h
      next => cases h
      next hpledged =>
        obtain ⟨rfl, rfl⟩ := Prod.mk.inj (Except.ok.inj h)
        exact ⟨cctx₁, blocks, ending, hcontinue, hepilogue, rfl,
          fun hne => of_not_not fun hneq => hpledged ⟨hne, hneq⟩⟩

/-- The three parts of what ends a frame that has been started. -/
lemma writeEpilogue_eq_ok (hcreated : cctx.stage ≠ .created) (hinit : cctx.stage ≠ .init)
    (h : cctx.writeEpilogue dstCapacity = .ok (cctx', bytes)) :
    cctx' = { cctx with stage := .created } ∧
      bytes = (if cctx.stage = .ending then [] else writeBlockHeader true .raw 0) ++
        (if cctx.appliedParams.checksumFlag then encode 4 (xxh64Digest cctx.xxhState).toNat
          else []) := by
  rw [CCtx.writeEpilogue, if_neg hcreated, if_neg hinit] at h
  dsimp only at h
  split at h
  next => cases h
  next block hblock =>
    split at h
    next => cases h
    next checksum hchecksum =>
      obtain ⟨rfl, rfl⟩ := Prod.mk.inj (Except.ok.inj h)
      have hblock' : block = if cctx.stage = .ending then [] else writeBlockHeader true .raw 0 := by
        rw [CCtx.endBlocks] at hblock
        by_cases hending : cctx.stage = .ending
        · rw [if_neg (not_not.mpr hending)] at hblock
          rw [if_pos hending]
          exact (Except.ok.inj hblock).symm
        · rw [if_pos hending] at hblock
          rw [if_neg hending]
          split at hblock
          next => cases hblock
          next => exact (Except.ok.inj hblock).symm
      have hchecksum' : checksum = if cctx.appliedParams.checksumFlag then
          encode 4 (xxh64Digest cctx.xxhState).toNat else [] := by
        rw [CCtx.writeChecksum] at hchecksum
        split at hchecksum
        next hflag =>
          rw [if_pos hflag]
          split at hchecksum
          next => cases hchecksum
          next => exact (Except.ok.inj hchecksum).symm
        next hflag =>
          rw [if_neg hflag]
          exact (Except.ok.inj hchecksum).symm
      rw [hblock', hchecksum']
      exact ⟨rfl, rfl⟩

end InFrame

/-! ### How much of a chunk goes into a block -/

variable (c : BlockCompressor S) (p : AppliedParams) (blockSizeMax : Nat) (savings : Int)
  (src : List UInt8)

/-- No more than there is, nor than is allowed; and all of it, or 8 KB at least. -/
lemma BlockCompressor.optimalBlockSize_spec :
    min 8192 (min blockSizeMax src.length) ≤ c.optimalBlockSize p blockSizeMax savings src ∧
      c.optimalBlockSize p blockSizeMax savings src ≤ min blockSizeMax src.length := by
  have hsplit := fun level => c.le_splitBlock src level
  have hsplit' := fun level => c.splitBlock_le src level
  rw [BlockCompressor.optimalBlockSize]
  split
  next => omega
  next hlong =>
    split
    next => omega
    next =>
      split
      next => omega
      next =>
        split
        next =>
          specialize hsplit (splitLevels.getD p.strategy 0)
          specialize hsplit' (splitLevels.getD p.strategy 0)
          omega
        next =>
          specialize hsplit (p.preBlockSplitterLevel - 2)
          specialize hsplit' (p.preBlockSplitterLevel - 2)
          omega

/-- Without savings, no block is split. -/
lemma BlockCompressor.optimalBlockSize_of_savings (hmax : blockSizeMax ≤ 131072)
    (h : savings < 3) :
    c.optimalBlockSize p blockSizeMax savings src = min blockSizeMax src.length := by
  rw [BlockCompressor.optimalBlockSize]
  split
  next => exact Nat.min_comm _ _
  next => omega

/-! ### Nothing is written behind the destination -/

section Within

variable {c : BlockCompressor S} {p : AppliedParams} {cctx cctx' : CCtx S} {dstCapacity : Nat}
  {src bytes : List UInt8} {last : Bool}

lemma length_compressBlock_le {s s' : S} {isFirstBlock : Bool} (hcap : 6 ≤ dstCapacity)
    (h : c.compressBlock p s isFirstBlock dstCapacity src last = .ok (s', bytes)) :
    bytes.length ≤ dstCapacity := by
  have hheader : blockHeaderLength = 3 := rfl
  have hinternal : ∀ ⦃s' bytes⦄,
      c.compressBlockInternal p s isFirstBlock (dstCapacity - blockHeaderLength) src =
        .ok (s', bytes) → bytes.length ≤ dstCapacity - blockHeaderLength := by
    intro s' bytes h
    rw [BlockCompressor.compressBlockInternal] at h
    split at h
    next => cases h
    next =>
      obtain ⟨-, rfl⟩ := Prod.mk.inj (Except.ok.inj h)
      exact Nat.zero_le _
    next =>
      split at h
      next => cases h
      next hentropy =>
        obtain ⟨-, rfl⟩ := Prod.mk.inj (Except.ok.inj h)
        split
        next =>
          rw [List.length_singleton]
          omega
        next => exact c.entropyCompress_fits hentropy
  rw [BlockCompressor.compressBlock] at h
  split at h
  next => exact c.inParts_fits h
  next =>
    split at h
    next => cases h
    next =>
      rw [noCompressBlock] at h
      split at h
      next => cases h
      next =>
        obtain ⟨-, rfl⟩ := Prod.mk.inj (Except.ok.inj h)
        rw [List.length_append, length_writeBlockHeader]
        omega
    next b hb =>
      obtain ⟨-, rfl⟩ := Prod.mk.inj (Except.ok.inj h)
      rw [List.length_append, length_writeBlockHeader, List.length_singleton]
      omega
    next hb =>
      have hle := hinternal hb
      obtain ⟨-, rfl⟩ := Prod.mk.inj (Except.ok.inj h)
      rw [List.length_append, length_writeBlockHeader]
      omega

lemma length_compressFrameChunk_le_dstCapacity
    (h : c.compressFrameChunk cctx dstCapacity src last = .ok (cctx', bytes)) :
    bytes.length ≤ dstCapacity := by
  obtain ⟨t, rest, hloop, rfl, -⟩ := compressFrameChunk_eq_ok h
  have hstep : ∀ ⦃t : ChunkState S⦄ ⦃src t' rest⦄, t.out.length + t.dstCapacity = dstCapacity →
      1 ≤ src.length →
      c.compressNextBlock cctx.appliedParams cctx.blockSizeMax last t src = .ok (t', rest) →
      t'.out.length + t'.dstCapacity = dstCapacity := by
    intro t src t' rest ht _ h
    rw [BlockCompressor.compressNextBlock] at h
    split at h
    next => cases h
    next hroom =>
      split at h
      next => cases h
      next hblock =>
        have hle := length_compressBlock_le (Nat.not_lt.mp hroom) hblock
        obtain ⟨rfl, -⟩ := Prod.mk.inj (Except.ok.inj h)
        dsimp only
        rw [List.length_append]
        omega
  have hend := (readAll_keeps
    (P := fun (t : ChunkState S) _ => t.out.length + t.dstCapacity = dstCapacity) hstep
    (Nat.zero_add _) hloop).1
  omega

lemma length_writeFrameHeader_le {p : CCtxParams} {pledgedSrcSize : UInt64} {dictID : UInt32}
    (h : writeFrameHeader dstCapacity p pledgedSrcSize dictID = .ok bytes) :
    bytes.length ≤ dstCapacity := by
  rw [writeFrameHeader] at h
  split at h
  next => cases h
  next hcap =>
    obtain rfl : p.header pledgedSrcSize dictID = bytes := Except.ok.inj h
    exact CCtxParams.length_header_le.trans (Nat.not_lt.mp hcap)

lemma length_compressContinueInternal_le
    (h : c.compressContinueInternal cctx dstCapacity src last = .ok (cctx', bytes)) :
    bytes.length ≤ dstCapacity := by
  by_cases hstage : cctx.stage = .created
  · rw [BlockCompressor.compressContinueInternal, if_pos hstage] at h
    cases h
  · obtain ⟨cctx₁, header, hstart, hsrc⟩ := compressContinueInternal_eq_ok hstage h
    have hheader : header.length ≤ dstCapacity := by
      rw [CCtx.startFrame] at hstart
      split at hstart
      next =>
        obtain ⟨written, hwritten, heq⟩ := map_eq_ok.mp hstart
        obtain ⟨-, rfl⟩ := Prod.mk.inj heq
        exact length_writeFrameHeader_le hwritten
      next =>
        obtain ⟨-, rfl⟩ := Prod.mk.inj (Except.ok.inj hstart)
        exact Nat.zero_le _
    rcases hsrc with ⟨-, -, rfl⟩ | ⟨-, cctx₂, blocks, hchunk, -, rfl, -⟩
    · exact hheader
    · have hle := length_compressFrameChunk_le_dstCapacity hchunk
      rw [List.length_append]
      omega

lemma length_writeEpilogue_le (h : cctx.writeEpilogue dstCapacity = .ok (cctx', bytes)) :
    bytes.length ≤ dstCapacity := by
  rw [CCtx.writeEpilogue] at h
  split at h
  next => cases h
  next =>
    split at h
    next => cases h
    next header hheader =>
      have hheader : header.length ≤ dstCapacity := by
        split at hheader
        next => exact length_writeFrameHeader_le hheader
        next => exact Except.ok.inj hheader ▸ Nat.zero_le _
      split at h
      next => cases h
      next block hblock =>
        have hblock : block.length ≤ dstCapacity - header.length := by
          rw [CCtx.endBlocks] at hblock
          split at hblock
          next =>
            split at hblock
            next => cases hblock
            next hcap =>
              obtain rfl := Except.ok.inj hblock
              rw [length_writeBlockHeader]
              exact Nat.not_lt.mp hcap
          next => exact Except.ok.inj hblock ▸ Nat.zero_le _
        split at h
        next => cases h
        next checksum hchecksum =>
          have hchecksum : checksum.length ≤ dstCapacity - header.length - block.length := by
            rw [CCtx.writeChecksum] at hchecksum
            split at hchecksum
            next =>
              split at hchecksum
              next => cases hchecksum
              next hcap =>
                obtain rfl := Except.ok.inj hchecksum
                rw [length_encode]
                exact Nat.not_lt.mp hcap
            next => exact Except.ok.inj hchecksum ▸ Nat.zero_le _
          obtain ⟨-, rfl⟩ := Prod.mk.inj (Except.ok.inj h)
          rw [List.length_append, List.length_append]
          omega

lemma length_compressEnd_le (h : c.compressEnd cctx dstCapacity src = .ok (cctx', bytes)) :
    bytes.length ≤ dstCapacity := by
  obtain ⟨cctx₁, blocks, ending, hcontinue, hepilogue, rfl, -⟩ := compressEnd_eq_ok h
  have hle := length_compressContinueInternal_le hcontinue
  have hle' := length_writeEpilogue_le hepilogue
  rw [List.length_append]
  omega

/-! ### The size of blocks does not change -/

lemma blockSizeMax_compressContinueInternal
    (h : c.compressContinueInternal cctx dstCapacity src last = .ok (cctx', bytes)) :
    cctx'.blockSizeMax = cctx.blockSizeMax := by
  by_cases hstage : cctx.stage = .created
  · rw [BlockCompressor.compressContinueInternal, if_pos hstage] at h
    cases h
  · obtain ⟨cctx₁, header, hstart, hsrc⟩ := compressContinueInternal_eq_ok hstage h
    have hsame : cctx₁.blockSizeMax = cctx.blockSizeMax := by
      have hcases := startFrame_eq_ok hstart
      split at hcases <;> rw [hcases.1]
    rcases hsrc with ⟨-, rfl, -⟩ | ⟨-, cctx₂, blocks, hchunk, rfl, -, -⟩
    · exact hsame
    · obtain ⟨_, _, -, -, rfl⟩ := compressFrameChunk_eq_ok hchunk
      exact hsame

lemma blockSizeMax_compressEnd
    (h : c.compressEnd cctx dstCapacity src = .ok (cctx', bytes)) :
    cctx'.blockSizeMax = cctx.blockSizeMax := by
  obtain ⟨cctx₁, blocks, ending, hcontinue, hepilogue, -, -⟩ := compressEnd_eq_ok h
  rw [← blockSizeMax_compressContinueInternal hcontinue]
  rw [CCtx.writeEpilogue] at hepilogue
  split at hepilogue
  next => cases hepilogue
  next =>
    split at hepilogue
    next => cases hepilogue
    next =>
      split at hepilogue
      next => cases hepilogue
      next =>
        split at hepilogue
        next => cases hepilogue
        next =>
          obtain ⟨rfl, -⟩ := Prod.mk.inj (Except.ok.inj hepilogue)
          rfl

end Within

end VZstd
