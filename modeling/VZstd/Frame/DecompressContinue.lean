import VZstd.Frame.RoundTrip
import VZstd.Lib.Memory

/-!
# Decoding piece by piece

`ZSTD_decompressContinue`, which is given exactly the bytes that it asks for: the header of a block,
a block, the checksum. What has been decoded of the frame stands in one buffer, which may have been
restarted: then the end of the old part is still there, behind the new part.
-/

namespace VZstd

open LittleEndian Memory

/-- `ZSTD_dStage`. -/
inductive DStage where
  | getFrameHeaderSize
  | decodeFrameHeader
  | decodeBlockHeader
  | decompressBlock
  | decompressLastBlock
  | checkChecksum
  | decodeSkippableHeader
  | skipFrame
  deriving DecidableEq, Repr

/-- The part of `ZSTD_DCtx` that a frame is decoded with. Pointers to what has been decoded are
offsets in a buffer, and `dictLength` is `prefixStart - virtualStart`. -/
structure DFrame (E : Type) extends DCtx where
  stage : DStage
  expected : Nat
  headerBuffer : List UInt8
  headerSize : Nat
  fParams : FrameHeader
  bType : BlockType
  rleSize : Nat
  validateChecksum : Bool
  decodedSize : UInt64
  entropy : E
  xxhState : XXH64State
  dictEnd : Nat
  dictLength : Nat
  prefixStart : Nat
  previousDstEnd : Option Nat

variable {E : Type}

/-- `ZSTD_decompressBegin`. -/
def BlockDecoder.decompressBeginFrame (d : BlockDecoder E) (zds : DFrame E) : DFrame E :=
  { zds with
    expected := startingInputLength zds.format
    stage := .getFrameHeaderSize
    decodedSize := 0
    previousDstEnd := none
    prefixStart := 0
    dictEnd := 0
    dictLength := 0
    bType := .reserved
    entropy := d.decompressBegin }

/-- `ZSTD_nextSrcSizeToDecompressWithInputSize`: a part of a raw block is enough. -/
def DFrame.nextSrcSizeToDecompressWithInputSize (zds : DFrame E) (inputSize : Nat) : Nat :=
  if ¬(zds.stage = .decompressBlock ∨ zds.stage = .decompressLastBlock) then zds.expected
  else if zds.bType ≠ .raw then zds.expected
  else max 1 (min inputSize zds.expected)

/-- `ZSTD_checkContinuity`. -/
def DFrame.checkContinuity (zds : DFrame E) (dst dstSize : Nat) : DFrame E :=
  if some dst ≠ zds.previousDstEnd ∧ 0 < dstSize then
    { zds with
      dictEnd := zds.previousDstEnd.getD 0
      dictLength := zds.previousDstEnd.getD 0 - zds.prefixStart
      prefixStart := dst
      previousDstEnd := some dst }
  else zds

/-- What a block at `dst` may refer to. -/
def DFrame.history (zds : DFrame E) (buffer : Nat → UInt8) (dst : Nat) : List UInt8 :=
  slice buffer (zds.dictEnd - zds.dictLength) zds.dictLength ++
    slice buffer zds.prefixStart (dst - zds.prefixStart)

/-- `ZSTD_decodeFrameHeader`. -/
def DFrame.readFrameHeader (zds : DFrame E) (src : List UInt8) : Except UInt64 (DFrame E) :=
  match zds.toDCtx.decodeFrameHeader src with
  | .error e => .error e
  | .ok fParams =>
    .ok { zds with
      fParams := fParams
      validateChecksum := zds.toDCtx.validateChecksum fParams
      xxhState := if zds.toDCtx.validateChecksum fParams then xxh64Reset 0 else zds.xxhState }

/-- The end of the last block. -/
def DFrame.endBlocks (zds : DFrame E) : DFrame E :=
  if zds.fParams.checksumFlag ≠ 0 then { zds with expected := 4, stage := .checkChecksum }
  else { zds with expected := 0, stage := .getFrameHeaderSize }

/-- The state where the header of a block comes next. -/
def DFrame.nextBlock (zds : DFrame E) : DFrame E :=
  { zds with expected := blockHeaderLength, stage := .decodeBlockHeader }

/-- `ZSTDds_getFrameHeaderSize`. -/
def DFrame.getFrameHeaderSize (zds : DFrame E) (src : List UInt8) : Except UInt64 (DFrame E) :=
  if zds.format = .zstd1 ∧ isSkippable (readLE src 0 4) then
    .ok { zds with
      headerBuffer := src
      expected := skippableHeaderSize - src.length
      stage := .decodeSkippableHeader }
  else
    let headerSize := frameHeaderSizeInternal src zds.format
    if isError headerSize then .error headerSize
    else
      .ok { zds with
        headerSize := headerSize.toNat
        headerBuffer := src
        expected := headerSize.toNat - src.length
        stage := .decodeFrameHeader }

/-- `ZSTDds_decodeBlockHeader`. -/
def DFrame.decodeBlockHeader (zds : DFrame E) (src : List UInt8) : Except UInt64 (DFrame E) :=
  match getcBlockSize (src.take blockHeaderLength) with
  | .error e => .error e
  | .ok (cBlockSize, bp) =>
    if zds.fParams.blockSizeMax.toNat < cBlockSize then .error (0 - 20)
    else
      let zds : DFrame E :=
        { zds with expected := cBlockSize, bType := bp.blockType, rleSize := bp.origSize }
      if cBlockSize ≠ 0 then
        .ok { zds with stage := if bp.lastBlock then .decompressLastBlock else .decompressBlock }
      else if bp.lastBlock then .ok zds.endBlocks
      else .ok zds.nextBlock

/-- `ZSTDds_decompressBlock` and `ZSTDds_decompressLastBlock`. -/
def BlockDecoder.decompressBlockStage (d : BlockDecoder E) (zds : DFrame E)
    (buffer : Nat → UInt8) (dst dstCapacity : Nat) (src : List UInt8) :
    Except UInt64 (DFrame E × List UInt8) :=
  let bp : BlockProperties :=
    { blockType := zds.bType
      lastBlock := decide (zds.stage = .decompressLastBlock)
      origSize := zds.rleSize }
  match d.decodeBlock zds.entropy (zds.history buffer dst) zds.fParams.blockSizeMax.toNat
      dstCapacity bp src with
  | .error e => .error e
  | .ok (entropy, x) =>
    if zds.fParams.blockSizeMax.toNat < x.length then .error (0 - 20)
    else
      let zds : DFrame E :=
        { zds with
          entropy := entropy
          expected := if zds.bType = .raw then zds.expected - x.length else 0
          decodedSize := zds.decodedSize + .ofNat x.length
          xxhState := updateIf zds.validateChecksum zds.xxhState x
          previousDstEnd := some (dst + x.length) }
      if 0 < zds.expected then .ok (zds, x)
      else if zds.stage = .decompressLastBlock then
        if zds.fParams.frameContentSize ≠ contentSizeUnknown ∧
            zds.decodedSize ≠ zds.fParams.frameContentSize then .error (0 - 20)
        else .ok (zds.endBlocks, x)
      else .ok (zds.nextBlock, x)

/-- `ZSTDds_checkChecksum`. -/
def DFrame.verifyChecksum (zds : DFrame E) (src : List UInt8) : Except UInt64 (DFrame E) :=
  if zds.validateChecksum ∧ readLE src 0 4 ≠ (xxh64Digest zds.xxhState).toNat % 2 ^ 32 then
    .error (0 - 22)
  else .ok { zds with expected := 0, stage := .getFrameHeaderSize }

/-- What `ZSTD_decompressContinue` does at each stage: the state, and what it has written to
`dst`. -/
def BlockDecoder.decompressStage (d : BlockDecoder E) (zds : DFrame E) (buffer : Nat → UInt8)
    (dst dstCapacity : Nat) (src : List UInt8) : Except UInt64 (DFrame E × List UInt8) :=
  match zds.stage with
  | .getFrameHeaderSize => (zds.getFrameHeaderSize src).map (·, [])
  | .decodeFrameHeader =>
    let headerBuffer := zds.headerBuffer ++ src
    let zds : DFrame E := { zds with headerBuffer := headerBuffer }
    match zds.readFrameHeader (headerBuffer.take zds.headerSize) with
    | .error e => .error e
    | .ok zds => .ok (zds.nextBlock, [])
  | .decodeBlockHeader => (zds.decodeBlockHeader src).map (·, [])
  | .decompressBlock | .decompressLastBlock =>
    d.decompressBlockStage zds buffer dst dstCapacity src
  | .checkChecksum => (zds.verifyChecksum src).map (·, [])
  | .decodeSkippableHeader =>
    let headerBuffer := zds.headerBuffer ++ src
    .ok ({ zds with
      headerBuffer := headerBuffer
      expected := readLE headerBuffer frameIdSize 4
      stage := .skipFrame }, [])
  | .skipFrame => .ok ({ zds with expected := 0, stage := .getFrameHeaderSize }, [])

/-- `ZSTD_decompressContinue`. -/
def BlockDecoder.decompressContinue (d : BlockDecoder E) (zds : DFrame E) (buffer : Nat → UInt8)
    (dst dstCapacity : Nat) (src : List UInt8) : Except UInt64 (DFrame E × List UInt8) :=
  if src.length ≠ zds.nextSrcSizeToDecompressWithInputSize src.length then .error (0 - 72)
  else
    d.decompressStage (zds.checkContinuity dst dstCapacity) buffer dst dstCapacity src

/-! ### What is left of a frame -/

/-- What ends a frame with the content `x`, behind its last block. -/
def IsTrailer (fParams : FrameHeader) (validate : Bool) (x trailer : List UInt8) : Prop :=
  if fParams.checksumFlag ≠ 0 then
    trailer.length = 4 ∧ (validate = true → decode trailer = (xxh64 x 0).toNat % 2 ^ 32)
  else trailer = []

/-- `bytes` are the rest of a frame, where `x` has been decoded, and `y` is the rest of its content.
The flag says whether the last block has been decoded. -/
structure BlockDecoder.AreRest (d : BlockDecoder E) (fParams : FrameHeader) (validate last : Bool)
    (x : List UInt8) (entropy : E) (bytes y : List UInt8) : Prop where
  parts : ∃ blocks trailer, bytes = blocks ++ trailer ∧
    IsTrailer fParams validate (x ++ y) trailer ∧
    if last then blocks = [] ∧ y = []
    else ∃ entropy', d.AreBlocks fParams.windowSize.toNat fParams.blockSizeMax.toNat x entropy
      blocks y entropy' true
  content : fParams.frameContentSize ≠ contentSizeUnknown →
    (x ++ y).length = fParams.frameContentSize.toNat

/-- A block in the body `bytes` decodes to `y` behind `x`. -/
def BlockDecoder.DecodesBody (d : BlockDecoder E) (zds : DFrame E) (last : Bool)
    (x bytes y : List UInt8) (entropy : E) : Prop :=
  ∀ ⦃h blockSizeMax dstCapacity⦄, x.rtake zds.fParams.windowSize.toNat <:+ h →
    zds.fParams.blockSizeMax.toNat ≤ blockSizeMax → y.length ≤ dstCapacity →
      d.decodeBlock zds.entropy h blockSizeMax dstCapacity
        { blockType := zds.bType, lastBlock := last, origSize := zds.rleSize } bytes =
          .ok (entropy, y)

/-- Where `x` has been decoded of a frame, `bytes` are what is left of it, with the content `y`. -/
inductive BlockDecoder.Ahead (d : BlockDecoder E) (zds : DFrame E) (x : List UInt8) :
    (bytes y : List UInt8) → Prop
  | header {bytes y : List UInt8} (hstage : zds.stage = .decodeBlockHeader)
      (hexpected : zds.expected = blockHeaderLength)
      (h : d.AreRest zds.fParams zds.validateChecksum false x zds.entropy bytes y) :
      Ahead d zds x bytes y
  | block {body bytes y y' : List UInt8} {entropy : E} (last : Bool)
      (hstage : zds.stage = if last then .decompressLastBlock else .decompressBlock)
      (hexpected : zds.expected = body.length) (hne : body ≠ [])
      (hbody : body.length ≤ zds.fParams.blockSizeMax.toNat)
      (hle : y.length ≤ zds.fParams.blockSizeMax.toNat)
      (hdecodes : d.DecodesBody zds last x body y entropy)
      (h : d.AreRest zds.fParams zds.validateChecksum last (x ++ y) entropy bytes y') :
      Ahead d zds x (body ++ bytes) (y ++ y')
  | checksum {bytes : List UInt8} (hstage : zds.stage = .checkChecksum)
      (hexpected : zds.expected = 4) (hflag : zds.fParams.checksumFlag ≠ 0)
      (h : IsTrailer zds.fParams zds.validateChecksum x bytes) : Ahead d zds x bytes []
  | ended (hstage : zds.stage = .getFrameHeaderSize) (hexpected : zds.expected = 0) :
      Ahead d zds x [] []

/-- What has been counted of the content `x`. -/
structure DFrame.Counts (zds : DFrame E) (x : List UInt8) : Prop where
  hashed : zds.validateChecksum = true → zds.xxhState.Hashed 0 x
  decodedSize : zds.decodedSize = .ofNat x.length

variable {d : BlockDecoder E} {zds zds' : DFrame E} {fParams : FrameHeader} {validate last : Bool}
  {x y z src bytes rest : List UInt8} {entropy entropy' : E} {buffer : Nat → UInt8}
  {dst dstCapacity w k : Nat}

/-- The first one of the blocks. -/
lemma BlockDecoder.AreBlocks.uncons (h : d.AreBlocks w k x entropy bytes y entropy' true) :
    ∃ header body z entropy₁ bp bytes' y', bytes = header ++ (body ++ bytes') ∧ y = z ++ y' ∧
      d.IsBlockFor w k x entropy header body z entropy₁ bp ∧
      if bp.lastBlock then bytes' = [] ∧ y' = []
      else ∃ entropy'', d.AreBlocks w k (x ++ z) entropy₁ bytes' y' entropy'' true := by
  generalize hlast : true = last at h
  cases h with
  | nil => cases hlast
  | block h =>
    refine ⟨_, _, y, _, _, [], [], ?_, (List.append_nil _).symm, h, ?_⟩
    · rw [List.append_nil]
    · rw [if_pos rfl]
      exact ⟨rfl, rfl⟩
  | cons h hnot h' =>
    subst hlast
    refine ⟨_, _, _, _, _, _, _, List.append_assoc _ _ _, rfl, h, ?_⟩
    rw [if_neg (by rw [hnot]; exact Bool.false_ne_true)]
    exact ⟨_, h'⟩

lemma BlockDecoder.AreRest.uncons (h : d.AreRest fParams validate false x entropy bytes y) :
    ∃ header body z entropy' bp rest y', bytes = header ++ (body ++ rest) ∧ y = z ++ y' ∧
      d.IsBlockFor fParams.windowSize.toNat fParams.blockSizeMax.toNat x entropy header body z
        entropy' bp ∧
      d.AreRest fParams validate bp.lastBlock (x ++ z) entropy' rest y' := by
  obtain ⟨blocks, trailer, rfl, htrailer, hblocks⟩ := h.parts
  rw [if_neg Bool.false_ne_true] at hblocks
  obtain ⟨entropy'', hblocks⟩ := hblocks
  obtain ⟨header, body, z, entropy', bp, bytes', y', rfl, rfl, hblock, hrest⟩ := hblocks.uncons
  refine ⟨header, body, z, entropy', bp, bytes' ++ trailer, y', ?_, rfl, hblock, ?_, ?_⟩
  · rw [List.append_assoc, List.append_assoc]
  · rw [List.append_assoc]
    exact ⟨bytes', trailer, rfl, htrailer, hrest⟩
  · rw [List.append_assoc]
    exact h.content

/-- A block without a body is a raw one, and empty. -/
lemma BlockDecoder.IsBlockFor.eq_nil {header : List UInt8} {bp : BlockProperties}
    (h : d.IsBlockFor w k x entropy header [] z entropy' bp) : z = [] ∧ entropy' = entropy := by
  obtain ⟨hsize, -⟩ := getcBlockSize_eq h.size
  have hdecodes := h.decodes (rtake_suffix x w) (Nat.le_refl k) (Nat.le_refl z.length)
  rw [BlockDecoder.decodeBlock] at hdecodes
  split at hdecodes
  next =>
    have hshort : ([] : List UInt8).length < minCBlockSize := by decide
    rw [BlockDecoder.decompressBlockInternal, if_pos hshort] at hdecodes
    split at hdecodes <;> cases hdecodes
  next =>
    rw [copyRawBlock, if_neg (by simp)] at hdecodes
    obtain ⟨rfl, rfl⟩ := Prod.mk.inj (Except.ok.inj hdecodes)
    exact ⟨rfl, rfl⟩
  next hrle => simp [hrle] at hsize
  next => cases hdecodes

variable (zds) in
/-- Behind the last block there may be a checksum. -/
lemma BlockDecoder.AreRest.endBlocks
    (h : d.AreRest zds.fParams zds.validateChecksum true x entropy bytes y) :
    y = [] ∧ d.Ahead zds.endBlocks x bytes [] := by
  obtain ⟨blocks, trailer, rfl, htrailer, hnil⟩ := h.parts
  rw [if_pos rfl] at hnil
  obtain ⟨rfl, rfl⟩ := hnil
  rw [List.append_nil] at htrailer
  refine ⟨rfl, ?_⟩
  rw [DFrame.endBlocks]
  split
  next hflag => exact .checksum rfl rfl hflag htrailer
  next hflag =>
    rw [IsTrailer, if_neg hflag] at htrailer
    subst htrailer
    exact .ended rfl rfl

/-! ### Steps -/

/-- What a step that decodes `z` behind `x` does to the rest of the state. -/
structure DFrame.Continues (zds zds' : DFrame E) (dst : Nat) (x z : List UInt8) : Prop where
  toDCtx : zds'.toDCtx = zds.toDCtx
  fParams : zds'.fParams = zds.fParams
  dictEnd : zds'.dictEnd = zds.dictEnd
  dictLength : zds'.dictLength = zds.dictLength
  prefixStart : zds'.prefixStart = zds.prefixStart
  previousDstEnd : zds'.previousDstEnd = some (dst + z.length) ∨
    z = [] ∧ zds'.previousDstEnd = zds.previousDstEnd
  counts : zds'.Counts (x ++ z)

/-- Only the stage has changed. -/
lemma DFrame.Counts.continues (hz : zds.Counts x) (dst : Nat) (stage : DStage)
    (expected rleSize : Nat) (bType : BlockType) :
    zds.Continues { zds with
      stage := stage, expected := expected, rleSize := rleSize, bType := bType } dst x [] :=
  ⟨rfl, rfl, rfl, rfl, rfl, .inr ⟨rfl, rfl⟩, (List.append_nil x).symm ▸ ⟨hz.hashed, hz.decodedSize⟩⟩

lemma DFrame.Continues.endBlocks (h : zds.Continues zds' dst x z) :
    zds.Continues zds'.endBlocks dst x z := by
  rw [DFrame.endBlocks]
  split <;> exact ⟨h.toDCtx, h.fParams, h.dictEnd, h.dictLength, h.prefixStart, h.previousDstEnd,
    ⟨h.counts.hashed, h.counts.decodedSize⟩⟩

lemma DFrame.Continues.nextBlock (h : zds.Continues zds' dst x z) :
    zds.Continues zds'.nextBlock dst x z :=
  ⟨h.toDCtx, h.fParams, h.dictEnd, h.dictLength, h.prefixStart, h.previousDstEnd,
    ⟨h.counts.hashed, h.counts.decodedSize⟩⟩

/-- The header of a block. -/
lemma BlockDecoder.AreRest.decodeBlockHeader
    (h : d.AreRest zds.fParams zds.validateChecksum false x zds.entropy (src ++ rest) y)
    (hsrc : src.length = blockHeaderLength) (hz : zds.Counts x) (dst : Nat) :
    ∃ zds', zds.decodeBlockHeader src = .ok zds' ∧ d.Ahead zds' x rest y ∧
      zds.Continues zds' dst x [] := by
  obtain ⟨header, body, z, entropy, bp, rest', y', hbytes, rfl, hblock, hrest⟩ := h.uncons
  obtain ⟨rfl, rfl⟩ := List.append_inj hbytes (hsrc.trans hblock.length_header.symm)
  have htake : src.take blockHeaderLength = src := List.take_of_length_le hsrc.le
  rw [DFrame.decodeBlockHeader, htake, hblock.size]
  dsimp only
  rw [if_neg (Nat.not_lt.mpr hblock.length_body)]
  by_cases hnil : body = []
  · subst hnil
    obtain ⟨rfl, rfl⟩ := hblock.eq_nil
    rw [List.append_nil] at hrest
    rw [if_neg (by simp), List.nil_append, List.nil_append]
    cases hlast : bp.lastBlock with
    | true =>
      rw [hlast] at hrest
      obtain ⟨rfl, hahead⟩ := hrest.endBlocks { zds with
        expected := 0, bType := bp.blockType, rleSize := bp.origSize }
      exact ⟨_, rfl, hahead, (hz.continues dst _ _ _ _).endBlocks⟩
    | false =>
      rw [hlast] at hrest
      exact ⟨_, rfl, .header rfl rfl hrest, (hz.continues dst _ _ _ _).nextBlock⟩
  · have hne : body.length ≠ 0 := fun hzero => hnil (List.eq_nil_of_length_eq_zero hzero)
    rw [if_pos hne]
    refine ⟨_, rfl, .block bp.lastBlock rfl rfl hnil hblock.length_body hblock.length_content ?_
      hrest, hz.continues dst _ _ _ _⟩
    exact fun _ _ _ hh hk hcap => hblock.decodes hh hk hcap

lemma BlockDecoder.DecodesBody.raw {body : List UInt8}
    (h : d.DecodesBody zds last x body y entropy) (hraw : zds.bType = .raw) :
    y = body ∧ entropy = zds.entropy := by
  have hdecodes := h (rtake_suffix x _) (Nat.le_refl _) (Nat.le_add_right y.length body.length)
  rw [BlockDecoder.decodeBlock, hraw] at hdecodes
  dsimp only at hdecodes
  rw [copyRawBlock, if_neg (by omega)] at hdecodes
  obtain ⟨rfl, rfl⟩ := Prod.mk.inj (Except.ok.inj hdecodes)
  exact ⟨rfl, rfl⟩

lemma decodesBody_raw (hraw : zds.bType = .raw) (last : Bool) (x y : List UInt8) :
    d.DecodesBody zds last x y y zds.entropy := by
  intro h blockSizeMax dstCapacity _ _ hcap
  rw [BlockDecoder.decodeBlock, hraw]
  dsimp only
  rw [copyRawBlock, if_neg (Nat.not_lt.mpr hcap)]
  rfl

/-- The state behind the content `y` of a block. -/
lemma DFrame.Counts.decoded (hz : zds.Counts x) (dst expected : Nat) (entropy : E)
    (y : List UInt8) :
    zds.Continues { zds with
      entropy := entropy
      expected := expected
      decodedSize := zds.decodedSize + .ofNat y.length
      xxhState := updateIf zds.validateChecksum zds.xxhState y
      previousDstEnd := some (dst + y.length) } dst x y := by
  refine ⟨rfl, rfl, rfl, rfl, rfl, .inl rfl, ⟨fun hvalidate => ?_, ?_⟩⟩
  · dsimp only at hvalidate ⊢
    rw [updateIf, if_pos hvalidate]
    exact (hz.hashed hvalidate).update y
  · dsimp only
    rw [hz.decodedSize, List.length_append, UInt64.ofNat_add]

/-- All of the body of a block. -/
lemma BlockDecoder.AreRest.decompressBody
    (h : d.AreRest zds.fParams zds.validateChecksum last (x ++ y) entropy rest z)
    (hstage : zds.stage = if last then .decompressLastBlock else .decompressBlock)
    (hexpected : zds.expected = src.length) (hle : y.length ≤ zds.fParams.blockSizeMax.toNat)
    (hdecodes : d.DecodesBody zds last x src y entropy)
    (hhistory : x.rtake zds.fParams.windowSize.toNat <:+ zds.history buffer dst)
    (hroom : y.length ≤ dstCapacity) (hz : zds.Counts x) :
    ∃ zds', d.decompressBlockStage zds buffer dst dstCapacity src = .ok (zds', y) ∧
      d.Ahead zds' (x ++ y) rest z ∧ zds.Continues zds' dst x y := by
  have hlast : decide (zds.stage = .decompressLastBlock) = last := by
    rw [hstage]
    cases last <;> rfl
  have hexpected' : (if zds.bType = .raw then zds.expected - y.length else 0) = 0 := by
    split
    next hraw =>
      obtain ⟨rfl, -⟩ := hdecodes.raw hraw
      rw [hexpected, Nat.sub_self]
    next => rfl
  have hcontinues := hz.decoded dst 0 entropy y
  rw [BlockDecoder.decompressBlockStage, hlast]
  dsimp only
  rw [hdecodes hhistory (Nat.le_refl _) hroom]
  dsimp only
  rw [hexpected', if_neg (Nat.not_lt.mpr hle), if_neg (Nat.lt_irrefl 0), hstage]
  cases last with
  | true =>
    obtain ⟨rfl, hahead⟩ := h.endBlocks { zds with
      entropy := entropy
      expected := 0
      decodedSize := zds.decodedSize + .ofNat y.length
      xxhState := updateIf zds.validateChecksum zds.xxhState y
      previousDstEnd := some (dst + y.length) }
    have hcontent : ¬(zds.fParams.frameContentSize ≠ contentSizeUnknown ∧
        zds.decodedSize + .ofNat y.length ≠ zds.fParams.frameContentSize) := by
      rintro ⟨hknown, hne⟩
      refine hne ?_
      rw [hz.decodedSize, ← UInt64.ofNat_add, ← List.length_append, ← List.append_nil (x ++ y),
        h.content hknown, UInt64.ofNat_toNat]
    rw [if_pos (if_pos rfl), if_neg hcontent]
    exact ⟨_, rfl, hahead, hcontinues.endBlocks⟩
  | false =>
    rw [if_neg (by simp)]
    exact ⟨_, rfl, .header rfl rfl h, hcontinues.nextBlock⟩

/-- A part of the body of a raw block. -/
lemma BlockDecoder.AreRest.decompressPart {body : List UInt8}
    (h : d.AreRest zds.fParams zds.validateChecksum last (x ++ (src ++ body)) zds.entropy rest z)
    (hstage : zds.stage = if last then .decompressLastBlock else .decompressBlock)
    (hexpected : zds.expected = (src ++ body).length) (hraw : zds.bType = .raw)
    (hne : body ≠ []) (hle : (src ++ body).length ≤ zds.fParams.blockSizeMax.toNat)
    (hhistory : x.rtake zds.fParams.windowSize.toNat <:+ zds.history buffer dst)
    (hroom : src.length ≤ dstCapacity) (hz : zds.Counts x) :
    ∃ zds', d.decompressBlockStage zds buffer dst dstCapacity src = .ok (zds', src) ∧
      d.Ahead zds' (x ++ src) (body ++ rest) (body ++ z) ∧ zds.Continues zds' dst x src := by
  have hpos := List.length_pos_iff.mpr hne
  rw [List.length_append] at hexpected hle
  have hleft : zds.expected - src.length = body.length := by omega
  have hcontinues := hz.decoded dst body.length zds.entropy src
  rw [BlockDecoder.decompressBlockStage]
  dsimp only
  rw [decodesBody_raw hraw _ x src hhistory (Nat.le_refl _) hroom]
  dsimp only
  rw [if_neg (by omega), if_pos hraw, hleft, if_pos hpos]
  have hbody : body.length ≤ zds.fParams.blockSizeMax.toNat := by omega
  rw [← List.append_assoc] at h
  exact ⟨_, rfl, .block last hstage rfl hne hbody hbody (decodesBody_raw hraw last _ _) h,
    hcontinues⟩

/-- A step of a block: all of its body, or a part of it. -/
lemma BlockDecoder.AreRest.decompressBlock {body y' : List UInt8}
    (h : d.AreRest zds.fParams zds.validateChecksum last (x ++ y) entropy bytes y')
    (hstage : zds.stage = if last then .decompressLastBlock else .decompressBlock)
    (hexpected : zds.expected = body.length) (hne : body ≠ [])
    (hle : y.length ≤ zds.fParams.blockSizeMax.toNat)
    (hdecodes : d.DecodesBody zds last x body y entropy)
    (hsrc : body ++ bytes = src ++ rest)
    (hlen : src.length = zds.nextSrcSizeToDecompressWithInputSize src.length)
    (hhistory : x.rtake zds.fParams.windowSize.toNat <:+ zds.history buffer dst)
    (hroom : min zds.fParams.blockSizeMax.toNat (y ++ y').length ≤ dstCapacity)
    (hz : zds.Counts x) :
    ∃ zds' z w, d.decompressBlockStage zds buffer dst dstCapacity src = .ok (zds', z) ∧
      y ++ y' = z ++ w ∧ d.Ahead zds' (x ++ z) rest w ∧ zds.Continues zds' dst x z ∧
      z.length ≤ zds.fParams.blockSizeMax.toNat := by
  have hblock : zds.stage = .decompressBlock ∨ zds.stage = .decompressLastBlock := by
    rw [hstage]
    cases last <;> simp
  have hpos := List.length_pos_iff.mpr hne
  rw [List.length_append] at hroom
  rw [DFrame.nextSrcSizeToDecompressWithInputSize, if_neg (not_not.mpr hblock), hexpected] at hlen
  by_cases hpart : zds.bType = .raw ∧ src.length < body.length
  · obtain ⟨hraw, hlt⟩ := hpart
    obtain ⟨rfl, rfl⟩ := hdecodes.raw hraw
    obtain ⟨body, rfl⟩ := List.prefix_of_prefix_length_le ⟨rest, hsrc.symm⟩
      (List.prefix_append y bytes) hlt.le
    rw [List.append_assoc] at hsrc
    obtain rfl := List.append_cancel_left hsrc
    rw [List.length_append] at hlt hroom
    have hrest : body ≠ [] := fun hnil => by simp [hnil] at hlt
    have hsrcroom : src.length ≤ dstCapacity := by
      rw [List.length_append] at hle
      omega
    obtain ⟨zds', hstep, hahead, hcontinues⟩ := h.decompressPart hstage hexpected hraw
      hrest hle hhistory hsrcroom hz
    refine ⟨zds', src, body ++ y', hstep, List.append_assoc _ _ _, hahead, hcontinues, ?_⟩
    rw [List.length_append] at hle
    omega
  · have hall : src.length = body.length := by
      split at hlen
      next => exact hlen
      next hraw =>
        have hge : body.length ≤ src.length :=
          Nat.not_lt.mp fun hlt => hpart ⟨of_not_not hraw, hlt⟩
        omega
    obtain ⟨rfl, rfl⟩ := List.append_inj hsrc hall.symm
    have hyroom : y.length ≤ dstCapacity := by omega
    obtain ⟨zds', hstep, hahead, hcontinues⟩ := h.decompressBody hstage hexpected hle hdecodes
      hhistory hyroom hz
    exact ⟨zds', y, y', hstep, rfl, hahead, hcontinues, hle⟩

/-- The checksum. -/
lemma verifyChecksum_of_isTrailer (hflag : zds.fParams.checksumFlag ≠ 0)
    (h : IsTrailer zds.fParams zds.validateChecksum x src) (hz : zds.Counts x)
    (hlen : x.length < 2 ^ 64) (dst : Nat) :
    ∃ zds', zds.verifyChecksum src = .ok zds' ∧ d.Ahead zds' x [] [] ∧
      zds.Continues zds' dst x [] := by
  rw [IsTrailer, if_pos hflag] at h
  obtain ⟨hsize, hsum⟩ := h
  have hread : readLE src 0 4 = decode src := by
    rw [readLE, List.drop_zero, List.take_of_length_le hsize.le]
  rw [DFrame.verifyChecksum, if_neg]
  · exact ⟨_, rfl, .ended rfl rfl, hz.continues dst _ _ _ _⟩
  · rintro ⟨hvalidate, hne⟩
    rw [hread, hsum hvalidate, (hz.hashed hvalidate).digest hlen] at hne
    exact hne rfl

/-- The step at each stage. -/
lemma BlockDecoder.Ahead.decompressStage (h : d.Ahead zds x (src ++ rest) y)
    (hne : src ≠ [])
    (hlen : src.length = zds.nextSrcSizeToDecompressWithInputSize src.length)
    (hhistory : x.rtake zds.fParams.windowSize.toNat <:+ zds.history buffer dst)
    (hroom : min zds.fParams.blockSizeMax.toNat y.length ≤ dstCapacity)
    (hz : zds.Counts x) (hsize : x.length < 2 ^ 64) :
    ∃ zds' z w, d.decompressStage zds buffer dst dstCapacity src = .ok (zds', z) ∧
      y = z ++ w ∧ d.Ahead zds' (x ++ z) rest w ∧ zds.Continues zds' dst x z ∧
      z.length ≤ zds.fParams.blockSizeMax.toNat := by
  have hexpected : zds.stage ≠ .decompressBlock → zds.stage ≠ .decompressLastBlock →
      src.length = zds.expected := by
    intro hblock hlast
    rw [hlen, DFrame.nextSrcSizeToDecompressWithInputSize, if_pos (by simp [hblock, hlast])]
  generalize hbytes : src ++ rest = bytes at h
  rw [BlockDecoder.decompressStage]
  cases h with
  | header hstage hsrc h =>
    subst hbytes
    obtain ⟨zds', hstep, hahead, hcontinues⟩ := h.decodeBlockHeader
      ((hexpected (by simp [hstage]) (by simp [hstage])).trans hsrc) hz dst
    rw [hstage, hstep]
    refine ⟨zds', [], y, rfl, rfl, ?_, hcontinues, Nat.zero_le _⟩
    rw [List.append_nil]
    exact hahead
  | block last hstage hsrc hbody _ hle hdecodes h =>
    have hstep := h.decompressBlock hstage hsrc hbody hle hdecodes hbytes.symm hlen hhistory
      hroom hz
    cases last <;> rw [hstage] <;> exact hstep
  | checksum hstage hsrc hflag h =>
    have hfour := (hexpected (by simp [hstage]) (by simp [hstage])).trans hsrc
    have hall := h
    rw [IsTrailer, if_pos hflag, ← hbytes, List.length_append] at hall
    obtain rfl : rest = [] := List.eq_nil_of_length_eq_zero (by omega)
    rw [List.append_nil] at hbytes
    subst hbytes
    obtain ⟨zds', hstep, hahead, hcontinues⟩ := verifyChecksum_of_isTrailer (d := d) hflag h hz
      hsize dst
    rw [hstage, hstep]
    refine ⟨zds', [], [], rfl, rfl, ?_, hcontinues, Nat.zero_le _⟩
    rw [List.append_nil]
    exact hahead
  | ended => exact absurd (List.append_eq_nil_iff.mp hbytes).1 hne

lemma BlockDecoder.Ahead.checkContinuity (h : d.Ahead zds x bytes y) (dst dstSize : Nat) :
    d.Ahead (zds.checkContinuity dst dstSize) x bytes y := by
  rw [DFrame.checkContinuity]
  split
  next =>
    cases h with
    | header hstage hexpected h => exact .header hstage hexpected h
    | block last hstage hexpected hne hbody hle hdecodes h =>
      exact .block last hstage hexpected hne hbody hle hdecodes h
    | checksum hstage hexpected hflag h => exact .checksum hstage hexpected hflag h
    | ended hstage hexpected => exact .ended hstage hexpected
  next => exact h

/-- What `ZSTD_checkContinuity` leaves as it was. -/
lemma checkContinuity_spec (zds : DFrame E) (dst dstSize : Nat) :
    (zds.checkContinuity dst dstSize).stage = zds.stage ∧
      (zds.checkContinuity dst dstSize).toDCtx = zds.toDCtx ∧
      (zds.checkContinuity dst dstSize).fParams = zds.fParams ∧
      (zds.checkContinuity dst dstSize).nextSrcSizeToDecompressWithInputSize =
        zds.nextSrcSizeToDecompressWithInputSize ∧
      (zds.Counts x → (zds.checkContinuity dst dstSize).Counts x) := by
  rw [DFrame.checkContinuity]
  split
  next => exact ⟨rfl, rfl, rfl, rfl, fun hz => ⟨hz.hashed, hz.decodedSize⟩⟩
  next => exact ⟨rfl, rfl, rfl, rfl, id⟩

/-- The step lemma: when `ZSTD_decompressContinue` is given what it asks for, it decodes it and
goes on with the frame. -/
lemma BlockDecoder.Ahead.decompressContinue (h : d.Ahead zds x (src ++ rest) y)
    (hne : src ≠ [])
    (hlen : src.length = zds.nextSrcSizeToDecompressWithInputSize src.length)
    (hhistory : x.rtake zds.fParams.windowSize.toNat <:+
      (zds.checkContinuity dst dstCapacity).history buffer dst)
    (hroom : min zds.fParams.blockSizeMax.toNat y.length ≤ dstCapacity)
    (hz : zds.Counts x) (hsize : x.length < 2 ^ 64) :
    ∃ zds' z w, d.decompressContinue zds buffer dst dstCapacity src = .ok (zds', z) ∧
      y = z ++ w ∧ d.Ahead zds' (x ++ z) rest w ∧
      (zds.checkContinuity dst dstCapacity).Continues zds' dst x z ∧
      z.length ≤ zds.fParams.blockSizeMax.toNat := by
  obtain ⟨-, -, hparams, hnext, hcounts⟩ := checkContinuity_spec (x := x) zds dst dstCapacity
  rw [BlockDecoder.decompressContinue, if_neg (not_not.mpr hlen), ← hparams]
  rw [← hnext] at hlen
  rw [← hparams] at hhistory hroom
  exact (h.checkContinuity dst dstCapacity).decompressStage hne hlen hhistory hroom (hcounts hz)
    hsize

end VZstd
