import VZstd.Frame.Blocks
import VZstd.Lib.Reader
import VZstd.Xxh64

/-!
# Decoding frames

`ZSTD_decompressFrame` and the loop around it, `ZSTD_decompressMultiFrame`, as
`ZSTD_decompressDCtx` runs them when no dictionary is loaded. Source and destination do not overlap.
-/

namespace VZstd

open LittleEndian Reader

/-- The parameters in `ZSTD_DCtx`. -/
structure DCtx where
  format : Format
  forceIgnoreChecksum : Bool
  maxBlockSizeParam : Nat
  deriving DecidableEq, Repr

/-- The parameters of a new context. -/
def DCtx.default : DCtx where
  format := .zstd1
  forceIgnoreChecksum := false
  maxBlockSizeParam := 0

/-- `ZSTD_FRAMEHEADERSIZE_MIN`. -/
def frameHeaderSizeMin : Format → Nat
  | .zstd1 => 6
  | .magicless => 2

/-- `validateChecksum`. -/
def DCtx.validateChecksum (dctx : DCtx) (fParams : FrameHeader) : Bool :=
  decide (fParams.checksumFlag ≠ 0) && !dctx.forceIgnoreChecksum

/-- `ZSTD_decodeFrameHeader`, for a context without a dictionary. -/
def DCtx.decodeFrameHeader (dctx : DCtx) (src : List UInt8) : Except UInt64 FrameHeader :=
  match getFrameHeaderAdvanced src dctx.format with
  | .error result => .error (if isError result then result else 0 - 72)
  | .ok fParams => if fParams.dictID ≠ 0 then .error (0 - 32) else .ok fParams

/-- The size of a block, limited by the parameter if it is set. -/
def DCtx.blockSizeMax (dctx : DCtx) (fParams : FrameHeader) : Nat :=
  if dctx.maxBlockSizeParam ≠ 0 then min fParams.blockSizeMax.toNat dctx.maxBlockSizeParam
  else fParams.blockSizeMax.toNat

/-- What blocks pass on, and what has been written of the frame. -/
structure DecodeState (E : Type) where
  entropy : E
  xxhState : XXH64State
  out : List UInt8

/-- `XXH64_update`, where the checksum is validated. -/
def updateIf (validate : Bool) (state : XXH64State) (x : List UInt8) : XXH64State :=
  if validate then xxh64Update state x else state

variable {E : Type}

/-- The state behind a block with the content `x`. -/
def DecodeState.next (s : DecodeState E) (validate : Bool) (entropy : E) (x : List UInt8) :
    DecodeState E where
  entropy := entropy
  xxhState := updateIf validate s.xxhState x
  out := s.out ++ x

/-- The state at the first block. -/
def BlockDecoder.start (d : BlockDecoder E) : DecodeState E where
  entropy := d.decompressBegin
  xxhState := xxh64Reset 0
  out := []

/-- One turn of the loop on blocks. The flag says whether the block was the last one. -/
def BlockDecoder.readBlock (d : BlockDecoder E) (validate : Bool) (blockSizeMax dstCapacity : Nat)
    (s : DecodeState E) (src : List UInt8) :
    Except UInt64 ((DecodeState E × Bool) × List UInt8) :=
  match getcBlockSize src with
  | .error e => .error e
  | .ok (cBlockSize, bp) =>
    let ip := src.drop blockHeaderLength
    if ip.length < cBlockSize then .error (0 - 72)
    else
      match d.decodeBlock s.entropy s.out blockSizeMax (dstCapacity - s.out.length) bp
          (ip.take cBlockSize) with
      | .error e => .error e
      | .ok (entropy, x) => .ok ((s.next validate entropy x, bp.lastBlock), ip.drop cBlockSize)

/-- The end of a frame: its content has the size that the header declares, and the checksum. -/
def DCtx.checkFrame (dctx : DCtx) (fParams : FrameHeader) (s : DecodeState E) (src : List UInt8) :
    Except UInt64 (List UInt8 × List UInt8) :=
  if fParams.frameContentSize ≠ contentSizeUnknown ∧
      s.out.length ≠ fParams.frameContentSize.toNat then .error (0 - 20)
  else if fParams.checksumFlag ≠ 0 then
    if src.length < 4 then .error (0 - 22)
    else if ¬dctx.forceIgnoreChecksum ∧
        readLE src 0 4 ≠ (xxh64Digest s.xxhState).toNat % 2 ^ 32 then .error (0 - 22)
    else .ok (s.out, src.drop 4)
  else .ok (s.out, src)

/-- `ZSTD_decompressFrame`: the content of the frame at the start, and what is behind it. -/
def BlockDecoder.decompressFrame (d : BlockDecoder E) (dctx : DCtx) (dstCapacity : Nat)
    (src : List UInt8) : Except UInt64 (List UInt8 × List UInt8) :=
  if src.length < frameHeaderSizeMin dctx.format + blockHeaderLength then .error (0 - 72)
  else
    let frameHeaderSize :=
      frameHeaderSizeInternal (src.take (startingInputLength dctx.format)) dctx.format
    if isError frameHeaderSize then .error frameHeaderSize
    else if src.length < frameHeaderSize.toNat + blockHeaderLength then .error (0 - 72)
    else
      match dctx.decodeFrameHeader (src.take frameHeaderSize.toNat) with
      | .error e => .error e
      | .ok fParams =>
        match readLoop (0 - 1) (d.readBlock (dctx.validateChecksum fParams)
            (dctx.blockSizeMax fParams) dstCapacity) (src.length + 1) d.start
            (src.drop frameHeaderSize.toNat) with
        | .error e => .error e
        | .ok (s, rest) => dctx.checkFrame fParams s rest

/-- `readSkippableFrameSize`. -/
def readSkippableFrameSize (src : List UInt8) : Except UInt64 Nat :=
  if src.length < skippableHeaderSize then .error (0 - 72)
  else
    let sizeU32 := readLE src frameIdSize 4
    if (sizeU32 + skippableHeaderSize) % 2 ^ 32 < sizeU32 then .error (0 - 14)
    else if src.length < skippableHeaderSize + sizeU32 then .error (0 - 72)
    else .ok (skippableHeaderSize + sizeU32)

/-- The variables of the loop on frames. -/
structure MultiFrame where
  moreThan1Frame : Bool
  out : List UInt8

/-- One turn of the loop on frames. -/
def BlockDecoder.readFrame (d : BlockDecoder E) (dctx : DCtx) (dstCapacity : Nat) (s : MultiFrame)
    (src : List UInt8) : Except UInt64 (MultiFrame × List UInt8) :=
  if dctx.format = .zstd1 ∧ isSkippable (readLE src 0 4) then
    match readSkippableFrameSize src with
    | .error e => .error e
    | .ok skippableSize => .ok (s, src.drop skippableSize)
  else
    match d.decompressFrame dctx (dstCapacity - s.out.length) src with
    | .error e => .error (if getErrorCode e = 10 ∧ s.moreThan1Frame then 0 - 72 else e)
    | .ok (x, rest) => .ok ({ moreThan1Frame := true, out := s.out ++ x }, rest)

/-- `ZSTD_decompressMultiFrame`. -/
def BlockDecoder.decompressMultiFrame (d : BlockDecoder E) (dctx : DCtx) (dstCapacity : Nat)
    (src : List UInt8) : Except UInt64 (List UInt8) :=
  match readAll (0 - 1) (startingInputLength dctx.format) (d.readFrame dctx dstCapacity)
      src.length { moreThan1Frame := false, out := [] } src with
  | .error e => .error e
  | .ok (s, rest) => if rest ≠ [] then .error (0 - 72) else .ok s.out

/-! ### Reading depends on nothing behind -/

variable {d : BlockDecoder E} {dctx : DCtx} {validate : Bool} {blockSizeMax dstCapacity : Nat}

/-- `bytes` are a block that decodes to `x`. -/
structure BlockDecoder.IsBlock (d : BlockDecoder E) (blockSizeMax dstCapacity : Nat)
    (s : DecodeState E) (bytes : List UInt8) (entropy : E) (x : List UInt8) (bp : BlockProperties) :
    Prop where
  header_le : blockHeaderLength ≤ bytes.length
  header : getcBlockSize (bytes.take blockHeaderLength) =
    .ok ((bytes.drop blockHeaderLength).length, bp)
  decodes : d.decodeBlock s.entropy s.out blockSizeMax (dstCapacity - s.out.length) bp
    (bytes.drop blockHeaderLength) = .ok (entropy, x)

variable {s t : DecodeState E} {src rest : List UInt8} {last : Bool}

/-- A block is read with whatever comes behind it. -/
lemma readBlock_eq_ok :
    d.readBlock validate blockSizeMax dstCapacity s src = .ok ((t, last), rest) ↔
      ∃ bytes entropy x bp, src = bytes ++ rest ∧
        d.IsBlock blockSizeMax dstCapacity s bytes entropy x bp ∧
        t = s.next validate entropy x ∧ last = bp.lastBlock := by
  constructor
  · intro h
    rw [BlockDecoder.readBlock] at h
    split at h
    next => cases h
    next cBlockSize bp hsize =>
      have hle := blockHeaderLength_le hsize
      have htake : (src.take blockHeaderLength).length = blockHeaderLength := by
        rw [List.length_take, Nat.min_eq_left hle]
      have hheader : getcBlockSize (src.take blockHeaderLength) = .ok (cBlockSize, bp) := by
        rw [← hsize, ← getcBlockSize_append htake (src.drop blockHeaderLength),
          List.take_append_drop]
      dsimp only at h
      split at h
      next => cases h
      next hlen =>
        split at h
        next => cases h
        next entropy x hdecode =>
          obtain ⟨hstate, rfl⟩ := Prod.mk.inj (Except.ok.inj h)
          obtain ⟨rfl, rfl⟩ := Prod.mk.inj hstate
          have hbody : ((src.drop blockHeaderLength).take cBlockSize).length = cBlockSize := by
            rw [List.length_take, Nat.min_eq_left (Nat.not_lt.mp hlen)]
          refine ⟨src.take blockHeaderLength ++ (src.drop blockHeaderLength).take cBlockSize,
            entropy, x, bp, ?_, ⟨?_, ?_, ?_⟩, rfl, rfl⟩
          · rw [List.append_assoc, List.take_append_drop, List.take_append_drop]
          · rw [List.length_append, htake]
            exact Nat.le_add_right _ _
          · rw [List.take_left' htake, List.drop_left' htake, hbody, hheader]
          · rw [List.drop_left' htake, hdecode]
  · rintro ⟨bytes, entropy, x, bp, rfl, hblock, rfl, rfl⟩
    have htake : (bytes.take blockHeaderLength).length = blockHeaderLength := by
      rw [List.length_take, Nat.min_eq_left hblock.header_le]
    have hsize := getcBlockSize_append htake (bytes.drop blockHeaderLength ++ rest)
    rw [← List.append_assoc, List.take_append_drop, hblock.header] at hsize
    rw [BlockDecoder.readBlock, hsize]
    dsimp only
    rw [List.drop_append_of_le_length hblock.header_le, List.take_left, List.drop_left,
      if_neg (by rw [List.length_append]; omega), hblock.decodes]

lemma exact_readBlock (s : DecodeState E) :
    Exact (d.readBlock validate blockSizeMax dstCapacity s) := by
  rintro src ⟨t, last⟩ rest h
  obtain ⟨bytes, entropy, x, bp, rfl, hblock, rfl, rfl⟩ := readBlock_eq_ok.mp h
  exact ⟨bytes, rfl, fun r => readBlock_eq_ok.mpr ⟨bytes, entropy, x, bp, rfl, hblock, rfl, rfl⟩⟩

lemma shrinks_readBlock (s : DecodeState E) :
    Shrinks (d.readBlock validate blockSizeMax dstCapacity s) := by
  rintro src ⟨t, last⟩ rest h
  obtain ⟨bytes, entropy, x, bp, rfl, hblock, rfl, rfl⟩ := readBlock_eq_ok.mp h
  have hpos : 0 < blockHeaderLength := by decide
  have hle := hblock.header_le
  rw [List.length_append]
  omega

/-- There is at least one block. -/
lemma blockHeaderLength_le_of_readLoop {stuck : UInt64} {n : Nat}
    (h : readLoop stuck (d.readBlock validate blockSizeMax dstCapacity) n s src = .ok (t, rest)) :
    blockHeaderLength ≤ src.length := by
  cases n with
  | zero => cases h
  | succ n =>
    obtain ⟨s', last, rest', hs, -⟩ := readLoop_eq_ok.mp h
    obtain ⟨bytes, entropy, x, bp, rfl, hblock, -⟩ := readBlock_eq_ok.mp hs
    rw [List.length_append]
    exact hblock.header_le.trans (Nat.le_add_right _ _)

/-- The end of a frame that passes its checks. -/
lemma checkFrame_eq_ok {fParams : FrameHeader} {x : List UInt8} :
    dctx.checkFrame fParams s src = .ok (x, rest) ↔
      x = s.out ∧
      (fParams.frameContentSize ≠ contentSizeUnknown →
        x.length = fParams.frameContentSize.toNat) ∧
      if fParams.checksumFlag ≠ 0 then
        ∃ checksum, src = checksum ++ rest ∧ checksum.length = 4 ∧
          (dctx.forceIgnoreChecksum = false →
            decode checksum = (xxh64Digest s.xxhState).toNat % 2 ^ 32)
      else src = rest := by
  rw [DCtx.checkFrame]
  by_cases hsize : fParams.frameContentSize ≠ contentSizeUnknown ∧
      s.out.length ≠ fParams.frameContentSize.toNat
  · rw [if_pos hsize]
    refine ⟨fun h => (by cases h), ?_⟩
    rintro ⟨rfl, hcontent, -⟩
    exact absurd (hcontent hsize.1) hsize.2
  · have hcontent : fParams.frameContentSize ≠ contentSizeUnknown →
        s.out.length = fParams.frameContentSize.toNat :=
      fun hknown => of_not_not fun hne => hsize ⟨hknown, hne⟩
    rw [if_neg hsize]
    by_cases hflag : fParams.checksumFlag ≠ 0
    · rw [if_pos hflag, if_pos hflag]
      by_cases hlen : src.length < 4
      · rw [if_pos hlen]
        refine ⟨fun h => (by cases h), ?_⟩
        rintro ⟨-, -, checksum, rfl, hsum, -⟩
        rw [List.length_append] at hlen
        omega
      · have htake : (src.take 4).length = 4 := by
          rw [List.length_take]
          omega
        rw [if_neg hlen]
        constructor
        · intro h
          split at h
          next => cases h
          next hsum =>
            obtain ⟨rfl, rfl⟩ := Prod.mk.inj (Except.ok.inj h)
            refine ⟨rfl, hcontent, src.take 4, (List.take_append_drop 4 src).symm, htake, ?_⟩
            intro hignore
            by_contra hne
            exact hsum ⟨by simp [hignore], hne⟩
        · rintro ⟨rfl, -, checksum, rfl, hchecksum, hsum⟩
          have hread : readLE (checksum ++ rest) 0 4 = decode checksum := by
            rw [readLE, List.drop_zero, List.take_left' hchecksum]
          have hok : ¬(¬dctx.forceIgnoreChecksum = true ∧ readLE (checksum ++ rest) 0 4 ≠
              (xxh64Digest s.xxhState).toNat % 2 ^ 32) := by
            rintro ⟨hignore, hne⟩
            exact hne (hread.trans (hsum (eq_false_of_ne_true hignore)))
          rw [if_neg hok, List.drop_left' hchecksum]
    · rw [if_neg hflag, if_neg hflag]
      constructor
      · intro h
        obtain ⟨rfl, rfl⟩ := Prod.mk.inj (Except.ok.inj h)
        exact ⟨rfl, hcontent, rfl⟩
      · rintro ⟨rfl, -, rfl⟩
        rfl

lemma exact_checkFrame (fParams : FrameHeader) (s : DecodeState E) :
    Exact (dctx.checkFrame fParams s) := by
  intro src x rest h
  obtain ⟨rfl, hcontent, hending⟩ := checkFrame_eq_ok.mp h
  by_cases hflag : fParams.checksumFlag ≠ 0
  · rw [if_pos hflag] at hending
    obtain ⟨checksum, rfl, hchecksum, hsum⟩ := hending
    refine ⟨checksum, rfl, fun r => checkFrame_eq_ok.mpr ⟨rfl, hcontent, ?_⟩⟩
    rw [if_pos hflag]
    exact ⟨checksum, rfl, hchecksum, hsum⟩
  · rw [if_neg hflag] at hending
    refine ⟨[], hending, fun r => checkFrame_eq_ok.mpr ⟨rfl, hcontent, ?_⟩⟩
    rw [if_neg hflag]
    rfl

lemma startingInputLength_le_frameHeaderSizeMin (format : Format) :
    startingInputLength format ≤ frameHeaderSizeMin format := by
  cases format <;> decide

variable {src rest : List UInt8} {format : Format} {x : List UInt8}

/-- The size of the header can be seen from its first bytes. -/
lemma frameHeaderSizeInternal_take (h : startingInputLength format ≤ src.length) :
    frameHeaderSizeInternal (src.take (startingInputLength format)) format =
      frameHeaderSizeInternal src format := by
  have hlen : (src.take (startingInputLength format)).length = startingInputLength format := by
    rw [List.length_take, Nat.min_eq_left h]
  conv_rhs => rw [← List.take_append_drop (startingInputLength format) src]
  exact (frameHeaderSizeInternal_append hlen.ge).symm

lemma toNat_frameHeaderSizeInternal_le (h : startingInputLength format ≤ src.length) :
    (frameHeaderSizeInternal src format).toNat ≤ 19 := by
  have hstart : startingInputLength format ≤ 5 := by cases format <;> decide
  have hdid := didFieldSize_le (readLE src (startingInputLength format - 1) 1 &&& 3)
  have hfcs := fcsFieldSize_le (readLE src (startingInputLength format - 1) 1 >>> 6)
  rw [toNat_frameHeaderSizeInternal h rfl]
  split <;> split <;> omega

lemma isError_frameHeaderSizeInternal (h : startingInputLength format ≤ src.length) :
    isError (frameHeaderSizeInternal src format) = false := by
  have hle := toNat_frameHeaderSizeInternal_le h
  rw [← Bool.not_eq_true, isError_iff]
  omega

/-- No header is shorter than the least one. -/
lemma frameHeaderSizeMin_le (h : startingInputLength format ≤ src.length) :
    frameHeaderSizeMin format ≤ (frameHeaderSizeInternal src format).toNat := by
  have hmin : frameHeaderSizeMin format = startingInputLength format + 1 := by
    cases format <;> rfl
  rw [toNat_frameHeaderSizeInternal h rfl, hmin]
  generalize readLE src (startingInputLength format - 1) 1 = fhd
  have hbit : (fhd >>> 5) &&& 1 = 0 ∨ (fhd >>> 5) &&& 1 = 1 := by
    rw [Nat.and_one_is_mod]
    omega
  rcases hbit with hmulti | hsingle
  · rw [if_pos hmulti]
    omega
  · by_cases hfcs : fhd >>> 6 = 0
    · have hboth : (fhd >>> 5) &&& 1 = 1 ∧ fhd >>> 6 = 0 := ⟨hsingle, hfcs⟩
      rw [if_pos hboth]
      omega
    · have hwide := two_le_fcsFieldSize hfcs
      omega

/-- `header` is the header of a frame, and no more. -/
structure DCtx.IsHeader (dctx : DCtx) (header : List UInt8) (fParams : FrameHeader) : Prop where
  start_le : startingInputLength dctx.format ≤ header.length
  size : (frameHeaderSizeInternal header dctx.format).toNat = header.length
  decodes : dctx.decodeFrameHeader header = .ok fParams

/-- The parts of a frame that has been decoded: its header, its blocks, and what ends it. -/
lemma decompressFrame_eq_ok :
    d.decompressFrame dctx dstCapacity src = .ok (x, rest) ↔
      ∃ header body fParams s tail, src = header ++ body ∧ dctx.IsHeader header fParams ∧
        readLoop (0 - 1) (d.readBlock (dctx.validateChecksum fParams)
          (dctx.blockSizeMax fParams) dstCapacity) (body.length + 1) d.start body =
            .ok (s, tail) ∧
        dctx.checkFrame fParams s tail = .ok (x, rest) := by
  constructor
  · intro h
    rw [BlockDecoder.decompressFrame] at h
    split at h
    next => cases h
    next hmin =>
      have hstart : startingInputLength dctx.format ≤ src.length :=
        (startingInputLength_le_frameHeaderSizeMin _).trans
          ((Nat.le_add_right _ _).trans (Nat.not_lt.mp hmin))
      rw [frameHeaderSizeInternal_take hstart] at h
      dsimp only at h
      rw [isError_frameHeaderSizeInternal hstart, if_neg Bool.false_ne_true] at h
      split at h
      next => cases h
      next hsize =>
        have hle : (frameHeaderSizeInternal src dctx.format).toNat ≤ src.length :=
          (Nat.le_add_right _ _).trans (Nat.not_lt.mp hsize)
        have hlen : (src.take (frameHeaderSizeInternal src dctx.format).toNat).length =
            (frameHeaderSizeInternal src dctx.format).toNat := by
          rw [List.length_take, Nat.min_eq_left hle]
        have hlong := (startingInputLength_le_frameHeaderSizeMin _).trans
          (frameHeaderSizeMin_le hstart)
        split at h
        next => cases h
        next fParams hheader =>
          split at h
          next => cases h
          next s tail hblocks =>
            refine ⟨_, _, fParams, s, tail, (List.take_append_drop _ src).symm,
              ⟨hlong.trans hlen.ge, ?_, hheader⟩, ?_, h⟩
            · rw [← frameHeaderSizeInternal_append (hlong.trans hlen.ge), List.take_append_drop,
                hlen]
            · rw [← hblocks]
              exact readLoop_congr (fun s => shrinks_readBlock s) (Nat.lt_succ_self _)
                (by rw [List.length_drop]; omega)
  · rintro ⟨header, body, fParams, s, tail, rfl, hheader, hblocks, hcheck⟩
    have hbody := blockHeaderLength_le_of_readLoop hblocks
    have hstart : startingInputLength dctx.format ≤ (header ++ body).length := by
      rw [List.length_append]
      exact hheader.start_le.trans (Nat.le_add_right _ _)
    have hmin := frameHeaderSizeMin_le hheader.start_le
    have hsize := frameHeaderSizeInternal_append (r := body) hheader.start_le
    have hfuel : (header ++ body).length + 1 = header.length + (body.length + 1) := by
      rw [List.length_append, Nat.add_assoc]
    rw [hheader.size] at hmin
    rw [BlockDecoder.decompressFrame, frameHeaderSizeInternal_take hstart]
    dsimp only
    rw [isError_frameHeaderSizeInternal hstart, if_neg Bool.false_ne_true, hsize, hheader.size,
      if_neg (by rw [List.length_append]; omega), if_neg (by rw [List.length_append]; omega),
      List.take_left, List.drop_left, hheader.decodes]
    dsimp only
    rw [readLoop_congr (m := body.length + 1) (fun s => shrinks_readBlock s) (by omega)
      (Nat.lt_succ_self _), hblocks]
    exact hcheck

lemma startingInputLength_le_of_decompressFrame
    (h : d.decompressFrame dctx dstCapacity src = .ok (x, rest)) :
    startingInputLength dctx.format ≤ src.length := by
  obtain ⟨header, body, _, _, _, rfl, hheader, -⟩ := decompressFrame_eq_ok.mp h
  rw [List.length_append]
  exact hheader.start_le.trans (Nat.le_add_right _ _)

lemma exact_decompressFrame : Exact (d.decompressFrame dctx dstCapacity) := by
  intro src x rest h
  obtain ⟨header, body, fParams, s, tail, rfl, hheader, hblocks, hcheck⟩ :=
    decompressFrame_eq_ok.mp h
  obtain ⟨used, rfl, hused⟩ := readLoop_exact (fun s => exact_readBlock s) hblocks
  obtain ⟨ending, rfl, hending⟩ := exact_checkFrame fParams s hcheck
  refine ⟨header ++ (used ++ ending), by simp, fun r => ?_⟩
  refine decompressFrame_eq_ok.mpr
    ⟨header, used ++ (ending ++ r), fParams, s, ending ++ r, by simp, hheader, ?_, hending r⟩
  rw [← hused ((used ++ (ending ++ rest)).length + 1 + (used ++ (ending ++ r)).length + 1)
    (by omega) (ending ++ r)]
  exact readLoop_congr (fun s => shrinks_readBlock s) (Nat.lt_succ_self _) (by omega)

lemma shrinks_decompressFrame : Shrinks (d.decompressFrame dctx dstCapacity) := by
  intro src x rest h
  obtain ⟨header, body, fParams, s, tail, rfl, -, hblocks, hcheck⟩ := decompressFrame_eq_ok.mp h
  obtain ⟨ending, rfl, -⟩ := exact_checkFrame fParams s hcheck
  have hlt := readLoop_shrinks (fun s => shrinks_readBlock s) hblocks
  rw [List.length_append] at hlt ⊢
  omega

lemma length_decodeBlock_le {entropy entropy' : E} {history : List UInt8} {bp : BlockProperties}
    (h : d.decodeBlock entropy history blockSizeMax dstCapacity bp src = .ok (entropy', x)) :
    x.length ≤ dstCapacity := by
  rw [BlockDecoder.decodeBlock] at h
  split at h
  next =>
    rw [BlockDecoder.decompressBlockInternal] at h
    split at h
    next => cases h
    next =>
      split at h
      next => cases h
      next => exact d.length_le h
  next =>
    rw [copyRawBlock] at h
    split at h
    next => cases h
    next hle =>
      obtain ⟨_, rfl⟩ := Prod.mk.inj (Except.ok.inj h)
      exact Nat.not_lt.mp hle
  next =>
    rw [setRleBlock] at h
    split at h
    next => cases h
    next hle =>
      obtain ⟨_, rfl⟩ := Prod.mk.inj (Except.ok.inj h)
      rw [List.length_replicate]
      exact Nat.not_lt.mp hle
  next => cases h

/-- The content of a frame fits. -/
lemma length_decompressFrame_le (h : d.decompressFrame dctx dstCapacity src = .ok (x, rest)) :
    x.length ≤ dstCapacity := by
  obtain ⟨_, _, _, s, _, _, _, hblocks, hcheck⟩ := decompressFrame_eq_ok.mp h
  obtain ⟨rfl, -⟩ := checkFrame_eq_ok.mp hcheck
  refine readLoop_keeps (P := fun s : DecodeState E => s.out.length ≤ dstCapacity) ?_
    (Nat.zero_le _) hblocks
  intro s src t last rest hs hread
  obtain ⟨_, entropy, x, bp, -, hblock, rfl, -⟩ := readBlock_eq_ok.mp hread
  have hle := length_decodeBlock_le hblock.decodes
  rw [DecodeState.next, List.length_append]
  omega

lemma readSkippableFrameSize_eq_ok {n : Nat} :
    readSkippableFrameSize src = .ok n ↔
      n = skippableHeaderSize + readLE src frameIdSize 4 ∧ n ≤ src.length ∧ n < 2 ^ 32 := by
  have hread : readLE src frameIdSize 4 < 2 ^ 32 := by
    have hlt := decode_lt ((src.drop frameIdSize).take 4)
    exact Nat.lt_of_lt_of_le hlt (Nat.pow_le_pow_right (by decide) (List.length_take_le _ _))
  have hsize : skippableHeaderSize = 8 := rfl
  rw [readSkippableFrameSize]
  by_cases hshort : src.length < skippableHeaderSize
  · rw [if_pos hshort]
    exact ⟨fun h => (by cases h), fun h => by omega⟩
  · rw [if_neg hshort]
    dsimp only
    by_cases hwrap : (readLE src frameIdSize 4 + skippableHeaderSize) % 2 ^ 32 <
        readLE src frameIdSize 4
    · rw [if_pos hwrap]
      exact ⟨fun h => (by cases h), fun h => by omega⟩
    · rw [if_neg hwrap]
      by_cases hlong : src.length < skippableHeaderSize + readLE src frameIdSize 4
      · rw [if_pos hlong]
        exact ⟨fun h => (by cases h), fun h => by omega⟩
      · rw [if_neg hlong, Except.ok.injEq]
        omega

/-- Nothing behind a skippable frame counts for its size. -/
lemma readSkippableFrameSize_append {n : Nat} (h : readSkippableFrameSize src = .ok n)
    (r : List UInt8) : readSkippableFrameSize (src.take n ++ r) = .ok n := by
  obtain ⟨hn, hle, hlt⟩ := readSkippableFrameSize_eq_ok.mp h
  have hlen : (src.take n).length = n := by rw [List.length_take, Nat.min_eq_left hle]
  have hfield : frameIdSize + 4 ≤ (src.take n).length := by
    rw [hlen, hn]
    exact Nat.le_add_right _ _
  have hsrc := readLE_append (r := src.drop n) hfield
  rw [List.take_append_drop] at hsrc
  rw [readSkippableFrameSize_eq_ok, readLE_append hfield, ← hsrc, List.length_append, hlen]
  exact ⟨hn, Nat.le_add_right _ _, hlt⟩

/-- A frame of either kind that has been read. -/
lemma readFrame_eq_ok {s t : MultiFrame} :
    d.readFrame dctx dstCapacity s src = .ok (t, rest) ↔
      if dctx.format = .zstd1 ∧ isSkippable (readLE src 0 4) then
        ∃ n, readSkippableFrameSize src = .ok n ∧ t = s ∧ rest = src.drop n
      else
        ∃ x, d.decompressFrame dctx (dstCapacity - s.out.length) src = .ok (x, rest) ∧
          t = { moreThan1Frame := true, out := s.out ++ x } := by
  rw [BlockDecoder.readFrame]
  split
  next =>
    cases hsize : readSkippableFrameSize src with
    | error e => simp
    | ok n => simp [eq_comm]
  next =>
    cases hframe : d.decompressFrame dctx (dstCapacity - s.out.length) src with
    | error e => simp
    | ok r =>
      obtain ⟨x, rest'⟩ := r
      simp only [Except.ok.injEq, Prod.mk.injEq]
      constructor
      · rintro ⟨rfl, rfl⟩
        exact ⟨x, ⟨rfl, rfl⟩, rfl⟩
      · rintro ⟨x', ⟨rfl, rfl⟩, rfl⟩
        exact ⟨rfl, rfl⟩

lemma shrinks_readFrame (s : MultiFrame) : Shrinks (d.readFrame dctx dstCapacity s) := by
  intro src t rest h
  rw [readFrame_eq_ok] at h
  split at h
  next =>
    obtain ⟨n, hn, _, rfl⟩ := h
    obtain ⟨hsize, hlen, -⟩ := readSkippableFrameSize_eq_ok.mp hn
    have hpos : 0 < skippableHeaderSize := by decide
    rw [List.length_drop]
    omega
  next =>
    obtain ⟨x, hx, _⟩ := h
    exact shrinks_decompressFrame hx

lemma exact_readFrame (s : MultiFrame) : Exact (d.readFrame dctx dstCapacity s) := by
  intro src t rest h
  rw [readFrame_eq_ok] at h
  split at h
  next hskip =>
    obtain ⟨n, hn, rfl, rfl⟩ := h
    obtain ⟨hsize, hlen, -⟩ := readSkippableFrameSize_eq_ok.mp hn
    have htake : (src.take n).length = n := by rw [List.length_take, Nat.min_eq_left hlen]
    have hid : 0 + 4 ≤ (src.take n).length := by
      rw [htake, hsize]
      exact Nat.le_trans (by decide) (Nat.le_add_right _ _)
    refine ⟨src.take n, (List.take_append_drop n src).symm, fun r => readFrame_eq_ok.mpr ?_⟩
    have hsrc := readLE_append (r := src.drop n) hid
    rw [List.take_append_drop] at hsrc
    rw [readLE_append hid, ← hsrc, if_pos hskip]
    exact ⟨n, readSkippableFrameSize_append hn r, rfl, (List.drop_left' htake).symm⟩
  next hskip =>
    obtain ⟨x, hx, rfl⟩ := h
    obtain ⟨used, rfl, hused⟩ := exact_decompressFrame hx
    refine ⟨used, rfl, fun r => readFrame_eq_ok.mpr ?_⟩
    have hskip' : ¬(dctx.format = .zstd1 ∧ isSkippable (readLE (used ++ r) 0 4)) := by
      rintro ⟨hformat, hmagic⟩
      have hlen : 0 + 4 ≤ used.length := by
        have hstart := startingInputLength_le_of_decompressFrame (hused [])
        rw [hformat, List.append_nil] at hstart
        exact Nat.le_trans (by decide) hstart
      rw [readLE_append hlen] at hmagic
      exact hskip ⟨hformat, (readLE_append hlen).symm ▸ hmagic⟩
    rw [if_neg hskip']
    exact ⟨x, hused r, rfl⟩

/-! ### Frames one behind the other -/

/-- `s` has written `x`, and then what `u` has. -/
def MultiFrame.Behind (x : List UInt8) (s u : MultiFrame) : Prop := s.out = x ++ u.out

lemma MultiFrame.Behind.room {s u : MultiFrame} (h : s.Behind x u) :
    dstCapacity - s.out.length = dstCapacity - x.length - u.out.length := by
  rw [h, List.length_append, Nat.sub_sub]

/-- With less room and less written, the same frame is read. -/
lemma MultiFrame.Behind.readFrame {s u s' : MultiFrame} (h : s.Behind x u)
    (hs : d.readFrame dctx dstCapacity s src = .ok (s', rest)) :
    ∃ u', d.readFrame dctx (dstCapacity - x.length) u src = .ok (u', rest) ∧ s'.Behind x u' := by
  rw [readFrame_eq_ok] at hs
  split at hs
  next hskip =>
    obtain ⟨n, hn, rfl, rfl⟩ := hs
    refine ⟨u, readFrame_eq_ok.mpr ?_, h⟩
    rw [if_pos hskip]
    exact ⟨n, hn, rfl, rfl⟩
  next hskip =>
    obtain ⟨y, hy, rfl⟩ := hs
    rw [h.room] at hy
    refine ⟨{ moreThan1Frame := true, out := u.out ++ y }, readFrame_eq_ok.mpr ?_, ?_⟩
    · rw [if_neg hskip]
      exact ⟨y, hy, rfl⟩
    · rw [Behind, h, List.append_assoc]

/-- And the other way round. -/
lemma MultiFrame.Behind.readFrame_back {s u u' : MultiFrame} (h : s.Behind x u)
    (hu : d.readFrame dctx (dstCapacity - x.length) u src = .ok (u', rest)) :
    ∃ s', d.readFrame dctx dstCapacity s src = .ok (s', rest) ∧ s'.Behind x u' := by
  rw [readFrame_eq_ok] at hu
  split at hu
  next hskip =>
    obtain ⟨n, hn, rfl, rfl⟩ := hu
    refine ⟨s, readFrame_eq_ok.mpr ?_, h⟩
    rw [if_pos hskip]
    exact ⟨n, hn, rfl, rfl⟩
  next hskip =>
    obtain ⟨y, hy, rfl⟩ := hu
    rw [← h.room] at hy
    refine ⟨{ moreThan1Frame := true, out := s.out ++ y }, readFrame_eq_ok.mpr ?_, ?_⟩
    · rw [if_neg hskip]
      exact ⟨y, hy, rfl⟩
    · rw [Behind, h, List.append_assoc]

lemma decompressMultiFrame_eq_ok :
    d.decompressMultiFrame dctx dstCapacity src = .ok x ↔
      ∃ s, readAll (0 - 1) (startingInputLength dctx.format) (d.readFrame dctx dstCapacity)
        src.length { moreThan1Frame := false, out := [] } src = .ok (s, []) ∧ s.out = x := by
  rw [BlockDecoder.decompressMultiFrame]
  cases readAll (0 - 1) (startingInputLength dctx.format) (d.readFrame dctx dstCapacity)
      src.length { moreThan1Frame := false, out := [] } src with
  | error e => simp
  | ok r =>
    obtain ⟨s, rest⟩ := r
    cases rest <;> simp

lemma startingInputLength_le_of_readFrame {s t : MultiFrame}
    (h : d.readFrame dctx dstCapacity s src = .ok (t, rest)) :
    startingInputLength dctx.format ≤ src.length := by
  rw [readFrame_eq_ok] at h
  split at h
  next hskip =>
    obtain ⟨n, hn, -, -⟩ := h
    obtain ⟨hsize, hlen, -⟩ := readSkippableFrameSize_eq_ok.mp hn
    rw [hskip.1]
    exact Nat.le_trans (Nat.le_trans (by decide) (Nat.le_add_right _ _)) (hsize ▸ hlen)
  next =>
    obtain ⟨x, hx, -⟩ := h
    exact startingInputLength_le_of_decompressFrame hx

/-- Behind a part that can be decoded, the rest is decoded as if it came first. -/
lemma decompressMultiFrame_behind {a b : List UInt8} {s : MultiFrame}
    (ha : readAll (0 - 1) (startingInputLength dctx.format) (d.readFrame dctx dstCapacity)
      a.length { moreThan1Frame := false, out := [] } a = .ok (s, [])) (z : List UInt8) :
    d.decompressMultiFrame dctx dstCapacity (a ++ b) = .ok z ↔
      ∃ y, d.decompressMultiFrame dctx (dstCapacity - s.out.length) b = .ok y ∧
        z = s.out ++ y := by
  have hpos : 0 < startingInputLength dctx.format := by cases dctx.format <;> decide
  have hstart : s.Behind s.out { moreThan1Frame := false, out := [] } := (List.append_nil _).symm
  have hall := readAll_append (r := b) hpos (fun s => exact_readFrame s)
    (fun s => shrinks_readFrame s) (Nat.le_refl _) (Nat.le_refl _) ha
  rw [decompressMultiFrame_eq_ok, hall]
  constructor
  · rintro ⟨t, hb, rfl⟩
    have hsteps : ∀ ⦃t u src t' rest⦄, MultiFrame.Behind s.out t u →
        d.readFrame dctx dstCapacity t src = .ok (t', rest) →
        ∃ u', d.readFrame dctx (dstCapacity - s.out.length) u src = .ok (u', rest) ∧
          t'.Behind s.out u' := fun _ _ _ _ _ hR ht => hR.readFrame ht
    obtain ⟨u, hu, hbehind⟩ := readAll_simulates hsteps hstart hb
    exact ⟨u.out, decompressMultiFrame_eq_ok.mpr ⟨u, hu, rfl⟩, hbehind⟩
  · rintro ⟨y, hy, rfl⟩
    have hsteps : ∀ ⦃u t src u' rest⦄, MultiFrame.Behind s.out t u →
        d.readFrame dctx (dstCapacity - s.out.length) u src = .ok (u', rest) →
        ∃ t', d.readFrame dctx dstCapacity t src = .ok (t', rest) ∧ t'.Behind s.out u' :=
      fun _ _ _ _ _ hR hu => hR.readFrame_back hu
    obtain ⟨u, hu, rfl⟩ := decompressMultiFrame_eq_ok.mp hy
    obtain ⟨t, ht, hbehind⟩ := readAll_simulates hsteps hstart hu
    exact ⟨t, ht, hbehind⟩

/-- If the first part can be decoded, the whole is decoded part by part. -/
theorem decompressMultiFrame_append {a b : List UInt8}
    (h : d.decompressMultiFrame dctx dstCapacity a = .ok x) (z : List UInt8) :
    d.decompressMultiFrame dctx dstCapacity (a ++ b) = .ok z ↔
      ∃ y, d.decompressMultiFrame dctx (dstCapacity - x.length) b = .ok y ∧ z = x ++ y := by
  obtain ⟨s, ha, rfl⟩ := decompressMultiFrame_eq_ok.mp h
  exact decompressMultiFrame_behind ha z

/-- Reading one frame that is all there is. -/
lemma readAll_readFrame {s t : MultiFrame}
    (h : d.readFrame dctx dstCapacity s src = .ok (t, [])) :
    readAll (0 - 1) (startingInputLength dctx.format) (d.readFrame dctx dstCapacity) src.length s
      src = .ok (t, []) := by
  have hpos : 0 < startingInputLength dctx.format := by cases dctx.format <;> decide
  have hle := startingInputLength_le_of_readFrame h
  obtain ⟨k, hk⟩ : ∃ k, src.length = k + 1 := ⟨src.length - 1, by omega⟩
  rw [hk, readAll_of_le hle h, readAll_of_lt hpos]

/-- The decoder that knows of no compressed block. -/
def noDecode : BlockDecoder Unit where
  decompressBegin := ()
  decode _ _ _ _ _ := .error (0 - 20)
  length_le := fun _ _ _ _ _ _ _ h => nomatch h

/-- A frame with three bytes in a raw block, of which the header is a single segment. -/
def frameOfThree : List UInt8 :=
  [0x28, 0xB5, 0x2F, 0xFD, 0x20, 0x03, 0x19, 0x00, 0x00, 0x61, 0x62, 0x63]

lemma decompressMultiFrame_frameOfThree :
    noDecode.decompressMultiFrame .default 3 frameOfThree = .ok [0x61, 0x62, 0x63] := by
  decide +kernel

/-- The frame twice. -/
theorem decompressMultiFrame_append_three :
    noDecode.decompressMultiFrame .default 6 (frameOfThree ++ frameOfThree) =
      .ok [0x61, 0x62, 0x63, 0x61, 0x62, 0x63] := by
  have hfirst : noDecode.decompressMultiFrame .default 6 frameOfThree = .ok [0x61, 0x62, 0x63] := by
    decide +kernel
  exact (decompressMultiFrame_append hfirst _).mpr
    ⟨[0x61, 0x62, 0x63], decompressMultiFrame_frameOfThree, rfl⟩

end VZstd
