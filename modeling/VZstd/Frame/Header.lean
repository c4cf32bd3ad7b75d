import VZstd.FrameHeader

/-!
# Writing frame headers

`ZSTD_writeFrameHeader`, which chooses the width of each field, and the reader that finds all of
them again.
-/

namespace VZstd

open LittleEndian

/-- What a frame depends on of `ZSTD_CCtx_params`. -/
structure CCtxParams where
  format : Format
  windowLog : Nat
  contentSizeFlag : Bool
  checksumFlag : Bool
  noDictIDFlag : Bool
  le_windowLog : windowLogAbsoluteMin ≤ windowLog
  windowLog_le : windowLog ≤ windowLogMax

/-- `ZSTD_FRAMEHEADERSIZE_MAX`. -/
def frameHeaderSizeMax : Nat := 18

namespace CCtxParams

variable (p : CCtxParams) (pledgedSrcSize : UInt64) (dictID : UInt32)

def windowSize : UInt64 := .ofNat (2 ^ p.windowLog)

def dictIDSizeCode : Nat :=
  if p.noDictIDFlag then 0
  else (decide (0 < dictID)).toNat + (decide (256 ≤ dictID)).toNat + (decide (65536 ≤ dictID)).toNat

def singleSegment : Bool := p.contentSizeFlag && decide (pledgedSrcSize ≤ p.windowSize)

def fcsCode : Nat :=
  if p.contentSizeFlag then
    (decide (256 ≤ pledgedSrcSize)).toNat + (decide (65536 + 256 ≤ pledgedSrcSize)).toNat +
      (decide (0xFFFFFFFF ≤ pledgedSrcSize)).toNat
  else 0

def frameHeaderDescriptionByte : Nat :=
  p.dictIDSizeCode dictID + (p.checksumFlag.toNat <<< 2) +
    ((p.singleSegment pledgedSrcSize).toNat <<< 5) + (p.fcsCode pledgedSrcSize <<< 6)

def windowLogByte : Nat := (p.windowLog - windowLogAbsoluteMin) <<< 3

/-- The bytes up to the descriptor. -/
def headerStart : List UInt8 :=
  (match p.format with
    | .zstd1 => encode 4 magicNumber
    | .magicless => []) ++ encode 1 (p.frameHeaderDescriptionByte pledgedSrcSize dictID)

def windowField : List UInt8 :=
  if p.singleSegment pledgedSrcSize then [] else encode 1 p.windowLogByte

def dictIDField : List UInt8 := encode (didFieldSize (p.dictIDSizeCode dictID)) dictID.toNat

def contentSizeField : List UInt8 :=
  match p.fcsCode pledgedSrcSize with
  | 0 => if p.singleSegment pledgedSrcSize then encode 1 pledgedSrcSize.toNat else []
  | 1 => encode 2 (pledgedSrcSize - 256).toNat
  | 2 => encode 4 pledgedSrcSize.toNat
  | _ => encode 8 pledgedSrcSize.toNat

end CCtxParams

/-- `ZSTD_writeFrameHeader`. -/
def writeFrameHeader (dstCapacity : Nat) (p : CCtxParams) (pledgedSrcSize : UInt64)
    (dictID : UInt32) : Except UInt64 (List UInt8) :=
  if dstCapacity < frameHeaderSizeMax then .error (0 - 70)
  else .ok (p.headerStart pledgedSrcSize dictID ++ (p.windowField pledgedSrcSize ++
    (p.dictIDField dictID ++ p.contentSizeField pledgedSrcSize)))

/-- What the header of a frame says. -/
def CCtxParams.frameHeader (p : CCtxParams) (pledgedSrcSize : UInt64) (dictID : UInt32)
    (headerSize : Nat) : FrameHeader :=
  let windowSize := if p.singleSegment pledgedSrcSize then pledgedSrcSize else p.windowSize
  { frameContentSize := if p.contentSizeFlag then pledgedSrcSize else contentSizeUnknown
    windowSize := windowSize
    blockSizeMax := min windowSize blockSizeMax
    frameType := .frame
    headerSize := .ofNat headerSize
    dictID := if p.noDictIDFlag then 0 else dictID.toNat
    checksumFlag := p.checksumFlag.toNat }

namespace CCtxParams

variable {p : CCtxParams} {pledgedSrcSize : UInt64} {dictID : UInt32} {r : List UInt8}

/-! ### The descriptor -/

lemma dictIDSizeCode_lt : p.dictIDSizeCode dictID < 4 := by
  have h := (decide (0 < dictID)).toNat_le
  have h' := (decide (256 ≤ dictID)).toNat_le
  have h'' := (decide (65536 ≤ dictID)).toNat_le
  rw [dictIDSizeCode]
  split <;> omega

lemma fcsCode_lt : p.fcsCode pledgedSrcSize < 4 := by
  have h := (decide (256 ≤ pledgedSrcSize)).toNat_le
  have h' := (decide (65536 + 256 ≤ pledgedSrcSize)).toNat_le
  have h'' := (decide (0xFFFFFFFF ≤ pledgedSrcSize)).toNat_le
  rw [fcsCode]
  split <;> omega

/-- The bits of a descriptor. -/
structure IsDescriptor (fhd did : Nat) (checksum single : Bool) (fcs : Nat) : Prop where
  lt : fhd < 256
  dictID : fhd &&& 3 = did
  checksum : (fhd >>> 2) &&& 1 = checksum.toNat
  reserved : fhd &&& 0x08 = 0
  single : (fhd >>> 5) &&& 1 = single.toNat
  fcs : fhd >>> 6 = fcs

lemma isDescriptor (did : Fin 4) (checksum single : Bool) (fcs : Fin 4) :
    IsDescriptor (did + (checksum.toNat <<< 2) + (single.toNat <<< 5) + (fcs.val <<< 6)) did
      checksum single fcs := by
  constructor <;> revert did checksum single fcs <;> decide

lemma isDescriptor_frameHeaderDescriptionByte :
    IsDescriptor (p.frameHeaderDescriptionByte pledgedSrcSize dictID) (p.dictIDSizeCode dictID)
      p.checksumFlag (p.singleSegment pledgedSrcSize) (p.fcsCode pledgedSrcSize) :=
  isDescriptor ⟨_, dictIDSizeCode_lt⟩ p.checksumFlag (p.singleSegment pledgedSrcSize)
    ⟨_, fcsCode_lt⟩

/-! ### The fields -/

lemma length_headerStart :
    (p.headerStart pledgedSrcSize dictID).length = startingInputLength p.format := by
  rw [headerStart]
  cases p.format <;> rfl

/-- A field that is next. -/
lemma readLE_field {src : List UInt8} {pos width n : Nat} (h : src.drop pos = encode width n ++ r)
    (hn : n < 256 ^ width) : readLE src pos width = n := by
  rw [readLE, h, List.take_left' (length_encode _ _), decode_encode hn]

lemma readLE_descriptor :
    readLE (p.headerStart pledgedSrcSize dictID ++ r) (startingInputLength p.format - 1) 1 =
      p.frameHeaderDescriptionByte pledgedSrcSize dictID := by
  have hlt := (@isDescriptor_frameHeaderDescriptionByte p pledgedSrcSize dictID).lt
  refine @readLE_field r _ _ _ _ ?_ hlt
  rw [headerStart, List.append_assoc]
  apply List.drop_left'
  cases p.format <;> rfl

lemma toNat_windowSize : p.windowSize.toNat = 2 ^ p.windowLog := by
  have hle : 2 ^ p.windowLog ≤ 2 ^ windowLogMax := Nat.pow_le_pow_right (by decide) p.windowLog_le
  exact UInt64.toNat_ofNat_of_lt' (Nat.lt_of_le_of_lt hle (by decide))

/-- The field that the window is read from. -/
lemma windowLogByte_spec (p : CCtxParams) :
    p.windowLogByte < 256 ∧ p.windowLogByte &&& 7 = 0 ∧
      (p.windowLogByte >>> 3) + windowLogAbsoluteMin = p.windowLog := by
  have hmin := p.le_windowLog
  have hmax : p.windowLog ≤ 31 := p.windowLog_le
  have hand : p.windowLogByte &&& 7 = p.windowLogByte % 8 := Nat.and_two_pow_sub_one_eq_mod _ 3
  rw [hand, windowLogByte, Nat.shiftLeft_eq, Nat.shiftRight_eq_div_pow]
  refine ⟨by omega, by omega, ?_⟩
  rw [Nat.mul_div_cancel _ (by decide)]
  omega

/-- The field is wide enough for the dictionary ID. -/
lemma dictIDField_eq : ∃ n, n = (if p.noDictIDFlag then 0 else dictID.toNat) ∧
    p.dictIDField dictID = encode (didFieldSize (p.dictIDSizeCode dictID)) n ∧
    n < 256 ^ didFieldSize (p.dictIDSizeCode dictID) := by
  refine ⟨_, rfl, ?_⟩
  rw [dictIDField, dictIDSizeCode]
  have hlt := dictID.toNat_lt
  cases p.noDictIDFlag with
  | true => exact ⟨rfl, Nat.one_pos⟩
  | false =>
    refine ⟨rfl, ?_⟩
    simp only [UInt32.lt_iff_toNat_lt, UInt32.le_iff_toNat_le]
    simp
    by_cases h0 : 0 < dictID.toNat <;> by_cases h1 : 256 ≤ dictID.toNat <;>
      by_cases h2 : 65536 ≤ dictID.toNat <;> simp [h0, h1, h2, didFieldSize] <;> omega

variable (p pledgedSrcSize) in
lemma fcsCode_cases : p.fcsCode pledgedSrcSize = 0 ∨ p.fcsCode pledgedSrcSize = 1 ∨
    p.fcsCode pledgedSrcSize = 2 ∨ p.fcsCode pledgedSrcSize = 3 := by
  have hlt := @fcsCode_lt p pledgedSrcSize
  omega

lemma contentSizeFlag_of_fcsCode {n : Nat} (h : p.fcsCode pledgedSrcSize = n + 1) :
    p.contentSizeFlag = true := by
  by_contra hflag
  rw [fcsCode, if_neg hflag] at h
  exact absurd h.symm (Nat.succ_ne_zero n)

/-- The code of a content size depends on its range. -/
lemma fcsCode_range (h : p.contentSizeFlag = true) :
    (p.fcsCode pledgedSrcSize = 0 → pledgedSrcSize.toNat < 256) ∧
      (p.fcsCode pledgedSrcSize = 1 →
        256 ≤ pledgedSrcSize.toNat ∧ pledgedSrcSize.toNat < 65536 + 256) ∧
      (p.fcsCode pledgedSrcSize = 2 → pledgedSrcSize.toNat < 2 ^ 32) := by
  have h1 : (256 : UInt64).toNat = 256 := rfl
  have h2 : (65536 + 256 : UInt64).toNat = 65792 := rfl
  have h3 : (0xFFFFFFFF : UInt64).toNat = 4294967295 := rfl
  simp only [fcsCode, if_pos h, UInt64.le_iff_toNat_le, h1, h2, h3]
  by_cases h1 : 256 ≤ pledgedSrcSize.toNat <;> by_cases h2 : 65792 ≤ pledgedSrcSize.toNat <;>
    by_cases h3 : 4294967295 ≤ pledgedSrcSize.toNat <;> simp [h1, h2, h3] <;> omega

/-- Without a field for it, the content size is not known. -/
lemma not_contentSizeFlag (hcode : p.fcsCode pledgedSrcSize = 0)
    (hsingle : p.singleSegment pledgedSrcSize = false) : p.contentSizeFlag = false := by
  by_contra hflag
  rw [Bool.not_eq_false] at hflag
  have hlt := (fcsCode_range hflag).1 hcode
  have hwindow : 2 ^ windowLogAbsoluteMin ≤ p.windowSize.toNat := by
    rw [toNat_windowSize]
    exact Nat.pow_le_pow_right (by decide) p.le_windowLog
  have hle : pledgedSrcSize ≤ p.windowSize :=
    UInt64.le_iff_toNat_le.mpr (hlt.le.trans (Nat.le_trans (by decide) hwindow))
  simp [singleSegment, hflag, hle] at hsingle

/-- The field of the content size is wide enough for it. -/
lemma readContentSize_field {src : List UInt8} {pos : Nat}
    (h : src.drop pos = p.contentSizeField pledgedSrcSize ++ r) :
    readContentSize src pos (p.fcsCode pledgedSrcSize)
        (p.singleSegment pledgedSrcSize).toNat =
      if p.contentSizeFlag then pledgedSrcSize else contentSizeUnknown := by
  rw [contentSizeField] at h
  rcases fcsCode_cases p pledgedSrcSize with hcode | hcode | hcode | hcode
  · rw [hcode] at h ⊢
    cases hsingle : p.singleSegment pledgedSrcSize with
    | false =>
      rw [not_contentSizeFlag hcode hsingle]
      rfl
    | true =>
      have hflag : p.contentSizeFlag = true := (Bool.and_eq_true_iff.mp hsingle).1
      rw [hsingle, if_pos rfl] at h
      rw [readContentSize, Bool.toNat_true, if_pos rfl, if_pos hflag,
        readLE_field h ((fcsCode_range hflag).1 hcode), UInt64.ofNat_toNat]
  · have hflag := contentSizeFlag_of_fcsCode hcode
    obtain ⟨hle, hlt⟩ := (fcsCode_range hflag).2.1 hcode
    have hsub : (pledgedSrcSize - 256).toNat = pledgedSrcSize.toNat - 256 :=
      UInt64.toNat_sub_of_le _ _ (UInt64.le_iff_toNat_le.mpr hle)
    rw [hcode] at h ⊢
    rw [readContentSize, if_pos hflag, readLE_field h (by rw [hsub]; omega), hsub,
      Nat.sub_add_cancel hle, UInt64.ofNat_toNat]
  · have hflag := contentSizeFlag_of_fcsCode hcode
    rw [hcode] at h ⊢
    rw [readContentSize, if_pos hflag, readLE_field h ((fcsCode_range hflag).2.2 hcode),
      UInt64.ofNat_toNat]
  · have hflag := contentSizeFlag_of_fcsCode hcode
    rw [hcode] at h ⊢
    rw [readContentSize, if_pos hflag, readLE_field h pledgedSrcSize.toNat_lt, UInt64.ofNat_toNat]
    all_goals simp

lemma length_contentSizeField :
    (p.contentSizeField pledgedSrcSize).length = fcsFieldSize (p.fcsCode pledgedSrcSize) +
      (if (p.singleSegment pledgedSrcSize).toNat = 1 ∧ p.fcsCode pledgedSrcSize = 0
        then 1 else 0) := by
  rw [contentSizeField]
  rcases fcsCode_cases p pledgedSrcSize with hcode | hcode | hcode | hcode
  · cases p.singleSegment pledgedSrcSize <;> simp [hcode, fcsFieldSize]
  · simp [hcode, fcsFieldSize]
  · simp [hcode, fcsFieldSize]
  · simp [hcode, fcsFieldSize]

/-! ### The header -/

variable (p pledgedSrcSize dictID) in
/-- All fields, one behind the other. -/
def header : List UInt8 :=
  p.headerStart pledgedSrcSize dictID ++ (p.windowField pledgedSrcSize ++
    (p.dictIDField dictID ++ p.contentSizeField pledgedSrcSize))

lemma length_header : (p.header pledgedSrcSize dictID).length = startingInputLength p.format +
    (if (p.singleSegment pledgedSrcSize).toNat = 0 then 1 else 0) +
    didFieldSize (p.dictIDSizeCode dictID) + fcsFieldSize (p.fcsCode pledgedSrcSize) +
    (if (p.singleSegment pledgedSrcSize).toNat = 1 ∧ p.fcsCode pledgedSrcSize = 0
      then 1 else 0) := by
  have hwindow : (p.windowField pledgedSrcSize).length =
      if (p.singleSegment pledgedSrcSize).toNat = 0 then 1 else 0 := by
    rw [windowField]
    cases p.singleSegment pledgedSrcSize <;> rfl
  rw [header, List.length_append, List.length_append, List.length_append, length_headerStart,
    hwindow, length_contentSizeField, dictIDField, length_encode]
  omega

lemma header_append : p.header pledgedSrcSize dictID ++ r =
    p.headerStart pledgedSrcSize dictID ++ (p.windowField pledgedSrcSize ++
      (p.dictIDField dictID ++ (p.contentSizeField pledgedSrcSize ++ r))) := by
  simp [header]

lemma frameHeaderSizeInternal_header :
    frameHeaderSizeInternal (p.header pledgedSrcSize dictID ++ r) p.format =
      .ofNat (p.header pledgedSrcSize dictID).length := by
  have hd := @isDescriptor_frameHeaderDescriptionByte p pledgedSrcSize dictID
  have hfhd : readLE (p.header pledgedSrcSize dictID ++ r) (startingInputLength p.format - 1) 1 =
      p.frameHeaderDescriptionByte pledgedSrcSize dictID := by
    rw [header_append]
    exact readLE_descriptor
  have hlong : ¬(p.header pledgedSrcSize dictID ++ r).length < startingInputLength p.format := by
    rw [List.length_append, length_header]
    omega
  rw [length_header]
  simp only [frameHeaderSizeInternal, hfhd, if_neg hlong, hd.dictID, hd.single, hd.fcs]

lemma length_header_le : (p.header pledgedSrcSize dictID).length ≤ frameHeaderSizeMax := by
  have hdid := didFieldSize_le (p.dictIDSizeCode dictID)
  have hfcs := fcsFieldSize_le (p.fcsCode pledgedSrcSize)
  have hstart : startingInputLength p.format ≤ 5 := by cases p.format <;> decide
  rw [length_header]
  show _ ≤ 18
  cases p.singleSegment pledgedSrcSize with
  | false => simp; omega
  | true =>
    by_cases hcode : p.fcsCode pledgedSrcSize = 0
    · simp [hcode, fcsFieldSize]
      omega
    · simp [hcode]
      omega

/-- The reader finds what the writer was given. -/
lemma frameHeaderFields_header :
    frameHeaderFields (p.header pledgedSrcSize dictID ++ r) p.format =
      .ok (p.frameHeader pledgedSrcSize dictID (p.header pledgedSrcSize dictID).length) := by
  have hd := @isDescriptor_frameHeaderDescriptionByte p pledgedSrcSize dictID
  have hfhd : readLE (p.header pledgedSrcSize dictID ++ r) (startingInputLength p.format - 1) 1 =
      p.frameHeaderDescriptionByte pledgedSrcSize dictID := by
    rw [header_append]
    exact readLE_descriptor
  have hdrop : (p.header pledgedSrcSize dictID ++ r).drop (startingInputLength p.format) =
      p.windowField pledgedSrcSize ++
        (p.dictIDField dictID ++ (p.contentSizeField pledgedSrcSize ++ r)) := by
    rw [header_append, List.drop_left' length_headerStart]
  obtain ⟨n, hn, hfield, hlt⟩ := @dictIDField_eq p dictID
  obtain ⟨hbyte, hlow, hlog⟩ := p.windowLogByte_spec
  have hmax : ¬windowLogMax < p.windowLog := Nat.not_lt.mpr p.windowLog_le
  rw [hfield] at hdrop
  simp only [frameHeaderFields, hfhd, frameHeaderSizeInternal_header, hd.dictID, hd.checksum,
    hd.reserved, hd.single, hd.fcs]
  cases hsingle : p.singleSegment pledgedSrcSize with
  | false =>
    rw [windowField, hsingle, if_neg Bool.false_ne_true] at hdrop
    have hwl := readLE_field hdrop hbyte
    have hdrop' : (p.header pledgedSrcSize dictID ++ r).drop (startingInputLength p.format + 1) =
        encode (didFieldSize (p.dictIDSizeCode dictID)) n ++
          (p.contentSizeField pledgedSrcSize ++ r) := by
      rw [← List.drop_drop, hdrop, List.drop_left' (length_encode _ _)]
    have hcontent : (p.header pledgedSrcSize dictID ++ r).drop (startingInputLength p.format + 1 +
        didFieldSize (p.dictIDSizeCode dictID)) = p.contentSizeField pledgedSrcSize ++ r := by
      rw [← List.drop_drop, hdrop', List.drop_left' (length_encode _ _)]
    have hfcs := readContentSize_field hcontent
    rw [hsingle, Bool.toNat_false] at hfcs
    simp [hwl, hlow, hlog, hmax, readLE_field hdrop' hlt, hfcs, frameHeader, hsingle, hn,
      windowSize]
  | true =>
    rw [windowField, hsingle, if_pos rfl, List.nil_append] at hdrop
    have hcontent : (p.header pledgedSrcSize dictID ++ r).drop (startingInputLength p.format +
        didFieldSize (p.dictIDSizeCode dictID)) = p.contentSizeField pledgedSrcSize ++ r := by
      rw [← List.drop_drop, hdrop, List.drop_left' (length_encode _ _)]
    have hfcs := readContentSize_field hcontent
    have hflag : p.contentSizeFlag = true := (Bool.and_eq_true_iff.mp hsingle).1
    rw [hsingle, Bool.toNat_true] at hfcs
    simp [readLE_field hdrop hlt, hfcs, frameHeader, hsingle, hn, hflag]

lemma readLE_header (hformat : p.format = .zstd1) :
    readLE (p.header pledgedSrcSize dictID ++ r) 0 4 = magicNumber := by
  have hstart : p.headerStart pledgedSrcSize dictID = encode 4 magicNumber ++
      encode 1 (p.frameHeaderDescriptionByte pledgedSrcSize dictID) := by
    rw [headerStart, hformat]
  rw [header_append, hstart, List.append_assoc]
  exact readLE_field List.drop_zero (by decide)

lemma getFrameHeaderAdvanced_header :
    getFrameHeaderAdvanced (p.header pledgedSrcSize dictID ++ r) p.format =
      .ok (p.frameHeader pledgedSrcSize dictID (p.header pledgedSrcSize dictID).length) := by
  have hle := @length_header_le p pledgedSrcSize dictID
  have hstart : ¬(p.header pledgedSrcSize dictID ++ r).length <
      startingInputLength p.format := by
    rw [List.length_append, length_header]
    omega
  have hmagic : ¬(p.format ≠ .magicless ∧
      readLE (p.header pledgedSrcSize dictID ++ r) 0 4 ≠ magicNumber) := by
    rintro ⟨hformat, hne⟩
    cases hf : p.format with
    | zstd1 => exact hne (readLE_header hf)
    | magicless => exact hformat hf
  have hsize : ¬(p.header pledgedSrcSize dictID ++ r).length <
      (UInt64.ofNat (p.header pledgedSrcSize dictID).length).toNat := by
    rw [UInt64.toNat_ofNat_of_lt' (Nat.lt_of_le_of_lt hle (by decide)), List.length_append]
    omega
  rw [getFrameHeaderAdvanced, if_neg hstart, if_neg hmagic, frameHeaderSizeInternal_header,
    if_neg hsize]
  exact frameHeaderFields_header

/-- The first bytes say how long a header is. -/
lemma length_header_congr {p' : CCtxParams} {pledgedSrcSize' : UInt64} {dictID' : UInt32}
    {r' : List UInt8} (hformat : p'.format = p.format)
    (h : p'.header pledgedSrcSize' dictID' ++ r' = p.header pledgedSrcSize dictID ++ r) :
    (p'.header pledgedSrcSize' dictID').length = (p.header pledgedSrcSize dictID).length := by
  have hle := @length_header_le p pledgedSrcSize dictID
  have hle' := @length_header_le p' pledgedSrcSize' dictID'
  have hsize := @frameHeaderSizeInternal_header p' pledgedSrcSize' dictID' r'
  rw [h, hformat, frameHeaderSizeInternal_header] at hsize
  have hnat := congrArg UInt64.toNat hsize
  rw [UInt64.toNat_ofNat_of_lt' (Nat.lt_of_le_of_lt hle (by decide)),
    UInt64.toNat_ofNat_of_lt' (Nat.lt_of_le_of_lt hle' (by decide))] at hnat
  exact hnat.symm

end CCtxParams

variable {p : CCtxParams} {pledgedSrcSize : UInt64} {dictID : UInt32} {dstCapacity : Nat}
  {header : List UInt8}

/-- A header that has been written is read back, whatever comes behind it: every field, with the
sizes that the flags leave out. -/
theorem getFrameHeaderAdvanced_writeFrameHeader
    (h : writeFrameHeader dstCapacity p pledgedSrcSize dictID = .ok header) (r : List UInt8) :
    getFrameHeaderAdvanced (header ++ r) p.format =
      .ok (p.frameHeader pledgedSrcSize dictID header.length) := by
  rw [writeFrameHeader] at h
  split at h
  next => cases h
  next =>
    obtain rfl : p.header pledgedSrcSize dictID = header := Except.ok.inj h
    exact CCtxParams.getFrameHeaderAdvanced_header

/-- The parameters of level 3, with a checksum. -/
def CCtxParams.level3 : CCtxParams where
  format := .zstd1
  windowLog := 21
  contentSizeFlag := true
  checksumFlag := true
  noDictIDFlag := false
  le_windowLog := by decide
  windowLog_le := by decide

/-- A single segment of three bytes. -/
theorem getFrameHeaderAdvanced_writeFrameHeader_three :
    getFrameHeaderAdvanced ([0x28, 0xB5, 0x2F, 0xFD, 0x24, 0x03] ++ [0x19]) .zstd1 =
      .ok (CCtxParams.level3.frameHeader 3 0 6) := by
  have hwrite : writeFrameHeader 18 .level3 3 0 = .ok [0x28, 0xB5, 0x2F, 0xFD, 0x24, 0x03] := by
    decide
  exact getFrameHeaderAdvanced_writeFrameHeader hwrite [0x19]

end VZstd
