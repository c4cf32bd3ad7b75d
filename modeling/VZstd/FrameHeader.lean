import VZstd.DecompressContext
import VZstd.Lib.LittleEndian

/-!
# Frame headers

`ZSTD_getFrameHeader_advanced` and `ZSTD_getFrameContentSize`, which `get_frame_content_size` calls.
They read the header at the start of a buffer, and nothing behind it.
-/

namespace VZstd

open LittleEndian

/-- `ZSTD_format_e`. -/
inductive Format where
  | zstd1
  | magicless
  deriving DecidableEq, Repr

/-- `ZSTD_MAGICNUMBER`. -/
def magicNumber : Nat := 0xFD2FB528

/-- `ZSTD_MAGIC_SKIPPABLE_START`. -/
def magicSkippableStart : Nat := 0x184D2A50

/-- `ZSTD_MAGIC_SKIPPABLE_MASK`. -/
def magicSkippableMask : Nat := 0xFFFFFFF0

/-- `ZSTD_FRAMEIDSIZE`. -/
def frameIdSize : Nat := 4

/-- `ZSTD_SKIPPABLEHEADERSIZE`. -/
def skippableHeaderSize : Nat := 8

/-- `ZSTD_WINDOWLOG_ABSOLUTEMIN`. -/
def windowLogAbsoluteMin : Nat := 10

/-- `ZSTD_WINDOWLOG_MAX` where `size_t` has 64 bits. -/
def windowLogMax : Nat := 31

/-- `ZSTD_startingInputLength`. -/
def startingInputLength : Format → Nat
  | .zstd1 => 5
  | .magicless => 1

/-- `ZSTD_did_fieldSize`. -/
def didFieldSize : Nat → Nat
  | 0 => 0
  | 1 => 1
  | 2 => 2
  | _ => 4

/-- `ZSTD_fcs_fieldSize`. -/
def fcsFieldSize : Nat → Nat
  | 0 => 0
  | 1 => 2
  | 2 => 4
  | _ => 8

/-- `MEM_readLE16(src + pos)` and its like, for a field of `width` bytes. -/
def readLE (src : List UInt8) (pos width : Nat) : Nat := decode ((src.drop pos).take width)

def isSkippable (magic : Nat) : Bool := magic &&& magicSkippableMask == magicSkippableStart

/-- `hbuf`, which holds `magic`, after up to four bytes of `src` were copied over it. -/
def overwriteMagic (magic : Nat) (src : List UInt8) : Nat :=
  decode (src.take frameIdSize ++ (encode frameIdSize magic).drop src.length)

/-- `ZSTD_frameHeaderSize_internal`. -/
def frameHeaderSizeInternal (src : List UInt8) (format : Format) : UInt64 :=
  let minInputSize := startingInputLength format
  if src.length < minInputSize then 0 - 72
  else
    let fhd := readLE src (minInputSize - 1) 1
    let dictID := fhd &&& 3
    let singleSegment := (fhd >>> 5) &&& 1
    let fcsId := fhd >>> 6
    .ofNat (minInputSize + (if singleSegment = 0 then 1 else 0) + didFieldSize dictID +
      fcsFieldSize fcsId + (if singleSegment = 1 ∧ fcsId = 0 then 1 else 0))

/-- `ZSTD_FrameType_e`. -/
inductive FrameType where
  | frame
  | skippableFrame
  deriving DecidableEq, Repr

/-- `ZSTD_FrameHeader`. -/
structure FrameHeader where
  frameContentSize : UInt64
  windowSize : UInt64
  blockSizeMax : UInt64
  frameType : FrameType
  headerSize : UInt64
  dictID : Nat
  checksumFlag : Nat
  deriving DecidableEq, Repr

/-- `frameContentSize`, from the field at `pos`. -/
def readContentSize (src : List UInt8) (pos fcsID singleSegment : Nat) : UInt64 :=
  match fcsID with
  | 0 => if singleSegment = 1 then .ofNat (readLE src pos 1) else contentSizeUnknown
  | 1 => .ofNat (readLE src pos 2 + 256)
  | 2 => .ofNat (readLE src pos 4)
  | _ => .ofNat (readLE src pos 8)

/-- The fields from the frame header descriptor on. -/
def frameHeaderFields (src : List UInt8) (format : Format) : Except UInt64 FrameHeader :=
  let minInputSize := startingInputLength format
  let fhdByte := readLE src (minInputSize - 1) 1
  let dictIDSizeCode := fhdByte &&& 3
  let checksumFlag := (fhdByte >>> 2) &&& 1
  let singleSegment := (fhdByte >>> 5) &&& 1
  let fcsID := fhdByte >>> 6
  let wlByte := readLE src minInputSize 1
  let windowLog := (wlByte >>> 3) + windowLogAbsoluteMin
  if fhdByte &&& 0x08 ≠ 0 then .error (0 - 14)
  else if singleSegment = 0 ∧ windowLogMax < windowLog then .error (0 - 16)
  else
    let pos := if singleSegment = 0 then minInputSize + 1 else minInputSize
    let dictID := readLE src pos (didFieldSize dictIDSizeCode)
    let pos := pos + didFieldSize dictIDSizeCode
    let frameContentSize := readContentSize src pos fcsID singleSegment
    let windowSize : UInt64 :=
      if singleSegment = 1 then frameContentSize
      else .ofNat (2 ^ windowLog + (2 ^ windowLog >>> 3) * (wlByte &&& 7))
    .ok
      { frameContentSize := frameContentSize
        windowSize := windowSize
        blockSizeMax := min windowSize blockSizeMax
        frameType := .frame
        headerSize := frameHeaderSizeInternal src format
        dictID := dictID
        checksumFlag := checksumFlag }

/-- `ZSTD_getFrameHeader_advanced`. A result other than 0 is an `error`: an error code, or the size
that the input should have. -/
def getFrameHeaderAdvanced (src : List UInt8) (format : Format) : Except UInt64 FrameHeader :=
  if src.length < startingInputLength format then
    if 0 < src.length ∧ format ≠ .magicless ∧ overwriteMagic magicNumber src ≠ magicNumber ∧
        ¬isSkippable (overwriteMagic magicSkippableStart src) then .error (0 - 10)
    else .error (.ofNat (startingInputLength format))
  else if format ≠ .magicless ∧ readLE src 0 4 ≠ magicNumber then
    if isSkippable (readLE src 0 4) then
      if src.length < skippableHeaderSize then .error (.ofNat skippableHeaderSize)
      else .ok
        { frameContentSize := .ofNat (readLE src frameIdSize 4)
          windowSize := 0
          blockSizeMax := 0
          frameType := .skippableFrame
          headerSize := .ofNat skippableHeaderSize
          dictID := readLE src 0 4 - magicSkippableStart
          checksumFlag := 0 }
    else .error (0 - 10)
  else if src.length < (frameHeaderSizeInternal src format).toNat then
    .error (frameHeaderSizeInternal src format)
  else frameHeaderFields src format

/-- `ZSTD_getFrameHeader`. -/
def getFrameHeader (src : List UInt8) : Except UInt64 FrameHeader :=
  getFrameHeaderAdvanced src .zstd1

/-- `ZSTD_getFrameContentSize`. -/
def zstdGetFrameContentSize (src : List UInt8) : UInt64 :=
  match getFrameHeader src with
  | .error _ => contentSizeError
  | .ok zfh => if zfh.frameType = .skippableFrame then 0 else zfh.frameContentSize

/-- The header that zstd writes for three bytes. -/
example : zstdGetFrameContentSize [0x28, 0xB5, 0x2F, 0xFD, 0x20, 0x03, 0x19, 0x00, 0x00] = 3 := by
  decide +kernel

/-! ### Nothing is read behind the header -/

variable {src r : List UInt8} {format : Format}

lemma readLE_append {pos width : Nat} (h : pos + width ≤ src.length) :
    readLE (src ++ r) pos width = readLE src pos width := by
  rw [readLE, readLE, List.drop_append_of_le_length (by omega),
    List.take_append_of_le_length (by rw [List.length_drop]; omega)]

lemma readContentSize_append {pos fcsID singleSegment : Nat}
    (h : pos + fcsFieldSize fcsID + (if singleSegment = 1 ∧ fcsID = 0 then 1 else 0) ≤
      src.length) :
    readContentSize (src ++ r) pos fcsID singleSegment =
      readContentSize src pos fcsID singleSegment := by
  match fcsID with
  | 0 =>
    by_cases hsingle : singleSegment = 1
    · rw [if_pos ⟨hsingle, rfl⟩] at h
      have hread : readLE (src ++ r) pos 1 = readLE src pos 1 := readLE_append h
      simp only [readContentSize, hread]
    · simp only [readContentSize, if_neg hsingle]
  | 1 =>
    have hread : readLE (src ++ r) pos 2 = readLE src pos 2 :=
      readLE_append (Nat.le_of_add_right_le h)
    simp only [readContentSize, hread]
  | 2 =>
    have hread : readLE (src ++ r) pos 4 = readLE src pos 4 :=
      readLE_append (Nat.le_of_add_right_le h)
    simp only [readContentSize, hread]
  | n + 3 =>
    have hread : readLE (src ++ r) pos 8 = readLE src pos 8 :=
      readLE_append (Nat.le_of_add_right_le h)
    simp only [readContentSize, hread]

lemma frameHeaderSizeInternal_append (h : startingInputLength format ≤ src.length) :
    frameHeaderSizeInternal (src ++ r) format = frameHeaderSizeInternal src format := by
  have hpos : 0 < startingInputLength format := by cases format <;> decide
  have hfhd : readLE (src ++ r) (startingInputLength format - 1) 1 =
      readLE src (startingInputLength format - 1) 1 := readLE_append (by omega)
  have hlong : ¬(src ++ r).length < startingInputLength format := by
    rw [List.length_append]
    omega
  simp only [frameHeaderSizeInternal, hfhd, if_neg hlong, if_neg (Nat.not_lt.mpr h)]

lemma didFieldSize_le (code : Nat) : didFieldSize code ≤ 4 := by
  unfold didFieldSize
  split <;> omega

lemma fcsFieldSize_le (id : Nat) : fcsFieldSize id ≤ 8 := by
  unfold fcsFieldSize
  split <;> omega

/-- The size of a header is the sum of the sizes of its fields. -/
lemma toNat_frameHeaderSizeInternal (h : startingInputLength format ≤ src.length) {fhd : Nat}
    (hfhd : readLE src (startingInputLength format - 1) 1 = fhd) :
    (frameHeaderSizeInternal src format).toNat = startingInputLength format +
      (if (fhd >>> 5) &&& 1 = 0 then 1 else 0) + didFieldSize (fhd &&& 3) +
      fcsFieldSize (fhd >>> 6) + (if (fhd >>> 5) &&& 1 = 1 ∧ fhd >>> 6 = 0 then 1 else 0) := by
  have hstart : startingInputLength format ≤ 5 := by cases format <;> decide
  have hdid := didFieldSize_le (fhd &&& 3)
  have hfcs := fcsFieldSize_le (fhd >>> 6)
  rw [frameHeaderSizeInternal, if_neg (Nat.not_lt.mpr h), hfhd]
  apply UInt64.toNat_ofNat_of_lt'
  show _ < 2 ^ 64
  split <;> split <;> omega

lemma two_le_fcsFieldSize {id : Nat} (h : id ≠ 0) : 2 ≤ fcsFieldSize id := by
  match id with
  | 1 => exact Nat.le_refl 2
  | 2 => exact Nat.le_add_left 2 2
  | n + 3 => exact Nat.le_add_left 2 6

/-- All fields lie in the header. -/
lemma frameHeaderFields_append (h : startingInputLength format ≤ src.length)
    (hsize : (frameHeaderSizeInternal src format).toNat ≤ src.length) :
    frameHeaderFields (src ++ r) format = frameHeaderFields src format := by
  have hpos : 0 < startingInputLength format := by cases format <;> decide
  have hfhd : readLE (src ++ r) (startingInputLength format - 1) 1 =
      readLE src (startingInputLength format - 1) 1 := readLE_append (by omega)
  have hall := toNat_frameHeaderSizeInternal h rfl
  simp only [frameHeaderFields, hfhd, frameHeaderSizeInternal_append h]
  generalize readLE src (startingInputLength format - 1) 1 = fhd at hall ⊢
  have hbit : (fhd >>> 5) &&& 1 = 0 ∨ (fhd >>> 5) &&& 1 = 1 := by
    rw [Nat.and_one_is_mod]
    omega
  rcases hbit with hmulti | hsingle
  · rw [if_pos hmulti] at hall
    have hwl : readLE (src ++ r) (startingInputLength format) 1 =
        readLE src (startingInputLength format) 1 := readLE_append (by omega)
    have hdid : readLE (src ++ r) (startingInputLength format + 1) (didFieldSize (fhd &&& 3)) =
        readLE src (startingInputLength format + 1) (didFieldSize (fhd &&& 3)) :=
      readLE_append (by omega)
    have hcontent := readContentSize_append (r := r) (hall ▸ hsize)
    simp only [hwl, if_pos hmulti, hdid, hcontent]
  · have hne : ¬(fhd >>> 5) &&& 1 = 0 := by
      rw [hsingle]
      exact Nat.one_ne_zero
    rw [if_neg hne, Nat.add_zero] at hall
    have hwl : readLE (src ++ r) (startingInputLength format) 1 =
        readLE src (startingInputLength format) 1 := by
      apply readLE_append
      by_cases hfcs : fhd >>> 6 = 0
      · rw [if_pos ⟨hsingle, hfcs⟩] at hall
        omega
      · have hwide := two_le_fcsFieldSize hfcs
        omega
    have hdid : readLE (src ++ r) (startingInputLength format) (didFieldSize (fhd &&& 3)) =
        readLE src (startingInputLength format) (didFieldSize (fhd &&& 3)) :=
      readLE_append (by omega)
    have hcontent := readContentSize_append (r := r) (hall ▸ hsize)
    simp only [hwl, if_neg hne, hdid, hcontent]

/-- A header that has been read is read again, whatever comes behind it. -/
lemma getFrameHeaderAdvanced_append {zfh : FrameHeader}
    (h : getFrameHeaderAdvanced src format = .ok zfh) (r : List UInt8) :
    getFrameHeaderAdvanced (src ++ r) format = .ok zfh := by
  unfold getFrameHeaderAdvanced at h ⊢
  split at h
  next hshort =>
    split at h <;> cases h
  next hlong =>
    have hstart := Nat.not_lt.mp hlong
    have hlong' : ¬(src ++ r).length < startingInputLength format := by
      rw [List.length_append]
      omega
    have hread : format ≠ .magicless → readLE (src ++ r) 0 4 = readLE src 0 4 := by
      intro hformat
      cases format with
      | zstd1 => exact readLE_append (Nat.le_of_succ_le hstart)
      | magicless => exact absurd rfl hformat
    rw [if_neg hlong']
    split at h
    next hmagic =>
      rw [hread hmagic.1, if_pos hmagic]
      split at h
      next hskippable =>
        rw [if_pos hskippable]
        split at h
        next => cases h
        next hsize =>
          have hsize' : ¬(src ++ r).length < skippableHeaderSize := by
            rw [List.length_append]
            omega
          rw [if_neg hsize', ← h, readLE_append (Nat.not_lt.mp hsize)]
      next => cases h
    next hmagic =>
      have hmagic' : ¬(format ≠ .magicless ∧ readLE (src ++ r) 0 4 ≠ magicNumber) :=
        fun hcontra => hmagic ⟨hcontra.1, hread hcontra.1 ▸ hcontra.2⟩
      rw [if_neg hmagic', frameHeaderSizeInternal_append hstart]
      split at h
      next => cases h
      next hsize =>
        have hsize' : ¬(src ++ r).length < (frameHeaderSizeInternal src format).toNat := by
          rw [List.length_append]
          omega
        rw [if_neg hsize', frameHeaderFields_append hstart (Nat.not_lt.mp hsize), h]

/-- The content size is that of the frame at the start. -/
lemma zstdGetFrameContentSize_append (h : zstdGetFrameContentSize src ≠ contentSizeError)
    (r : List UInt8) : zstdGetFrameContentSize (src ++ r) = zstdGetFrameContentSize src := by
  unfold zstdGetFrameContentSize at h ⊢
  cases hzfh : getFrameHeader src with
  | error e =>
    rw [hzfh] at h
    exact absurd rfl h
  | ok zfh =>
    have happend : getFrameHeader (src ++ r) = .ok zfh := getFrameHeaderAdvanced_append hzfh r
    rw [happend]

/-! ### Skippable frames -/

/-- What `ZSTD_writeSkippableFrame` writes for a payload of less than 4 GiB. -/
def skippableFrame (magicVariant : Fin 16) (payload : List UInt8) : List UInt8 :=
  encode 4 (magicSkippableStart + magicVariant) ++ (encode 4 payload.length ++ payload)

lemma isSkippable_variant (magicVariant : Fin 16) :
    isSkippable (magicSkippableStart + magicVariant) = true := by
  revert magicVariant
  decide

lemma skippable_ne_magicNumber (magicVariant : Fin 16) :
    magicSkippableStart + magicVariant ≠ magicNumber := by
  have hlt := magicVariant.isLt
  simp only [magicSkippableStart, magicNumber]
  omega

/-- The header of a skippable frame has the length of the payload. -/
lemma getFrameHeader_skippableFrame (magicVariant : Fin 16) {payload : List UInt8}
    (h : payload.length < 2 ^ 32) (r : List UInt8) :
    ∃ zfh, getFrameHeader (skippableFrame magicVariant payload ++ r) = .ok zfh ∧
      zfh.frameType = .skippableFrame ∧ zfh.headerSize.toNat = skippableHeaderSize ∧
      zfh.frameContentSize.toNat = payload.length := by
  have hid : (encode 4 (magicSkippableStart + magicVariant)).length = frameIdSize :=
    length_encode 4 _
  have hmagic : readLE (skippableFrame magicVariant payload ++ r) 0 4 =
      magicSkippableStart + magicVariant := by
    have hlt := magicVariant.isLt
    rw [readLE, List.drop_zero, skippableFrame, List.append_assoc,
      List.take_left' (length_encode _ _), decode_encode]
    simp only [magicSkippableStart]
    omega
  have hsize : readLE (skippableFrame magicVariant payload ++ r) frameIdSize 4 =
      payload.length := by
    rw [readLE, skippableFrame, List.append_assoc, List.drop_left' hid, List.append_assoc,
      List.take_left' (length_encode _ _), decode_encode h]
  have hlen : skippableHeaderSize ≤ (skippableFrame magicVariant payload ++ r).length := by
    simp [skippableFrame, skippableHeaderSize]
    omega
  have hstart : startingInputLength .zstd1 ≤ skippableHeaderSize := by decide
  rw [getFrameHeader, getFrameHeaderAdvanced, if_neg (Nat.not_lt.mpr (hstart.trans hlen)), hmagic,
    if_pos ⟨by decide, skippable_ne_magicNumber magicVariant⟩,
    if_pos (isSkippable_variant magicVariant), if_neg (Nat.not_lt.mpr hlen), hsize]
  refine ⟨_, rfl, rfl, rfl, ?_⟩
  exact UInt64.toNat_ofNat_of_lt' (h.trans (by decide))

/-- A skippable frame has no content. -/
lemma zstdGetFrameContentSize_skippableFrame (magicVariant : Fin 16) {payload : List UInt8}
    (h : payload.length < 2 ^ 32) (r : List UInt8) :
    zstdGetFrameContentSize (skippableFrame magicVariant payload ++ r) = 0 := by
  obtain ⟨zfh, hzfh, htype, _⟩ := getFrameHeader_skippableFrame magicVariant h r
  simp only [zstdGetFrameContentSize, hzfh, if_pos htype]

/-! ### Other bytes -/

/-- A buffer whose first byte is the first byte of no magic number. -/
lemma zstdGetFrameContentSize_of_head {b : UInt8} {bs : List UInt8} (hmagic : b.toNat ≠ 0x28)
    (hskippable : b.toNat &&& 0xF0 ≠ 0x50) :
    zstdGetFrameContentSize (b :: bs) = contentSizeError := by
  have hread : readLE (b :: bs) 0 4 = b.toNat + 256 * decode (bs.take 3) := by
    rw [readLE, List.drop_zero, List.take_succ_cons, decode_cons]
  have hmagic' : readLE (b :: bs) 0 4 ≠ magicNumber := by
    have hb : b.toNat < 256 := b.toNat_lt
    rw [hread, magicNumber]
    omega
  have hskippable' : ¬isSkippable (readLE (b :: bs) 0 4) = true := by
    intro hcontra
    have heq : readLE (b :: bs) 0 4 &&& magicSkippableMask = magicSkippableStart := by
      simpa [isSkippable] using hcontra
    have hlow := congrArg (· % 2 ^ 8) heq
    have hb : readLE (b :: bs) 0 4 % 2 ^ 8 = b.toNat := by
      have hlt : b.toNat < 256 := b.toNat_lt
      rw [hread]
      omega
    simp only [Nat.and_mod_two_pow, hb] at hlow
    exact hskippable hlow
  have hheader : ∃ e, getFrameHeaderAdvanced (b :: bs) .zstd1 = .error e := by
    rw [getFrameHeaderAdvanced]
    by_cases hshort : (b :: bs).length < startingInputLength .zstd1
    · rw [if_pos hshort]
      split <;> exact ⟨_, rfl⟩
    · rw [if_neg hshort, if_pos ⟨by decide, hmagic'⟩, if_neg hskippable']
      exact ⟨_, rfl⟩
  obtain ⟨e, he⟩ := hheader
  rw [zstdGetFrameContentSize, getFrameHeader, he]

end VZstd
