import VZstd.FrameHeader
import VZstd.OneShot.Calls
import VZstd.StoredFrames

/-!
# One-shot functions that store

One-shot compression and decompression in a few lines, with which results about all such functions
are tried. Frames are written in raw blocks, with the header that the parameters ask for.
-/

namespace VZstd

open LittleEndian

/-- The parameters of a compression context that the frame header depends on. -/
structure FrameParams where
  format : Format
  contentSizeFlag : Bool
  deriving DecidableEq, Repr

/-- The parameters of a new context. -/
def FrameParams.default : FrameParams := { format := .zstd1, contentSizeFlag := true }

/-- The header of a frame with `n` bytes: the content size in a field of 8 bytes, or the window. -/
def rawHeader (p : FrameParams) (n : Nat) : List UInt8 :=
  (match p.format with
    | .zstd1 => encode 4 magicNumber
    | .magicless => []) ++
  if p.contentSizeFlag then 0xE0 :: encode 8 n else [0x00, 0x58]

def rawFrame (p : FrameParams) (x : List UInt8) : List UInt8 :=
  rawHeader p x.length ++ rawBlocks (x.length / 131072) x

/-- The frame at the start of `src`: its content, and what comes behind it. -/
def readFrame (format : Format) (src : List UInt8) : Except UInt64 (List UInt8 × List UInt8) :=
  match getFrameHeaderAdvanced src format with
  | .error e => .error (if isError e then e else 0 - 72)
  | .ok zfh =>
    if zfh.frameType = .skippableFrame then
      let size := zfh.headerSize.toNat + zfh.frameContentSize.toNat
      if src.length < size then .error (0 - 72) else .ok ([], src.drop size)
    else
      match readBlocks src.length (src.drop zfh.headerSize.toNat) with
      | none => .error (0 - 20)
      | some r =>
        if zfh.frameContentSize ≠ contentSizeUnknown ∧
            zfh.frameContentSize.toNat ≠ r.1.length then .error (0 - 20)
        else .ok r

/-- The contents of at most `n` frames, one behind the other. -/
def readFrames (format : Format) : Nat → List UInt8 → Except UInt64 (List UInt8)
  | _, [] => .ok []
  | 0, _ => .error (0 - 72)
  | n + 1, src =>
    match readFrame format src with
    | .error e => .error e
    | .ok r => (readFrames format n r.2).map (r.1 ++ ·)

/-- Write the bytes, or say that they do not fit. -/
def writeTo (dstCapacity : UInt64) (bytes : List UInt8) : Written :=
  if bytes.length ≤ dstCapacity.toNat then .all bytes
  else { ret := 0 - 70, bytes := [] }

def rawCompress (p : FrameParams) (dstCapacity : UInt64) (src : List UInt8) (srcSize : UInt64) :
    Written :=
  writeTo dstCapacity (rawFrame p (src.take srcSize.toNat))

def rawDecompress (format : Format) (dstCapacity : UInt64) (src : List UInt8)
    (srcSize : UInt64) : Written :=
  match readFrames format src.length (src.take srcSize.toNat) with
  | .error e => { ret := e, bytes := [] }
  | .ok x => writeTo dstCapacity x

def rawApi : SimpleApi where
  compress dstCapacity src srcSize _ := rawCompress .default dstCapacity src srcSize
  decompress := rawDecompress .zstd1
  getFrameContentSize src srcSize := zstdGetFrameContentSize (src.take srcSize.toNat)
  findFrameCompressedSize src srcSize :=
    match readFrame .zstd1 (src.take srcSize.toNat) with
    | .error e => e
    | .ok r => .ofNat ((src.take srcSize.toNat).length - r.2.length)
  cParamGetBounds _ := { error := 0, lowerBound := 0, upperBound := 1 }
  dParamGetBounds _ := { error := 0, lowerBound := 0, upperBound := 1 }

/-! ### Contexts -/

/-- A streaming function that does nothing. -/
def idle {S Op : Type} : Codec S Op where
  call s _ _ _ := { state := s, ret := 0, consumed := 0, produced := [] }
  consumed_le _ _ _ _ := Nat.zero_le _
  produced_le := Codec.nil_fits

/-- `int(format)`. -/
def Format.code : Format → Int
  | .zstd1 => 0
  | .magicless => 1

def Format.ofCode? (value : Int) : Option Format :=
  if value = 0 then some .zstd1 else if value = 1 then some .magicless else none

/-- A compression context that knows two parameters, and takes all others. -/
def rawCompressApi : CompressApi FrameParams :=
  { CompressApi.ofCodec idle with
    reset := fun c reset => (if reset = ResetDir.sessionOnly.code then c else .default, 0)
    setParameter := fun c param value =>
      if param = CompressParam.format.code then
        match Format.ofCode? value with
        | some format => ({ c with format := format }, 0)
        | none => (c, 0 - 42)
      else if param = CompressParam.contentSizeFlag.code then
        ({ c with contentSizeFlag := value != 0 }, 0)
      else (c, 0)
    getParameter := fun c param =>
      if param = CompressParam.format.code then (0, c.format.code)
      else if param = CompressParam.contentSizeFlag.code then
        (0, if c.contentSizeFlag then 1 else 0)
      else (0, 0)
    compress2 := fun c dstCapacity src srcSize => (c, rawCompress c dstCapacity src srcSize) }

/-- A decompression context that knows one parameter. -/
def rawDecompressApi : DecompressApi Format :=
  { DecompressApi.ofCodec idle with
    reset := fun d reset => (if reset = ResetDir.sessionOnly.code then d else .zstd1, 0)
    setParameter := fun d param value =>
      if param = DecompressParam.format.code then
        match Format.ofCode? value with
        | some format => (format, 0)
        | none => (d, 0 - 42)
      else (d, 0)
    getParameter := fun d param =>
      if param = DecompressParam.format.code then (0, d.code) else (0, 0)
    decompressDCtx := fun d dstCapacity src srcSize =>
      (d, rawDecompress d dstCapacity src srcSize) }

/-! ### A frame is read back -/

variable {p : FrameParams} {x r : List UInt8}

lemma length_rawHeader (p : FrameParams) (n : Nat) : (rawHeader p n).length ≤ 13 := by
  obtain ⟨format, flag⟩ := p
  cases format <;> cases flag <;> simp [rawHeader]

/-- What the header says. -/
structure FrameHeader.Describes (zfh : FrameHeader) (p : FrameParams) (n : Nat) : Prop where
  frameType : zfh.frameType = .frame
  headerSize : zfh.headerSize.toNat = (rawHeader p n).length
  frameContentSize : zfh.frameContentSize =
    if p.contentSizeFlag then .ofNat n else contentSizeUnknown

/-- The bytes up to the frame header descriptor. -/
def headerStart (p : FrameParams) : List UInt8 :=
  (match p.format with
    | .zstd1 => encode 4 magicNumber
    | .magicless => []) ++ [if p.contentSizeFlag then 0xE0 else 0x00]

/-- The bytes behind it. -/
def headerEnd (p : FrameParams) (n : Nat) : List UInt8 :=
  if p.contentSizeFlag then encode 8 n else [0x58]

lemma rawHeader_eq (p : FrameParams) (n : Nat) :
    rawHeader p n = headerStart p ++ headerEnd p n := by
  obtain ⟨format, flag⟩ := p
  cases format <;> cases flag <;> rfl

lemma length_headerStart (p : FrameParams) :
    (headerStart p).length = startingInputLength p.format := by
  obtain ⟨format, flag⟩ := p
  cases format <;> rfl

lemma startingInputLength_le_rawHeader (p : FrameParams) (n : Nat) :
    startingInputLength p.format ≤ (rawHeader p n).length := by
  rw [rawHeader_eq, List.length_append, length_headerStart]
  exact Nat.le_add_right _ _

lemma readLE_headerStart (p : FrameParams) (n : Nat) :
    readLE (rawHeader p n) (startingInputLength p.format - 1) 1 =
      if p.contentSizeFlag then 0xE0 else 0 := by
  rw [rawHeader_eq, readLE_append (by rw [length_headerStart]; cases p.format <;> decide)]
  obtain ⟨format, flag⟩ := p
  cases format <;> cases flag <;> decide

lemma frameHeaderSizeInternal_rawHeader (p : FrameParams) (n : Nat) :
    (frameHeaderSizeInternal (rawHeader p n) p.format).toNat = (rawHeader p n).length := by
  have hstart := startingInputLength_le_rawHeader p n
  rw [toNat_frameHeaderSizeInternal hstart (readLE_headerStart p n), rawHeader_eq,
    List.length_append, length_headerStart]
  obtain ⟨format, flag⟩ := p
  cases flag <;> simp [headerEnd, didFieldSize, fcsFieldSize]

lemma readLE_headerEnd (p : FrameParams) (n : Nat) (width : Nat) :
    readLE (rawHeader p n) (startingInputLength p.format) width =
      decode ((headerEnd p n).take width) := by
  rw [readLE, rawHeader_eq, List.drop_left' (length_headerStart p)]

lemma frameHeaderFields_rawHeader (p : FrameParams) {n : Nat} (h : n < 2 ^ 64) :
    ∃ zfh, frameHeaderFields (rawHeader p n) p.format = .ok zfh ∧ zfh.Describes p n := by
  have hall := frameHeaderSizeInternal_rawHeader p n
  have hfhd := readLE_headerStart p n
  have hcontent := readLE_headerEnd p n 8
  have hwl := readLE_headerEnd p n 1
  rw [frameHeaderFields, hfhd]
  obtain ⟨format, flag⟩ := p
  cases flag with
  | false =>
    have hlog : ¬windowLogMax < (decode [0x58] >>> 3) + windowLogAbsoluteMin := by decide
    simp only [Bool.false_eq_true, if_false] at hwl ⊢
    rw [hwl, if_neg (by decide), if_neg (fun hcontra => hlog hcontra.2)]
    exact ⟨_, rfl, rfl, hall, rfl⟩
  | true =>
    have hsize : decode (encode 8 n) = n := decode_encode h
    have htake : (encode 8 n).take 8 = encode 8 n := List.take_of_length_le (length_encode 8 n).le
    have hsingle : ¬((0xE0 >>> 5) &&& 1 = 0) := by decide
    simp only [if_true]
    rw [if_neg (by decide), if_neg (fun hcontra => hsingle hcontra.1)]
    refine ⟨_, rfl, rfl, hall, ?_⟩
    show UInt64.ofNat (readLE (rawHeader _ n) (startingInputLength format) 8) = UInt64.ofNat n
    rw [hcontent]
    show UInt64.ofNat (decode ((encode 8 n).take 8)) = UInt64.ofNat n
    rw [htake, hsize]

lemma getFrameHeaderAdvanced_rawHeader (p : FrameParams) {n : Nat} (h : n < 2 ^ 64) :
    ∃ zfh, getFrameHeaderAdvanced (rawHeader p n) p.format = .ok zfh ∧ zfh.Describes p n := by
  have hall := frameHeaderSizeInternal_rawHeader p n
  have hstart := startingInputLength_le_rawHeader p n
  have hmagic : ¬(p.format ≠ .magicless ∧ readLE (rawHeader p n) 0 4 ≠ magicNumber) := by
    obtain ⟨format, flag⟩ := p
    cases format with
    | zstd1 =>
      have hread : readLE (rawHeader ⟨.zstd1, flag⟩ n) 0 4 = magicNumber := by
        rw [readLE, List.drop_zero, rawHeader, List.take_left' (length_encode _ _),
          decode_encode (by decide)]
      exact fun hcontra => hcontra.2 hread
    | magicless => exact fun hcontra => hcontra.1 rfl
  rw [getFrameHeaderAdvanced, if_neg (Nat.not_lt.mpr hstart), if_neg hmagic,
    if_neg (Nat.not_lt.mpr hall.le)]
  exact frameHeaderFields_rawHeader p h

lemma length_rawFrame (p : FrameParams) (x : List UInt8) :
    x.length < (rawFrame p x).length ∧
      (rawFrame p x).length ≤ x.length + 3 * (x.length / 131072) + 16 := by
  have hblocks := length_rawBlocks (x.length / 131072) x
  have hheader := length_rawHeader p x.length
  have hpos : 0 < (rawHeader p x.length).length := by
    obtain ⟨format, flag⟩ := p
    cases flag <;> simp [rawHeader]
  rw [rawFrame, List.length_append]
  omega

lemma readFrame_rawFrame (p : FrameParams) (h : x.length < 2 ^ 31) (r : List UInt8) :
    readFrame p.format (rawFrame p x ++ r) = .ok (x, r) := by
  obtain ⟨zfh, hheader, hdescribes⟩ :=
    getFrameHeaderAdvanced_rawHeader p (n := x.length) (by omega)
  have hrun : getFrameHeaderAdvanced (rawFrame p x ++ r) p.format = .ok zfh := by
    rw [rawFrame, List.append_assoc]
    exact getFrameHeaderAdvanced_append hheader _
  have hdrop : (rawFrame p x ++ r).drop zfh.headerSize.toNat =
      rawBlocks (x.length / 131072) x ++ r := by
    rw [rawFrame, List.append_assoc]
    exact List.drop_left' hdescribes.headerSize.symm
  have hlt : x.length < 131072 * (x.length / 131072 + 1) :=
    Nat.lt_mul_div_succ x.length (by decide)
  have hfuel : x.length / 131072 < (rawFrame p x ++ r).length := by
    have hframe := (length_rawFrame p x).1
    rw [List.length_append]
    omega
  have hsize : ¬(zfh.frameContentSize ≠ contentSizeUnknown ∧
      zfh.frameContentSize.toNat ≠ x.length) := by
    rintro ⟨hknown, hne⟩
    rw [hdescribes.frameContentSize] at hknown hne
    split at hne
    · exact hne (UInt64.toNat_ofNat_of_lt' (by show _ < 2 ^ 64; omega))
    next hflag => exact hknown (if_neg hflag)
  have hframe : ¬zfh.frameType = .skippableFrame := by
    rw [hdescribes.frameType]
    decide
  simp only [readFrame, hrun, if_neg hframe, hdrop, readBlocks_rawBlocks hlt.le hfuel r]
  exact if_neg hsize

/-- A skippable frame is skipped. -/
lemma readFrame_skippableFrame (magicVariant : Fin 16) {payload : List UInt8}
    (h : payload.length < 2 ^ 32) (r : List UInt8) :
    readFrame .zstd1 (skippableFrame magicVariant payload ++ r) = .ok ([], r) := by
  obtain ⟨zfh, hzfh, htype, hheader, hcontent⟩ := getFrameHeader_skippableFrame magicVariant h r
  have hlen : (skippableFrame magicVariant payload).length =
      zfh.headerSize.toNat + zfh.frameContentSize.toNat := by
    rw [hheader, hcontent]
    simp [skippableFrame, skippableHeaderSize]
    omega
  have hlong : ¬(skippableFrame magicVariant payload ++ r).length <
      zfh.headerSize.toNat + zfh.frameContentSize.toNat := by
    rw [List.length_append]
    omega
  rw [getFrameHeader] at hzfh
  simp only [readFrame, hzfh, if_pos htype, if_neg hlong, List.drop_left' hlen]

/-- A raw frame is no longer than zstd's bound. -/
lemma length_rawFrame_le_bound (p : FrameParams) {x : List UInt8} (h : x.length < 2 ^ 31) :
    (rawFrame p x).length ≤ (zstdCompressBound (usize x.length)).toNat := by
  have hframe := (length_rawFrame p x).2
  rw [toNat_bound h]
  split <;> omega

/-! ### The functions keep to their contract -/

/-- A frame in front of other bytes. -/
lemma readFrames_append {format : Format} {f : List UInt8} {n : Nat} (hne : f ≠ [])
    (h : readFrame format (f ++ r) = .ok (x, r)) :
    readFrames format (n + 1) (f ++ r) = (readFrames format n r).map (x ++ ·) := by
  obtain ⟨b, bs, hcons⟩ := List.exists_cons_of_ne_nil (List.append_ne_nil_of_left_ne_nil hne r)
  rw [hcons] at h ⊢
  simp only [readFrames, h]

lemma rawFrame_ne_nil (p : FrameParams) (x : List UInt8) : rawFrame p x ≠ [] :=
  List.ne_nil_of_length_pos (Nat.zero_lt_of_lt (length_rawFrame p x).1)

lemma readFrames_rawFrame (p : FrameParams) (h : x.length < 2 ^ 31) :
    readFrames p.format (rawFrame p x).length (rawFrame p x) = .ok x := by
  obtain ⟨n, hn⟩ := Nat.exists_eq_add_of_lt (length_rawFrame p x).1
  have hread := readFrames_append (n := x.length + n) (rawFrame_ne_nil p x)
    (readFrame_rawFrame p h [])
  rw [List.append_nil] at hread
  rw [hn, hread]
  simp [readFrames, Except.map]

lemma length_rawFrame_lt (p : FrameParams) (h : x.length < 2 ^ 31) :
    (rawFrame p x).length < 2 ^ 32 := by
  have hlen := (length_rawFrame p x).2
  omega

lemma take_usize {bytes : List UInt8} (h : bytes.length < 2 ^ 32) :
    bytes.take (usize bytes.length).toNat = bytes := by
  rw [toNat_usize (h.trans (by decide)), List.take_length]

lemma writeTo_of_le {dstCapacity : UInt64} {bytes : List UInt8}
    (h : bytes.length ≤ dstCapacity.toNat) : writeTo dstCapacity bytes = .all bytes := if_pos h

/-- With room for the bound, the whole frame is written. -/
lemma rawCompress_of_bound (p : FrameParams) (h : x.length < 2 ^ 31) {dstCapacity : UInt64}
    (hcap : zstdCompressBound (usize x.length) ≤ dstCapacity) :
    rawCompress p dstCapacity x (usize x.length) = .all (rawFrame p x) := by
  rw [rawCompress, take_usize (h.trans (by decide))]
  apply writeTo_of_le
  exact (length_rawFrame_le_bound p h).trans (UInt64.le_iff_toNat_le.mp hcap)

lemma rawDecompress_rawFrame (p : FrameParams) (h : x.length < 2 ^ 31) {dstCapacity : UInt64}
    (hcap : x.length ≤ dstCapacity.toNat) :
    rawDecompress p.format dstCapacity (rawFrame p x) (usize (rawFrame p x).length) = .all x := by
  rw [rawDecompress, take_usize (length_rawFrame_lt p h), readFrames_rawFrame p h]
  exact writeTo_of_le hcap

/-- Every size can stand in a header. -/
lemma zstdGetFrameContentSize_rawHeader {n : Nat} (h : n < 2 ^ 64) :
    zstdGetFrameContentSize (rawHeader .default n) = .ofNat n := by
  obtain ⟨zfh, hheader, hdescribes⟩ := getFrameHeaderAdvanced_rawHeader .default h
  have hrun : getFrameHeader (rawHeader .default n) = .ok zfh := hheader
  have hframe : ¬zfh.frameType = .skippableFrame := by
    rw [hdescribes.frameType]
    decide
  simp only [zstdGetFrameContentSize, hrun, if_neg hframe]
  exact hdescribes.frameContentSize

/-- The size in the header of a frame in the standard format. -/
lemma zstdGetFrameContentSize_rawFrame (h : x.length < 2 ^ 31) :
    zstdGetFrameContentSize (rawFrame .default x) = .ofNat x.length := by
  have hheader := zstdGetFrameContentSize_rawHeader (n := x.length) (by omega)
  have hne : zstdGetFrameContentSize (rawHeader .default x.length) ≠ contentSizeError := by
    rw [hheader]
    exact ofNat_length_ne_contentSizeError h
  rw [rawFrame, zstdGetFrameContentSize_append hne, hheader]

/-- Without the magic number there is no such size. -/
lemma zstdGetFrameContentSize_magicless (flag : Bool) (x : List UInt8) :
    zstdGetFrameContentSize (rawFrame { format := .magicless, contentSizeFlag := flag } x) =
      contentSizeError := by
  cases flag with
  | false => exact zstdGetFrameContentSize_of_head (b := 0x00) (by decide) (by decide)
  | true => exact zstdGetFrameContentSize_of_head (b := 0xE0) (by decide) (by decide)

end VZstd
