import VZstd.Frame.Decode

/-!
# Sizes of frames

`ZSTD_findFrameSizeInfo` walks over the blocks of a frame without decoding them, and
`ZSTD_findDecompressedSize` over frames. Where decoding succeeds, they tell in advance what it
takes and gives.
-/

namespace VZstd

open LittleEndian Reader

/-- `ZSTD_frameSizeInfo`. -/
structure FrameSizeInfo where
  nbBlocks : Nat
  compressedSize : Nat
  decompressedBound : UInt64
  deriving DecidableEq, Repr

/-- One turn of the loop on blocks. -/
def skipBlock (nbBlocks : Nat) (src : List UInt8) :
    Except UInt64 ((Nat × Bool) × List UInt8) :=
  match getcBlockSize src with
  | .error e => .error e
  | .ok (cBlockSize, bp) =>
    if src.length < blockHeaderLength + cBlockSize then .error (0 - 72)
    else .ok ((nbBlocks + 1, bp.lastBlock), src.drop (blockHeaderLength + cBlockSize))

/-- `ZSTD_findFrameSizeInfo`. An `error` is the code in `ZSTD_errorFrameSizeInfo`. -/
def findFrameSizeInfo (src : List UInt8) (format : Format) : Except UInt64 FrameSizeInfo :=
  if format = .zstd1 ∧ skippableHeaderSize ≤ src.length ∧ isSkippable (readLE src 0 4) then
    (readSkippableFrameSize src).map fun skippableSize =>
      { nbBlocks := 0, compressedSize := skippableSize, decompressedBound := 0 }
  else
    match getFrameHeaderAdvanced src format with
    | .error ret => .error (if isError ret then ret else 0 - 72)
    | .ok zfh =>
      match readLoop (0 - 1) skipBlock (src.length + 1) 0 (src.drop zfh.headerSize.toNat) with
      | .error e => .error e
      | .ok (nbBlocks, rest) =>
        if zfh.checksumFlag ≠ 0 ∧ rest.length < 4 then .error (0 - 72)
        else
          .ok
            { nbBlocks := nbBlocks
              compressedSize :=
                src.length - (if zfh.checksumFlag ≠ 0 then rest.drop 4 else rest).length
              decompressedBound :=
                if zfh.frameContentSize ≠ contentSizeUnknown then zfh.frameContentSize
                else .ofNat nbBlocks * zfh.blockSizeMax }

/-- `ZSTD_findFrameCompressedSize`. -/
def zstdFindFrameCompressedSize (src : List UInt8) : UInt64 :=
  match findFrameSizeInfo src .zstd1 with
  | .error e => e
  | .ok info => .ofNat info.compressedSize

/-- One turn of the loop on frames. -/
def addFrameSize (totalDstSize : UInt64) (src : List UInt8) :
    Except UInt64 (UInt64 × List UInt8) :=
  if isSkippable (readLE src 0 4) then
    match readSkippableFrameSize src with
    | .error _ => .error contentSizeError
    | .ok skippableSize => .ok (totalDstSize, src.drop skippableSize)
  else
    let fcs := zstdGetFrameContentSize src
    if contentSizeError ≤ fcs then .error fcs
    else if totalDstSize + fcs < totalDstSize then .error contentSizeError
    else
      match findFrameSizeInfo src .zstd1 with
      | .error _ => .error contentSizeError
      | .ok info => .ok (totalDstSize + fcs, src.drop info.compressedSize)

/-- `ZSTD_findDecompressedSize`. -/
def findDecompressedSize (src : List UInt8) : UInt64 :=
  match readAll contentSizeError (startingInputLength .zstd1) addFrameSize src.length 0 src with
  | .error e => e
  | .ok (totalDstSize, rest) => if rest ≠ [] then contentSizeError else totalDstSize

variable {E : Type} {d : BlockDecoder E} {dctx : DCtx} {dstCapacity : Nat}
  {src rest x : List UInt8}

/-! ### One frame -/

/-- A block that is decoded is skipped. -/
lemma skipBlock_of_readBlock {validate : Bool} {blockSizeMax : Nat} {s t : DecodeState E}
    {last : Bool} (h : d.readBlock validate blockSizeMax dstCapacity s src = .ok ((t, last), rest))
    (nbBlocks : Nat) : skipBlock nbBlocks src = .ok ((nbBlocks + 1, last), rest) := by
  obtain ⟨bytes, entropy, x, bp, rfl, hblock, rfl, rfl⟩ := readBlock_eq_ok.mp h
  have htake : (bytes.take blockHeaderLength).length = blockHeaderLength := by
    rw [List.length_take, Nat.min_eq_left hblock.header_le]
  have hsize := getcBlockSize_append htake (bytes.drop blockHeaderLength ++ rest)
  have hlen : blockHeaderLength + (bytes.drop blockHeaderLength).length = bytes.length := by
    rw [List.length_drop, Nat.add_sub_cancel' hblock.header_le]
  rw [← List.append_assoc, List.take_append_drop, hblock.header] at hsize
  rw [skipBlock, hsize]
  dsimp only
  rw [hlen, if_neg (by rw [List.length_append]; omega), List.drop_left]

lemma decodeFrameHeader_eq_ok {fParams : FrameHeader} :
    dctx.decodeFrameHeader src = .ok fParams ↔
      getFrameHeaderAdvanced src dctx.format = .ok fParams ∧ fParams.dictID = 0 := by
  rw [DCtx.decodeFrameHeader]
  cases getFrameHeaderAdvanced src dctx.format with
  | error e => simp
  | ok zfh =>
    by_cases hdict : zfh.dictID = 0
    · simp [hdict]
      rintro rfl
      exact hdict
    · simp [hdict]
      rintro rfl
      exact hdict

/-- A header that is not that of a skippable frame. -/
lemma isFrame_of_not_skippable {format : Format} {zfh : FrameHeader}
    (h : getFrameHeaderAdvanced src format = .ok zfh)
    (hskip : ¬(format = .zstd1 ∧ isSkippable (readLE src 0 4))) :
    zfh.frameType = .frame ∧ zfh.headerSize = frameHeaderSizeInternal src format ∧
      zfh.blockSizeMax = min zfh.windowSize blockSizeMax := by
  rw [getFrameHeaderAdvanced] at h
  split at h
  next => split at h <;> cases h
  next hlen =>
    split at h
    next hmagic =>
      have hformat : format = .zstd1 := by
        cases format with
        | zstd1 => rfl
        | magicless => exact absurd rfl hmagic.1
      rw [if_neg fun hcontra => hskip ⟨hformat, hcontra⟩] at h
      cases h
    next =>
      split at h
      next => cases h
      next =>
        rw [frameHeaderFields] at h
        dsimp only at h
        split at h
        next => cases h
        next =>
          split at h
          next => cases h
          next => exact (Except.ok.inj h) ▸ ⟨rfl, rfl, rfl⟩

/-- The header of a frame that is decoded. -/
lemma DCtx.IsHeader.getFrameHeaderAdvanced {header body : List UInt8} {fParams : FrameHeader}
    (h : dctx.IsHeader header fParams)
    (hskip : ¬(dctx.format = .zstd1 ∧ isSkippable (readLE (header ++ body) 0 4))) :
    getFrameHeaderAdvanced (header ++ body) dctx.format = .ok fParams ∧
      fParams.frameType = .frame ∧ fParams.headerSize.toNat = header.length := by
  have hheader := getFrameHeaderAdvanced_append (decodeFrameHeader_eq_ok.mp h.decodes).1 body
  obtain ⟨hframe, hsize, -⟩ := isFrame_of_not_skippable hheader hskip
  refine ⟨hheader, hframe, ?_⟩
  rw [hsize, frameHeaderSizeInternal_append h.start_le, h.size]

/-- What is known of a frame before it is decoded. -/
structure FrameSizeInfo.Tells (info : FrameSizeInfo) (src x rest : List UInt8) (fcs : UInt64) :
    Prop where
  compressedSize : info.compressedSize + rest.length = src.length
  rest : src.drop info.compressedSize = rest
  content : fcs ≠ contentSizeUnknown → x.length = fcs.toNat

/-- A frame that can be decoded ends where the walk over its blocks does. -/
lemma findFrameSizeInfo_of_decompressFrame
    (hskip : ¬(dctx.format = .zstd1 ∧ isSkippable (readLE src 0 4)))
    (h : d.decompressFrame dctx dstCapacity src = .ok (x, rest)) :
    ∃ zfh info, getFrameHeaderAdvanced src dctx.format = .ok zfh ∧
      findFrameSizeInfo src dctx.format = .ok info ∧
      info.Tells src x rest zfh.frameContentSize := by
  obtain ⟨used, hused, -⟩ := exact_decompressFrame h
  obtain ⟨header, body, fParams, s, tail, rfl, hheader, hblocks, hcheck⟩ :=
    decompressFrame_eq_ok.mp h
  obtain ⟨hzfh, -, hsize⟩ := hheader.getFrameHeaderAdvanced hskip
  obtain ⟨rfl, hcontent, hending⟩ := checkFrame_eq_ok.mp hcheck
  have hsteps : ∀ ⦃s : DecodeState E⦄ ⦃n : Nat⦄ ⦃src t last rest⦄, True →
      d.readBlock (dctx.validateChecksum fParams) (dctx.blockSizeMax fParams) dstCapacity s src =
        .ok ((t, last), rest) →
      ∃ m, skipBlock n src = .ok ((m, last), rest) ∧ True :=
    fun s n src t last rest _ hs => ⟨n + 1, skipBlock_of_readBlock hs n, trivial⟩
  have hblocks' : readLoop (0 - 1) (d.readBlock (dctx.validateChecksum fParams)
      (dctx.blockSizeMax fParams) dstCapacity) ((header ++ body).length + 1) d.start body =
        .ok (s, tail) := by
    rw [← hblocks]
    exact readLoop_congr (fun s => shrinks_readBlock s) (by rw [List.length_append]; omega)
      (Nat.lt_succ_self _)
  have hwalk : ∃ nbBlocks, readLoop (0 - 1) skipBlock ((header ++ body).length + 1) 0 body =
      .ok (nbBlocks, tail) ∧ True := readLoop_simulates hsteps trivial hblocks'
  obtain ⟨nbBlocks, hwalk, -⟩ := hwalk
  have hskip' : ¬(dctx.format = .zstd1 ∧ skippableHeaderSize ≤ (header ++ body).length ∧
      isSkippable (readLE (header ++ body) 0 4)) := fun hcontra => hskip ⟨hcontra.1, hcontra.2.2⟩
  have hrest : (if fParams.checksumFlag ≠ 0 then tail.drop 4 else tail) = rest ∧
      ¬(fParams.checksumFlag ≠ 0 ∧ tail.length < 4) := by
    by_cases hflag : fParams.checksumFlag ≠ 0
    · rw [if_pos hflag] at hending ⊢
      obtain ⟨checksum, rfl, hlen, -⟩ := hending
      refine ⟨List.drop_left' hlen, fun hcontra => ?_⟩
      rw [List.length_append] at hcontra
      omega
    · rw [if_neg hflag] at hending ⊢
      exact ⟨hending, fun hcontra => hflag hcontra.1⟩
  refine ⟨fParams,
    { nbBlocks := nbBlocks
      compressedSize := (header ++ body).length - rest.length
      decompressedBound :=
        if fParams.frameContentSize ≠ contentSizeUnknown then fParams.frameContentSize
        else .ofNat nbBlocks * fParams.blockSizeMax }, hzfh, ?_, ?_, ?_, hcontent⟩
  · rw [findFrameSizeInfo, if_neg hskip', hzfh]
    dsimp only
    rw [hsize, List.drop_left, hwalk]
    dsimp only
    rw [if_neg hrest.2, hrest.1]
  · rw [hused, List.length_append]
    exact Nat.sub_add_cancel (Nat.le_add_left _ _)
  · rw [hused, List.length_append, Nat.add_sub_cancel, List.drop_left]

/-- Where the first frame ends, of either kind. -/
lemma findFrameSizeInfo_of_readFrame {s t : MultiFrame} {used : List UInt8}
    (hformat : dctx.format = .zstd1)
    (h : d.readFrame dctx dstCapacity s (used ++ rest) = .ok (t, rest)) :
    ∃ info, findFrameSizeInfo (used ++ rest) .zstd1 = .ok info ∧
      info.compressedSize = used.length := by
  rw [readFrame_eq_ok] at h
  split at h
  next hskip =>
    obtain ⟨n, hn, -, hrest⟩ := h
    obtain ⟨hsize, hlen, -⟩ := readSkippableFrameSize_eq_ok.mp hn
    have hskip' : Format.zstd1 = .zstd1 ∧ skippableHeaderSize ≤ (used ++ rest).length ∧
        isSkippable (readLE (used ++ rest) 0 4) :=
      ⟨rfl, Nat.le_trans (Nat.le_add_right _ _) (hsize ▸ hlen), hskip.2⟩
    refine ⟨_, by rw [findFrameSizeInfo, if_pos hskip', hn]; rfl, ?_⟩
    have hlen' := congrArg List.length hrest
    rw [List.length_drop, List.length_append] at hlen'
    rw [List.length_append] at hlen
    show n = used.length
    omega
  next hskip =>
    obtain ⟨x, hx, -⟩ := h
    obtain ⟨_, info, -, hinfo, htells⟩ := findFrameSizeInfo_of_decompressFrame hskip hx
    have hlen := htells.compressedSize
    rw [List.length_append] at hlen
    exact ⟨info, hformat ▸ hinfo, Nat.add_right_cancel hlen⟩

/-- A source that can be decoded can be cut where `ZSTD_findFrameCompressedSize` says, and its parts
decoded one by one. -/
theorem decompressMultiFrame_cut (hformat : dctx.format = .zstd1)
    (h : d.decompressMultiFrame dctx dstCapacity src = .ok x) (hne : src ≠ []) :
    ∃ n y z, zstdFindFrameCompressedSize src = .ofNat n ∧ 0 < n ∧ n ≤ src.length ∧
      d.decompressMultiFrame dctx dstCapacity (src.take n) = .ok y ∧
      d.decompressMultiFrame dctx (dstCapacity - y.length) (src.drop n) = .ok z ∧ x = y ++ z := by
  obtain ⟨t, ht, rfl⟩ := decompressMultiFrame_eq_ok.mp h
  have hpos : 0 < startingInputLength dctx.format := by cases dctx.format <;> decide
  have hlong : startingInputLength dctx.format ≤ src.length := by
    by_contra hshort
    rw [readAll_of_lt (Nat.lt_of_not_le hshort)] at ht
    exact hne (Prod.mk.inj (Except.ok.inj ht)).2
  obtain ⟨m, hm⟩ : ∃ m, src.length = m + 1 := ⟨src.length - 1, by omega⟩
  rw [hm, readAll, if_neg (Nat.not_lt.mpr hlong)] at ht
  split at ht
  next => cases ht
  next s rest hs =>
    obtain ⟨used, rfl, hused⟩ := exact_readFrame _ hs
    obtain ⟨info, hinfo, hsize⟩ := findFrameSizeInfo_of_readFrame hformat hs
    have hread := hused []
    rw [List.append_nil] at hread
    have hused' := startingInputLength_le_of_readFrame hread
    have hfirst := readAll_readFrame hread
    obtain ⟨z, hz, hx⟩ := (decompressMultiFrame_behind hfirst t.out).mp h
    refine ⟨used.length, s.out, z, ?_, by omega, ?_, ?_, ?_, hx⟩
    · rw [zstdFindFrameCompressedSize, hinfo, ← hsize]
    · rw [List.length_append]
      exact Nat.le_add_right _ _
    · rw [List.take_left]
      exact decompressMultiFrame_eq_ok.mpr ⟨s, hfirst, rfl⟩
    · rw [List.drop_left, hz]

/-- Two frames. -/
theorem decompressMultiFrame_cut_three : ∃ n y z,
    zstdFindFrameCompressedSize (frameOfThree ++ frameOfThree) = .ofNat n ∧ 0 < n ∧
      n ≤ (frameOfThree ++ frameOfThree).length ∧
      noDecode.decompressMultiFrame .default 6 ((frameOfThree ++ frameOfThree).take n) = .ok y ∧
      noDecode.decompressMultiFrame .default (6 - y.length)
        ((frameOfThree ++ frameOfThree).drop n) = .ok z ∧
      [0x61, 0x62, 0x63, 0x61, 0x62, 0x63] = y ++ z :=
  decompressMultiFrame_cut rfl (by decide +kernel) (by decide)

/-! ### All frames -/

/-- A frame of either kind, for whoever only adds up sizes. The size of one may not be known. -/
lemma addFrameSize_of_readFrame {s t : MultiFrame} {total : UInt64}
    (hformat : dctx.format = .zstd1) (hcap : dstCapacity < 2 ^ 64 - 2)
    (htotal : s.out.length ≤ dstCapacity ∧ total = .ofNat s.out.length)
    (h : d.readFrame dctx dstCapacity s src = .ok (t, rest)) :
    (∃ total', addFrameSize total src = .ok (total', rest) ∧
        t.out.length ≤ dstCapacity ∧ total' = .ofNat t.out.length) ∨
      addFrameSize total src = .error contentSizeUnknown := by
  obtain ⟨hfits, rfl⟩ := htotal
  rw [readFrame_eq_ok] at h
  split at h
  next hskip =>
    obtain ⟨n, hn, rfl, rfl⟩ := h
    left
    rw [addFrameSize, if_pos hskip.2, hn]
    exact ⟨_, rfl, hfits, rfl⟩
  next hskip =>
    obtain ⟨x, hx, rfl⟩ := h
    obtain ⟨zfh, info, hheader, hinfo, htells⟩ := findFrameSizeInfo_of_decompressFrame hskip hx
    have hroom := length_decompressFrame_le hx
    have hmagic : ¬isSkippable (readLE src 0 4) = true := fun hcontra => hskip ⟨hformat, hcontra⟩
    have hsize : zstdGetFrameContentSize src = zfh.frameContentSize := by
      rw [hformat] at hheader hskip
      have hframe := (isFrame_of_not_skippable hheader hskip).1
      rw [zstdGetFrameContentSize, getFrameHeader, hheader]
      simp [hframe]
    rw [hformat] at hinfo
    rw [addFrameSize, if_neg hmagic, hsize, hinfo]
    dsimp only
    by_cases hknown : zfh.frameContentSize = contentSizeUnknown
    · right
      rw [hknown]
      rfl
    · left
      have hcontent := htells.content hknown
      have hfcs : zfh.frameContentSize = .ofNat x.length := by
        rw [hcontent, UInt64.ofNat_toNat]
      have hlt : ¬contentSizeError ≤ zfh.frameContentSize := by
        rw [UInt64.le_iff_toNat_le, ← hcontent]
        show ¬2 ^ 64 - 2 ≤ x.length
        omega
      have hsum : (UInt64.ofNat s.out.length + UInt64.ofNat x.length).toNat =
          s.out.length + x.length := by
        rw [← UInt64.ofNat_add, UInt64.toNat_ofNat_of_lt']
        show _ < 2 ^ 64
        omega
      have hwrap : ¬UInt64.ofNat s.out.length + UInt64.ofNat x.length <
          UInt64.ofNat s.out.length := by
        rw [UInt64.lt_iff_toNat_lt, hsum, UInt64.toNat_ofNat_of_lt' (by show _ < 2 ^ 64; omega)]
        omega
      rw [if_neg hlt, hfcs, if_neg hwrap, htells.rest, ← UInt64.ofNat_add]
      refine ⟨_, rfl, ?_, ?_⟩
      · rw [List.length_append]
        omega
      · rw [List.length_append]

/-- Where decoding succeeds, the size that was found in advance is that of the content, or a frame
does not declare its own. -/
theorem findDecompressedSize_of_decompressMultiFrame (hformat : dctx.format = .zstd1)
    (hcap : dstCapacity < 2 ^ 64 - 2) (h : d.decompressMultiFrame dctx dstCapacity src = .ok x) :
    findDecompressedSize src = .ofNat x.length ∨ findDecompressedSize src = contentSizeUnknown := by
  obtain ⟨s, hs, rfl⟩ := decompressMultiFrame_eq_ok.mp h
  have hsteps : ∀ ⦃s : MultiFrame⦄ ⦃total src t rest⦄,
      s.out.length ≤ dstCapacity ∧ total = .ofNat s.out.length →
      d.readFrame dctx dstCapacity s src = .ok (t, rest) →
      (∃ total', addFrameSize total src = .ok (total', rest) ∧
          t.out.length ≤ dstCapacity ∧ total' = .ofNat t.out.length) ∨
        addFrameSize total src = .error contentSizeUnknown :=
    fun _ _ _ _ _ htotal hread => addFrameSize_of_readFrame hformat hcap htotal hread
  rw [hformat] at hs
  have hwalk : (∃ total, readAll contentSizeError (startingInputLength .zstd1) addFrameSize
        src.length 0 src = .ok (total, []) ∧ s.out.length ≤ dstCapacity ∧
          total = .ofNat s.out.length) ∨
      readAll contentSizeError (startingInputLength .zstd1) addFrameSize src.length 0 src =
        .error contentSizeUnknown :=
    readAll_simulates_or hsteps ⟨Nat.zero_le _, rfl⟩ hs
  rw [findDecompressedSize]
  rcases hwalk with ⟨total, htotal, -, rfl⟩ | hunknown
  · left
    rw [htotal]
    exact if_neg (not_not.mpr rfl)
  · right
    rw [hunknown]

theorem findDecompressedSize_of_decompressMultiFrame_three :
    findDecompressedSize frameOfThree = .ofNat [0x61, 0x62, 0x63].length ∨
      findDecompressedSize frameOfThree = contentSizeUnknown :=
  findDecompressedSize_of_decompressMultiFrame rfl (by decide) decompressMultiFrame_frameOfThree

end VZstd
