import VZstd.Frame.DecompressTurns
import VZstd.Frame.Sizes

/-!
# The header of a frame in a decompression stream

The header is collected from as many calls as it takes. When it is complete, the buffers are made
large enough for the frame, or, where all of the frame is there, it is decoded in one pass.
-/

namespace VZstd

open LittleEndian Memory Reader

variable {E : Type} {d : BlockDecoder E} {dctx : DCtx} {format : Format} {fParams : FrameHeader}
  {header body src x r : List UInt8}

/-! ### The size of a frame -/

lemma exact_skipBlock (nbBlocks : Nat) : Exact (skipBlock nbBlocks) := by
  rintro src ⟨n, last⟩ rest h
  rw [skipBlock] at h
  split at h
  next => cases h
  next cBlockSize bp hsize =>
    split at h
    next => cases h
    next hlen =>
      obtain ⟨hn, rfl⟩ := Prod.mk.inj (Except.ok.inj h)
      have hle := Nat.not_lt.mp hlen
      have htake : (src.take blockHeaderLength).length = blockHeaderLength := by
        rw [List.length_take]
        omega
      have hused : (src.take (blockHeaderLength + cBlockSize)).length =
          blockHeaderLength + cBlockSize := by
        rw [List.length_take]
        omega
      have hheader : getcBlockSize (src.take blockHeaderLength) = .ok (cBlockSize, bp) := by
        rw [← hsize, ← getcBlockSize_append htake (src.drop blockHeaderLength),
          List.take_append_drop]
      refine ⟨src.take (blockHeaderLength + cBlockSize), (List.take_append_drop _ _).symm,
        fun r => ?_⟩
      have hagain : getcBlockSize (src.take (blockHeaderLength + cBlockSize) ++ r) =
          .ok (cBlockSize, bp) := by
        rw [List.take_add, List.append_assoc, getcBlockSize_append htake, hheader]
      rw [skipBlock, hagain]
      dsimp only
      rw [if_neg (by rw [List.length_append, hused]; omega), List.drop_left' hused, hn]

lemma DCtx.IsHeader.not_skippable_append (h : dctx.IsHeader header fParams)
    (hskip : ¬(dctx.format = .zstd1 ∧ isSkippable (readLE header 0 4))) (r : List UInt8) :
    ¬(dctx.format = .zstd1 ∧ isSkippable (readLE (header ++ r) 0 4)) := by
  rintro ⟨hformat, hmagic⟩
  have hlen : 0 + 4 ≤ header.length := by
    have hstart := h.start_le
    rw [hformat] at hstart
    exact Nat.le_trans (by decide) hstart
  rw [readLE_append hlen] at hmagic
  exact hskip ⟨hformat, hmagic⟩

/-- The size of a frame that is seen in its first part is that of the whole frame. -/
lemma findFrameSizeInfo_append {info : FrameSizeInfo} (hheader : dctx.IsHeader header fParams)
    (hskip : ¬(dctx.format = .zstd1 ∧ isSkippable (readLE header 0 4)))
    (h : findFrameSizeInfo (header ++ src) dctx.format = .ok info) (r : List UInt8) :
    ∃ info', findFrameSizeInfo (header ++ (src ++ r)) dctx.format = .ok info' ∧
      info'.compressedSize = info.compressedSize := by
  have hnot : ∀ r, ¬(dctx.format = .zstd1 ∧ skippableHeaderSize ≤ (header ++ r).length ∧
      isSkippable (readLE (header ++ r) 0 4)) :=
    fun r hcontra => hheader.not_skippable_append hskip r ⟨hcontra.1, hcontra.2.2⟩
  have hread : ∀ r, getFrameHeaderAdvanced (header ++ r) dctx.format = .ok fParams ∧
      fParams.headerSize.toNat = header.length := fun r =>
    have hall := hheader.getFrameHeaderAdvanced (hheader.not_skippable_append hskip r)
    ⟨hall.1, hall.2.2⟩
  obtain ⟨hzfh, hsize⟩ := hread src
  rw [findFrameSizeInfo, if_neg (hnot src), hzfh] at h
  dsimp only at h
  rw [hsize, List.drop_left] at h
  split at h
  next => cases h
  next nbBlocks rest hwalk =>
    split at h
    next => cases h
    next hchecksum =>
      obtain rfl := Except.ok.inj h
      obtain ⟨used, rfl, hused⟩ := readLoop_exact (fun n => exact_skipBlock n) hwalk
      have hagain := hused ((header ++ (used ++ rest ++ r)).length + 1)
        (by simp only [List.length_append]; omega) (rest ++ r)
      rw [← List.append_assoc used] at hagain
      rw [findFrameSizeInfo, if_neg (hnot _), (hread _).1]
      dsimp only
      rw [hsize, List.drop_left, hagain]
      dsimp only
      have hlen : ¬(fParams.checksumFlag ≠ 0 ∧ (rest ++ r).length < 4) := by
        rintro ⟨hflag, hlt⟩
        rw [List.length_append] at hlt
        exact hchecksum ⟨hflag, by omega⟩
      rw [if_neg hlen]
      refine ⟨_, rfl, ?_⟩
      dsimp only
      split
      next hflag =>
        have hfour : ¬rest.length < 4 := fun hlt => hchecksum ⟨hflag, hlt⟩
        simp only [List.length_append, List.length_drop]
        omega
      next =>
        simp only [List.length_append]
        omega

/-! ### Frames that a stream accepts -/

/-- `ZSTD_decompressStream` takes windows to be at least this large, and limits the blocks. -/
def DCtx.streamParams (dctx : DCtx) (fParams : FrameHeader) : FrameHeader :=
  { fParams with
    windowSize := max fParams.windowSize (.ofNat (2 ^ windowLogAbsoluteMin))
    blockSizeMax :=
      if dctx.maxBlockSizeParam ≠ 0 then min fParams.blockSizeMax (.ofNat dctx.maxBlockSizeParam)
      else fParams.blockSizeMax }

/-- `header ++ body` is a frame with the content `x`, whose window is not too large. In one pass it
decodes to `x`, and its blocks keep to the window. -/
structure BlockDecoder.IsStreamFrame (d : BlockDecoder E) (dctx : DCtx) (maxWindowSize : Nat)
    (header : List UInt8) (fParams : FrameHeader) (body x : List UInt8) : Prop where
  isHeader : dctx.IsHeader header fParams
  not_skippable : ¬(dctx.format = .zstd1 ∧ isSkippable (readLE header 0 4))
  window : (max fParams.windowSize (.ofNat (2 ^ windowLogAbsoluteMin))).toNat ≤ maxWindowSize
  rest : d.AreRest (dctx.streamParams fParams) (dctx.validateChecksum fParams) false []
    d.decompressBegin body x
  decodes : ∀ room, x.length ≤ room →
    d.decompressFrame dctx room (header ++ body) = .ok (x, [])
  size : x.length < 2 ^ 64

variable {maxWindowSize room : Nat} {istart tail : List UInt8}

/-- All of the frame is there when single-pass mode is used. -/
lemma BlockDecoder.IsStreamFrame.singlePass {cSize : Nat}
    (h : d.IsStreamFrame dctx maxWindowSize header fParams body x)
    (hheader : header <+: istart) (hstart : istart <+: header ++ body ++ tail)
    (hsingle : singlePass fParams dctx.format room istart = some cSize) :
    istart.take cSize = header ++ body ∧ cSize = (header ++ body).length ∧ x.length ≤ room := by
  have hskip := fun r => h.isHeader.not_skippable_append h.not_skippable r
  rw [VZstd.singlePass] at hsingle
  split at hsingle
  next hknown =>
    split at hsingle
    next => cases hsingle
    next info hinfo =>
      split at hsingle
      next hle =>
        obtain rfl := Option.some.inj hsingle
        have hcontent : x.length = fParams.frameContentSize.toNat := h.rest.content hknown.1
        obtain ⟨s, rfl⟩ := hheader
        rw [List.append_assoc] at hstart
        have hs : s <+: body ++ tail := (List.prefix_append_right_inj _).mp hstart
        rcases Nat.le_total body.length s.length with hlong | hshort
        · obtain ⟨r, rfl⟩ := List.prefix_of_prefix_length_le (List.prefix_append body tail) hs hlong
          have hdecodes := exact_decompressFrame.append (h.decodes x.length (Nat.le_refl _)) r
          rw [List.append_assoc] at hdecodes
          obtain ⟨_, info', -, hinfo', htells⟩ :=
            findFrameSizeInfo_of_decompressFrame (hskip _) hdecodes
          obtain rfl : info' = info := Except.ok.inj (hinfo'.symm.trans hinfo)
          have hsize := htells.compressedSize
          rw [List.nil_append, ← List.append_assoc, List.length_append] at hsize
          have hcSize : info'.compressedSize = (header ++ body).length := by omega
          refine ⟨?_, hcSize, hcontent ▸ hknown.2.2⟩
          rw [← List.append_assoc, List.take_left' hcSize.symm]
        · obtain ⟨q, rfl⟩ :=
            List.prefix_of_prefix_length_le hs (List.prefix_append body tail) hshort
          obtain ⟨info', hinfo', hsame⟩ :=
            findFrameSizeInfo_append h.isHeader h.not_skippable hinfo q
          obtain ⟨_, info'', -, hinfo'', htells⟩ :=
            findFrameSizeInfo_of_decompressFrame (hskip _) (h.decodes x.length (Nat.le_refl _))
          obtain rfl : info'' = info' := Except.ok.inj (hinfo''.symm.trans hinfo')
          have hsize := htells.compressedSize
          have hrest := htells.rest
          rw [hsame] at hsize
          simp only [List.length_append, List.length_nil] at hsize hle
          have hq : q = [] := List.eq_nil_of_length_eq_zero (by omega)
          subst hq
          rw [List.append_nil] at *
          refine ⟨?_, ?_, hcontent ▸ hknown.2.2⟩
          · rw [List.take_of_length_le]
            rw [List.length_append]
            omega
          · rw [List.length_append]
            omega
      next => cases hsingle
  next => cases hsingle

lemma BlockDecoder.IsStreamFrame.decompressMultiFrame
    (h : d.IsStreamFrame dctx maxWindowSize header fParams body x) (hroom : x.length ≤ room) :
    d.decompressMultiFrame dctx room (header ++ body) = .ok x := by
  have hread : d.readFrame dctx room { moreThan1Frame := false, out := [] } (header ++ body) =
      .ok ({ moreThan1Frame := true, out := x }, []) := by
    rw [readFrame_eq_ok, if_neg (h.isHeader.not_skippable_append h.not_skippable body)]
    exact ⟨x, h.decodes room hroom, rfl⟩
  exact decompressMultiFrame_eq_ok.mpr ⟨_, readAll_readFrame hread, rfl⟩

/-! ### Headers in parts -/

/-- A part of a header is not an error: it says how much of the header is needed next. -/
lemma DCtx.IsHeader.error_of_prefix (h : dctx.IsHeader header fParams)
    (hskip : ¬(dctx.format = .zstd1 ∧ isSkippable (readLE header 0 4))) {p : List UInt8}
    (hp : p <+: header) (hlt : p.length < header.length) :
    ∃ n, VZstd.getFrameHeaderAdvanced p dctx.format = .error n ∧ isError n = false ∧
      p.length < n.toNat ∧ n.toNat ≤ header.length := by
  obtain ⟨q, rfl⟩ := hp
  have hmagic : dctx.format ≠ .magicless → readLE (p ++ q) 0 4 = magicNumber := by
    intro hformat
    by_contra hne
    have hread := (decodeFrameHeader_eq_ok.mp h.decodes).1
    have hzstd1 : dctx.format = .zstd1 := by
      cases hf : dctx.format with
      | zstd1 => rfl
      | magicless => exact absurd hf hformat
    rw [VZstd.getFrameHeaderAdvanced, if_neg (Nat.not_lt.mpr h.start_le), if_pos ⟨hformat, hne⟩,
      if_neg fun hcontra => hskip ⟨hzstd1, hcontra⟩] at hread
    cases hread
  rw [VZstd.getFrameHeaderAdvanced]
  by_cases hshort : p.length < startingInputLength dctx.format
  · have hstart : (UInt64.ofNat (startingInputLength dctx.format)).toNat =
        startingInputLength dctx.format := by cases dctx.format <;> rfl
    have hnot : isError (.ofNat (startingInputLength dctx.format)) = false := by
      cases dctx.format <;> decide
    have hoverwrite : dctx.format ≠ .magicless → overwriteMagic magicNumber p = magicNumber := by
      intro hformat
      have hfour : p.length ≤ 4 := by
        cases hf : dctx.format with
        | zstd1 =>
          rw [hf] at hshort
          exact Nat.le_of_lt_succ hshort
        | magicless => exact absurd hf hformat
      have hstartle := h.start_le
      have hlong : ((p ++ q).take 4).length = 4 := by
        rw [List.length_take]
        cases hf : dctx.format with
        | zstd1 =>
          rw [hf] at hstartle
          exact Nat.min_eq_left (Nat.le_trans (by decide) hstartle)
        | magicless => exact absurd hf hformat
      have hbytes : encode 4 magicNumber = (p ++ q).take 4 := by
        have hall := encode_decode ((p ++ q).take 4)
        rw [hlong] at hall
        rw [← hmagic hformat, readLE, List.drop_zero]
        exact hall
      have hp : ((p ++ q).take 4).take p.length = p := by
        rw [List.take_take, Nat.min_eq_left hfour, List.take_left]
      have hall := List.take_append_drop p.length ((p ++ q).take 4)
      rw [hp] at hall
      rw [overwriteMagic, show frameIdSize = 4 from rfl, hbytes, List.take_of_length_le hfour, hall,
        ← hbytes]
      decide
    rw [if_pos hshort, if_neg fun hcontra => hcontra.2.2.1 (hoverwrite hcontra.2.1)]
    refine ⟨_, rfl, hnot, ?_, ?_⟩
    · rw [hstart]
      exact hshort
    · rw [hstart]
      exact h.start_le
  · have hle := Nat.not_lt.mp hshort
    have hsize := h.size
    rw [frameHeaderSizeInternal_append hle] at hsize
    have hread : ¬(dctx.format ≠ .magicless ∧ readLE p 0 4 ≠ magicNumber) := by
      rintro ⟨hformat, hne⟩
      refine hne ?_
      rw [← hmagic hformat]
      refine (readLE_append ?_).symm
      cases hf : dctx.format with
      | zstd1 =>
        rw [hf] at hle
        exact Nat.le_of_succ_le hle
      | magicless => exact absurd hf hformat
    rw [if_neg hshort, if_neg hread, if_pos (by rw [hsize]; exact hlt)]
    refine ⟨_, rfl, isError_frameHeaderSizeInternal hle, ?_, hsize.le⟩
    rw [hsize]
    exact hlt

/-! ### Buffers -/

variable {zds : DStream E}

/-- The buffers are large enough, and no larger than they need to be, or have been. -/
lemma DStream.resizeBuffers_eq (zds : DStream E) :
    ∃ inBuffSize outBuffSize oversizedDuration,
      zds.resizeBuffers = { zds with
        inBuffSize := inBuffSize
        outBuffSize := outBuffSize
        oversizedDuration := oversizedDuration } ∧
      max zds.fParams.blockSizeMax.toNat 4 ≤ inBuffSize ∧
      decodingBufferSize zds.fParams.windowSize.toNat zds.fParams.frameContentSize
        zds.fParams.blockSizeMax.toNat ≤ outBuffSize ∧
      (outBuffSize = zds.outBuffSize ∨
        outBuffSize = decodingBufferSize zds.fParams.windowSize.toNat zds.fParams.frameContentSize
          zds.fParams.blockSizeMax.toNat) := by
  obtain ⟨n, hn⟩ : ∃ n, zds.updateOversizedDuration (max zds.fParams.blockSizeMax.toNat 4)
      (decodingBufferSize zds.fParams.windowSize.toNat zds.fParams.frameContentSize
        zds.fParams.blockSizeMax.toNat) = { zds with oversizedDuration := n } := ⟨_, rfl⟩
  rw [DStream.resizeBuffers, hn]
  dsimp only
  split
  next => exact ⟨_, _, _, rfl, Nat.le_refl _, Nat.le_refl _, .inr rfl⟩
  next hlarge =>
    refine ⟨_, _, _, rfl, ?_, ?_, .inl rfl⟩
    · exact Nat.not_lt.mp fun hlt => hlarge (.inl (.inl hlt))
    · exact Nat.not_lt.mp fun hlt => hlarge (.inl (.inr hlt))

lemma DStream.limitMemory_eq (h : (max zds.fParams.windowSize
    (.ofNat (2 ^ windowLogAbsoluteMin))).toNat ≤ zds.maxWindowSize) :
    ∃ inBuffSize outBuffSize oversizedDuration,
      zds.limitMemory = .ok { zds with
        fParams := zds.toDCtx.streamParams zds.fParams
        inBuffSize := inBuffSize
        outBuffSize := outBuffSize
        oversizedDuration := oversizedDuration } ∧
      max (zds.toDCtx.streamParams zds.fParams).blockSizeMax.toNat 4 ≤ inBuffSize ∧
      decodingBufferSize (zds.toDCtx.streamParams zds.fParams).windowSize.toNat
        zds.fParams.frameContentSize
        (zds.toDCtx.streamParams zds.fParams).blockSizeMax.toNat ≤ outBuffSize ∧
      (outBuffSize = zds.outBuffSize ∨
        outBuffSize = decodingBufferSize (zds.toDCtx.streamParams zds.fParams).windowSize.toNat
          zds.fParams.frameContentSize
          (zds.toDCtx.streamParams zds.fParams).blockSizeMax.toNat) := by
  obtain ⟨inBuffSize, outBuffSize, oversizedDuration, hresize, hin, hout, hsame⟩ :=
    ({ zds with fParams := zds.toDCtx.streamParams zds.fParams } : DStream E).resizeBuffers_eq
  refine ⟨inBuffSize, outBuffSize, oversizedDuration, ?_, hin, hout, hsame⟩
  rw [DStream.limitMemory]
  dsimp only
  rw [if_neg (Nat.not_lt.mpr h)]
  exact congrArg Except.ok hresize

lemma toNat_max (a b : UInt64) : (max a b).toNat = max a.toNat b.toNat := by
  show (if a ≤ b then b else a).toNat = _
  split
  next hle => exact (Nat.max_eq_right (UInt64.le_iff_toNat_le.mp hle)).symm
  next hle =>
    rw [UInt64.le_iff_toNat_le] at hle
    exact (Nat.max_eq_left (Nat.le_of_not_le hle)).symm

/-- Between frames, the output buffer has a size that a window could need. -/
structure DStream.Bounded (zds : DStream E) : Prop where
  maxWindowSize : zds.maxWindowSize ≤ 2 ^ windowLogMax
  outBuffSize : zds.outBuffSize < contentSizeUnknown.toNat

/-- A frame has at least one block. -/
lemma BlockDecoder.IsStreamFrame.body_ne_nil
    (h : d.IsStreamFrame dctx maxWindowSize header fParams body x) : body ≠ [] := by
  obtain ⟨blockHeader, _, _, _, _, _, _, rfl, -, hblock, -⟩ := h.rest.uncons
  have hlen := hblock.length_header
  intro hnil
  rw [(List.append_eq_nil_iff.mp hnil).1] at hlen
  cases hlen

lemma BlockDecoder.IsStreamFrame.header_ne_nil
    (h : d.IsStreamFrame dctx maxWindowSize header fParams body x) : header ≠ [] := by
  have hpos : 0 < startingInputLength dctx.format := by cases dctx.format <;> decide
  exact List.ne_nil_of_length_pos (Nat.lt_of_lt_of_le hpos h.isHeader.start_le)

lemma BlockDecoder.IsStreamFrame.blockSizeMax_le
    (h : d.IsStreamFrame dctx maxWindowSize header fParams body x) :
    (dctx.streamParams fParams).blockSizeMax.toNat ≤
      min (dctx.streamParams fParams).windowSize.toNat 131072 := by
  obtain ⟨-, -, hblock⟩ :=
    isFrame_of_not_skippable (decodeFrameHeader_eq_ok.mp h.isHeader.decodes).1 h.not_skippable
  have hfield : fParams.blockSizeMax.toNat ≤
      min (dctx.streamParams fParams).windowSize.toNat 131072 := by
    have hconst : VZstd.blockSizeMax.toNat = 131072 := rfl
    rw [hblock, toNat_min, DCtx.streamParams, toNat_max, hconst]
    omega
  refine Nat.le_trans ?_ hfield
  rw [DCtx.streamParams]
  dsimp only
  split
  next =>
    rw [toNat_min]
    exact Nat.min_le_left _ _
  next => exact Nat.le_refl _

/-- When the header is complete, the stream is ready for the first block. -/
lemma BlockDecoder.IsStreamFrame.consumeHeader
    (h : d.IsStreamFrame zds.toDCtx zds.maxWindowSize zds.headerBuffer fParams body x)
    (hb : zds.Bounded) (hstart : zds.outStart = 0) (hend : zds.outEnd = 0) :
    ∃ zds', d.consumeHeader zds fParams = .ok zds' ∧ d.Ready zds' [] body x ∧
      zds'.toDCtx = zds.toDCtx ∧ zds'.maxWindowSize = zds.maxWindowSize ∧
      zds'.inPos = zds.inPos ∧ zds'.hostageByte = zds.hostageByte := by
  have hskip : ¬(zds.format = .zstd1 ∧ isSkippable (readLE zds.headerBuffer 0 4)) :=
    h.not_skippable
  obtain ⟨inBuffSize, outBuffSize, oversizedDuration, hlimit, hin, hout, hsame⟩ :=
    ({ zds with
      toDFrame := { d.decompressBeginFrame zds.toDFrame with
        fParams := fParams
        validateChecksum := zds.toDCtx.validateChecksum fParams
        xxhState := if zds.toDCtx.validateChecksum fParams then xxh64Reset 0 else zds.xxhState
        expected := blockHeaderLength
        stage := .decodeBlockHeader } } : DStream E).limitMemory_eq h.window
  have hdecodes : zds.toDCtx.decodeFrameHeader zds.headerBuffer = .ok fParams :=
    h.isHeader.decodes
  have hread : d.consumeHeader zds fParams = ({ zds with
      toDFrame := { d.decompressBeginFrame zds.toDFrame with
        fParams := fParams
        validateChecksum := zds.toDCtx.validateChecksum fParams
        xxhState := if zds.toDCtx.validateChecksum fParams then xxh64Reset 0 else zds.xxhState
        expected := blockHeaderLength
        stage := .decodeBlockHeader } } : DStream E).limitMemory := by
    rw [BlockDecoder.consumeHeader]
    dsimp only
    rw [if_neg hskip, DFrame.readFrameHeader]
    simp only [BlockDecoder.decompressBeginFrame, hdecodes]
    rfl
  have hwindow := h.window
  have hmax := hb.maxWindowSize
  have hblock := h.blockSizeMax_le
  have hunknown : contentSizeUnknown.toNat = 2 ^ 64 - 1 := rfl
  have hlog : 2 ^ windowLogMax = 2147483648 := rfl
  have hsize : (zds.toDCtx.streamParams fParams).windowSize.toNat ≤ 2 ^ windowLogMax :=
    hwindow.trans hmax
  have hneeded : decodingBufferSize (zds.toDCtx.streamParams fParams).windowSize.toNat
      fParams.frameContentSize (zds.toDCtx.streamParams fParams).blockSizeMax.toNat =
      min fParams.frameContentSize.toNat ((zds.toDCtx.streamParams fParams).windowSize.toNat +
        (zds.toDCtx.streamParams fParams).blockSizeMax.toNat * 2 + 64) := by
    rw [decodingBufferSize, Nat.min_eq_right hblock]
    rfl
  have hbuffer := hb.outBuffSize
  refine ⟨_, hread.trans hlimit, ⟨⟨.header rfl rfl h.rest, ⟨?_, rfl⟩, ⟨0, Nat.zero_le _, rfl,
    .inr (.inr ⟨hend, rfl, rfl, rfl, rfl⟩), ?_, .inr ⟨rfl, hend⟩⟩, ?_,
    hblock.trans (Nat.min_le_right _ _), hin, ?_, ?_, ?_, ?_⟩,
    hstart.trans hend.symm, ?_⟩, rfl, rfl, rfl, rfl⟩
  · intro hvalidate
    show XXH64State.Hashed (if _ then _ else _) 0 []
    rw [if_pos hvalidate]
    exact hashed_reset 0
  · show slice zds.outBuff zds.outEnd (0 - zds.outEnd) ++ slice zds.outBuff 0 zds.outEnd <:+ []
    rw [hend, slice_zero]
    exact List.suffix_refl _
  · rw [List.length_nil, Nat.zero_add]
    exact h.size
  · exact hend ▸ Nat.zero_le _
  · show outBuffSize < contentSizeUnknown.toNat
    rcases hsame with rfl | rfl
    · exact hbuffer
    · refine Nat.lt_of_le_of_lt (hneeded.le.trans (Nat.min_le_right _ _)) ?_
      omega
  · show outBuffSize < fParams.frameContentSize.toNat →
      (zds.toDCtx.streamParams fParams).windowSize.toNat +
        (zds.toDCtx.streamParams fParams).blockSizeMax.toNat * 2 < outBuffSize
    have hle := hneeded ▸ hout
    omega
  · exact fun _ => hend
  · show outBuffSize < fParams.frameContentSize.toNat →
      zds.outStart + (zds.toDCtx.streamParams fParams).blockSizeMax.toNat ≤ outBuffSize
    have hle := hneeded ▸ hout
    omega

/-! ### Frames that have been written -/

variable {w : Nat} {p : AppliedParams} {pledgedSrcSize : UInt64} {bytes : List UInt8}

lemma toNat_blockSizeMax_streamParams (fParams : FrameHeader)
    (hparam : dctx.maxBlockSizeParam < 2 ^ 64) :
    (dctx.streamParams fParams).blockSizeMax.toNat = dctx.blockSizeMax fParams := by
  rw [DCtx.streamParams, DCtx.blockSizeMax]
  dsimp only
  split
  next => rw [toNat_min, UInt64.toNat_ofNat_of_lt' hparam]
  next => rfl

/-- The window of a frame is that of the parameters, or holds all of the content. -/
lemma BlockDecoder.IsFrame.windowSize (h : d.IsFrame w p pledgedSrcSize x bytes)
    (hlen : x.length < 2 ^ 64) (headerSize : Nat) :
    let fParams := (p.applied pledgedSrcSize).frameHeader pledgedSrcSize 0 headerSize
    (fParams.windowSize.toNat = 2 ^ p.windowLog ∨ fParams.windowSize.toNat = x.length) ∧
      fParams.windowSize.toNat ≤ 2 ^ p.windowLog := by
  rw [CCtxParams.frameHeader]
  dsimp only
  split
  next hsingle =>
    obtain ⟨hflag, hle⟩ := Bool.and_eq_true_iff.mp hsingle
    have hle := UInt64.le_iff_toNat_le.mp (of_decide_eq_true hle)
    rw [CCtxParams.toNat_windowSize, windowLog_applied] at hle
    refine ⟨.inr ?_, hle⟩
    rw [h.pledged (contentSizeFlag_applied hflag), UInt64.toNat_ofNat_of_lt' hlen]
  next =>
    rw [CCtxParams.toNat_windowSize, windowLog_applied]
    exact ⟨.inl rfl, Nat.le_refl _⟩

/-- A frame that has been written is one that a stream accepts. -/
lemma BlockDecoder.IsFrame.isStreamFrame (h : d.IsFrame w p pledgedSrcSize x bytes)
    (hformat : dctx.format = p.format) (hparam : dctx.maxBlockSizeParam < 2 ^ 64)
    (hmax : dctx.maxBlockSizeParam = 0 ∨ p.maxBlockSize ≤ dctx.maxBlockSizeParam)
    (hw : w ≤ 2 ^ p.windowLog) (hwindow : 2 ^ p.windowLog ≤ maxWindowSize)
    (hlen : x.length < 2 ^ 64) :
    ∃ header fParams body, bytes = header ++ body ∧
      d.IsStreamFrame dctx maxWindowSize header fParams body x := by
  have hdecodes : ∀ room, x.length ≤ room → d.decompressFrame dctx room bytes = .ok (x, []) :=
    fun room hroom => by
      have hframe := h.decompressFrame hformat hmax hlen hroom []
      rwa [List.append_nil] at hframe
  obtain ⟨k, blocks, e, digest, hk, hkwindow, hle, hblocks, hdigest, rfl⟩ := h.parts
  have hheader : dctx.IsHeader ((p.applied pledgedSrcSize).header pledgedSrcSize 0) _ :=
    isHeader_header hformat
  have hskip : ¬(dctx.format = .zstd1 ∧
      isSkippable (readLE ((p.applied pledgedSrcSize).header pledgedSrcSize 0) 0 4) = true) := by
    rintro ⟨hzstd1, hmagic⟩
    have hread := @CCtxParams.readLE_header (p.applied pledgedSrcSize).toCCtxParams pledgedSrcSize 0
      [] (by rw [format_applied, ← hformat, hzstd1])
    rw [List.append_nil] at hread
    rw [hread] at hmagic
    exact absurd hmagic (by decide)
  generalize hsize : ((p.applied pledgedSrcSize).header pledgedSrcSize 0).length = headerSize
    at hheader
  obtain ⟨hwindowSize, hlog⟩ := h.windowSize hlen headerSize
  have hallowed : k ≤ dctx.blockSizeMax ((p.applied pledgedSrcSize).frameHeader pledgedSrcSize 0
    headerSize) := h.le_blockSizeMax hmax hlen hk hkwindow hle
  have hflag : ((p.applied pledgedSrcSize).frameHeader pledgedSrcSize 0 headerSize).checksumFlag =
      p.checksumFlag.toNat := checksumFlag_frameHeader p pledgedSrcSize headerSize
  have hcontent := h.content hlen headerSize
  generalize (p.applied pledgedSrcSize).frameHeader pledgedSrcSize 0 headerSize = fParams at *
  have hmin : 2 ^ windowLogAbsoluteMin ≤ 2 ^ p.windowLog :=
    Nat.pow_le_pow_right Nat.two_pos p.le_windowLog
  have htoNat : (UInt64.ofNat (2 ^ windowLogAbsoluteMin)).toNat = 2 ^ windowLogAbsoluteMin := rfl
  have hwidest : (max fParams.windowSize (.ofNat (2 ^ windowLogAbsoluteMin))).toNat =
      max fParams.windowSize.toNat (2 ^ windowLogAbsoluteMin) := by
    rw [toNat_max, htoNat]
  have htrailer : IsTrailer fParams (dctx.validateChecksum fParams) x
      (if p.checksumFlag then encode 4 digest.toNat else []) := by
    rw [IsTrailer, hflag]
    cases hchecksum : p.checksumFlag with
    | false => rfl
    | true =>
      rw [if_pos (by decide), if_pos rfl]
      refine ⟨length_encode 4 _, fun _ => ?_⟩
      obtain ⟨state, hstate, rfl⟩ := hdigest hchecksum
      rw [hstate.digest hlen, decode_encode_mod]
      rfl
  refine ⟨_, fParams, _, rfl, hheader, hskip, ?_, ⟨⟨blocks, _, rfl, htrailer, ?_⟩, hcontent⟩,
    hdecodes, hlen⟩
  · rw [hwidest]
    omega
  · rw [if_neg Bool.false_ne_true]
    refine ⟨e, BlockDecoder.AreBlocks.mono (hblocks.widen ?_) ?_⟩
    · show w ≤ (max fParams.windowSize (.ofNat (2 ^ windowLogAbsoluteMin))).toNat ∨
        0 + x.length ≤ (max fParams.windowSize (.ofNat (2 ^ windowLogAbsoluteMin))).toNat
      rw [hwidest]
      omega
    · rw [toNat_blockSizeMax_streamParams fParams hparam]
      exact hallowed

end VZstd
