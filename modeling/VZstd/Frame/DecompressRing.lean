import VZstd.Frame.DecompressStream

/-!
# The output buffer of a decompression stream

What has been decoded of a frame goes round in the output buffer. Wherever the buffer is restarted,
the window of the next block is still in it: behind the new part lies the end of the old one.
-/

namespace VZstd

open Memory

variable {E : Type} {d : BlockDecoder E} {buffer : Nat → UInt8} {pos old : Nat}
  {x y z bytes rest src : List UInt8}

/-- The content `x` of a frame ends at `pos` of a buffer, of which the part from `pos` to `old` is
still what was there before the buffer was restarted. -/
structure DFrame.Ring (zds : DFrame E) (buffer : Nat → UInt8) (pos old : Nat) (x : List UInt8) :
    Prop where
  prefixStart : zds.prefixStart = 0
  continuity : (zds.previousDstEnd = some pos ∧ zds.dictEnd = old ∧ zds.dictLength = old) ∨
    (pos = 0 ∧ 0 < old ∧ zds.previousDstEnd = some old) ∨
    pos = 0 ∧ old = 0 ∧ zds.previousDstEnd = none ∧ zds.dictEnd = 0 ∧ zds.dictLength = 0
  suffix : slice buffer pos (old - pos) ++ slice buffer 0 pos <:+ x
  window : zds.fParams.windowSize.toNat ≤ old ∨ old = 0 ∧ pos = x.length

section Ring

variable {zds zds' : DFrame E}

/-- The parts of the buffer that a block may refer to. -/
lemma DFrame.Ring.checkContinuity (h : zds.Ring buffer pos old x) {capacity : Nat}
    (hcap : 0 < old → pos = 0 → 0 < capacity) :
    (zds.checkContinuity pos capacity).Ring buffer pos old x ∧
      (zds.checkContinuity pos capacity).dictEnd = old ∧
      (zds.checkContinuity pos capacity).dictLength = old := by
  rw [DFrame.checkContinuity]
  rcases h.continuity with ⟨hprevious, hend, hlength⟩ | ⟨rfl, hold, hprevious⟩ |
    ⟨rfl, rfl, hprevious, hend, hlength⟩
  · rw [if_neg (by simp [hprevious])]
    exact ⟨h, hend, hlength⟩
  · have hne : some 0 ≠ some old := by simp [hold.ne]
    rw [hprevious, if_pos ⟨hne, hcap hold rfl⟩]
    have hlength : old - zds.prefixStart = old := by rw [h.prefixStart, Nat.sub_zero]
    exact ⟨⟨rfl, .inl ⟨rfl, rfl, hlength⟩, h.suffix, h.window⟩, rfl, hlength⟩
  · rw [hprevious]
    split
    next =>
      have hlength : 0 - zds.prefixStart = 0 := Nat.zero_sub _
      exact ⟨⟨rfl, .inl ⟨rfl, rfl, hlength⟩, h.suffix, h.window⟩, rfl, hlength⟩
    next => exact ⟨h, hend, hlength⟩

/-- The window is still in the buffer. -/
lemma DFrame.Ring.rtake_suffix_history (h : zds.Ring buffer pos old x) {capacity : Nat}
    (hcap : 0 < old → pos = 0 → 0 < capacity) :
    x.rtake zds.fParams.windowSize.toNat <:+
      (zds.checkContinuity pos capacity).history buffer pos := by
  obtain ⟨hring, hend, hlength⟩ := h.checkContinuity hcap
  rw [DFrame.history, hend, hlength, hring.prefixStart, Nat.sub_self, Nat.sub_zero]
  have hold : slice buffer pos (old - pos) <:+ slice buffer 0 old := by
    rcases Nat.le_total pos old with hle | hle
    · have hdrop := slice_drop buffer 0 hle
      rw [Nat.zero_add] at hdrop
      rw [← hdrop]
      exact List.drop_suffix _ _
    · rw [Nat.sub_eq_zero_of_le hle]
      exact List.nil_suffix
  have hboth : slice buffer pos (old - pos) ++ slice buffer 0 pos <:+
      slice buffer 0 old ++ slice buffer 0 pos := by
    obtain ⟨r, hr⟩ := hold
    exact ⟨r, by rw [← List.append_assoc, hr]⟩
  refine List.IsSuffix.trans ?_ hboth
  refine List.suffix_of_suffix_length_le (rtake_suffix x _) h.suffix ?_
  rw [List.length_append, slice_length, slice_length, List.rtake, List.length_drop]
  rcases h.window with hwindow | ⟨rfl, rfl⟩ <;> omega

/-- A part that is written behind the others. -/
lemma DFrame.Ring.continues (h : zds.Ring buffer pos old x) (hend : zds.dictEnd = old)
    (hlength : zds.dictLength = old) (h' : zds.Continues zds' pos x z) :
    zds'.Ring (write buffer pos z) (pos + z.length) old (x ++ z) where
  prefixStart := h'.prefixStart.trans h.prefixStart
  continuity := by
    rcases h'.previousDstEnd with hprevious | ⟨rfl, hprevious⟩
    · exact .inl ⟨hprevious, h'.dictEnd.trans hend, h'.dictLength.trans hlength⟩
    · rw [h'.dictEnd, h'.dictLength, hprevious]
      exact h.continuity
  suffix := by
    have hbehind : slice (write buffer pos z) (pos + z.length) (old - (pos + z.length)) <:+
        slice buffer pos (old - pos) := by
      rw [slice_write_after buffer (Nat.le_refl _)]
      rcases Nat.le_total (pos + z.length) old with hle | hle
      · have hdrop := slice_drop buffer pos (show z.length ≤ old - pos by omega)
        rw [Nat.sub_sub] at hdrop
        rw [← hdrop]
        exact List.drop_suffix _ _
      · rw [Nat.sub_eq_zero_of_le hle]
        exact List.nil_suffix
    have hnew := slice_write_append buffer 0 pos z
    rw [Nat.zero_add] at hnew
    rw [hnew, ← List.append_assoc]
    obtain ⟨r, hr⟩ := hbehind
    obtain ⟨q, hq⟩ := h.suffix
    refine ⟨q ++ r, ?_⟩
    rw [← hq, ← hr]
    simp
  window := by
    rw [h'.fParams, List.length_append]
    exact h.window.imp_right fun ⟨hold, hpos⟩ => ⟨hold, by rw [hpos]⟩

/-- The buffer is restarted. -/
lemma DFrame.Ring.restart (h : zds.Ring buffer pos old x)
    (hwindow : zds.fParams.windowSize.toNat ≤ pos) (hpos : 0 < pos) :
    zds.Ring buffer 0 pos x where
  prefixStart := h.prefixStart
  continuity := by
    rcases h.continuity with ⟨hprevious, -⟩ | ⟨rfl, -⟩ | ⟨rfl, -⟩
    · exact .inr (.inl ⟨rfl, hpos, hprevious⟩)
    · exact absurd hpos (Nat.lt_irrefl 0)
    · exact absurd hpos (Nat.lt_irrefl 0)
  suffix := by
    rw [slice_zero, List.append_nil, Nat.sub_zero]
    exact (List.suffix_append _ _).trans h.suffix
  window := .inl hwindow

end Ring

/-! ### What is asked for -/

/-- What the next step asks for is still in the frame, and fits into the input buffer. -/
lemma BlockDecoder.Ahead.expected_spec {zds : DFrame E} (h : d.Ahead zds x bytes y) :
    zds.stage ≠ .skipFrame ∧ zds.expected ≤ bytes.length ∧
      (zds.expected = 0 → zds.stage = .getFrameHeaderSize ∧ bytes = [] ∧ y = []) ∧
      zds.expected ≤ max zds.fParams.blockSizeMax.toNat 4 := by
  have hlength : blockHeaderLength = 3 := rfl
  cases h with
  | header hstage hexpected h =>
    obtain ⟨header, body, _, _, _, rest, _, rfl, -, hblock, -⟩ := h.uncons
    have hheader := hblock.length_header
    rw [hexpected, List.length_append, hheader, hlength]
    exact ⟨by simp [hstage], by omega, fun hzero => absurd hzero (by decide), by omega⟩
  | @block body _ _ _ _ last hstage hexpected hne hbody _ _ _ =>
    have hpos := List.length_pos_iff.mpr hne
    rw [hexpected, List.length_append]
    refine ⟨?_, by omega, fun hzero => absurd hzero hpos.ne', by omega⟩
    rw [hstage]
    cases last <;> simp
  | checksum hstage hexpected hflag h =>
    rw [IsTrailer, if_pos hflag] at h
    rw [hexpected, h.1]
    exact ⟨by simp [hstage], Nat.le_refl _, fun hzero => absurd hzero (by decide), by omega⟩
  | ended hstage hexpected =>
    rw [hexpected]
    exact ⟨by simp [hstage], Nat.zero_le _, fun _ => ⟨hstage, rfl, rfl⟩, Nat.zero_le _⟩

/-- Where content is left, it is the declared one. -/
lemma BlockDecoder.Ahead.content {zds : DFrame E} (h : d.Ahead zds x bytes y) (hne : y ≠ [])
    (hknown : zds.fParams.frameContentSize ≠ contentSizeUnknown) :
    (x ++ y).length = zds.fParams.frameContentSize.toNat := by
  cases h with
  | header _ _ h => exact h.content hknown
  | block _ _ _ _ _ _ _ h =>
    rw [← List.append_assoc]
    exact h.content hknown
  | checksum => exact absurd rfl hne
  | ended => exact absurd rfl hne

/-- Asking again for as much as is asked for. -/
lemma DFrame.next_spec (zds : DFrame E) (hpos : zds.expected ≠ 0) (n : Nat) :
    0 < zds.nextSrcSizeToDecompressWithInputSize n ∧
      zds.nextSrcSizeToDecompressWithInputSize n ≤ zds.expected ∧
      zds.nextSrcSizeToDecompressWithInputSize (zds.nextSrcSizeToDecompressWithInputSize n) =
        zds.nextSrcSizeToDecompressWithInputSize n ∧
      zds.nextSrcSizeToDecompressWithInputSize zds.expected = zds.expected := by
  simp only [DFrame.nextSrcSizeToDecompressWithInputSize]
  split
  next => exact ⟨Nat.pos_of_ne_zero hpos, Nat.le_refl _, rfl, rfl⟩
  next =>
    split
    next => exact ⟨Nat.pos_of_ne_zero hpos, Nat.le_refl _, rfl, rfl⟩
    next => omega

lemma BlockDecoder.Ahead.next_of_ended {zds : DFrame E} (h : d.Ahead zds x bytes y)
    (hzero : zds.expected = 0) (n : Nat) : zds.nextSrcSizeToDecompressWithInputSize n = 0 := by
  obtain ⟨hstage, -⟩ := h.expected_spec.2.2.1 hzero
  rw [DFrame.nextSrcSizeToDecompressWithInputSize, if_pos (by simp [hstage]), hzero]

/-! ### In a frame -/

/-- `x` has been decoded of a frame: `bytes` are what has not been decoded of it, with the content
`y`. The end of `x` is in the output buffer. -/
structure BlockDecoder.Going (d : BlockDecoder E) (zds : DStream E) (x bytes y : List UInt8) :
    Prop where
  ahead : d.Ahead zds.toDFrame x bytes y
  counts : zds.Counts x
  ring : ∃ old, old ≤ zds.outBuffSize ∧ zds.Ring zds.outBuff zds.outEnd old x
  size : x.length + y.length < 2 ^ 64
  blockSizeMax_le : zds.fParams.blockSizeMax.toNat ≤ 131072
  inBuffSize : max zds.fParams.blockSizeMax.toNat 4 ≤ zds.inBuffSize
  outEnd_le : zds.outEnd ≤ zds.outBuffSize
  outBuffSize : zds.outBuffSize < contentSizeUnknown.toNat
  /-- Either the buffer is large enough for a window and two blocks. -/
  windowed : zds.outBuffSize < zds.fParams.frameContentSize.toNat →
    zds.fParams.windowSize.toNat + zds.fParams.blockSizeMax.toNat * 2 < zds.outBuffSize
  /-- Or it is large enough for all, and never restarted. -/
  whole : zds.fParams.frameContentSize.toNat ≤ zds.outBuffSize → zds.outEnd = x.length

/-- All that has been decoded has been flushed, and there is room for the next block. -/
structure BlockDecoder.Ready (d : BlockDecoder E) (zds : DStream E) (x bytes y : List UInt8) :
    Prop extends d.Going zds x bytes y where
  flushed : zds.outStart = zds.outEnd
  fits : zds.outBuffSize < zds.fParams.frameContentSize.toNat →
    zds.outStart + zds.fParams.blockSizeMax.toNat ≤ zds.outBuffSize

/-- `bytes` are what is to be read of a frame, and `y` is what is to be put of its content. -/
inductive BlockDecoder.Stands (d : BlockDecoder E) (zds : DStream E) :
    (bytes y : List UInt8) → Prop
  | read {x bytes y : List UInt8} (hstage : zds.streamStage = .read) (hin : zds.inPos = 0)
      (h : d.Ready zds x bytes y) : Stands d zds bytes y
  | load {x bytes y : List UInt8} (hstage : zds.streamStage = .load)
      (hlt : zds.inPos < zds.expected)
      (h : d.Ready zds x (slice zds.inBuff 0 zds.inPos ++ bytes) y) : Stands d zds bytes y
  | flush {x bytes y : List UInt8} (hstage : zds.streamStage = .flush) (hin : zds.inPos = 0)
      (hle : zds.outStart ≤ zds.outEnd) (h : d.Going zds x bytes y) :
      Stands d zds bytes (slice zds.outBuff zds.outStart (zds.outEnd - zds.outStart) ++ y)
  | ended {x : List UInt8} (hstage : zds.streamStage = .init) (hin : zds.inPos = 0)
      (hexpected : zds.expected = 0) (h : d.Ready zds x [] []) : Stands d zds [] []

variable {zds zds' : DStream E}

/-- The stage of the stream, and its input buffer, may change. -/
lemma BlockDecoder.Going.congr (h : d.Going zds x bytes y) (hframe : zds'.toDFrame = zds.toDFrame)
    (hout : zds'.outBuff = zds.outBuff) (hend : zds'.outEnd = zds.outEnd)
    (hsize : zds'.outBuffSize = zds.outBuffSize) (hin : zds'.inBuffSize = zds.inBuffSize) :
    d.Going zds' x bytes y := by
  constructor
  · rw [hframe]
    exact h.ahead
  · rw [hframe]
    exact h.counts
  · rw [hframe, hout, hend, hsize]
    exact h.ring
  · exact h.size
  · rw [hframe]
    exact h.blockSizeMax_le
  · rw [hframe, hin]
    exact h.inBuffSize
  · rw [hend, hsize]
    exact h.outEnd_le
  · rw [hsize]
    exact h.outBuffSize
  · rw [hframe, hsize]
    exact h.windowed
  · rw [hframe, hsize, hend]
    exact h.whole

/-- There is room for the next block. -/
lemma BlockDecoder.Ready.room (h : d.Ready zds x bytes y) :
    min zds.fParams.blockSizeMax.toNat y.length ≤ zds.outBuffSize - zds.outStart := by
  rcases Nat.lt_or_ge zds.outBuffSize zds.fParams.frameContentSize.toNat with hlt | hge
  · have hfits := h.fits hlt
    omega
  · by_cases hnil : y = []
    · rw [hnil, List.length_nil, Nat.min_zero]
      exact Nat.zero_le _
    · have hknown : zds.fParams.frameContentSize ≠ contentSizeUnknown := by
        intro heq
        rw [heq] at hge
        exact absurd h.outBuffSize (Nat.not_lt.mpr hge)
      have hcontent := h.ahead.content hnil hknown
      have hwhole := h.whole hge
      have hflushed := h.flushed
      rw [List.length_append] at hcontent
      omega

/-- What a step changes of the state of the stream. -/
structure DStream.Steps (zds zds' : DStream E) (z : List UInt8) : Prop where
  toDCtx : zds'.toDCtx = zds.toDCtx
  maxWindowSize : zds'.maxWindowSize = zds.maxWindowSize
  fParams : zds'.fParams = zds.fParams
  outBuffSize : zds'.outBuffSize = zds.outBuffSize
  outStart : zds'.outStart = zds.outStart
  inPos : zds'.inPos = zds.inPos
  hostageByte : zds'.hostageByte = zds.hostageByte
  outEnd : zds'.outEnd = zds.outStart + z.length
  pending : slice zds'.outBuff zds'.outStart z.length = z
  streamStage : zds'.streamStage = .flush ∨ zds'.streamStage = .read ∧ z = []

/-- A step that is given what it asks for. -/
lemma BlockDecoder.Ready.decompressContinueStream (h : d.Ready zds x (src ++ rest) y)
    (hne : src ≠ []) (hlen : src.length = zds.nextSrcSizeToDecompressWithInputSize src.length) :
    ∃ zds' z w, d.decompressContinueStream zds src = .ok zds' ∧ y = z ++ w ∧
      d.Going zds' (x ++ z) rest w ∧ zds.Steps zds' z := by
  obtain ⟨old, hold, hring⟩ := h.ring
  have hflushed := h.flushed
  have hskip : decide (zds.stage = .skipFrame) = false :=
    decide_eq_false h.ahead.expected_spec.1
  rw [← hflushed] at hring
  have hcap : 0 < old → zds.outStart = 0 → 0 < zds.outBuffSize - zds.outStart := by omega
  have hroom := h.room
  obtain ⟨hring', hend, hlength⟩ := hring.checkContinuity hcap
  obtain ⟨-, hdctx, hparams, -, -⟩ :=
    checkContinuity_spec (x := x) zds.toDFrame zds.outStart (zds.outBuffSize - zds.outStart)
  have hsize : x.length < 2 ^ 64 := Nat.lt_of_le_of_lt (Nat.le_add_right _ _) h.size
  obtain ⟨dctx, z, w, hstep, rfl, hahead, hcontinues, hle⟩ := h.ahead.decompressContinue hne hlen
    (hring.rtake_suffix_history hcap) hroom h.counts hsize
  have hdctx' : dctx.toDCtx = zds.toDCtx := hcontinues.toDCtx.trans hdctx
  have hparams' : dctx.fParams = zds.fParams := hcontinues.fParams.trans hparams
  have hz : z.length ≤ zds.outBuffSize - zds.outStart := by
    rw [List.length_append] at hroom
    omega
  have hzsize := h.size
  rw [List.length_append] at hzsize
  have hend_le := h.outEnd_le
  have hgoing : d.Going { zds with
      toDFrame := dctx
      outBuff := write zds.outBuff zds.outStart z
      outEnd := zds.outStart + z.length } (x ++ z) rest w := by
    constructor
    · exact hahead
    · exact hcontinues.counts
    · exact ⟨old, hold, hring'.continues hend hlength hcontinues⟩
    · rw [List.length_append]
      omega
    · exact hparams' ▸ h.blockSizeMax_le
    · exact hparams' ▸ h.inBuffSize
    · show zds.outStart + z.length ≤ zds.outBuffSize
      omega
    · exact h.outBuffSize
    · exact hparams' ▸ h.windowed
    · intro hge
      have hwhole := h.whole (hparams' ▸ hge)
      show zds.outStart + z.length = (x ++ z).length
      rw [List.length_append, hflushed, hwhole]
  have hpending : slice (write zds.outBuff zds.outStart z) zds.outStart z.length = z :=
    slice_write_self _ _ _
  rw [BlockDecoder.decompressContinueStream, hskip]
  simp only [Bool.false_eq_true, if_false, hstep]
  by_cases hnil : z.length = 0
  · obtain rfl := List.eq_nil_of_length_eq_zero hnil
    rw [if_pos ⟨rfl, trivial⟩]
    exact ⟨_, [], w, rfl, rfl, hgoing.congr rfl rfl hflushed.symm rfl rfl,
      ⟨hdctx', rfl, hparams', rfl, rfl, rfl, rfl, hflushed.symm, hpending, .inr ⟨rfl, rfl⟩⟩⟩
  · rw [if_neg (fun hcontra => hnil hcontra.1)]
    exact ⟨_, z, w, rfl, rfl, hgoing.congr rfl rfl rfl rfl rfl,
      ⟨hdctx', rfl, hparams', rfl, rfl, rfl, rfl, rfl, hpending, .inl rfl⟩⟩

end VZstd
