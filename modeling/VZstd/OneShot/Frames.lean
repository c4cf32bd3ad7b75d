import VZstd.OneShot.Formats

/-!
# Frames back to back

zstd decodes any number of frames, one behind the other. The array for what they hold is as long as
the header at the start declares, which is the content of the first frame.
-/

namespace VZstd

open Proc

variable {S Op Op' D K K' : Type}

/-- `f` was made by `compress` from `x`, or is a skippable frame, whose content is empty. -/
inductive SimpleApi.Frame (api : SimpleApi) : List UInt8 → List UInt8 → Prop where
  | compressed {S Op K : Type} (w : World S Op K) (x : ByteArr) (f : List UInt8)
      (h : outcome (VZstd.compress api x w) = .ok f) : api.Frame f x.1
  | skippable (magicVariant : Fin 16) (payload : List UInt8) (h : payload.length < 2 ^ 32) :
      api.Frame (skippableFrame magicVariant payload) []

/-- With room for all contents, `decompress` decodes frames back to back. -/
def SimpleApi.DecodesFrames (api : SimpleApi)
    (decompress : (dstCapacity : UInt64) → (src : List UInt8) → (srcSize : UInt64) → Written) :
    Prop :=
  ∀ fs xs dstCapacity, List.Forall₂ api.Frame fs xs → fs.flatten.length < 2 ^ 31 →
    xs.flatten.length ≤ dstCapacity.toNat →
    decompress dstCapacity fs.flatten (usize fs.flatten.length) = .all xs.flatten

/-- `ZSTD_getFrameContentSize` reads the header at the start of a buffer. -/
def SimpleApi.ReadsHeader (api : SimpleApi) : Prop :=
  ∀ src : ByteArr,
    api.getFrameContentSize src.1 (usize src.1.length) = zstdGetFrameContentSize src.1

/-! ### The declared size -/

variable {api : SimpleApi} {src : ByteArr} {f x : List UInt8} {fs xs : List (List UInt8)}

/-- What `compress` returns is what `ZSTD_compress` wrote, with room for the bound. -/
lemma compress_ok (h : api.RoundTrips) {w : World S Op K}
    (hf : outcome (compress api src w) = .ok f) :
    ∃ dstCapacity, zstdCompressBound (usize src.1.length) ≤ dstCapacity ∧
      dstCapacity.toNat < 2 ^ 31 ∧
      let r := api.compress dstCapacity src.1 (usize src.1.length) defaultCompressLevel
      isError r.ret = false ∧ r.bytes = f := by
  have hlen : src.1.length ≤ 2139127680 := by
    by_contra hlong
    have haborts := compressWithLevel_aborts api (compressMaxLen_neg hlong) defaultCompressLevel w
    rw [← compress, hf] at haborts
    cases haborts
  have hnonneg := ((allocatesBound_iff src).mpr hlen).1
  obtain ⟨hroom, hsize, hlt⟩ := usize_compressMaxLen hlen
  have hcompresses := h src.1 defaultCompressLevel _ src.2 hroom
  rw [compress, outcome_compressWithLevel hnonneg (hsize ▸ hcompresses.within)] at hf
  refine ⟨_, hroom, hsize.trans_lt hlt, ?_⟩
  rcases Written.result_cases (api.compress (usize (compressMaxLen src)) src.1
    (usize src.1.length) defaultCompressLevel) with ⟨_, e, he⟩ | ⟨hok, hr⟩
  · rw [hf] at he
    cases he
  · exact ⟨hok, Except.ok.inj (hr.symm.trans hf)⟩

lemma reads_of_compress (h : api.RoundTrips) {w : World S Op K}
    (hf : outcome (compress api src w) = .ok f) : f.length < 2 ^ 31 ∧ api.Reads f src.1 := by
  obtain ⟨dstCapacity, hroom, hcap, hok, rfl⟩ := compress_ok h hf
  have hcompresses := h src.1 defaultCompressLevel dstCapacity src.2 hroom
  exact ⟨(hcompresses.within hok).2.trans_lt hcap, hcompresses.reads hok⟩

/-- A buffer that begins with a frame declares the content of that frame. -/
lemma SimpleApi.Frame.contentSize (h : api.Frame f x) (hroundTrips : api.RoundTrips)
    (hheader : api.ReadsHeader) (r : List UInt8) :
    x.length < 2 ^ 31 ∧ zstdGetFrameContentSize (f ++ r) = .ofNat x.length := by
  cases h with
  | compressed w x f hf =>
    obtain ⟨hlen, hreads⟩ := reads_of_compress hroundTrips hf
    have hsize : zstdGetFrameContentSize f = .ofNat x.1.length :=
      (hheader ⟨f, hlen⟩).symm.trans hreads.contentSize
    have hne : zstdGetFrameContentSize f ≠ contentSizeError := by
      rw [hsize]
      exact ofNat_length_ne_contentSizeError x.2
    exact ⟨x.2, (zstdGetFrameContentSize_append hne r).trans hsize⟩
  | skippable magicVariant payload hpayload =>
    exact ⟨by decide, zstdGetFrameContentSize_skippableFrame magicVariant hpayload r⟩

lemma declaredSize_frames (h : api.Frame f x) (hroundTrips : api.RoundTrips)
    (hheader : api.ReadsHeader) (hsrc : src.1 = (f :: fs).flatten) :
    x.length < 2 ^ 31 ∧ (declaredSize api src).toNat = x.length := by
  obtain ⟨hlen, hsize⟩ := h.contentSize hroundTrips hheader fs.flatten
  refine ⟨hlen, ?_⟩
  rw [declaredSize, hheader src, hsrc, List.flatten_cons, hsize,
    toNat_ofNat_length (hlen.trans (by decide))]

/-! ### Concatenation -/

/-- What has room for the first content only returns all contents if the others are empty. -/
lemma concatenates_iff {o : Except Stop (List UInt8)} {r : Written} (hx : x.length < 2 ^ 31)
    (hlength : ∀ {y}, o = .ok y → y.length ≤ x.length) (hreturns : r.Within x.length → o = r.result)
    (hr : (x :: xs).flatten.length ≤ x.length → r = .all (x :: xs).flatten) :
    o = .ok (x :: xs).flatten ↔ ∀ y ∈ xs, y = [] := by
  rw [← List.flatten_eq_nil_iff]
  constructor
  · intro ho
    have hle := hlength ho
    rw [List.flatten_cons, List.length_append] at hle
    exact List.eq_nil_of_length_eq_zero (by omega)
  · intro hrest
    have hall : (x :: xs).flatten = x := by rw [List.flatten_cons, hrest, List.append_nil]
    have hlen : x.length < 2 ^ 32 := hx.trans (by decide)
    rw [hall] at hr ⊢
    rw [hreturns (hr (Nat.le_refl _) ▸ Written.within_all hlen (Nat.le_refl _)),
      hr (Nat.le_refl _), Written.result_all hlen]

/-- For frames back to back, each made by `compress` or skippable, decompression without and with a
context returns the concatenation of the contents if and only if all contents but the first are
empty. -/
theorem decompress_frames_iff {dapi : DecompressApi D} {w : World S Op K} {v : World D Op' K'}
    (hroundTrips : api.RoundTrips) (hheader : api.ReadsHeader)
    (hdecodes : api.DecodesFrames api.decompress)
    (hcontext : api.DecodesFrames fun dstCapacity src srcSize =>
      (dapi.decompressDCtx v.codec dstCapacity src srcSize).2)
    (h : List.Forall₂ api.Frame (f :: fs) (x :: xs)) (hsrc : src.1 = (f :: fs).flatten) :
    (outcome (decompress api src w) = .ok (x :: xs).flatten ↔ ∀ y ∈ xs, y = []) ∧
      (outcome (contextDecompress api dapi src v) = .ok (x :: xs).flatten ↔
        ∀ y ∈ xs, y = []) := by
  obtain ⟨hx, hsize⟩ := declaredSize_frames (List.forall₂_cons.mp h).1 hroundTrips hheader hsrc
  have hfit : (f :: fs).flatten.length < 2 ^ 31 := hsrc ▸ src.2
  have hcap : (usize x.length).toNat = x.length := usize_natCast_toNat hx
  constructor
  · refine concatenates_iff hx (length_of_decompress hsize hx)
      (fun hr => outcome_decompress hsize hx hr w) fun hle => ?_
    rw [hsrc]
    exact hdecodes _ _ _ h hfit (hle.trans hcap.ge)
  · refine concatenates_iff hx (length_of_contextDecompress hsize hx)
      (fun hr => outcome_contextDecompress hsize hx hr) fun hle => ?_
    rw [hsrc]
    exact hcontext _ _ _ h hfit (hle.trans hcap.ge)

/-! ### The functions that store -/

lemma rawApi_readsHeader : rawApi.ReadsHeader := fun src =>
  congrArg zstdGetFrameContentSize (take_usize (src.2.trans (by decide)))

/-- The step lemma: a frame at the start is read, and nothing behind it. -/
lemma readFrame_of_frame (h : rawApi.Frame f x) (r : List UInt8) :
    f ≠ [] ∧ readFrame .zstd1 (f ++ r) = .ok (x, r) := by
  cases h with
  | compressed w x f hf =>
    obtain ⟨dstCapacity, hroom, _, _, rfl⟩ := compress_ok rawApi_roundTrips hf
    have hwritten : (rawApi.compress dstCapacity x.1 (usize x.1.length)
        defaultCompressLevel).bytes = rawFrame .default x.1 :=
      congrArg Written.bytes (rawCompress_of_bound .default x.2 hroom)
    rw [hwritten]
    exact ⟨rawFrame_ne_nil .default x.1, readFrame_rawFrame .default x.2 r⟩
  | skippable magicVariant payload hpayload =>
    refine ⟨?_, readFrame_skippableFrame magicVariant hpayload r⟩
    exact List.ne_nil_of_length_pos (by simp [skippableFrame])

/-- The run lemma: all frames are read. -/
lemma readFrames_flatten (h : List.Forall₂ rawApi.Frame fs xs) {n : Nat}
    (hn : fs.flatten.length ≤ n) : readFrames .zstd1 n fs.flatten = .ok xs.flatten := by
  induction h generalizing n with
  | nil => cases n <;> rfl
  | @cons f x fs xs hframe _ ih =>
    obtain ⟨hne, hread⟩ := readFrame_of_frame hframe fs.flatten
    have hpos := List.length_pos_of_ne_nil hne
    rw [List.flatten_cons, List.length_append] at hn
    obtain ⟨m, rfl⟩ := Nat.exists_eq_add_of_lt (Nat.lt_of_lt_of_le hpos (Nat.le_of_add_right_le hn))
    rw [Nat.zero_add, List.flatten_cons, readFrames_append hne hread, ih (by omega)]
    rfl

lemma rawApi_decodesFrames : rawApi.DecodesFrames (rawDecompress .zstd1) := by
  intro fs xs dstCapacity h hlen hcap
  rw [rawDecompress, take_usize (hlen.trans (by decide)), readFrames_flatten h (Nat.le_refl _)]
  exact writeTo_of_le hcap

/-- A context in the standard format decodes frames, too. -/
lemma rawDecompressApi_decodesFrames : rawApi.DecodesFrames fun dstCapacity src srcSize =>
    (rawDecompressApi.decompressDCtx .zstd1 dstCapacity src srcSize).2 := rawApi_decodesFrames

/-- Two bytes, and a skippable frame behind them. -/
theorem decompress_skips_rest :
    let src : ByteArr :=
      ⟨[rawFrame .default [97, 98], skippableFrame 3 [1, 2]].flatten, by decide⟩
    let w : World Format Unit Unit :=
      World.start (decompression rawDecompressApi) .zstd1 () fun _ _ => 0
    outcome (decompress rawApi src w) = .ok [97, 98] ∧
      outcome (contextDecompress rawApi rawDecompressApi src w) = .ok [97, 98] := by
  intro src w
  have hframe : outcome (compress rawApi ⟨[97, 98], by decide⟩ w) =
      .ok (rawFrame .default [97, 98]) := by decide +kernel
  have h : List.Forall₂ rawApi.Frame [rawFrame .default [97, 98], skippableFrame 3 [1, 2]]
      [[97, 98], []] :=
    .cons (.compressed w _ _ hframe) (.cons (.skippable 3 [1, 2] (by decide)) .nil)
  have hsrc : src.1 = [rawFrame .default [97, 98], skippableFrame 3 [1, 2]].flatten := rfl
  have hrest : ∀ y ∈ [([] : List UInt8)], y = [] := by simp
  have hiff := decompress_frames_iff (w := w) (v := w) rawApi_roundTrips rawApi_readsHeader
    rawApi_decodesFrames rawDecompressApi_decodesFrames h hsrc
  exact ⟨hiff.1.mpr hrest, hiff.2.mpr hrest⟩

/-- Neither two frames of one byte each are decompressed, nor a frame behind a skippable one. -/
theorem frames_are_not_concatenated :
    let two : ByteArr := ⟨[rawFrame .default [97], rawFrame .default [98]].flatten, by decide⟩
    let skipped : ByteArr := ⟨[skippableFrame 0 [], rawFrame .default [98]].flatten, by decide⟩
    let w : World Format Unit Unit :=
      World.start (decompression rawDecompressApi) .zstd1 () fun _ _ => 0
    let tooSmall : Except Stop (List UInt8) :=
      .error (.raised (.zstd "Destination buffer is too small" 70))
    rawApi.RoundTrips ∧ rawApi.ReadsHeader ∧ rawApi.DecodesFrames rawApi.decompress ∧
      (rawApi.DecodesFrames fun dstCapacity src srcSize =>
        (rawDecompressApi.decompressDCtx w.codec dstCapacity src srcSize).2) ∧
      List.Forall₂ rawApi.Frame [rawFrame .default [97], rawFrame .default [98]] [[97], [98]] ∧
      List.Forall₂ rawApi.Frame [skippableFrame 0 [], rawFrame .default [98]] [[], [98]] ∧
      outcome (decompress rawApi two w) = tooSmall ∧
      outcome (contextDecompress rawApi rawDecompressApi two w) = tooSmall ∧
      outcome (decompress rawApi skipped w) = tooSmall ∧
      outcome (contextDecompress rawApi rawDecompressApi skipped w) = tooSmall := by
  intro two skipped w tooSmall
  have ha : outcome (compress rawApi ⟨[97], by decide⟩ w) = .ok (rawFrame .default [97]) := by
    decide +kernel
  have hb : outcome (compress rawApi ⟨[98], by decide⟩ w) = .ok (rawFrame .default [98]) := by
    decide +kernel
  have hlast : List.Forall₂ rawApi.Frame [rawFrame .default [98]] [[98]] :=
    .cons (.compressed w _ _ hb) .nil
  refine ⟨rawApi_roundTrips, rawApi_readsHeader, rawApi_decodesFrames,
    rawDecompressApi_decodesFrames, .cons (.compressed w _ _ ha) hlast,
    .cons (.skippable 0 [] (by decide)) hlast, ?_, ?_, ?_, ?_⟩ <;> decide +kernel

end VZstd
