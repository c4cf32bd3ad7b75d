import VZstd.OneShot.RawFrames

/-!
# One-shot compression is undone by one-shot decompression

The array for the compressed bytes has the length of zstd's bound as an `int`. From 2139127681 bytes
on the bound is no `int`, the length is negative, and the program aborts.
-/

namespace VZstd

open Proc

variable {S Op C K : Type}

/-- `f` is a frame that says how long `x` is, and that `ZSTD_decompress` decodes to `x`. -/
structure SimpleApi.Reads (api : SimpleApi) (f x : List UInt8) : Prop where
  contentSize : api.getFrameContentSize f (usize f.length) = .ofNat x.length
  decompress : ∀ dstCapacity, x.length ≤ dstCapacity.toNat →
    api.decompress dstCapacity f (usize f.length) = .all x

/-- An answer to a request to compress `x`: an error, or a frame of `x` that fits. -/
structure SimpleApi.Compresses (api : SimpleApi) (x : List UInt8) (dstCapacity : UInt64)
    (r : Written) : Prop where
  within : r.Within dstCapacity.toNat
  reads : isError r.ret = false → api.Reads r.bytes x

/-- What zstd.h says of `ZSTD_compress` and `ZSTD_decompress`, given the bound at least. -/
def SimpleApi.RoundTrips (api : SimpleApi) : Prop :=
  ∀ x level dstCapacity, x.length < 2 ^ 31 → zstdCompressBound (usize x.length) ≤ dstCapacity →
    api.Compresses x dstCapacity (api.compress dstCapacity x (usize x.length) level)

/-- The same of `ZSTD_compress2` on the context `c`. -/
def CompressApi.RoundTripsFrom (capi : CompressApi C) (api : SimpleApi) (c : C) : Prop :=
  ∀ x dstCapacity, x.length < 2 ^ 31 → zstdCompressBound (usize x.length) ≤ dstCapacity →
    api.Compresses x dstCapacity (capi.compress2 c dstCapacity x (usize x.length)).2

/-- `decompress(f)` is `x`. -/
def SimpleApi.Restores (api : SimpleApi) (f : ByteArr) (x : List UInt8) : Prop :=
  ∀ (S Op K : Type) (w : World S Op K), outcome (VZstd.decompress api f w) = .ok x

/-- A compression of `src` returned an error, or a frame that is decompressed to `src`. -/
def SimpleApi.Lawful (api : SimpleApi) (src : ByteArr) (o : Except Stop (List UInt8)) : Prop :=
  (∃ e, o = .error (.raised e)) ∨ ∃ f : ByteArr, o = .ok f.1 ∧ api.Restores f src.1

/-- The array for the compressed bytes has a length, which is no less than the bound. -/
def AllocatesBound (src : ByteArr) : Prop :=
  0 ≤ compressMaxLen src ∧
    ((zstdCompressBound (usize src.1.length)).toNat : Int) ≤ compressMaxLen src

/-! ### The length of the array -/

lemma compressMaxLen_of_le {src : ByteArr} (h : src.1.length ≤ 2139127680) :
    compressMaxLen src = (zstdCompressBound (usize src.1.length)).toNat := by
  have hbound := toNat_bound src.2
  rw [compressMaxLen, i32_of_inRange]
  split at hbound <;> omega

lemma compressMaxLen_neg {src : ByteArr} (h : ¬src.1.length ≤ 2139127680) :
    compressMaxLen src < 0 := by
  have hlt := src.2
  have hbound := toNat_bound src.2
  rw [if_neg (by omega)] at hbound
  rw [compressMaxLen, i32_of_wraps (by omega)]
  omega

lemma allocatesBound_iff (src : ByteArr) : AllocatesBound src ↔ src.1.length ≤ 2139127680 := by
  by_cases h : src.1.length ≤ 2139127680
  · refine iff_of_true ?_ h
    rw [AllocatesBound, compressMaxLen_of_le h]
    exact ⟨Int.natCast_nonneg _, Int.le_refl _⟩
  · exact iff_of_false (fun halloc => Int.not_le.mpr (compressMaxLen_neg h) halloc.1) h

/-- With a length that fits, zstd is given the bound. -/
lemma usize_compressMaxLen {src : ByteArr} (h : src.1.length ≤ 2139127680) :
    zstdCompressBound (usize src.1.length) ≤ usize (compressMaxLen src) ∧
      (usize (compressMaxLen src)).toNat = (compressMaxLen src).toNat ∧
      (compressMaxLen src).toNat < 2 ^ 31 := by
  have hlen := compressMaxLen_of_le h
  have hlt := i32_lt (zstdCompressBound (usize src.1.length)).toNat
  rw [← compressMaxLen, hlen] at hlt
  have hsize : (usize (zstdCompressBound (usize src.1.length)).toNat).toNat =
      (zstdCompressBound (usize src.1.length)).toNat := usize_natCast_toNat (by omega)
  rw [hlen, Int.toNat_natCast]
  exact ⟨UInt64.le_iff_toNat_le.mpr hsize.ge, hsize, by omega⟩

/-! ### The round trip -/

variable {api : SimpleApi} {src : ByteArr}

/-- What `ZSTD_decompress` decodes, `decompress` decodes. -/
lemma SimpleApi.Reads.restores {f : ByteArr} {x : List UInt8} (h : api.Reads f.1 x)
    (hx : x.length < 2 ^ 31) : api.Restores f x := by
  intro S Op K w
  have hx' : x.length < 2 ^ 32 := hx.trans (by decide)
  have hsize : (declaredSize api f).toNat = x.length := by
    rw [declaredSize, h.contentSize, toNat_ofNat_length hx']
  have hrun : api.decompress (usize x.length) f.1 (usize f.1.length) = .all x :=
    h.decompress _ (usize_natCast_toNat hx).ge
  rw [outcome_decompress hsize hx (by rw [hrun]; exact Written.within_all hx' (Nat.le_refl _)),
    hrun, Written.result_all hx']

lemma SimpleApi.Compresses.lawful {cap : UInt64} {r : Written}
    (h : api.Compresses src.1 cap r) (hcap : cap.toNat < 2 ^ 31) : api.Lawful src r.result := by
  rcases r.result_cases with ⟨_, e, he⟩ | ⟨hok, hr⟩
  · exact .inl ⟨e, he⟩
  · have hlen := (h.within hok).2
    exact .inr ⟨⟨r.bytes, hlen.trans_lt hcap⟩, hr, (h.reads hok).restores src.2⟩

lemma SimpleApi.not_lawful_aborted : ¬api.Lawful src (.error .aborted) := by
  rintro (⟨e, he⟩ | ⟨f, hf, _⟩)
  · cases he
  · cases hf

/-- An operation that aborts for a negative length, and else returns what zstd has written. -/
lemma SimpleApi.lawful_iff {o : Except Stop (List UInt8)} {r : Written}
    (haborts : compressMaxLen src < 0 → o = .error .aborted)
    (hreturns : 0 ≤ compressMaxLen src → r.Within (compressMaxLen src).toNat → o = r.result)
    (hr : zstdCompressBound (usize src.1.length) ≤ usize (compressMaxLen src) →
      api.Compresses src.1 (usize (compressMaxLen src)) r) :
    api.Lawful src o ↔ src.1.length ≤ 2139127680 := by
  by_cases h : src.1.length ≤ 2139127680
  · refine iff_of_true ?_ h
    have hnonneg := ((allocatesBound_iff src).mpr h).1
    obtain ⟨hroom, hsize, hlt⟩ := usize_compressMaxLen h
    have hcompresses := hr hroom
    rw [hreturns hnonneg (hsize ▸ hcompresses.within)]
    exact hcompresses.lawful (hsize.trans_lt hlt)
  · refine iff_of_false ?_ h
    rw [haborts (compressMaxLen_neg h)]
    exact SimpleApi.not_lawful_aborted

/-- Compression without a context, at every level, and with a context whose parameters are the
default ones, returns an error or a frame that is decompressed to the source, and makes an array of
at least the bound, if and only if the source has no more than 2139127680 bytes. -/
theorem compress_lawful_iff {capi : CompressApi C} {c : C} (happi : api.RoundTrips)
    (hcontext : capi.RoundTripsFrom api c) (src : ByteArr) :
    (∀ level (w : World S Op K), api.Lawful src (outcome (compressWithLevel api src level w)) ↔
      src.1.length ≤ 2139127680) ∧
    (∀ w : World S Op K, api.Lawful src (outcome (compress api src w)) ↔
      src.1.length ≤ 2139127680) ∧
    (∀ w : World C Op K, w.codec = c → (api.Lawful src (outcome (contextCompress capi src w)) ↔
      src.1.length ≤ 2139127680)) ∧
    (AllocatesBound src ↔ src.1.length ≤ 2139127680) := by
  have hlevel : ∀ level (w : World S Op K),
      api.Lawful src (outcome (compressWithLevel api src level w)) ↔
        src.1.length ≤ 2139127680 := by
    intro level w
    exact SimpleApi.lawful_iff (fun h => compressWithLevel_aborts api h level w)
      (fun h hwithin => outcome_compressWithLevel h hwithin w) (happi src.1 level _ src.2)
  refine ⟨hlevel, hlevel defaultCompressLevel, ?_, allocatesBound_iff src⟩
  rintro w rfl
  exact SimpleApi.lawful_iff (fun h => contextCompress_aborts capi h w)
    (fun h hwithin => outcome_contextCompress h hwithin) (hcontext src.1 _ src.2)

/-! ### The functions that store -/

lemma rawApi_reads {x : List UInt8} (h : x.length < 2 ^ 31) :
    rawApi.Reads (rawFrame .default x) x where
  contentSize := by
    rw [← zstdGetFrameContentSize_rawFrame h]
    exact congrArg zstdGetFrameContentSize (take_usize (length_rawFrame_lt .default h))
  decompress _ hcap := rawDecompress_rawFrame .default h hcap

/-- A frame that has been written whole. -/
lemma rawCompress_compresses {x : List UInt8} (h : x.length < 2 ^ 31) {dstCapacity : UInt64}
    (hcap : zstdCompressBound (usize x.length) ≤ dstCapacity) :
    rawApi.Compresses x dstCapacity (rawCompress .default dstCapacity x (usize x.length)) := by
  rw [rawCompress_of_bound .default h hcap]
  constructor
  · apply Written.within_all (length_rawFrame_lt .default h)
    exact (length_rawFrame_le_bound .default h).trans (UInt64.le_iff_toNat_le.mp hcap)
  · intro _
    exact rawApi_reads h

lemma rawApi_roundTrips : rawApi.RoundTrips := fun _ _ _ h hcap => rawCompress_compresses h hcap

lemma rawCompressApi_roundTripsFrom : rawCompressApi.RoundTripsFrom rawApi .default :=
  fun _ _ h hcap => rawCompress_compresses h hcap

/-- Three bytes. -/
theorem three_bytes_are_lawful :
    let src : ByteArr := ⟨[97, 98, 99], by decide⟩
    let w : World FrameParams EndDirective Unit :=
      World.start (compression rawCompressApi) .default () fun _ _ => 0
    rawApi.Lawful src (outcome (compressWithLevel rawApi src 19 w)) ∧
      rawApi.Lawful src (outcome (compress rawApi src w)) ∧
      rawApi.Lawful src (outcome (contextCompress rawCompressApi src w)) ∧ AllocatesBound src := by
  intro src w
  have hlen : src.1.length ≤ 2139127680 := by decide
  obtain ⟨hlevel, hdefault, hcontext, halloc⟩ :=
    @compress_lawful_iff FrameParams EndDirective FrameParams Unit _ _ _ rawApi_roundTrips
      rawCompressApi_roundTripsFrom src
  exact ⟨(hlevel 19 w).mpr hlen, (hdefault w).mpr hlen, (hcontext w rfl).mpr hlen,
    halloc.mpr hlen⟩

lemma length_zeros_lt : (List.replicate 2139127681 (0 : UInt8)).length < 2 ^ 31 := by
  rw [List.length_replicate]
  decide

/-- The shortest source whose bound is no `int`. -/
theorem long_source_aborts :
    let src : ByteArr := ⟨List.replicate 2139127681 0, length_zeros_lt⟩
    let w : World FrameParams EndDirective Unit :=
      World.start (compression rawCompressApi) .default () fun _ _ => 0
    rawApi.RoundTrips ∧ rawCompressApi.RoundTripsFrom rawApi .default ∧
      outcome (compressWithLevel rawApi src 3 w) = .error .aborted ∧
      outcome (contextCompress rawCompressApi src w) = .error .aborted ∧
      ¬rawApi.Lawful src (outcome (compressWithLevel rawApi src 3 w)) ∧
      compressMaxLen src < 0 := by
  intro src w
  have hlen : ¬src.1.length ≤ 2139127680 := by
    rw [List.length_replicate]
    decide
  have hneg := compressMaxLen_neg hlen
  have haborts := compressWithLevel_aborts rawApi hneg 3 w
  refine ⟨rawApi_roundTrips, rawCompressApi_roundTripsFrom, haborts,
    contextCompress_aborts rawCompressApi hneg w, ?_, hneg⟩
  rw [haborts]
  exact SimpleApi.not_lawful_aborted

end VZstd
