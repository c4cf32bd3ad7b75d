import VZstd.DecompressContext

/-!
# One-shot calls

What the functions return that make an array, let zstd fill it and cut it to what was written.
-/

namespace VZstd

open Proc

variable {S Op C D K : Type}

/-- A result that is no error is the number of the bytes written, which fit into `cap` bytes. -/
def Written.Within (r : Written) (cap : Nat) : Prop :=
  isError r.ret = false → r.ret.toNat = r.bytes.length ∧ r.bytes.length ≤ cap

/-- What a function returns that hands out the bytes written. -/
def Written.result (r : Written) : Except Stop (List UInt8) :=
  if isError r.ret then .error (.raised (.zstd (getErrorName r.ret) (-i32 r.ret.toNat)))
  else .ok r.bytes

lemma Written.result_cases (r : Written) :
    (isError r.ret = true ∧ ∃ e, r.result = .error (.raised e)) ∨
      isError r.ret = false ∧ r.result = .ok r.bytes := by
  by_cases h : isError r.ret = true
  · exact .inl ⟨h, _, if_pos h⟩
  · exact .inr ⟨by simpa using h, if_neg h⟩

/-- `x` has been written. -/
def Written.all (x : List UInt8) : Written := { ret := .ofNat x.length, bytes := x }

lemma toNat_ofNat_length {x : List UInt8} (h : x.length < 2 ^ 32) :
    (UInt64.ofNat x.length).toNat = x.length :=
  UInt64.toNat_ofNat_of_lt' (by show _ < 2 ^ 64; omega)

lemma Written.isError_all {x : List UInt8} (h : x.length < 2 ^ 32) :
    isError (Written.all x).ret = false := by
  rw [← Bool.not_eq_true, isError_iff, Written.all, toNat_ofNat_length h]
  omega

lemma Written.result_all {x : List UInt8} (h : x.length < 2 ^ 32) :
    (Written.all x).result = .ok x := by
  have hok := Written.isError_all h
  rw [Written.result, hok]
  rfl

lemma Written.within_all {x : List UInt8} (h : x.length < 2 ^ 32) {cap : Nat}
    (hcap : x.length ≤ cap) : (Written.all x).Within cap :=
  fun _ => ⟨toNat_ofNat_length h, hcap⟩

/-! ### Filling a new array -/

lemma filled_run (dst : List UInt8) (r : Written) (w : World S Op K) :
    filled dst r w =
      if isError r.ret then
        .error (.raised (.zstd (getErrorName r.ret) (-i32 r.ret.toNat)))
          (w.record (.returned r.ret))
      else .ok (i32 r.ret.toNat, overwrite dst r.bytes) (w.record (.returned r.ret)) := by
  have hreturned : (returned r.ret : StreamM S Op K Unit) w =
      .ok () (w.record (.returned r.ret)) := rfl
  rw [filled, bind_ok hreturned]
  split
  next h => rw [bind_error (checkError_of_isError h _)]
  next h => rw [bind_ok (checkError_of_not_isError (by simpa using h) _), pure_run]

@[simp] lemma length_overwrite (dst bytes : List UInt8) :
    (overwrite dst bytes).length = dst.length := by
  simp [overwrite]
  omega

lemma take_overwrite {dst bytes : List UInt8} (h : bytes.length ≤ dst.length) :
    (overwrite dst bytes).take bytes.length = bytes := by
  rw [overwrite, List.take_take, min_eq_left h, List.take_left]

variable {maxLen : Int} {fill : List UInt8 → StreamM S Op K (Int × List UInt8)} {r : Written}
  {w w' : World S Op K}

lemma intoNewArr_of_neg (h : maxLen < 0) : intoNewArr maxLen fill w = .error .aborted w := by
  have hnew : (newArr maxLen : StreamM S Op K (List UInt8)) w = .error .aborted w := by
    rw [newArr, if_neg (Int.not_le.mpr h), throw_run]
  rw [intoNewArr, bind_error hnew]

lemma intoNewArr_of_nonneg (h : 0 ≤ maxLen) :
    intoNewArr maxLen fill w =
      (fill (List.replicate maxLen.toNat 0) >>= fun r =>
        if r.1 ≠ (List.replicate maxLen.toNat (0 : UInt8)).length then cut r.2 r.1
        else pure r.2) w := by
  have hnew : (newArr maxLen : StreamM S Op K (List UInt8)) w =
      .ok (List.replicate maxLen.toNat 0) w := by
    rw [newArr, if_pos h, pure_run]
  rw [intoNewArr, bind_ok hnew]

/-- The array is what was written, when that is what the result says. -/
lemma outcome_intoNewArr (hlen : 0 ≤ maxLen) (hlt : maxLen < 2 ^ 31)
    (hfill : fill (List.replicate maxLen.toNat 0) w = filled (List.replicate maxLen.toNat 0) r w')
    (hr : r.Within maxLen.toNat) : outcome (intoNewArr maxLen fill w) = r.result := by
  rw [intoNewArr_of_nonneg hlen, bind_run, hfill, filled_run, Written.result]
  by_cases herr : isError r.ret = true
  · rw [if_pos herr, if_pos herr, outcome_error]
  · obtain ⟨hret, hle⟩ := hr (by simpa using herr)
    have hdst : r.bytes.length ≤ (List.replicate maxLen.toNat (0 : UInt8)).length := by
      rwa [List.length_replicate]
    have hi32 : i32 r.ret.toNat = r.bytes.length := by
      rw [hret, i32_of_inRange (by omega)]
    rw [if_neg herr, if_neg herr]
    simp only [hi32]
    split
    next =>
      have hcut : 0 ≤ (r.bytes.length : Int) ∧ (r.bytes.length : Int) ≤
          (overwrite (List.replicate maxLen.toNat 0) r.bytes).length := by
        rw [length_overwrite]
        omega
      rw [cut, if_pos hcut, Int.toNat_natCast, take_overwrite hdst, pure_run, outcome_ok]
    next hsame =>
      have heq : r.bytes.length = (List.replicate maxLen.toNat (0 : UInt8)).length := by omega
      have htake := take_overwrite hdst
      rw [List.take_of_length_le (by rw [length_overwrite, heq])] at htake
      rw [pure_run, outcome_ok, htake]

/-- The array is never longer than what was asked for. -/
lemma length_of_intoNewArr {y : List UInt8}
    (hfill : fill (List.replicate maxLen.toNat 0) w = filled (List.replicate maxLen.toNat 0) r w')
    (h : outcome (intoNewArr maxLen fill w) = .ok y) : y.length ≤ maxLen.toNat := by
  rcases Int.lt_or_le maxLen 0 with hneg | hlen
  · rw [intoNewArr_of_neg hneg] at h
    cases h
  · rw [intoNewArr_of_nonneg hlen, bind_run, hfill, filled_run] at h
    by_cases herr : isError r.ret = true
    · rw [if_pos herr] at h
      cases h
    · rw [if_neg herr] at h
      have hoverwrite := length_overwrite (List.replicate maxLen.toNat 0) r.bytes
      rw [List.length_replicate] at hoverwrite
      simp only [cut] at h
      split at h
      next =>
        split at h
        next =>
          obtain rfl : _ = y := Except.ok.inj h
          rw [List.length_take, hoverwrite]
          exact Nat.min_le_right _ _
        next => cases h
      next =>
        obtain rfl : _ = y := Except.ok.inj h
        exact hoverwrite.le

/-! ### Compression -/

lemma toNat_bound {n : Nat} (h : n < 2 ^ 31) :
    (zstdCompressBound (usize n)).toNat =
      n + n / 256 + if n < 131072 then (131072 - n) / 2048 else 0 := by
  have hlen := usize_natCast_toNat h
  have hbound := toNat_compressBound (hlen.trans_lt h)
  rwa [hlen] at hbound

/-- The length of the array that a compression of `src` is to fill. -/
def compressMaxLen (src : ByteArr) : Int := i32 (zstdCompressBound (usize src.1.length)).toNat

/-- The world after the bound has been asked for. -/
def afterBound (src : ByteArr) (w : World S Op K) : World S Op K :=
  w.record (.returned (zstdCompressBound (usize src.1.length)))

lemma returned_run (ret : UInt64) (w : World S Op K) :
    (returned ret : StreamM S Op K Unit) w = .ok () (w.record (.returned ret)) := rfl

lemma compressWithLevel_run (api : SimpleApi) (src : ByteArr) (level : Int) (w : World S Op K) :
    compressWithLevel api src level w = intoNewArr (compressMaxLen src)
      (fun dst => compressWithLevelTo api dst src level) (afterBound src w) := by
  rw [compressWithLevel, bind_ok (returned_run _ w), compressMaxLen, afterBound]

lemma contextCompress_run (api : CompressApi C) (src : ByteArr) (w : World C Op K) :
    contextCompress api src w = intoNewArr (compressMaxLen src)
      (fun dst => contextCompressTo api dst src) (afterBound src w) := by
  rw [contextCompress, bind_ok (returned_run _ w), compressMaxLen, afterBound]

/-- With an array of a negative length, the program aborts. -/
lemma compressWithLevel_aborts (api : SimpleApi) {src : ByteArr} (h : compressMaxLen src < 0)
    (level : Int) (w : World S Op K) :
    outcome (compressWithLevel api src level w) = .error .aborted := by
  rw [compressWithLevel_run, intoNewArr_of_neg h, outcome_error]

lemma contextCompress_aborts (api : CompressApi C) {src : ByteArr} (h : compressMaxLen src < 0)
    (w : World C Op K) : outcome (contextCompress api src w) = .error .aborted := by
  rw [contextCompress_run, intoNewArr_of_neg h, outcome_error]

lemma outcome_compressWithLevel {api : SimpleApi} {src : ByteArr} {level : Int}
    (h : 0 ≤ compressMaxLen src)
    (hr : (api.compress (usize (compressMaxLen src)) src.1 (usize src.1.length) level).Within
      (compressMaxLen src).toNat) (w : World S Op K) :
    outcome (compressWithLevel api src level w) =
      (api.compress (usize (compressMaxLen src)) src.1 (usize src.1.length) level).result := by
  have hfill : compressWithLevelTo api (List.replicate (compressMaxLen src).toNat 0) src level
      (afterBound src w) = filled (List.replicate (compressMaxLen src).toNat 0)
        (api.compress (usize (compressMaxLen src)) src.1 (usize src.1.length) level)
        (afterBound src w) := by
    rw [compressWithLevelTo, compressWithLevelAt, List.length_replicate, Int.toNat_of_nonneg h]
    rfl
  rw [compressWithLevel_run]
  exact outcome_intoNewArr h (i32_lt _) hfill hr

lemma outcome_contextCompress {api : CompressApi C} {src : ByteArr} {w : World C Op K}
    (h : 0 ≤ compressMaxLen src)
    (hr : (api.compress2 w.codec (usize (compressMaxLen src)) src.1
      (usize src.1.length)).2.Within (compressMaxLen src).toNat) :
    outcome (contextCompress api src w) = (api.compress2 w.codec (usize (compressMaxLen src)) src.1
      (usize src.1.length)).2.result := by
  have hfill : contextCompressTo api (List.replicate (compressMaxLen src).toNat 0) src
      (afterBound src w) = filled (List.replicate (compressMaxLen src).toNat 0)
        (api.compress2 w.codec (usize (compressMaxLen src)) src.1 (usize src.1.length)).2
        { afterBound src w with
          codec := (api.compress2 w.codec (usize (compressMaxLen src)) src.1
            (usize src.1.length)).1 } := by
    rw [contextCompressTo, contextCompressAt, get_bind, List.length_replicate,
      Int.toNat_of_nonneg h]
    rfl
  rw [contextCompress_run]
  exact outcome_intoNewArr h (i32_lt _) hfill hr

/-! ### Decompression -/

/-- `ZSTD_getFrameContentSize(src.data, src.len)`. -/
def declaredSize (api : SimpleApi) (src : ByteArr) : UInt64 :=
  api.getFrameContentSize src.1 (usize src.1.length)

lemma ne_sentinels {res : UInt64} (h : res.toNat < 2 ^ 64 - 2) :
    res ≠ contentSizeUnknown ∧ res ≠ contentSizeError := by
  constructor
  · rintro rfl
    exact absurd h (by decide)
  · rintro rfl
    exact absurd h (by decide)

lemma ofNat_length_ne_contentSizeError {x : List UInt8} (h : x.length < 2 ^ 31) :
    UInt64.ofNat x.length ≠ contentSizeError := by
  refine (ne_sentinels ?_).2
  rw [toNat_ofNat_length (h.trans (by decide))]
  exact h.trans (by decide)

lemma getFrameContentSize_run {api : SimpleApi} {src : ByteArr}
    (h : declaredSize api src ≠ contentSizeUnknown ∧ declaredSize api src ≠ contentSizeError)
    (w : World S Op K) :
    getFrameContentSize api src w = .ok (i32 (declaredSize api src).toNat) w := by
  rw [getFrameContentSize]
  exact congrFun ((if_neg h.1).trans (if_neg h.2)) w

/-- A sentinel is an error. -/
lemma getFrameContentSize_raises {api : SimpleApi} {src : ByteArr}
    (h : declaredSize api src = contentSizeUnknown ∨ declaredSize api src = contentSizeError)
    (w : World S Op K) : ∃ e, getFrameContentSize api src w = .error (.raised e) w := by
  rw [getFrameContentSize]
  by_cases hunknown : declaredSize api src = contentSizeUnknown
  · exact ⟨_, congrFun (if_pos hunknown) w⟩
  · exact ⟨_, congrFun ((if_neg hunknown).trans (if_pos (h.resolve_left hunknown))) w⟩

lemma decompress_raises {api : SimpleApi} {src : ByteArr}
    (h : declaredSize api src = contentSizeUnknown ∨ declaredSize api src = contentSizeError)
    (w : World S Op K) : ∃ e, outcome (decompress api src w) = .error (.raised e) := by
  obtain ⟨e, he⟩ := getFrameContentSize_raises h w
  exact ⟨e, by rw [decompress, bind_error he, outcome_error]⟩

lemma contextDecompress_raises {api : SimpleApi} {src : ByteArr}
    (h : declaredSize api src = contentSizeUnknown ∨ declaredSize api src = contentSizeError)
    (dapi : DecompressApi D) (w : World D Op K) :
    ∃ e, outcome (contextDecompress api dapi src w) = .error (.raised e) := by
  obtain ⟨e, he⟩ := getFrameContentSize_raises h w
  exact ⟨e, by rw [contextDecompress, bind_error he, outcome_error]⟩

lemma getFrameContentSize_of_lt {api : SimpleApi} {src : ByteArr} {n : Nat}
    (hsize : (declaredSize api src).toNat = n) (hn : n < 2 ^ 31) (w : World S Op K) :
    getFrameContentSize api src w = .ok (n : Int) w := by
  have hlt : (declaredSize api src).toNat < 2 ^ 64 - 2 := by omega
  rw [getFrameContentSize_run (ne_sentinels hlt), hsize, i32_of_inRange (by omega)]

lemma decompressTo_replicate (api : SimpleApi) (n : Nat) (src : ByteArr) (w : World S Op K) :
    decompressTo api (List.replicate (n : Int).toNat 0) src w =
      filled (List.replicate (n : Int).toNat 0)
        (api.decompress (usize n) src.1 (usize src.1.length)) w := by
  rw [decompressTo, decompressAt, List.length_replicate, Int.toNat_natCast]
  rfl

/-- The world after `ZSTD_decompressDCtx`. -/
def afterDecompress (api : DecompressApi D) (n : Nat) (src : ByteArr) (w : World D Op K) :
    World D Op K :=
  { w with codec := (api.decompressDCtx w.codec (usize n) src.1 (usize src.1.length)).1 }

lemma contextDecompressTo_replicate (api : DecompressApi D) (n : Nat) (src : ByteArr)
    (w : World D Op K) :
    contextDecompressTo api (List.replicate (n : Int).toNat 0) src w =
      filled (List.replicate (n : Int).toNat 0)
        (api.decompressDCtx w.codec (usize n) src.1 (usize src.1.length)).2
        (afterDecompress api n src w) := by
  rw [contextDecompressTo, contextDecompressAt, get_bind, List.length_replicate,
    Int.toNat_natCast]
  rfl

section Declared

variable {simple : SimpleApi} {src : ByteArr} {n : Nat}
  (hsize : (declaredSize simple src).toNat = n) (hn : n < 2 ^ 31)
include hsize hn

lemma outcome_decompress
    (hr : (simple.decompress (usize n) src.1 (usize src.1.length)).Within n) (w : World S Op K) :
    outcome (decompress simple src w) =
      (simple.decompress (usize n) src.1 (usize src.1.length)).result := by
  rw [decompress, bind_ok (getFrameContentSize_of_lt hsize hn w)]
  exact outcome_intoNewArr (Int.natCast_nonneg n) (by omega) (decompressTo_replicate simple n src w)
    hr

lemma outcome_contextDecompress {api : DecompressApi D} {w : World D Op K}
    (hr : (api.decompressDCtx w.codec (usize n) src.1 (usize src.1.length)).2.Within n) :
    outcome (contextDecompress simple api src w) =
      (api.decompressDCtx w.codec (usize n) src.1 (usize src.1.length)).2.result := by
  rw [contextDecompress, bind_ok (getFrameContentSize_of_lt hsize hn w)]
  exact outcome_intoNewArr (Int.natCast_nonneg n) (by omega)
    (contextDecompressTo_replicate api n src w) hr

/-- No more is returned than the header declares. -/
lemma length_of_decompress {w : World S Op K} {y : List UInt8}
    (h : outcome (decompress simple src w) = .ok y) : y.length ≤ n := by
  rw [decompress, bind_ok (getFrameContentSize_of_lt hsize hn w)] at h
  exact length_of_intoNewArr (decompressTo_replicate simple n src w) h

lemma length_of_contextDecompress {api : DecompressApi D} {w : World D Op K} {y : List UInt8}
    (h : outcome (contextDecompress simple api src w) = .ok y) : y.length ≤ n := by
  rw [contextDecompress, bind_ok (getFrameContentSize_of_lt hsize hn w)] at h
  exact length_of_intoNewArr (contextDecompressTo_replicate api n src w) h

end Declared

end VZstd
