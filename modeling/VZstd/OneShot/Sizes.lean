import VZstd.OneShot.Frames

/-!
# Declared sizes

A header declares a size of 64 bits. `get_frame_content_size` narrows it to an `int`, and the array
for the content is made with that length.
-/

namespace VZstd

open Proc

variable {S Op Op' D K K' α : Type}

/-- A function has returned a result or an error. -/
def Returns (o : Except Stop α) : Prop := (∃ y, o = .ok y) ∨ ∃ e, o = .error (.raised e)

/-- What the header of `src` declares neither aborts nor misleads decompression. -/
structure Withstands (api : SimpleApi) (dapi : DecompressApi D) (src : ByteArr) (w : World S Op K)
    (v : World D Op' K') : Prop where
  /-- `get_frame_content_size` returns what is declared, or an error -/
  size : outcome (getFrameContentSize api src w) = .ok ((declaredSize api src).toNat : Int) ∨
    ∃ e, outcome (getFrameContentSize api src w) = .error (.raised e)
  /-- the length of the array is neither negative nor less than declared -/
  array : ∀ len, outcome (getFrameContentSize api src w) = .ok len →
    0 ≤ len ∧ ((declaredSize api src).toNat : Int) ≤ len
  decompress : Returns (outcome (decompress api src w))
  contextDecompress : Returns (outcome (contextDecompress api dapi src v))

variable {api : SimpleApi} {dapi : DecompressApi D} {src : ByteArr} {w : World S Op K}
  {v : World D Op' K'}

lemma Written.returns_result (r : Written) : Returns r.result := by
  rcases r.result_cases with ⟨_, hraised⟩ | ⟨_, hok⟩
  · exact .inr hraised
  · exact .inl ⟨_, hok⟩

/-- With a negative length, the program aborts. -/
lemma decompress_aborts
    (h : declaredSize api src ≠ contentSizeUnknown ∧ declaredSize api src ≠ contentSizeError)
    (hneg : i32 (declaredSize api src).toNat < 0) :
    outcome (decompress api src w) = .error .aborted ∧
      outcome (contextDecompress api dapi src v) = .error .aborted := by
  constructor
  · rw [decompress, bind_ok (getFrameContentSize_run h w), intoNewArr_of_neg hneg, outcome_error]
  · rw [contextDecompress, bind_ok (getFrameContentSize_run h v), intoNewArr_of_neg hneg,
      outcome_error]

/-- A size that is declared, and is no `int`, is not what `get_frame_content_size` returns. -/
lemma getFrameContentSize_misleads
    (h : declaredSize api src ≠ contentSizeUnknown ∧ declaredSize api src ≠ contentSizeError)
    (hlarge : ¬(declaredSize api src).toNat < 2 ^ 31) :
    ∃ len, outcome (getFrameContentSize api src w) = .ok len ∧
      len < ((declaredSize api src).toNat : Int) := by
  refine ⟨i32 (declaredSize api src).toNat, ?_, ?_⟩
  · rw [getFrameContentSize_run h w, outcome_ok]
  · have hlt := i32_lt (declaredSize api src).toNat
    omega

lemma not_withstands
    (h : declaredSize api src ≠ contentSizeUnknown ∧ declaredSize api src ≠ contentSizeError)
    (hlarge : ¬(declaredSize api src).toNat < 2 ^ 31) : ¬Withstands api dapi src w v := by
  intro hwithstands
  obtain ⟨len, hlen, hshort⟩ := getFrameContentSize_misleads (w := w) h hlarge
  exact Int.not_lt.mpr (hwithstands.array len hlen).2 hshort

lemma withstands_of_sentinel
    (h : declaredSize api src = contentSizeUnknown ∨ declaredSize api src = contentSizeError) :
    Withstands api dapi src w v := by
  obtain ⟨e, he⟩ := getFrameContentSize_raises h w
  have hrun : outcome (getFrameContentSize api src w) = .error (.raised e) := by
    rw [he, outcome_error]
  constructor
  · exact .inr ⟨e, hrun⟩
  · intro len hlen
    rw [hrun] at hlen
    cases hlen
  · exact .inr (decompress_raises h w)
  · exact .inr (contextDecompress_raises h dapi v)

section Within

variable
  (hsimple : ∀ dstCapacity (src : ByteArr),
    (api.decompress dstCapacity src.1 (usize src.1.length)).Within dstCapacity.toNat)
  (hcontext : ∀ dstCapacity (src : ByteArr),
    (dapi.decompressDCtx v.codec dstCapacity src.1 (usize src.1.length)).2.Within
      dstCapacity.toNat)
include hsimple hcontext

lemma withstands_of_lt (h : (declaredSize api src).toNat < 2 ^ 31) :
    Withstands api dapi src w v := by
  generalize hn : (declaredSize api src).toNat = n at h
  have hcap : (usize n).toNat = n := usize_natCast_toNat h
  have hrun : outcome (getFrameContentSize api src w) = .ok (n : Int) := by
    rw [getFrameContentSize_of_lt hn h, outcome_ok]
  constructor
  · exact .inl (hn ▸ hrun)
  · intro len hlen
    obtain rfl := Except.ok.inj (hrun.symm.trans hlen)
    rw [hn]
    exact ⟨Int.natCast_nonneg n, Int.le_refl _⟩
  · have hwithin := hsimple (usize n) src
    rw [hcap] at hwithin
    rw [outcome_decompress hn h hwithin]
    exact Written.returns_result _
  · have hwithin := hcontext (usize n) src
    rw [hcap] at hwithin
    rw [outcome_contextDecompress hn h hwithin]
    exact Written.returns_result _

/-- Decompression without and with a context withstands what a header declares if and only if that
is an `int`, or one of the two sentinels. -/
theorem withstands_iff :
    Withstands api dapi src w v ↔ (declaredSize api src).toNat < 2 ^ 31 ∨
      declaredSize api src = contentSizeUnknown ∨ declaredSize api src = contentSizeError := by
  constructor
  · intro h
    by_contra hcontra
    obtain ⟨hlarge, hsentinel⟩ := not_or.mp hcontra
    exact not_withstands (not_or.mp hsentinel) hlarge h
  · rintro (hsmall | hsentinel)
    · exact withstands_of_lt hsimple hcontext hsmall
    · exact withstands_of_sentinel hsentinel

end Within

/-! ### The functions that store -/

/-- What goes wrong in a frame is an error code. -/
lemma isError_of_readFrame {format : Format} {src : List UInt8} {e : UInt64}
    (h : readFrame format src = .error e) : isError e = true := by
  unfold readFrame at h
  split at h
  next e' _ =>
    obtain rfl := Except.error.inj h
    split
    next herr => exact herr
    next => decide
  next =>
    split at h
    next =>
      dsimp only at h
      split at h <;> cases h
      decide
    next =>
      split at h
      next =>
        cases h
        decide
      next =>
        split at h <;> cases h
        decide

lemma isError_of_readFrames {format : Format} {n : Nat} {src : List UInt8} {e : UInt64}
    (h : readFrames format n src = .error e) : isError e = true := by
  induction n generalizing src e with
  | zero =>
    cases src with
    | nil => cases h
    | cons b bs =>
      cases h
      decide
  | succ n ih =>
    cases src with
    | nil => cases h
    | cons b bs =>
      simp only [readFrames] at h
      split at h
      next e' hframe => exact Except.error.inj h ▸ isError_of_readFrame hframe
      next r _ =>
        cases hrest : readFrames format n r.2 with
        | error e' =>
          rw [hrest] at h
          exact Except.error.inj h ▸ ih hrest
        | ok x =>
          rw [hrest] at h
          cases h

lemma writeTo_within (dstCapacity : UInt64) (bytes : List UInt8) :
    (writeTo dstCapacity bytes).Within dstCapacity.toNat := by
  rw [writeTo]
  split
  next hle =>
    intro _
    exact ⟨UInt64.toNat_ofNat_of_lt' (hle.trans_lt dstCapacity.toNat_lt), hle⟩
  next =>
    intro hok
    exact absurd hok (by decide)

lemma rawDecompress_within (format : Format) (dstCapacity : UInt64) (src : List UInt8)
    (srcSize : UInt64) :
    (rawDecompress format dstCapacity src srcSize).Within dstCapacity.toNat := by
  rw [rawDecompress]
  split
  next e herr =>
    intro hok
    rw [isError_of_readFrames herr] at hok
    cases hok
  next x _ => exact writeTo_within dstCapacity x

/-- Every size can be declared. -/
lemma declaredSize_rawHeader {src : ByteArr} {n : Nat} (h : src.1 = rawHeader .default n)
    (hn : n < 2 ^ 64) : declaredSize rawApi src = .ofNat n := by
  rw [declaredSize, rawApi_readsHeader src, h, zstdGetFrameContentSize_rawHeader hn]

/-- One byte. -/
theorem withstands_one_byte :
    let src : ByteArr := ⟨rawFrame .default [97], by decide⟩
    let w : World Format Unit Unit :=
      World.start (decompression rawDecompressApi) .zstd1 () fun _ _ => 0
    Withstands rawApi rawDecompressApi src w w := by
  intro src w
  have hsmall : (declaredSize rawApi src).toNat < 2 ^ 31 := by decide +kernel
  exact (withstands_iff (fun dstCapacity src => rawDecompress_within .zstd1 dstCapacity src.1 _)
    (fun dstCapacity src => rawDecompress_within .zstd1 dstCapacity src.1 _)).mpr (.inl hsmall)

/-- Headers that declare 2147483648, 4294967296 and 4294967297 bytes. The first aborts the program,
and for the others an array with no byte or with one is made. -/
theorem large_sizes_mislead :
    let negative : ByteArr := ⟨rawHeader .default 2147483648, by decide⟩
    let zero : ByteArr := ⟨rawHeader .default 4294967296, by decide⟩
    let one : ByteArr := ⟨rawHeader .default 4294967297, by decide⟩
    let w : World Format Unit Unit :=
      World.start (decompression rawDecompressApi) .zstd1 () fun _ _ => 0
    declaredSize rawApi negative = 2147483648 ∧
      outcome (getFrameContentSize rawApi negative w) = .ok (-2147483648) ∧
      outcome (decompress rawApi negative w) = .error .aborted ∧
      outcome (contextDecompress rawApi rawDecompressApi negative w) = .error .aborted ∧
      declaredSize rawApi zero = 4294967296 ∧
      outcome (getFrameContentSize rawApi zero w) = .ok 0 ∧
      declaredSize rawApi one = 4294967297 ∧
      outcome (getFrameContentSize rawApi one w) = .ok 1 ∧
      ¬Withstands rawApi rawDecompressApi negative w w ∧
      ¬Withstands rawApi rawDecompressApi zero w w ∧
      ¬Withstands rawApi rawDecompressApi one w w := by
  intro negative zero one w
  have hnegative : outcome (getFrameContentSize rawApi negative w) = .ok (-2147483648) := by
    decide +kernel
  have hzero : outcome (getFrameContentSize rawApi zero w) = .ok 0 := by decide +kernel
  have hone : outcome (getFrameContentSize rawApi one w) = .ok 1 := by decide +kernel
  have hnegative' : declaredSize rawApi negative = 2147483648 :=
    declaredSize_rawHeader rfl (by decide)
  have hzero' : declaredSize rawApi zero = 4294967296 :=
    declaredSize_rawHeader rfl (by decide)
  have hone' : declaredSize rawApi one = 4294967297 :=
    declaredSize_rawHeader rfl (by decide)
  obtain ⟨haborts, hcontext⟩ : outcome (decompress rawApi negative w) = .error .aborted ∧
      outcome (contextDecompress rawApi rawDecompressApi negative w) = .error .aborted :=
    decompress_aborts (ne_sentinels (by rw [hnegative']; decide))
      (by rw [hnegative']; decide +kernel)
  exact ⟨hnegative', hnegative, haborts, hcontext, hzero', hzero, hone', hone,
    not_withstands (ne_sentinels (by rw [hnegative']; decide)) (by rw [hnegative']; decide),
    not_withstands (ne_sentinels (by rw [hzero']; decide)) (by rw [hzero']; decide),
    not_withstands (ne_sentinels (by rw [hone']; decide)) (by rw [hone']; decide)⟩

end VZstd
