import VZstd.Stream.World

/-!
# The functions of zstd

What the bindings call and do not define. Sizes, bounds and enumerations are zstd's own; the
functions that compress or decompress are fields of three interfaces, one for each kind of context.
-/

namespace VZstd

/-- `ZSTD_EndDirective`. -/
inductive EndDirective where
  | eContinue
  | eFlush
  | eEnd
  deriving DecidableEq, Repr

/-- `ZSTD_BLOCKSIZE_MAX`. -/
def blockSizeMax : UInt64 := 131072

/-- `ZSTD_blockHeaderSize`. -/
def blockHeaderSize : UInt64 := 3

/-- `ZSTD_MAX_INPUT_SIZE` where `size_t` has 64 bits. -/
def maxInputSize : UInt64 := 0xFF00FF00FF00FF00

/-- `ZSTD_COMPRESSBOUND`. -/
def compressBoundMacro (srcSize : UInt64) : UInt64 :=
  if maxInputSize ≤ srcSize then 0
  else srcSize + (srcSize >>> 8) + (if srcSize < 131072 then (131072 - srcSize) >>> 11 else 0)

/-- `ZSTD_compressBound`, with `ERROR(srcSize_wrong)` for what is too large. -/
def zstdCompressBound (srcSize : UInt64) : UInt64 :=
  let r := compressBoundMacro srcSize
  if r = 0 then 0 - 72 else r

lemma toNat_add_of_lt {a b : UInt64} (h : a.toNat + b.toNat < 2 ^ 64) :
    (a + b).toNat = a.toNat + b.toNat := by
  rw [UInt64.toNat_add, Nat.mod_eq_of_lt h]

/-- The bound of what is not too large: all of it, a 256th part and a margin for few blocks. -/
lemma toNat_compressBound_of_lt {srcSize : UInt64} (h : srcSize.toNat < maxInputSize.toNat) :
    (zstdCompressBound srcSize).toNat = srcSize.toNat + srcSize.toNat / 256 +
      if srcSize.toNat < 131072 then (131072 - srcSize.toNat) / 2048 else 0 := by
  have hc : maxInputSize.toNat = 18374966859414961920 := by decide
  have hmax : ¬maxInputSize ≤ srcSize := by
    rw [UInt64.le_iff_toNat_le]
    omega
  have hshift : (srcSize >>> 8).toNat = srcSize.toNat / 256 := by
    rw [UInt64.toNat_shiftRight, Nat.shiftRight_eq_div_pow]
    rfl
  have hsum : (srcSize + srcSize >>> 8).toNat = srcSize.toNat + srcSize.toNat / 256 := by
    rw [toNat_add_of_lt (by omega), hshift]
  have hmacro : (compressBoundMacro srcSize).toNat = srcSize.toNat + srcSize.toNat / 256 +
      if srcSize.toNat < 131072 then (131072 - srcSize.toNat) / 2048 else 0 := by
    have hlt : srcSize < 131072 ↔ srcSize.toNat < 131072 := Iff.rfl
    rw [compressBoundMacro, if_neg hmax]
    simp only [hlt]
    split
    next hsmall =>
      have hmargin : ((131072 - srcSize) >>> 11).toNat = (131072 - srcSize.toNat) / 2048 := by
        rw [UInt64.toNat_shiftRight, UInt64.toNat_sub_of_le _ _ (UInt64.le_of_lt hsmall),
          Nat.shiftRight_eq_div_pow]
        rfl
      rw [toNat_add_of_lt (by omega), hsum, hmargin]
    next => rw [UInt64.add_zero, hsum, Nat.add_zero]
  have hne : compressBoundMacro srcSize ≠ 0 := by
    intro hzero
    rw [hzero, UInt64.toNat_zero] at hmacro
    split at hmacro <;> omega
  rw [zstdCompressBound, if_neg hne, hmacro]

/-- The bound of what fits in a V array. -/
lemma toNat_compressBound {srcSize : UInt64} (h : srcSize.toNat < 2 ^ 31) :
    (zstdCompressBound srcSize).toNat = srcSize.toNat + srcSize.toNat / 256 +
      if srcSize.toNat < 131072 then (131072 - srcSize.toNat) / 2048 else 0 :=
  toNat_compressBound_of_lt (h.trans (by decide))

/-- That bound is no error. -/
lemma compressBound_of_lt {srcSize : UInt64} (h : srcSize.toNat < 2 ^ 31) :
    isError (zstdCompressBound srcSize) = false := by
  have hbound := toNat_compressBound h
  rw [← Bool.not_eq_true, isError_iff]
  split at hbound <;> omega

def cStreamInSize : UInt64 := blockSizeMax

/-- One compressed block, its header and a checksum. -/
def cStreamOutSize : UInt64 := zstdCompressBound blockSizeMax + blockHeaderSize + 4

def dStreamInSize : UInt64 := blockSizeMax + blockHeaderSize

def dStreamOutSize : UInt64 := blockSizeMax

/-- The answer of a function that fills a destination: its result and the bytes it wrote. -/
structure Written where
  ret : UInt64
  bytes : List UInt8

/-- `ZSTD_bounds`. -/
structure Bounds where
  error : UInt64
  lowerBound : Int
  upperBound : Int

/-- The functions that need no context. -/
structure SimpleApi where
  compress : (dstCapacity : UInt64) → (src : List UInt8) → (srcSize : UInt64) → (level : Int) →
    Written
  decompress : (dstCapacity : UInt64) → (src : List UInt8) → (compressedSize : UInt64) → Written
  getFrameContentSize : (src : List UInt8) → (srcSize : UInt64) → UInt64
  findFrameCompressedSize : (src : List UInt8) → (srcSize : UInt64) → UInt64
  cParamGetBounds : Int → Bounds
  dParamGetBounds : Int → Bounds

/-- The functions on a `ZSTD_CCtx`. -/
structure CompressApi (C : Type) where
  compressStream2 : Codec C EndDirective
  reset : C → Int → C × UInt64
  setParameter : C → Int → Int → C × UInt64
  /-- the result, and the value written through the pointer -/
  getParameter : C → Int → UInt64 × Int
  setPledgedSrcSize : C → UInt64 → C × UInt64
  compress2 : C → (dstCapacity : UInt64) → (src : List UInt8) → (srcSize : UInt64) → C × Written
  free : C → UInt64

/-- The functions on a `ZSTD_DCtx`. -/
structure DecompressApi (D : Type) where
  decompressStream : Codec D Unit
  reset : D → Int → D × UInt64
  setParameter : D → Int → Int → D × UInt64
  getParameter : D → Int → UInt64 × Int
  setMaxWindowSize : D → UInt64 → D × UInt64
  decompressDCtx : D → (dstCapacity : UInt64) → (src : List UInt8) → (srcSize : UInt64) →
    D × Written
  free : D → UInt64

variable {S Op K : Type}

/-- The result of a zstd function goes into the history. -/
def returned (ret : UInt64) : StreamM S Op K Unit := modify (·.record (.returned ret))

/-- Call a zstd function on the context. -/
def onContext (f : S → S × UInt64) : StreamM S Op K UInt64 := do
  let w ← get
  let r := f w.codec
  set { w with codec := r.1 }
  returned r.2
  pure r.2

end VZstd
