import VZstd.Zstd
import VZstd.Stream.Operations

/-!
# Compression contexts

The parameters of a `CompressContext` and the operations on it. The context itself is the `codec`
of the world.
-/

namespace VZstd

variable {S Op C K : Type}

inductive ResetDir where
  | sessionOnly
  | parameters
  | sessionAndParameters
  deriving DecidableEq, Repr

/-- `int(reset)`. -/
def ResetDir.code : ResetDir → Int
  | sessionOnly => 1
  | parameters => 2
  | sessionAndParameters => 3

inductive CompressParam where
  | compressionLevel
  | windowLog
  | hashLog
  | chainLog
  | searchLog
  | minMatch
  | targetLength
  | strategy
  | enableLongDistanceMatching
  | ldmHashLog
  | ldmMinMatch
  | ldmBucketSizeLog
  | ldmHashRateLog
  | contentSizeFlag
  | checksumFlag
  | dictIdFlag
  | nbWorkers
  | jobSize
  | overlapLog
  | rsyncable
  | format
  | forceMaxWindow
  | forceAttachDict
  | literalCompressionMode
  | targetCBlockSize
  | srcSizeHint
  | enableDedicatedDictSearch
  | stableInBuffer
  | stableOutBuffer
  | blockDelimiters
  | validateSequences
  | useRowMatchFinder
  | prefetchCDictTables
  | enableSeqProducerFallback
  | maxBlockSize
  deriving DecidableEq, Repr

/-- `int(param)`. -/
def CompressParam.code : CompressParam → Int
  | compressionLevel => 100
  | windowLog => 101
  | hashLog => 102
  | chainLog => 103
  | searchLog => 104
  | minMatch => 105
  | targetLength => 106
  | strategy => 107
  | enableLongDistanceMatching => 160
  | ldmHashLog => 161
  | ldmMinMatch => 162
  | ldmBucketSizeLog => 163
  | ldmHashRateLog => 164
  | contentSizeFlag => 200
  | checksumFlag => 201
  | dictIdFlag => 202
  | nbWorkers => 400
  | jobSize => 401
  | overlapLog => 402
  | rsyncable => 500
  | format => 10
  | forceMaxWindow => 1000
  | forceAttachDict => 1001
  | literalCompressionMode => 1002
  | targetCBlockSize => 130
  | srcSizeHint => 1004
  | enableDedicatedDictSearch => 1005
  | stableInBuffer => 1006
  | stableOutBuffer => 1007
  | blockDelimiters => 1008
  | validateSequences => 1009
  | useRowMatchFinder => 1011
  | prefetchCDictTables => 1013
  | enableSeqProducerFallback => 1014
  | maxBlockSize => 1015

/-! ### One-shot calls into a destination -/

/-- `usize(n)` for an `int`. -/
def usize (n : Int) : UInt64 := UInt64.ofInt n

lemma toNat_usize {n : Nat} (h : n < 2 ^ 64) : (usize n).toNat = n := by
  rw [usize, UInt64.ofInt]
  simp
  omega

lemma usize_natCast_toNat {n : Nat} (h : n < 2 ^ 31) : (usize n).toNat = n :=
  toNat_usize (h.trans (by decide))

/-- `[]u8{len: len}`, which aborts for a negative length. -/
def newArr (len : Int) : StreamM S Op K (List UInt8) :=
  if 0 ≤ len then pure (List.replicate len.toNat 0) else throw .aborted

/-- `dst[..len]`, which aborts when `len` is out of range. -/
def cut (dst : List UInt8) (len : Int) : StreamM S Op K (List UInt8) :=
  if 0 ≤ len ∧ len ≤ dst.length then pure (dst.take len.toNat) else throw .aborted

def overwrite (dst bytes : List UInt8) : List UInt8 :=
  (bytes ++ dst.drop bytes.length).take dst.length

/-- `check_error(res)!` and `int(res)`, for a function that has written to `dst`. -/
def filled (dst : List UInt8) (r : Written) : StreamM S Op K (Int × List UInt8) := do
  returned r.ret
  checkError r.ret
  pure (i32 r.ret.toNat, overwrite dst r.bytes)

/-- Fill a new array of length `maxLen` and cut it to what was written. -/
def intoNewArr (maxLen : Int)
    (fill : List UInt8 → StreamM S Op K (Int × List UInt8)) : StreamM S Op K (List UInt8) := do
  let dst ← newArr maxLen
  let r ← fill dst
  if r.1 ≠ dst.length then cut r.2 r.1 else pure r.2

/-! ### The context -/

/-- The result of `ZSTD_CCtx_reset` is not looked at. -/
def compressReset (api : CompressApi C) (reset : ResetDir) : StreamM C Op K Unit := do
  let _ ← onContext fun c => api.reset c reset.code
  pure ()

/-- The result of `ZSTD_freeCCtx` is not looked at. -/
def compressFree (api : CompressApi C) : StreamM C Op K Unit := do
  let _ ← onContext fun c => (c, api.free c)
  pure ()

def compressParamBounds (api : SimpleApi) (param : CompressParam) : StreamM S Op K (Int × Int) := do
  let bounds := api.cParamGetBounds param.code
  returned bounds.error
  checkError bounds.error
  pure (bounds.lowerBound, bounds.upperBound)

def compressSetParam (api : CompressApi C) (param : CompressParam) (value : Int) :
    StreamM C Op K Unit := do
  let res ← onContext fun c => api.setParameter c param.code value
  checkError res

def compressGetParam (api : CompressApi C) (param : CompressParam) : StreamM C Op K Int := do
  let w ← get
  let r := api.getParameter w.codec param.code
  returned r.1
  checkError r.1
  pure r.2

def setPledgedSrcSize (api : CompressApi C) (pledgedSrcSize : Int) : StreamM C Op K Unit := do
  let res ← onContext fun c => api.setPledgedSrcSize c (usize pledgedSrcSize)
  checkError res

def contextCompressAt (api : CompressApi C) (dst : List UInt8) (dstLen : Int) (src : Chunk) :
    StreamM C Op K (Int × List UInt8) := do
  let w ← get
  let r := api.compress2 w.codec (usize dstLen) src.bytes (usize src.len)
  set { w with codec := r.1 }
  filled dst r.2

def contextCompressTo (api : CompressApi C) (dst : List UInt8) (src : ByteArr) :
    StreamM C Op K (Int × List UInt8) :=
  contextCompressAt api dst dst.length (.ofArr src)

def contextCompress (api : CompressApi C) (src : ByteArr) : StreamM C Op K (List UInt8) := do
  let bound := zstdCompressBound (usize src.1.length)
  returned bound
  intoNewArr (i32 bound.toNat) fun dst => contextCompressTo api dst src

end VZstd
