import VZstd.CompressContext

/-!
# One-shot operations and decompression contexts

The functions of `common.v`, `compress.v` and `decompress.v`, and the operations on a
`DecompressContext`, which is the `codec` of the world.
-/

namespace VZstd

variable {S Op D K : Type}

/-! ### Sizes -/

/-- `ZSTD_CONTENTSIZE_UNKNOWN`. -/
def contentSizeUnknown : UInt64 := 0 - 1

/-- `ZSTD_CONTENTSIZE_ERROR`. -/
def contentSizeError : UInt64 := 0 - 2

/-- The frame size is no `size_t` result: its sentinels are not error codes. -/
def getFrameContentSize (api : SimpleApi) (frame : ByteArr) : StreamM S Op K Int :=
  let res := api.getFrameContentSize frame.1 (usize frame.1.length)
  if res = contentSizeUnknown then throw (.raised .contentSizeUnknown)
  else if res = contentSizeError then throw (.raised (.message "invalid content"))
  else pure (i32 res.toNat)

def findFrameCompressedSize (api : SimpleApi) (src : ByteArr) : StreamM S Op K Int := do
  let res := api.findFrameCompressedSize src.1 (usize src.1.length)
  returned res
  checkError res
  pure (i32 res.toNat)

/-- The result of `ZSTD_compressBound` is not checked. -/
def compressBound (srcSize : Int) : StreamM S Op K Int := do
  let res := zstdCompressBound (usize srcSize)
  returned res
  pure (i32 res.toNat)

/-! ### Compression and decompression without a context -/

/-- `ZSTD_defaultCLevel()`. -/
def defaultCompressLevel : Int := 3

def compressWithLevelAt (api : SimpleApi) (dst : List UInt8) (dstLen : Int) (src : Chunk)
    (level : Int) : StreamM S Op K (Int × List UInt8) :=
  filled dst (api.compress (usize dstLen) src.bytes (usize src.len) level)

def compressAt (api : SimpleApi) (dst : List UInt8) (dstLen : Int) (src : Chunk) :
    StreamM S Op K (Int × List UInt8) :=
  compressWithLevelAt api dst dstLen src defaultCompressLevel

def compressWithLevelTo (api : SimpleApi) (dst : List UInt8) (src : ByteArr) (level : Int) :
    StreamM S Op K (Int × List UInt8) :=
  compressWithLevelAt api dst dst.length (.ofArr src) level

def compressTo (api : SimpleApi) (dst : List UInt8) (src : ByteArr) :
    StreamM S Op K (Int × List UInt8) :=
  compressWithLevelTo api dst src defaultCompressLevel

def compressWithLevel (api : SimpleApi) (src : ByteArr) (level : Int) :
    StreamM S Op K (List UInt8) := do
  let bound := zstdCompressBound (usize src.1.length)
  returned bound
  intoNewArr (i32 bound.toNat) fun dst => compressWithLevelTo api dst src level

def compress (api : SimpleApi) (src : ByteArr) : StreamM S Op K (List UInt8) :=
  compressWithLevel api src defaultCompressLevel

def decompressAt (api : SimpleApi) (dst : List UInt8) (dstLen : Int) (src : Chunk) :
    StreamM S Op K (Int × List UInt8) :=
  filled dst (api.decompress (usize dstLen) src.bytes (usize src.len))

def decompressTo (api : SimpleApi) (dst : List UInt8) (src : ByteArr) :
    StreamM S Op K (Int × List UInt8) :=
  decompressAt api dst dst.length (.ofArr src)

def decompress (api : SimpleApi) (src : ByteArr) : StreamM S Op K (List UInt8) := do
  let maxLen ← getFrameContentSize api src
  intoNewArr maxLen fun dst => decompressTo api dst src

/-! ### The decompression context -/

inductive DecompressParam where
  | windowLogMax
  | format
  | stableOutBuffer
  | forceIgnoreChecksum
  | refMultipleDDicts
  deriving DecidableEq, Repr

/-- `int(param)`. -/
def DecompressParam.code : DecompressParam → Int
  | windowLogMax => 100
  | format => 1000
  | stableOutBuffer => 1001
  | forceIgnoreChecksum => 1002
  | refMultipleDDicts => 1003

/-- The result of `ZSTD_DCtx_reset` is not looked at. -/
def decompressReset (api : DecompressApi D) (reset : ResetDir) : StreamM D Op K Unit := do
  let _ ← onContext fun d => api.reset d reset.code
  pure ()

/-- The result of `ZSTD_freeDCtx` is not looked at. -/
def decompressFree (api : DecompressApi D) : StreamM D Op K Unit := do
  let _ ← onContext fun d => (d, api.free d)
  pure ()

def decompressParamBounds (api : SimpleApi) (param : DecompressParam) :
    StreamM S Op K (Int × Int) := do
  let bounds := api.dParamGetBounds param.code
  returned bounds.error
  checkError bounds.error
  pure (bounds.lowerBound, bounds.upperBound)

def decompressSetParam (api : DecompressApi D) (param : DecompressParam) (value : Int) :
    StreamM D Op K Unit := do
  let res ← onContext fun d => api.setParameter d param.code value
  checkError res

def decompressGetParam (api : DecompressApi D) (param : DecompressParam) :
    StreamM D Op K Int := do
  let w ← get
  let r := api.getParameter w.codec param.code
  returned r.1
  checkError r.1
  pure r.2

def setMaxWindowSize (api : DecompressApi D) (maxWindowSize : Int) : StreamM D Op K Unit := do
  let res ← onContext fun d => api.setMaxWindowSize d (usize maxWindowSize)
  checkError res

def contextDecompressAt (api : DecompressApi D) (dst : List UInt8) (dstLen : Int) (src : Chunk) :
    StreamM D Op K (Int × List UInt8) := do
  let w ← get
  let r := api.decompressDCtx w.codec (usize dstLen) src.bytes (usize src.len)
  set { w with codec := r.1 }
  filled dst r.2

def contextDecompressTo (api : DecompressApi D) (dst : List UInt8) (src : ByteArr) :
    StreamM D Op K (Int × List UInt8) :=
  contextDecompressAt api dst dst.length (.ofArr src)

def contextDecompress (simple : SimpleApi) (api : DecompressApi D) (src : ByteArr) :
    StreamM D Op K (List UInt8) := do
  let maxLen ← getFrameContentSize simple src
  intoNewArr maxLen fun dst => contextDecompressTo api dst src

end VZstd
