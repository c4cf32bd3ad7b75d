import VZstd.Stream.World

/-!
# The streaming operations

`drain_buffer`, the loop that `compress_chunk_at` and `decompress_chunk_at` share, and
`compress_end`, over an arbitrary codec. What the two chunk functions differ in is a `Direction`.
-/

namespace VZstd

open Proc

variable {S Op K : Type}

/-- The bytes a caller hands to a `_at` function: a pointer with at least `len` bytes behind it,
and `len`, an `int`. -/
structure Chunk where
  bytes : List UInt8
  len : Int
  len_le : len ≤ bytes.length
  len_lt : len < 2 ^ 31

/-- `src[0 .. len)`. -/
def Chunk.content (c : Chunk) : List UInt8 := c.bytes.take c.len.toNat

/-- A V array, whose `len` is an `int`. -/
abbrev ByteArr := { bytes : List UInt8 // bytes.length < 2 ^ 31 }

/-- `src.data, src.len`. -/
def Chunk.ofArr (src : ByteArr) : Chunk where
  bytes := src.1
  len := src.1.length
  len_le := Int.le_refl _
  len_lt := by have h := src.2; omega

/-- What `compress_chunk_at` and `decompress_chunk_at` differ in. The argument of `op` says whether
the last piece of the last chunk has been staged. -/
structure Direction (S Op : Type) where
  codec : Codec S Op
  op : Bool → Op
  inSize : Nat
  outSize : Nat
  unfinished : String
  inSize_pos : 0 < inSize
  inSize_lt : inSize < 2 ^ 31
  outSize_pos : 0 < outSize
  outSize_lt : outSize < 2 ^ 31

/-- A context from the direction's own constructor, and a history that starts here. -/
def World.start (dir : Direction S Op) (codec : S) (sink : K) (beyond : Nat → Nat → UInt8) :
    World S Op K :=
  { codec := codec
    sctx := newStreamContext dir.outSize dir.inSize
    sink := sink
    beyond := beyond
    log := [] }

/-- `reset` on the stream context. -/
def resetStream : StreamM S Op K Unit := modify fun w => { w with sctx := w.sctx.reset }

/-! ### `drain_buffer` -/

def drainOutput (drain : Drain K) : StreamM S Op K Unit := do
  let w ← get
  if 0 < w.sctx.output.pos then
    match drain w.sink w.drainBytes with
    | (sink, none) => set (w.drained w.drainBytes sink true)
    | (sink, some e) => do
      set (w.drained w.drainBytes sink false)
      throw (.raised (.drain e))
  else
    pure ()

def compactInput : StreamM S Op K Unit := do
  let w ← get
  if 0 < w.sctx.input.size then set w.compact else pure ()

def drainBuffer (drain : Drain K) : StreamM S Op K Unit := do
  drainOutput drain
  compactInput

/-! ### The chunk loop -/

/-- `vmemcpy(input.src + input.size, src + pos, len)` and `input.size += len`. A negative length or
a range outside either array is the end of the program. -/
def stagePiece (src : Chunk) (pos len : Int) : StreamM S Op K Unit := do
  let w ← get
  if 0 ≤ pos ∧ 0 ≤ len ∧ pos + len ≤ src.bytes.length ∧
      w.sctx.input.size + len ≤ w.sctx.input.cap then
    set (w.stage ((src.bytes.drop pos.toNat).take len.toNat))
  else
    throw .aborted

def callCodec (codec : Codec S Op) (op : Op) : StreamM S Op K UInt64 := do
  let w ← get
  let c := w.request codec op
  set (w.answer c)
  pure c.reply.ret

/-- The local variables of the loop. -/
structure Locals where
  res : UInt64
  pos : Int
  restLen : Int

/-- The new `(len, rest_len)`. -/
def nextPiece (restLen maxLen : Int) : Int × Int :=
  if restLen ≤ maxLen then (restLen, 0) else (maxLen, i32 (restLen - maxLen))

/-- One pass of `for rest_len > 0`. -/
def chunkPass (dir : Direction S Op) (src : Chunk) (last : Bool) (drain : Drain K) (l : Locals) :
    StreamM S Op K Locals := do
  let w ← get
  let maxLen := i32 (dir.inSize - i32 w.sctx.input.size)
  let piece := nextPiece l.restLen maxLen
  stagePiece src l.pos piece.1
  let res ← callCodec dir.codec (dir.op (last && piece.2 == 0))
  checkError res
  drainBuffer drain
  pure { res := res, pos := i32 (l.pos + maxLen), restLen := piece.2 }

def chunkLoop (dir : Direction S Op) (fuel : Nat) (src : Chunk) (last : Bool) (drain : Drain K) :
    StreamM S Op K Locals :=
  whileFuel .running (fun l => 0 < l.restLen) (chunkPass dir src last drain) fuel
    { res := 0, pos := 0, restLen := src.len }

/-- The check behind the loop. -/
def checkFinished (dir : Direction S Op) (last : Bool) (l : Locals) : StreamM S Op K Unit := do
  let w ← get
  if last && (l.res != 0 || w.sctx.input.pos != w.sctx.input.size) then
    throw (.raised (.message dir.unfinished))
  else
    pure ()

def chunkAt (dir : Direction S Op) (fuel : Nat) (src : Chunk) (last : Bool) (drain : Drain K) :
    StreamM S Op K Unit := do
  let l ← chunkLoop dir fuel src last drain
  checkFinished dir last l

/-- One codec call on what is staged, and a drain only if there is something to drain. -/
def endWith (codec : Codec S Op) (op : Op) (drain : Drain K) : StreamM S Op K Unit := do
  let res ← callCodec codec op
  checkError res
  let w ← get
  if 0 < w.sctx.output.pos then drainBuffer drain else pure ()

/-- Feed chunks in order, with `last` on the final one, until a call fails. -/
def feed (dir : Direction S Op) (fuel : Nat) (drain : Drain K) : List Chunk → StreamM S Op K Unit
  | [] => pure ()
  | [c] => chunkAt dir fuel c true drain
  | c :: cs => do
    chunkAt dir fuel c false drain
    feed dir fuel drain cs

end VZstd
