import VZstd.Errors
import VZstd.Stream.Buffer

/-!
# Codecs, and the world of a stream

The streaming functions of zstd are parameters: a `Codec` answers each call with a `Reply`. A
`World` is all that a chunk call can see or change: the codec's session, the stream context, the
receiver of the output, and the memory behind the input buffer. Its `log` is a history variable; no
operation reads it.
-/

namespace VZstd

/-- The answer of a codec call: how much it read, what it appended, and its result. -/
structure Reply (S : Type) where
  state : S
  ret : UInt64
  consumed : Nat
  produced : List UInt8

/-- A streaming function of zstd. It reads a prefix of `src[pos .. size)` and appends to
`dst[pos .. size)`. -/
structure Codec (S Op : Type) where
  call : S → Op → OutBuffer → InBuffer → Reply S
  consumed_le : ∀ s op o i, (call s op o i).consumed ≤ i.size - i.pos
  produced_le : ∀ s op o i, (call s op o i).produced.length ≤ o.size - o.pos

/-- What is empty fits into every output buffer. -/
lemma Codec.nil_fits {S Op : Type} (_ : S) (_ : Op) (o : OutBuffer) (_ : InBuffer) :
    ([] : List UInt8).length ≤ o.size - o.pos := Nat.zero_le _

/-- A codec call: what it was given and what it answered. -/
structure Call (S Op : Type) where
  state : S
  op : Op
  output : OutBuffer
  input : InBuffer
  reply : Reply S

/-- The call with its answer. -/
def Codec.ask {S Op : Type} (codec : Codec S Op) (s : S) (op : Op) (output : OutBuffer)
    (input : InBuffer) : Call S Op :=
  { state := s, op := op, output := output, input := input, reply := codec.call s op output input }

/-- The buffers as the call left them. -/
def Call.inputAfter {S Op : Type} (c : Call S Op) : InBuffer :=
  c.input.advance c.reply.consumed

def Call.outputAfter {S Op : Type} (c : Call S Op) : OutBuffer :=
  c.output.append c.reply.produced

/-- The bytes that the call read. -/
def Call.consumed {S Op : Type} (c : Call S Op) : List UInt8 :=
  c.input.window.take c.reply.consumed

inductive Event (S Op : Type) where
  /-- bytes copied into the input buffer -/
  | staged (bytes : List UInt8)
  | called (c : Call S Op)
  /-- bytes passed to the drain callback, and whether it took them -/
  | drained (bytes : List UInt8) (taken : Bool)
  /-- the input buffer before and after its unread bytes were moved to the front -/
  | compacted (before after : InBuffer)
  /-- the result of a zstd function other than the streaming ones -/
  | returned (ret : UInt64)

/-- A drain callback over a receiver `K`: it takes the bytes or raises an error. -/
abbrev Drain (K : Type) := K → List UInt8 → K × Option DrainError

abbrev Log (S Op : Type) := List (Event S Op)

structure World (S Op K : Type) where
  codec : S
  sctx : StreamContext
  sink : K
  /-- `beyond t i` is the byte at offset `i` of the input buffer, past its end, at time `t` -/
  beyond : Nat → Nat → UInt8
  log : Log S Op

abbrev StreamM (S Op K : Type) := EStateM Stop (World S Op K)

variable {S Op K : Type}

/-! ### What a log tells -/

namespace Event

@[simp] def bytesStaged : Event S Op → List UInt8
  | staged bytes => bytes
  | _ => []

@[simp] def call? : Event S Op → Option (Call S Op)
  | called c => some c
  | _ => none

@[simp] def bytesTaken : Event S Op → List UInt8
  | drained bytes true => bytes
  | _ => []

/-- The `size_t` that an event got from zstd. -/
@[simp] def ret? : Event S Op → Option UInt64
  | called c => some c.reply.ret
  | returned ret => some ret
  | _ => none

end Event

/-- All bytes that the calls read. -/
def bytesRead (cs : List (Call S Op)) : List UInt8 := cs.flatMap Call.consumed

/-- All bytes that the calls appended. -/
def bytesPut (cs : List (Call S Op)) : List UInt8 := cs.flatMap fun c => c.reply.produced

namespace Log

/-- All bytes copied into the input buffer. -/
def staged (l : Log S Op) : List UInt8 := l.flatMap Event.bytesStaged

def calls (l : Log S Op) : List (Call S Op) := l.filterMap Event.call?

/-- All bytes the codec has read. -/
def consumed (l : Log S Op) : List UInt8 := bytesRead (calls l)

/-- All bytes the codec has appended. -/
def produced (l : Log S Op) : List UInt8 := bytesPut (calls l)

/-- All bytes that a drain callback took. -/
def delivered (l : Log S Op) : List UInt8 := l.flatMap Event.bytesTaken

end Log

namespace World

/-! ### The effects that the operations are made of -/

def record (w : World S Op K) (e : Event S Op) : World S Op K := { w with log := w.log ++ [e] }

def stage (w : World S Op K) (bytes : List UInt8) : World S Op K :=
  { w with
    sctx := { w.sctx with input := w.sctx.input.stage bytes }
    log := w.log ++ [.staged bytes] }

/-- The codec call that would be made now. -/
def request (w : World S Op K) (codec : Codec S Op) (op : Op) : Call S Op :=
  codec.ask w.codec op w.sctx.output w.sctx.input

def answer (w : World S Op K) (c : Call S Op) : World S Op K :=
  { w with
    codec := c.reply.state
    sctx := { output := c.outputAfter, input := c.inputAfter }
    log := w.log ++ [.called c] }

/-- `drain(sctx.output.dst, int(sctx.output.pos))`: the bytes of this call. -/
def drainBytes (w : World S Op K) : List UInt8 :=
  Memory.slice w.sctx.output.dst 0 (i32 w.sctx.output.pos).toNat

/-- `bytes` went to the drain callback, which left the receiver as `sink`. -/
def drained (w : World S Op K) (bytes : List UInt8) (sink : K) (taken : Bool) : World S Op K :=
  { w with
    sctx := { w.sctx with output :=
      if taken then { w.sctx.output with pos := 0 } else w.sctx.output }
    sink := sink
    log := w.log ++ [.drained bytes taken] }

def compact (w : World S Op K) : World S Op K :=
  let input := w.sctx.input.compact (w.beyond w.log.length)
  { w with
    sctx := { w.sctx with input := input }
    log := w.log ++ [.compacted w.sctx.input input] }

end World

end VZstd
