import VZstd.Stream.Functions
import VZstd.Stream.Session

/-!
# A codec that stores

A streaming compressor in a few lines, with which results about all codecs are tried. It keeps all
that it reads and writes a frame of raw blocks at `ZSTD_e_end`, as far as the output buffer goes.
-/

namespace VZstd

/-- The three bytes before a raw block. -/
def blockHeader (last : Bool) (size : Nat) : List UInt8 :=
  let n := 8 * size + last.toNat
  [n.toUInt8, (n / 256).toUInt8, (n / 65536).toUInt8]

/-- `x` in raw blocks, as many as fit in `n + 1`. -/
def rawBlocks : Nat → List UInt8 → List UInt8
  | 0, x => blockHeader true x.length ++ x
  | n + 1, x =>
    if x.length ≤ 131072 then blockHeader true x.length ++ x
    else blockHeader false 131072 ++ (x.take 131072 ++ rawBlocks n (x.drop 131072))

/-- The frame of `x` that holds it uncompressed. -/
def storedFrame (x : List UInt8) : List UInt8 :=
  [0x28, 0xB5, 0x2F, 0xFD, 0x00, 0x58] ++ rawBlocks (x.length / 131072) x

/-- A frame with three bytes, as zstd writes it. -/
example : storedFrame [97, 98, 99] =
    [0x28, 0xB5, 0x2F, 0xFD, 0x00, 0x58, 0x19, 0x00, 0x00, 97, 98, 99] := by
  decide

lemma length_rawBlocks (n : Nat) (x : List UInt8) :
    x.length ≤ (rawBlocks n x).length ∧ (rawBlocks n x).length ≤ x.length + 3 * (n + 1) := by
  induction n generalizing x with
  | zero =>
    simp [rawBlocks, blockHeader]
    omega
  | succ n ih =>
    rw [rawBlocks]
    split
    · simp [blockHeader]
      omega
    · have hrest := ih (x.drop 131072)
      simp [blockHeader] at hrest ⊢
      omega

lemma length_storedFrame (x : List UInt8) :
    x.length ≤ (storedFrame x).length ∧
      (storedFrame x).length ≤ x.length + 3 * (x.length / 131072) + 9 := by
  have hblocks := length_rawBlocks (x.length / 131072) x
  simp [storedFrame]
  omega

/-- The state of the codec: it takes the content of a frame, or has the rest of one to write. -/
inductive Storing where
  | taking (content : List UInt8)
  | ending (rest : List UInt8)

namespace Storing

/-- Write what fits of `bytes`. -/
def flush (bytes : List UInt8) (room consumed : Nat) : Reply Storing :=
  if bytes.length ≤ room then
    { state := taking [], ret := 0, consumed := consumed, produced := bytes }
  else
    { state := ending (bytes.drop room)
      ret := UInt64.ofNat (min (bytes.length - room) 131072)
      consumed := consumed
      produced := bytes.take room }

def reply : Storing → EndDirective → (room : Nat) → (window : List UInt8) → Reply Storing
  | taking content, .eEnd, room, window =>
    flush (storedFrame (content ++ window)) room window.length
  | taking content, _, _, window =>
    { state := taking (content ++ window), ret := blockSizeMax, consumed := window.length,
      produced := [] }
  | ending rest, .eEnd, room, _ => flush rest room 0
  | ending rest, _, _, _ => { state := ending rest, ret := 0 - 60, consumed := 0, produced := [] }

@[simp] lemma flush_consumed (bytes : List UInt8) (room consumed : Nat) :
    (flush bytes room consumed).consumed = consumed := by
  rw [flush]
  split <;> rfl

lemma flush_produced (bytes : List UInt8) (room consumed : Nat) :
    (flush bytes room consumed).produced = bytes.take room := by
  rw [flush]
  split
  next h => exact (List.take_of_length_le h).symm
  next => rfl

lemma flush_ret (bytes : List UInt8) (room consumed : Nat) :
    isError (flush bytes room consumed).ret = false ∧
      ((flush bytes room consumed).ret = 0 ↔ bytes.length ≤ room) := by
  rw [flush]
  split
  next h => exact ⟨isError_zero, iff_of_true rfl h⟩
  next h =>
    have hmin : min (bytes.length - room) 131072 < 2 ^ 64 := by omega
    have htoNat : (UInt64.ofNat (min (bytes.length - room) 131072)).toNat =
        min (bytes.length - room) 131072 := UInt64.toNat_ofNat_of_lt' hmin
    constructor
    · rw [← Bool.not_eq_true, isError_iff, htoNat]
      omega
    · refine iff_of_false (fun hret => ?_) h
      have hzero : UInt64.ofNat (min (bytes.length - room) 131072) = 0 := hret
      rw [hzero] at htoNat
      simp at htoNat
      omega

lemma reply_consumed_le (s : Storing) (op : EndDirective) (room : Nat) (window : List UInt8) :
    (s.reply op room window).consumed ≤ window.length := by
  cases s <;> cases op <;> simp [reply]

lemma reply_produced_le (s : Storing) (op : EndDirective) (room : Nat) (window : List UInt8) :
    (s.reply op room window).produced.length ≤ room := by
  cases s <;> cases op <;> simp [reply, flush_produced]

end Storing

/-- A streaming compressor that stores. -/
def storing : Codec Storing EndDirective where
  call s op output input := s.reply op output.room input.window
  consumed_le s op output input := by
    rw [← InBuffer.window_length]
    exact s.reply_consumed_le op _ _
  produced_le s op output input := s.reply_produced_le op _ _

def storingApi : CompressApi Storing := .ofCodec storing

namespace Storing

/-- The bytes that end the frame once `window` has been read. -/
def toWrite : Storing → List UInt8 → List UInt8
  | taking content, window => storedFrame (content ++ window)
  | ending rest, _ => rest

/-- What the state says of the calls of a frame that is still open. -/
def Written (cs : List (Call Storing EndDirective)) : Storing → Prop
  | taking content => bytesPut cs = [] ∧ bytesRead cs = content
  | ending rest => bytesPut cs ++ rest = storedFrame (bytesRead cs)

variable {cs : List (Call Storing EndDirective)} {s t : Storing} {op : EndDirective}
  {output : OutBuffer} {input : InBuffer}

/-- A call that does not close the frame. -/
lemma Written.call (h : Written cs s) (hopen : ¬(storing.ask s op output input).ClosesFrame) :
    Written (cs ++ [storing.ask s op output input]) (storing.call s op output input).state := by
  cases s with
  | taking content =>
    obtain ⟨hput, hread⟩ := h
    cases op with
    | eEnd =>
      have hlong : ¬(storedFrame (content ++ input.window)).length ≤ output.room :=
        fun hfit => hopen ⟨rfl, (flush_ret _ _ _).2.mpr hfit⟩
      simp [Written, storing, reply, flush, hlong, Codec.ask, Call.consumed, hput, hread]
    | eContinue => simp [Written, storing, reply, Codec.ask, Call.consumed, hput, hread]
    | eFlush => simp [Written, storing, reply, Codec.ask, Call.consumed, hput, hread]
  | ending rest =>
    cases op with
    | eEnd =>
      have hlong : ¬rest.length ≤ output.room :=
        fun hfit => hopen ⟨rfl, (flush_ret _ _ _).2.mpr hfit⟩
      simpa [Written, storing, reply, flush, hlong, Codec.ask, Call.consumed] using h
    | eContinue => simpa [Written, storing, reply, Codec.ask, Call.consumed] using h
    | eFlush => simpa [Written, storing, reply, Codec.ask, Call.consumed] using h

/-- The run lemma: until the frame is closed, its state accounts for all that was read. -/
lemma written_of_session (h : storing.Session (taking []) cs t)
    (hopen : ∀ d ∈ cs, ¬d.ClosesFrame) : Written cs t := by
  induction h with
  | start => exact ⟨rfl, rfl⟩
  | call h op hout hin ih =>
    have hbefore := ih fun d hd => hopen d (List.mem_append_left _ hd)
    exact hbefore.call (hopen _ (List.mem_append_right _ (List.mem_singleton_self _)))

/-- The call that closes the frame writes all of it. -/
lemma Written.close (h : Written cs s) (hclose : (storing.ask s op output input).ClosesFrame) :
    bytesPut (cs ++ [storing.ask s op output input]) =
      storedFrame (bytesRead (cs ++ [storing.ask s op output input])) := by
  obtain ⟨rfl, hret⟩ : op = .eEnd ∧ _ := hclose
  cases s with
  | taking content =>
    obtain ⟨hput, hread⟩ := h
    have hfit := (flush_ret _ _ _).2.mp hret
    simp [storing, reply, Codec.ask, Call.consumed, flush_produced, List.take_of_length_le hfit,
      hput, hread]
  | ending rest =>
    have hfit := (flush_ret _ _ _).2.mp hret
    have hwritten : bytesPut cs ++ rest = storedFrame (bytesRead cs) := h
    simpa [storing, reply, Codec.ask, Call.consumed, flush_produced,
      List.take_of_length_le hfit] using hwritten

/-- Before the first `ZSTD_e_end` nothing is written. -/
lemma taking_of_session (h : storing.Session (taking []) cs t) (hops : ∀ d ∈ cs, d.op ≠ .eEnd) :
    t = taking (bytesRead cs) ∧ bytesPut cs = [] := by
  induction h with
  | start => exact ⟨rfl, rfl⟩
  | @call cs t h op output input hout hin ih =>
    obtain ⟨rfl, hput⟩ := ih fun d hd => hops d (List.mem_append_left _ hd)
    have hop : op ≠ .eEnd := hops _ (List.mem_append_right _ (List.mem_singleton_self _))
    cases op with
    | eEnd => exact absurd rfl hop
    | eContinue => simp [storing, reply, Codec.ask, Call.consumed, hput]
    | eFlush => simp [storing, reply, Codec.ask, Call.consumed, hput]

end Storing

end VZstd
