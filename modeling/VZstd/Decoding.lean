import Mathlib.Data.List.DropRight
import Mathlib.Data.List.Infix
import VZstd.Frame.Sizes
import VZstd.Lib.History
import VZstd.Stream.Functions
import VZstd.Stream.Session

/-!
# What decoding means

A `Decoding` says what the bytes of a stream mean, whatever the calls are that they come in. The
contracts of `ZSTD_decompressStream` compare the calls of a session with it.
-/

namespace VZstd

open History

variable {D : Type}

/-! ### Calls on a stream -/

/-- The calls since the last one that returned 0: the frame that is open. -/
def openCalls (cs : List (Call D Unit)) : List (Call D Unit) :=
  cs.rtakeWhile fun c => c.reply.ret ≠ 0

@[simp] lemma openCalls_nil : openCalls ([] : List (Call D Unit)) = [] := rfl

lemma openCalls_concat (cs : List (Call D Unit)) (c : Call D Unit) :
    openCalls (cs ++ [c]) = if c.reply.ret = 0 then [] else openCalls cs ++ [c] := by
  split
  next h => exact List.rtakeWhile_concat_neg _ _ _ (by simp [h])
  next h => exact List.rtakeWhile_concat_pos _ _ _ (by simp [h])

/-- The calls have read a part of the header of the open frame. -/
def InHeader (format : Format) (cs : List (Call D Unit)) : Prop :=
  bytesRead (openCalls cs) ≠ [] ∧
    (getFrameHeaderAdvanced (bytesRead (openCalls cs)) format).isOk = false

instance (format : Format) (cs : List (Call D Unit)) : Decidable (InHeader format cs) :=
  inferInstanceAs (Decidable (_ ∧ _))

/-- A call that begins inside a header is not given what looks like a whole frame by itself. The
single-pass mode of `ZSTD_decompressStream` looks at the input of the call only, and would take it
for the frame. -/
def Unmistaken (format : Format) (past : List (Call D Unit)) (c : Call D Unit) : Prop :=
  InHeader format past → (findFrameSizeInfo c.input.window format).isOk = false

instance (format : Format) (past : List (Call D Unit)) (c : Call D Unit) :
    Decidable (Unmistaken format past c) :=
  inferInstanceAs (Decidable (_ → _))

/-- The codec calls `cs` are a session on the stream `x`: each of them is given bytes of `x` from
where the one before it stopped, and again all that earlier calls were given and did not read. -/
structure Codec.Reads (codec : Codec D Unit) (d₀ : D) (format : Format) (x : List UInt8)
    (cs : List (Call D Unit)) : Prop where
  session : ∃ t, codec.Session d₀ cs t
  presented : Presents x cs
  again : Always (fun past c => Presents (bytesRead past ++ c.input.window) past) cs
  unmistaken : Always (Unmistaken format) cs

lemma Codec.Reads.of_snoc {codec : Codec D Unit} {d₀ : D} {format : Format} {x : List UInt8}
    {cs : List (Call D Unit)} {c : Call D Unit} (h : codec.Reads d₀ format x (cs ++ [c])) :
    codec.Reads d₀ format x cs := by
  obtain ⟨t, hsession⟩ := h.session
  exact ⟨⟨c.state, hsession.last.1⟩, (always_snoc.mp h.presented).1, (always_snoc.mp h.again).1,
    (always_snoc.mp h.unmistaken).1⟩

/-- A run in which every compaction was harmless, and no call was given what could be mistaken for a
frame. -/
structure Log.Regular (format : Format) (l : Log D Unit) : Prop where
  harmless : l.Harmless
  unmistaken : Always (Unmistaken format) l.calls

instance (format : Format) (l : Log D Unit) : Decidable (l.Regular format) :=
  decidable_of_iff (l.Harmless ∧ Always (Unmistaken format) l.calls)
    ⟨fun h => ⟨h.1, h.2⟩, fun h => ⟨h.harmless, h.unmistaken⟩⟩

lemma Log.Regular.of_append {format : Format} {l l' : Log D Unit}
    (h : (l ++ l').Regular format) : l.Regular format := by
  have hunmistaken := h.unmistaken
  rw [Log.calls_append] at hunmistaken
  exact ⟨h.harmless.of_append, hunmistaken.of_append⟩

/-! ### Single frames -/

/-- On the stream `x`, `ZSTD_decompressStream` returns 0 exactly when a frame is completely decoded
and flushed. `IsFrame a y`: the bytes `a` are one complete frame with the content `y`. -/
def EndsFrames (codec : Codec D Unit) (d₀ : D) (format : Format) (x : List UInt8)
    (IsFrame : List UInt8 → List UInt8 → Prop) : Prop :=
  ∀ cs c, codec.Reads d₀ format x (cs ++ [c]) → NoErrors (cs ++ [c]) →
    (c.reply.ret = 0 ↔ IsFrame (bytesRead (openCalls cs ++ [c])) (bytesPut (openCalls cs ++ [c])))

/-- Where a frame ends can be told from its own bytes. -/
structure SelfDelimiting (IsFrame : List UInt8 → List UInt8 → Prop) : Prop where
  nonempty : ∀ y, ¬IsFrame [] y
  unique : ∀ {x y x' y'}, IsFrame x y → IsFrame x' y' → x <+: x' → x = x' ∧ y = y'

/-- Two frames that begin the same bytes are the same. -/
lemma SelfDelimiting.eq_of_append {IsFrame : List UInt8 → List UInt8 → Prop}
    (h : SelfDelimiting IsFrame) {x y rest x' y' rest' : List UInt8} (hx : IsFrame x y)
    (hx' : IsFrame x' y') (heq : x ++ rest = x' ++ rest') : x = x' ∧ y = y' ∧ rest = rest' := by
  have hsame : x = x' ∧ y = y' := by
    rcases List.prefix_or_prefix_of_prefix ⟨_, heq⟩ (List.prefix_append x' rest') with hle | hle
    · exact h.unique hx hx' hle
    · exact (h.unique hx' hx hle).imp Eq.symm Eq.symm
  obtain ⟨rfl, rfl⟩ := hsame
  exact ⟨rfl, rfl, List.append_cancel_left heq⟩

/-- On the stream `x`, the codec does not read past the end of a frame. -/
def StopsAtFrames (codec : Codec D Unit) (d₀ : D) (format : Format) (x : List UInt8)
    (IsFrame : List UInt8 → List UInt8 → Prop) : Prop :=
  ∀ cs, codec.Reads d₀ format x cs → NoErrors cs → ∀ a y, IsFrame a y →
    a <+: bytesRead (openCalls cs) → a = bytesRead (openCalls cs)

/-! ### Streams -/

/-- What the bytes of a stream mean: the content that they give, whether the last of them ends a
frame, and whether an error is found in them. -/
structure Decoding where
  content : List UInt8 → List UInt8
  FrameEnd : List UInt8 → Prop
  Corrupt : List UInt8 → Prop
  content_nil : content [] = []
  frameEnd_nil : ¬FrameEnd []
  content_mono : ∀ {x y}, x <+: y → content x <+: content y
  corrupt_mono : ∀ {x y}, x <+: y → Corrupt x → Corrupt y
  not_corrupt : ∀ {x}, FrameEnd x → ¬Corrupt x

namespace Decoding

/-- The bytes are one frame: they end a frame, and no fewer of them do. -/
def SingleFrame (dec : Decoding) (x : List UInt8) : Prop :=
  dec.FrameEnd x ∧ ∀ a, a <+: x → a ≠ x → ¬dec.FrameEnd a

instance (dec : Decoding) [DecidablePred dec.FrameEnd] : DecidablePred dec.SingleFrame := fun x =>
  decidable_of_iff (dec.FrameEnd x ∧ ∀ a ∈ x.inits, a ≠ x → ¬dec.FrameEnd a) (by
    simp only [SingleFrame, List.mem_inits])

/-- After `x` has been read and `y` has been flushed, the frame that is open ends with the bytes
`t`. Where `x` itself ends a frame, that frame is still open until all of it is flushed. -/
structure Ends (dec : Decoding) (x y t : List UInt8) : Prop where
  frameEnd : dec.FrameEnd (x ++ t)
  isOpen : t = [] → y ≠ dec.content x
  first : ∀ a, a <+: t → a ≠ t → dec.FrameEnd (x ++ a) → a = [] ∧ y = dec.content x

variable {dec : Decoding} {x y a : List UInt8}

lemma FrameEnd.ne_nil (h : dec.FrameEnd x) : x ≠ [] := by
  rintro rfl
  exact dec.frameEnd_nil h

/-- The first of the places where the open frame could end. -/
lemma exists_ends (h : dec.FrameEnd (x ++ a)) (hopen : ¬(a = [] ∧ y = dec.content x)) :
    ∃ t, t <+: a ∧ dec.Ends x y t := by
  induction hn : a.length using Nat.strong_induction_on generalizing a with
  | _ n ih =>
    by_cases hfirst : ∀ b, b <+: a → b ≠ a → dec.FrameEnd (x ++ b) → b = [] ∧ y = dec.content x
    · exact ⟨a, List.prefix_refl a, h, fun hnil heq => hopen ⟨hnil, heq⟩, hfirst⟩
    · push Not at hfirst
      obtain ⟨b, hb, hne, hend, hb'⟩ := hfirst
      have hlt : b.length < n := by
        refine hn ▸ lt_of_le_of_ne hb.length_le fun heq => hne ?_
        exact hb.eq_of_length heq
      obtain ⟨t, ht, hends⟩ := ih b.length hlt hend (fun h => hb' h.1 h.2) rfl
      exact ⟨t, ht.trans hb, hends⟩

end Decoding

/-- The codec calls `cs` and then `c`, which is the first that may fail, are a session on the stream
`x`. -/
structure Codec.Reading (codec : Codec D Unit) (d₀ : D) (format : Format) (x : List UInt8)
    (cs : List (Call D Unit)) (c : Call D Unit) : Prop
    extends codec.Reads d₀ format x (cs ++ [c]) where
  noErrors : NoErrors cs

lemma Codec.Reading.window {codec : Codec D Unit} {d₀ : D} {format : Format} {x : List UInt8}
    {cs : List (Call D Unit)} {c : Call D Unit} (h : codec.Reading d₀ format x cs c) :
    bytesRead cs ++ c.input.window <+: x :=
  (always_snoc.mp h.presented).2

lemma Codec.Reading.consumed_le {codec : Codec D Unit} {d₀ : D} {format : Format} {x : List UInt8}
    {cs : List (Call D Unit)} {c : Call D Unit} (h : codec.Reading d₀ format x cs c) :
    c.reply.consumed ≤ c.input.window.length := by
  obtain ⟨_, hsession⟩ := h.session
  obtain ⟨-, -, -, hc, -⟩ := hsession.last
  have hreply : c.reply = codec.call c.state c.op c.output c.input := congrArg Call.reply hc
  rw [hreply, c.input.window_length]
  exact codec.consumed_le _ _ _ _

/-- The call has something to read, and an output buffer of the recommended size. -/
structure Call.Served (c : Call D Unit) : Prop where
  unread : c.input.window ≠ []
  room : decompressStreamOutSize ≤ c.output.room

/-- What zstd.h says of the calls of `ZSTD_decompressStream` from the state `d₀` on, on the stream
`x`. -/
structure Decodes (dec : Decoding) (codec : Codec D Unit) (d₀ : D) (format : Format)
    (x : List UInt8) : Prop where
  /-- an error is found in the bytes that the call was given -/
  fails : ∀ cs c, codec.Reading d₀ format x cs c → c.Served → isError c.reply.ret = true →
    dec.Corrupt (bytesRead cs ++ c.input.window)
  /-- what is flushed is content of the bytes that the calls were given -/
  flushes : ∀ cs c, codec.Reading d₀ format x cs c → isError c.reply.ret = false →
    bytesPut (cs ++ [c]) <+: dec.content (bytesRead cs ++ c.input.window)
  /-- 0 says that a frame is completely decoded and fully flushed -/
  returnsZero : ∀ cs c, codec.Reading d₀ format x cs c → c.reply.ret = 0 →
    dec.FrameEnd (bytesRead (cs ++ [c])) ∧
      bytesPut (cs ++ [c]) = dec.content (bytesRead (cs ++ [c]))
  /-- a call does not read past the end of a frame -/
  stops : ∀ cs c t, codec.Reading d₀ format x cs c → isError c.reply.ret = false →
    dec.Ends (bytesRead cs) (bytesPut cs) t → t <+: c.input.window → c.reply.consumed ≤ t.length
  /-- a frame is finished when all of it is there and what it still gives fits -/
  finishes : ∀ cs c t, codec.Reading d₀ format x cs c → isError c.reply.ret = false →
    dec.Ends (bytesRead cs) (bytesPut cs) t → t <+: c.input.window →
    (dec.content (bytesRead cs ++ t)).length ≤ (bytesPut cs).length + c.output.room →
    c.reply.ret = 0 ∧ c.reply.consumed = t.length
  /-- an output buffer of the recommended size is enough for some progress -/
  progress : ∀ cs c, codec.Reading d₀ format x cs c → c.Served → isError c.reply.ret = false →
    0 < c.reply.consumed + c.reply.produced.length

end VZstd
