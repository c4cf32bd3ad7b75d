import VZstd.CompressEnd
import VZstd.Frame.StreamOpen

/-!
# Ending a frame

`ZSTD_compressStream2` keeps the contracts of a frame that is written with calls that continue it
and then one that may end it. When that call returns 0, what has been written is exactly one frame
of all that has been read; until then it is none.
-/

namespace VZstd

open Memory Turns

variable {S E : Type} {c : BlockCompressor S} {d : BlockDecoder E} {w : Nat}
  {R : S → List UInt8 → E → Prop}
  {params : UInt64 → AppliedParams} {zcs : CStream S} {v v' : StreamVars S}
  {flushMode : EndDirective} {more : Bool} {x y : List UInt8}

/-! ### One frame -/

lemma BlockDecoder.IsOneFrame.ne_nil (h : d.IsOneFrame w params y x) : y ≠ [] := by
  obtain ⟨n, h⟩ := h
  exact h.ne_nil

/-- A frame has one content. -/
lemma BlockDecoder.IsOneFrame.unique {x' : List UInt8}
    (hformat : ∀ m n, (params m).format = (params n).format) (h : d.IsOneFrame w params y x)
    (h' : d.IsOneFrame w params y x') : x = x' := by
  obtain ⟨n, h⟩ := h
  obtain ⟨n', h'⟩ := h'
  exact (h'.eq_of_prefix h (hformat _ _) (List.prefix_refl _)).2

lemma BlockCompressor.DecodedBy.Unended.not_isOneFrame {hc : c.DecodedBy d w R}
    (hu : hc.Unended params zcs x y) (hformat : ∀ m n, (params m).format = (params n).format)
    (x' : List UInt8) : ¬d.IsOneFrame w params y x' := by
  intro hframe
  rw [BlockCompressor.DecodedBy.Unended] at hu
  split at hu
  next => exact hframe.ne_nil hu.2
  next =>
    obtain ⟨hgoing, ho⟩ := hu
    refine ho.not_isOneFrame hformat (fun hended => ?_) x' hframe
    cases hgoing.symm.trans hended

/-! ### The call that may end a frame -/

/-- A frame is ended when all of the input has been read. -/
lemma BlockCompressor.Turn.src_eq_nil (h : c.Turn flushMode v v' more)
    (hsrc : v.zcs.frameEnded = true → v.src = []) : v'.zcs.frameEnded = true → v'.src = [] := by
  have hflush : ∀ {u : StreamVars S}, (u.zcs.frameEnded = true → u.src = []) →
      u.flush = (v', more) → v'.zcs.frameEnded = true → v'.src = [] := by
    intro u hu h hended
    obtain ⟨bytes, -, hv', hflushes⟩ := flush_eq h
    have hsame : v'.zcs.frameEnded = u.zcs.frameEnded := by
      generalize v'.zcs = zcs' at hflushes ⊢
      cases hflushes <;> rfl
    rw [hv']
    exact hu (hsame.symm.trans hended)
  have hlast : ∀ {cctx : CCtx S} {last : Bool},
      last = decide (flushMode = .eEnd ∧ v.load.src = []) →
      (v.load.zcs.next cctx last).frameEnded = true → v.load.src = [] := by
    intro cctx last hlast hended
    rw [(v.load.zcs.next_spec cctx last).2.1, hlast] at hended
    exact (of_decide_eq_true hended).2
  cases h with
  | rest => exact fun _ => rfl
  | wait =>
    intro hended
    have hnil := hsrc hended
    show v.src.drop _ = []
    rw [hnil, List.drop_nil]
  | direct cctx bytes last _ _ h =>
    cases last with
    | true => exact fun hended => hlast h hended
    | false => exact fun hended => hlast h hended
  | buffer cctx bytes last _ _ _ _ h _ hturn => exact hflush (hlast h) hturn
  | flush _ _ _ hturn => exact hflush hsrc hturn

/-- A call that may end the frame, after calls that did not. -/
lemma BlockCompressor.DecodedBy.Unended.last {hc : c.DecodedBy d w R}
    (hu : hc.Unended params zcs x y) (hb : zcs.Buffered) {inSize : Nat} {src out : List UInt8}
    {room : Nat}
    (hrun : c.compressStreamGeneric .eEnd
      { zcs :=
          if zcs.streamStage = .init then c.initCompressStream2 params zcs .eEnd inSize else zcs
        src := src
        out := out
        room := room } = .ok v) :
    v.zcs.Buffered ∧ (v.zcs.toFlush = [] → v.zcs.streamStage = .init) ∧
      (v.zcs.streamStage = .init ∧ v.src = [] ∨ v.zcs.toFlush ≠ [] ∧ v.room = 0) := by
  obtain ⟨hb₁, hstage₁⟩ := buffered_start c params hb .eEnd inSize
  obtain ⟨hgoing, ho⟩ := hu.begins (c := c) .eEnd inSize
  obtain ⟨hb', hlast, -⟩ := ho.run hb₁ hstage₁ hrun
  have hended : v.zcs.frameEnded = true → v.src = [] := by
    obtain ⟨-, -, -, hsrc⟩ := turns_keeps
      (P := fun u : StreamVars S => u.zcs.frameEnded = true → u.src = [])
      (fun _ _ _ hu hturn => (streamTurn_eq_ok hturn).src_eq_nil hu)
      (fun hcontra => by cases hgoing.symm.trans hcontra) hrun
    exact hsrc
  refine ⟨hb', fun hnil => ?_, ?_⟩
  · rcases hlast rfl with ⟨hstage, -⟩ | ⟨hne, -⟩
    · exact hstage
    · exact absurd hnil hne
  · exact (hlast rfl).imp (And.imp id hended) id

/-- How many bytes end the frame that is open once `x` has been read, as far as one `ZSTD_e_end`
call can tell: those that it writes, and those that it leaves to be flushed. -/
def BlockCompressor.restOfFrame (c : BlockCompressor S) (params : UInt64 → AppliedParams)
    (zcs : CStream S) (x : List UInt8) : Nat :=
  match c.compressStreamGeneric .eEnd
      { zcs :=
          if zcs.streamStage = .init then c.initCompressStream2 params zcs .eEnd x.length else zcs
        src := x
        out := []
        room := compressStreamOutSize } with
  | .ok v => v.out.length + v.zcs.toFlush.length
  | .error _ => 0

/-- The call ends the frame if what is left of it fits into the output buffer. -/
lemma BlockCompressor.DecodedBy.Unended.finishes {hc : c.DecodedBy d w R}
    (hu : hc.Unended params zcs x y) (hb : zcs.Buffered) {output : OutBuffer} {input : InBuffer}
    (hout : output.pos ≤ output.size) (hin : input.pos ≤ input.size)
    (hret : isError (c.compressStream2 params zcs .eEnd output input).ret = false)
    (hroom : output.room = compressStreamOutSize) :
    (c.compressStream2 params zcs .eEnd output input).ret = 0 ∧
        (c.compressStream2 params zcs .eEnd output input).consumed = input.window.length ↔
      c.restOfFrame params zcs input.window ≤ compressStreamOutSize := by
  obtain ⟨v, hrun, hreply⟩ := compressStream2_eq_ok hout hin hret
  obtain ⟨hb', -, hlast⟩ := hu.last hb hrun
  have hmoves := moves_turns hrun
  have hrest : c.restOfFrame params zcs input.window = v.out.length + v.zcs.toFlush.length := by
    rw [BlockCompressor.restOfFrame, input.window_length, ← hroom, hrun]
  have hsrc := hmoves.src.length_le
  have hlen := hmoves.length_out
  dsimp only at hsrc hlen
  rw [hreply, hrest, hb'.ret_eq_zero_iff]
  dsimp only
  rw [List.length_nil, Nat.zero_add, hroom] at hlen
  constructor
  · rintro ⟨hnil, -⟩
    rw [hnil, List.length_nil]
    omega
  · intro hfits
    rcases hlast with ⟨hstage, hnil⟩ | ⟨hne, hfull⟩
    · rw [hnil, List.length_nil, Nat.sub_zero]
      exact ⟨CStream.toFlush_of_flushed (hb'.flushed (by simp [hstage])), rfl⟩
    · have hpos := List.length_pos_iff.mpr hne
      omega

/-! ### The contracts -/

/-- A call after calls that only continued the frame. -/
lemma BlockCompressor.DecodedBy.unended_of_continues (hc : c.DecodedBy d w R)
    {cs : List (Call (CStream S) EndDirective)} {call : Call (CStream S) EndDirective}
    (h : (c.streamCodec params).Continues (c.createCStream params) cs call) (hok : NoErrors cs) :
    hc.Unended params call.state (bytesRead cs) (bytesPut cs) ∧ call.state.Buffered ∧
      call.output.pos ≤ call.output.size ∧ call.input.pos ≤ call.input.size ∧
      call.reply = c.compressStream2 params call.state call.op call.output call.input := by
  obtain ⟨⟨t, hsession⟩, hops⟩ := h
  obtain ⟨hbefore, hout, hin, hcall, -⟩ := hsession.last
  have hends : ∀ call ∈ cs, call.op ≠ .eEnd := by
    intro call hmem
    simp [hops call hmem]
  exact ⟨hc.unended_of_session hbefore hok hends, (hc.follows_of_session hbefore hok).1, hout, hin,
    congrArg Call.reply hcall⟩

/-- Where a frame stands after a `ZSTD_e_end` call: it is complete if the call returned 0, and open
else. -/
lemma BlockCompressor.DecodedBy.stands_of_continues (hc : c.DecodedBy d w R)
    {cs : List (Call (CStream S) EndDirective)} {call : Call (CStream S) EndDirective}
    (h : (c.streamCodec params).Continues (c.createCStream params) cs call)
    (hok : NoErrors (cs ++ [call])) (hop : call.op = .eEnd) :
    hc.Stands params call.reply.state (bytesRead (cs ++ [call])) (bytesPut (cs ++ [call])) ∧
      (call.reply.ret = 0 ↔ call.reply.state.toFlush = []) ∧
      (call.reply.ret = 0 → call.reply.state.streamStage = .init) := by
  obtain ⟨hbefore, hlast⟩ := noErrors_append.mp hok
  obtain ⟨hu, hb, hout, hin, hcall⟩ := hc.unended_of_continues h hbefore
  have hret := noErrors_singleton.mp hlast
  have hstands := hu.stands hb hout hin (hcall ▸ hret)
  rw [hcall, hop] at hret
  rw [← hcall] at hstands
  obtain ⟨v, hrun, hreply⟩ := compressStream2_eq_ok hout hin hret
  obtain ⟨hb', hstage, -⟩ := hu.last hb hrun
  rw [← hop, ← hcall] at hreply
  simp only [bytesRead_append, bytesRead_cons, bytesRead_nil, bytesPut_append, bytesPut_cons,
    bytesPut_nil, List.append_nil]
  refine ⟨hstands, ?_⟩
  rw [hreply]
  exact ⟨hb'.ret_eq_zero_iff, fun hzero => hstage (hb'.ret_eq_zero_iff.mp hzero)⟩

/-- `ZSTD_compressStream2` writes the frames that it should: after calls that continue a frame and
then one with `ZSTD_e_end` that returns 0, exactly one frame of all that has been read, and before
that, none. -/
theorem encodes_streamCodec (hc : c.DecodedBy d w R)
    (hformat : ∀ m n, (params m).format = (params n).format) :
    Encodes (c.streamCodec params) (c.createCStream params) (d.IsOneFrame w params) where
  closes cs call h hok hclose := by
    obtain ⟨hstands, -, hstage⟩ := hc.stands_of_continues h hok hclose.1
    cases hstands with
    | complete n _ hframe => exact ⟨n, hframe⟩
    | isOpen hne => exact absurd (hstage hclose.2) hne
  staysOpen cs zcs hsession hok hops := by
    have hends : ∀ call ∈ cs, call.op ≠ .eEnd := by
      intro call hmem
      simp [hops call hmem]
    exact (hc.unended_of_session hsession hok hends).not_isOneFrame hformat

/-- As long as `ZSTD_e_end` has something left to flush, what has been written is no frame, and it
has nothing left if the rest of the frame fits into the output buffer. -/
theorem completes_streamCodec (hc : c.DecodedBy d w R)
    (hformat : ∀ m n, (params m).format = (params n).format) :
    Completes (c.streamCodec params) (c.createCStream params) (d.IsOneFrame w params)
      (c.restOfFrame params) where
  toEncodes := encodes_streamCodec hc hformat
  unclosed cs call h hok hop hret x := by
    obtain ⟨hstands, hzero, -⟩ := hc.stands_of_continues h hok hop
    cases hstands with
    | complete _ hstage =>
      have hb := (hc.follows_of_session h.session hok).1
      exact absurd (hzero.mpr (CStream.toFlush_of_flushed (hb.flushed (by simp [hstage])))) hret
    | isOpen _ ho => exact ho.not_isOneFrame hformat (fun _ hnil => hret (hzero.mpr hnil)) x
  unique := BlockDecoder.IsOneFrame.unique hformat
  finishes cs call h hok hop hroom := by
    obtain ⟨hbefore, hlast⟩ := noErrors_append.mp hok
    obtain ⟨hu, hb, hout, hin, hcall⟩ := hc.unended_of_continues h hbefore
    have hret := noErrors_singleton.mp hlast
    rw [hcall, hop] at hret ⊢
    exact hu.finishes hb hout hin hret hroom

/-- Blocks that are stored, with the default parameters. -/
example :
    Completes (noCompress.streamCodec fun _ => level3) (noCompress.createCStream fun _ => level3)
      (noDecode.IsOneFrame 0 fun _ => level3) (noCompress.restOfFrame fun _ => level3) :=
  completes_streamCodec (noCompress_decodedBy 0) fun _ _ => rfl

/-- After calls that continue a frame and then one with `ZSTD_e_end`, what has been written is
exactly one frame if and only if the last call returned 0, and its content is all that has been
read. Before the last call it is no frame. -/
theorem isOneFrame_iff_of_continues (hc : c.DecodedBy d w R)
    (hformat : ∀ m n, (params m).format = (params n).format)
    {cs : List (Call (CStream S) EndDirective)} {call : Call (CStream S) EndDirective}
    (h : (c.streamCodec params).Continues (c.createCStream params) cs call)
    (hok : NoErrors (cs ++ [call])) (hop : call.op = .eEnd) :
    (∀ x, ¬d.IsOneFrame w params (bytesPut cs) x) ∧
      ∀ x, d.IsOneFrame w params (bytesPut (cs ++ [call])) x ↔
        call.reply.ret = 0 ∧ bytesRead (cs ++ [call]) = x := by
  have hcompletes := completes_streamCodec hc hformat
  refine ⟨?_, hcompletes.isFrame_iff h hok hop⟩
  obtain ⟨⟨t, hsession⟩, hops⟩ := h
  exact hcompletes.staysOpen cs call.state hsession.last.1 (noErrors_append.mp hok).1 hops

/-- Two calls, with two bytes and with one. -/
theorem isOneFrame_iff_of_continues_three :
    noDecode.IsOneFrame 0 (fun _ => level3) (bytesPut ([continueCall] ++ [endCall])) [1, 2, 3] := by
  have hops : ∀ call ∈ [continueCall], call.op = .eContinue := by simp [continueCall, Codec.ask]
  have hformat : ∀ _ _ : UInt64, level3.format = level3.format := fun _ _ => rfl
  exact ((isOneFrame_iff_of_continues (noCompress_decodedBy 0) hformat ⟨⟨_, session_written⟩, hops⟩
    noErrors_written rfl).2 _).mpr ⟨ret_endCall, bytesRead_written⟩

end VZstd
