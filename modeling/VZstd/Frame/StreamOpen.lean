import VZstd.Frame.StreamFrames

/-!
# Frames stay open until they are ended

The bytes of a frame say where it ends. So what has been written before `ZSTD_e_end` is no complete
frame, and neither is what has been written of one that is not yet flushed to its end.
-/

namespace VZstd

open Memory Reader Turns

variable {S E : Type} {c : BlockCompressor S} {d : BlockDecoder E} {w : Nat}
  {R : S → List UInt8 → E → Prop}
  {params : UInt64 → AppliedParams} {zcs : CStream S} {v v' : StreamVars S}
  {flushMode : EndDirective} {more : Bool} {x y : List UInt8}

/-! ### Where a frame ends -/

/-- The decoder reads blocks whatever the window is that they keep to. -/
lemma BlockDecoder.AreBlocks.passes_start {w' k k' capacity : Nat} {e : E} {last : Bool}
    (h : d.AreBlocks w' k [] d.decompressBegin y x e last) (hk : k ≤ k')
    (hcap : x.length ≤ capacity) :
    ∃ t, Passes (d.readBlock false k' capacity) d.start y t last ∧ t.out = x := by
  obtain ⟨t, ht, -, hout⟩ : ∃ t, Passes (d.readBlock false k' capacity) d.start y t last ∧
      t.entropy = e ∧ t.out = [] ++ x := h.passes hk rfl rfl (by simpa using hcap)
  exact ⟨t, ht, hout⟩

/-- Blocks up to the last one are not the start of blocks of which none is the last. -/
lemma BlockDecoder.AreBlocks.not_prefix {w' k k' : Nat} {e e' : E} {bytes bytes' x' : List UInt8}
    (h : d.AreBlocks w k [] d.decompressBegin bytes x e false)
    (h' : d.AreBlocks w' k' [] d.decompressBegin bytes' x' e' true) : ¬bytes' <+: bytes := by
  obtain ⟨t, ht, -⟩ := h.passes_start (Nat.le_max_left k k') (Nat.le_max_left x.length x'.length)
  obtain ⟨u, hu, -⟩ := h'.passes_start (Nat.le_max_right k k') (Nat.le_max_right x.length x'.length)
  exact ht.not_prefix 0 (fun s => shrinks_readBlock s) hu

/-- Blocks up to the last one can be told from their own bytes. -/
lemma BlockDecoder.AreBlocks.unique {w' k k' : Nat} {e e' : E} {bytes bytes' x' r r' : List UInt8}
    (h : d.AreBlocks w k [] d.decompressBegin bytes x e true)
    (h' : d.AreBlocks w' k' [] d.decompressBegin bytes' x' e' true)
    (heq : bytes ++ r = bytes' ++ r') : x = x' ∧ bytes = bytes' := by
  obtain ⟨t, ht, rfl⟩ := h.passes_start (Nat.le_max_left k k') (Nat.le_max_left x.length x'.length)
  obtain ⟨u, hu, rfl⟩ :=
    h'.passes_start (Nat.le_max_right k k') (Nat.le_max_right t.out.length x'.length)
  obtain ⟨rfl, hbytes⟩ := ht.unique 0 (fun s => shrinks_readBlock s) hu heq
  exact ⟨rfl, hbytes⟩

/-- A frame that begins another one is all of it, with the same content. -/
lemma BlockDecoder.IsFrame.eq_of_prefix {p p' : AppliedParams}
    {pledgedSrcSize pledgedSrcSize' : UInt64} {bytes bytes' x' : List UInt8}
    (h : d.IsFrame w p pledgedSrcSize x bytes) (h' : d.IsFrame w p' pledgedSrcSize' x' bytes')
    (hformat : p'.format = p.format) (hbegins : bytes' <+: bytes) : bytes' = bytes ∧ x' = x := by
  obtain ⟨r, hr⟩ := hbegins
  obtain ⟨k, blocks, e, digest, -, -, -, hblocks, -, rfl⟩ := h.parts
  obtain ⟨k', blocks', e', digest', -, -, -, hblocks', -, rfl⟩ := h'.parts
  have happlied : (p'.applied pledgedSrcSize').format = (p.applied pledgedSrcSize).format := by
    rw [format_applied, format_applied, hformat]
  rw [List.append_assoc] at hr
  -- the headers are the same, and so is what they say of the checksum
  obtain ⟨hheader, hrest⟩ := List.append_inj hr (CCtxParams.length_header_congr happlied hr)
  have hread := @CCtxParams.getFrameHeaderAdvanced_header (p.applied pledgedSrcSize).toCCtxParams
    pledgedSrcSize 0 []
  have hread' := @CCtxParams.getFrameHeaderAdvanced_header
    (p'.applied pledgedSrcSize').toCCtxParams pledgedSrcSize' 0 []
  rw [hheader, happlied, hread] at hread'
  have hflag := congrArg FrameHeader.checksumFlag (Except.ok.inj hread')
  rw [checksumFlag_frameHeader, checksumFlag_frameHeader] at hflag
  have hchecksum : p.checksumFlag = p'.checksumFlag := by
    cases hp : p.checksumFlag <;> cases hp' : p'.checksumFlag <;> simp [hp, hp'] at hflag ⊢
  rw [List.append_assoc] at hrest
  obtain ⟨rfl, rfl⟩ := hblocks'.unique hblocks hrest
  have hend := congrArg List.length (List.append_cancel_left hrest)
  have hlen : (if p'.checksumFlag then LittleEndian.encode 4 digest'.toNat else []).length =
      (if p.checksumFlag then LittleEndian.encode 4 digest.toNat else []).length := by
    rw [hchecksum]
    split <;> simp [LittleEndian.length_encode]
  rw [List.length_append, hlen] at hend
  obtain rfl : r = [] := List.eq_nil_of_length_eq_zero (by omega)
  refine ⟨?_, rfl⟩
  rw [← hr, List.append_nil]

/-- What has been written of a frame that is not yet ended does not start with a frame. -/
lemma BlockCompressor.DecodedBy.Wrote.not_prefix {hc : c.DecodedBy d w R} {p p' : AppliedParams}
    {pledgedSrcSize pledgedSrcSize' : UInt64} {cctx : CCtx S} {x' bytes bytes' : List UInt8}
    (hw : hc.Wrote p pledgedSrcSize cctx x bytes) (hstage : cctx.stage ≠ .ending)
    (h : d.IsFrame w p' pledgedSrcSize' x' bytes') (hformat : p'.format = p.format) :
    ¬bytes' <+: bytes := by
  rintro ⟨r, hr⟩
  by_cases hinit : cctx.stage = .init
  · obtain ⟨-, rfl⟩ := hw.init hinit
    exact h.ne_nil (List.append_eq_nil_iff.mp hr).1
  · obtain ⟨blocks, e, -, hblocks, hbytes⟩ := hw.blocks
    obtain ⟨k, blocks', e', digest, -, -, -, hblocks', -, rfl⟩ := h.parts
    rw [if_neg hinit] at hbytes
    rw [decide_eq_false hstage] at hblocks
    rw [hbytes, List.append_assoc] at hr
    -- the first bytes say how long the header is
    have hlen : ((p'.applied pledgedSrcSize').header pledgedSrcSize' 0).length =
        ((p.applied pledgedSrcSize).header pledgedSrcSize 0).length :=
      CCtxParams.length_header_congr (by rw [format_applied, format_applied, hformat]) hr
    obtain ⟨-, hrest⟩ := List.append_inj hr hlen
    rw [List.append_assoc] at hrest
    exact hblocks.not_prefix hblocks' ⟨_, hrest⟩

/-! ### Sessions without an end -/

/-- Exactly one frame, with the parameters for the size that has been pledged for it. -/
def BlockDecoder.IsOneFrame (d : BlockDecoder E) (w : Nat) (params : UInt64 → AppliedParams)
    (y x : List UInt8) : Prop :=
  ∃ pledgedSrcSize, d.IsFrame w (params pledgedSrcSize) pledgedSrcSize x y

/-- Nothing has been ended: no frame has been started, or the first one is still going on. -/
def BlockCompressor.DecodedBy.Unended (hc : c.DecodedBy d w R) (params : UInt64 → AppliedParams)
    (zcs : CStream S) (x y : List UInt8) : Prop :=
  if zcs.streamStage = .init then x = [] ∧ y = []
  else zcs.frameEnded = false ∧ hc.Open params zcs y x

/-- A frame that is open is complete when it has been ended and all of it is flushed. -/
lemma BlockCompressor.DecodedBy.Open.not_isOneFrame {hc : c.DecodedBy d w R}
    (ho : hc.Open params zcs y x) (hformat : ∀ m n, (params m).format = (params n).format)
    (hmore : zcs.frameEnded = true → zcs.toFlush ≠ []) (x' : List UInt8) :
    ¬d.IsOneFrame w params y x' := by
  rintro ⟨n, hframe⟩
  cases ho with
  | going m taken _ hstage hw =>
    exact hw.not_prefix hstage hframe (hformat _ _) (List.prefix_append _ _)
  | ended m _ hended _ h =>
    obtain ⟨hall, -⟩ := h.eq_of_prefix hframe (hformat _ _) (List.prefix_append _ _)
    exact hmore hended (List.append_cancel_left (hall.symm.trans (List.append_nil y).symm))

/-- The frame that the next call goes on with. -/
lemma BlockCompressor.DecodedBy.Unended.begins {hc : c.DecodedBy d w R}
    (hu : hc.Unended params zcs x y) (endOp : EndDirective) (inSize : Nat) :
    (if zcs.streamStage = .init then c.initCompressStream2 params zcs endOp inSize
      else zcs).frameEnded = false ∧
    hc.Open params (if zcs.streamStage = .init then c.initCompressStream2 params zcs endOp inSize
      else zcs) y x := by
  rw [BlockCompressor.DecodedBy.Unended] at hu
  split at hu
  next hstage =>
    obtain ⟨rfl, rfl⟩ := hu
    rw [if_pos hstage]
    exact ⟨rfl, open_initCompressStream2 hc zcs endOp _⟩
  next hstage =>
    rw [if_neg hstage]
    exact hu

/-- The step lemma. -/
lemma BlockCompressor.Turn.unended (h : c.Turn flushMode v v' more) (hmode : flushMode ≠ .eEnd)
    (hended : v.zcs.frameEnded = false) :
    v'.zcs.streamStage ≠ .init ∧ v'.zcs.frameEnded = false := by
  have hflush : ∀ {zcs zcs' : CStream S} {room : Nat} {bytes : List UInt8},
      zcs.Flushes room bytes zcs' more → zcs.streamStage = .flush → zcs.frameEnded = false →
        zcs'.streamStage ≠ .init ∧ zcs'.frameEnded = false := by
    intro zcs zcs' room bytes h hstage hended
    cases h with
    | full => exact ⟨by simp [hstage], hended⟩
    | ended _ hcontra => simp [hended] at hcontra
    | done => exact ⟨by simp, hended⟩
  cases h with
  | rest _ _ _ hend => exact absurd hend hmode
  | wait hload => exact ⟨by simp [StreamVars.load, hload], hended⟩
  | direct cctx bytes last hload _ hlast =>
    obtain ⟨-, hended', hstage, -⟩ := v.load.zcs.next_spec cctx last
    obtain rfl : last = false := by simp [hlast, hmode]
    have hnot : (v.load.zcs.next cctx false).streamStage ≠ .init := by
      rw [hstage]
      simp [StreamVars.load, hload]
    exact ⟨hnot, hended'⟩
  | buffer cctx bytes last _ _ _ _ hlast _ h =>
    obtain ⟨-, hended', -, -⟩ := v.load.zcs.next_spec cctx last
    obtain ⟨_, -, -, hflushes⟩ := flush_eq h
    exact hflush hflushes rfl (hended'.trans (by simp [hlast, hmode]))
  | flush _ _ hstage h =>
    obtain ⟨_, -, -, hflushes⟩ := flush_eq h
    exact hflush hflushes hstage hended

/-- What a call does with a frame that is open, or that it begins. -/
lemma BlockCompressor.DecodedBy.Unended.stands {hc : c.DecodedBy d w R}
    (hu : hc.Unended params zcs x y) (hb : zcs.Buffered) {endOp : EndDirective}
    {output : OutBuffer} {input : InBuffer} (hout : output.pos ≤ output.size)
    (hin : input.pos ≤ input.size)
    (hret : isError (c.compressStream2 params zcs endOp output input).ret = false) :
    hc.Stands params (c.compressStream2 params zcs endOp output input).state
      (x ++ input.window.take (c.compressStream2 params zcs endOp output input).consumed)
      (y ++ (c.compressStream2 params zcs endOp output input).produced) := by
  obtain ⟨v, hrun, hreply⟩ := compressStream2_eq_ok hout hin hret
  obtain ⟨hb₁, hstage₁⟩ := buffered_start c params hb endOp (input.size - input.pos)
  obtain ⟨-, ho⟩ := hu.begins (c := c) endOp (input.size - input.pos)
  obtain ⟨-, -, taken, bytes, hsrc, hout, hstands⟩ := ho.run hb₁ hstage₁ hrun
  dsimp only at hsrc hout
  rw [List.nil_append] at hout
  have htaken : input.window.take (input.window.length - v.src.length) = taken := by
    rw [hsrc, List.length_append, Nat.add_sub_cancel, List.take_left]
  rw [hreply]
  dsimp only
  rw [htaken, hout]
  exact hstands

/-- A call that does not end the frame. -/
lemma BlockCompressor.DecodedBy.Unended.call {hc : c.DecodedBy d w R}
    (hu : hc.Unended params zcs x y) (hb : zcs.Buffered) {endOp : EndDirective}
    {output : OutBuffer} {input : InBuffer} (hop : endOp ≠ .eEnd)
    (hout : output.pos ≤ output.size) (hin : input.pos ≤ input.size)
    (hret : isError (c.compressStream2 params zcs endOp output input).ret = false) :
    hc.Unended params (c.compressStream2 params zcs endOp output input).state
      (x ++ input.window.take (c.compressStream2 params zcs endOp output input).consumed)
      (y ++ (c.compressStream2 params zcs endOp output input).produced) := by
  have hstands := hu.stands hb hout hin hret
  obtain ⟨v, hrun, hreply⟩ := compressStream2_eq_ok hout hin hret
  obtain ⟨-, hstage₁⟩ := buffered_start c params hb endOp (input.size - input.pos)
  obtain ⟨hended, -⟩ := hu.begins (c := c) endOp (input.size - input.pos)
  obtain ⟨-, -, -, hstage, hended'⟩ := turns_keeps
    (P := fun w : StreamVars S => w.zcs.streamStage ≠ .init ∧ w.zcs.frameEnded = false)
    (fun _ _ _ hw hturn => (streamTurn_eq_ok hturn).unended hop hw.2) ⟨hstage₁, hended⟩ hrun
  rw [hreply] at hstands ⊢
  dsimp only at hstands ⊢
  rw [BlockCompressor.DecodedBy.Unended, if_neg hstage]
  cases hstands with
  | complete _ hcontra => exact absurd hcontra hstage
  | isOpen _ ho => exact ⟨hended', ho⟩

/-- The session lemma. -/
lemma BlockCompressor.DecodedBy.unended_of_session (hc : c.DecodedBy d w R)
    {cs : List (Call (CStream S) EndDirective)}
    (h : (c.streamCodec params).Session (c.createCStream params) cs zcs) (hok : NoErrors cs)
    (hops : ∀ call ∈ cs, call.op ≠ .eEnd) :
    hc.Unended params zcs (bytesRead cs) (bytesPut cs) := by
  induction h with
  | start =>
    have hstage : (c.createCStream params).streamStage = .init := rfl
    rw [BlockCompressor.DecodedBy.Unended, if_pos hstage]
    exact ⟨rfl, rfl⟩
  | call h op hout hin ih =>
    obtain ⟨hbefore, hlast⟩ := noErrors_append.mp hok
    obtain ⟨hops, hop⟩ := List.forall_mem_append.mp hops
    have hu := ih hbefore hops
    have hb := (hc.follows_of_session h hbefore).1
    simp only [bytesRead_append, bytesRead_cons, bytesRead_nil, bytesPut_append, bytesPut_cons,
      bytesPut_nil, List.append_nil]
    exact hu.call hb (hop _ (List.mem_singleton_self _)) hout hin (noErrors_singleton.mp hlast)

end VZstd
