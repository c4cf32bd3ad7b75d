import VZstd.Frame.CompressStream
import VZstd.Stream.Feed

/-!
# What a compression stream writes

After any calls of `ZSTD_compressStream2` that succeed, what has been written are complete frames,
and the start of one that is open. All of what has been read is in them, or in the buffer.
-/

namespace VZstd

open Memory Proc Reader Turns

variable {S E : Type} {c : BlockCompressor S} {d : BlockDecoder E} {w : Nat}
  {R : S → List UInt8 → E → Prop}
  {params : UInt64 → AppliedParams} {zcs : CStream S} {v v' : StreamVars S}
  {flushMode : EndDirective} {more : Bool} {x y : List UInt8}

/-- Frames one after the other, and their content. -/
inductive BlockDecoder.AreFrames (d : BlockDecoder E) (w : Nat)
    (params : UInt64 → AppliedParams) : List UInt8 → List UInt8 → Prop
  | nil : AreFrames d w params [] []
  | append {x bytes x' bytes' : List UInt8} (pledgedSrcSize : UInt64)
      (h : AreFrames d w params x bytes)
      (h' : d.IsFrame w (params pledgedSrcSize) pledgedSrcSize x' bytes') :
      AreFrames d w params (x ++ x') (bytes ++ bytes')

/-- A frame is open: `x` has been read of its content, and `y` has been written. -/
inductive BlockCompressor.DecodedBy.Open (hc : c.DecodedBy d w R) (params : UInt64 → AppliedParams)
    (zcs : CStream S) (y : List UInt8) : List UInt8 → Prop
  /-- What has been collected is not yet compressed. -/
  | going (pledgedSrcSize : UInt64) (taken : List UInt8) (hended : zcs.frameEnded = false)
      (hstage : zcs.stage ≠ .ending)
      (h : hc.Wrote (params pledgedSrcSize) pledgedSrcSize zcs.toCCtx taken (y ++ zcs.toFlush)) :
      Open hc params zcs y (taken ++ zcs.block)
  /-- All that is left is to flush its end. -/
  | ended (pledgedSrcSize : UInt64) (x : List UInt8) (hended : zcs.frameEnded = true)
      (hstage : zcs.streamStage = .flush)
      (h : d.IsFrame w (params pledgedSrcSize) pledgedSrcSize x (y ++ zcs.toFlush)) :
      Open hc params zcs y x

/-- Where a frame that was open stands: it is complete, or still open. -/
inductive BlockCompressor.DecodedBy.Stands (hc : c.DecodedBy d w R)
    (params : UInt64 → AppliedParams) (zcs : CStream S) (x y : List UInt8) : Prop
  | complete (pledgedSrcSize : UInt64) (hstage : zcs.streamStage = .init)
      (h : d.IsFrame w (params pledgedSrcSize) pledgedSrcSize x y)
  | isOpen (hstage : zcs.streamStage ≠ .init) (h : hc.Open params zcs y x)

/-! ### Turns -/

lemma BlockCompressor.DecodedBy.Wrote.compressPart {hc : c.DecodedBy d w R} {p : AppliedParams}
    {pledgedSrcSize : UInt64} {cctx cctx' : CCtx S} {dstCapacity : Nat}
    {src bytes bytes' : List UInt8} {last : Bool} (hw : hc.Wrote p pledgedSrcSize cctx x bytes)
    (hstage : cctx.stage ≠ .ending)
    (h : c.compressPart last cctx dstCapacity src = .ok (cctx', bytes')) :
    if last then d.IsFrame w p pledgedSrcSize (x ++ src) (bytes ++ bytes')
    else hc.Wrote p pledgedSrcSize cctx' (x ++ src) (bytes ++ bytes') ∧ cctx'.stage ≠ .ending := by
  cases last with
  | true => exact hw.compressEnd hstage h
  | false =>
    exact ⟨hw.compressContinueInternal hstage h,
      (hw.toInFrame.compressContinueInternal hstage h).2.2 rfl⟩

lemma CStream.toFlush_nextBuffered (zcs : CStream S) (cctx : CCtx S) (last : Bool)
    (bytes : List UInt8) :
    (zcs.nextBuffered cctx last bytes).toFlush = bytes := by
  rw [CStream.toFlush, CStream.nextBuffered]
  exact slice_write_self _ 0 bytes

/-- What is left when a part has been flushed. -/
lemma CStream.toFlush_flushed {bytes rest : List UInt8} (h : zcs.toFlush = bytes ++ rest) :
    ({ zcs with outBuffFlushedSize := zcs.outBuffFlushedSize + bytes.length } :
      CStream S).toFlush = rest := by
  have hlen := congrArg List.length h
  rw [CStream.toFlush, slice_length, List.length_append] at hlen
  have hdrop := slice_drop zcs.outBuff zcs.outBuffFlushedSize
    (show bytes.length ≤ zcs.outBuffContentSize - zcs.outBuffFlushedSize by omega)
  rw [← CStream.toFlush, h, List.drop_left, Nat.sub_sub] at hdrop
  exact hdrop.symm

/-- What flushing does to a frame. -/
lemma BlockCompressor.DecodedBy.Open.flush {hc : c.DecodedBy d w R} {zcs' : CStream S} {room : Nat}
    {bytes : List UInt8} (ho : hc.Open params zcs y x) (hstage : zcs.streamStage = .flush)
    (h : zcs.Flushes room bytes zcs' more) : hc.Stands params zcs' x (y ++ bytes) := by
  cases h with
  | full rest _ hflush _ =>
    have hrest := CStream.toFlush_flushed hflush
    refine .isOpen (by simp [hstage]) ?_
    cases ho with
    | going pledgedSrcSize taken hended hending hw =>
      refine .going pledgedSrcSize taken hended hending ?_
      rwa [hrest, List.append_assoc, ← hflush]
    | ended pledgedSrcSize x hended _ hframe =>
      refine .ended pledgedSrcSize x hended hstage ?_
      rwa [hrest, List.append_assoc, ← hflush]
  | ended hflush hended =>
    cases ho with
    | going _ _ hgoing => simp [hended] at hgoing
    | ended pledgedSrcSize x _ _ hframe =>
      refine .complete pledgedSrcSize rfl ?_
      rwa [← hflush]
  | done hflush hended =>
    cases ho with
    | going pledgedSrcSize taken _ hending hw =>
      refine .isOpen (by simp) (.going pledgedSrcSize taken hended hending ?_)
      rw [CStream.toFlush_of_flushed rfl, List.append_nil, ← hflush]
      exact hw
    | ended _ _ hcontra => simp [hended] at hcontra

/-- Where no more is left to flush, a frame that is open has not been ended. -/
lemma BlockCompressor.DecodedBy.Open.loading {hc : c.DecodedBy d w R} (ho : hc.Open params zcs y x)
    (hb : zcs.Buffered) (hstage : zcs.streamStage = .load) : ∃ pledgedSrcSize taken,
      x = taken ++ zcs.block ∧ zcs.frameEnded = false ∧ zcs.stage ≠ .ending ∧
        hc.Wrote (params pledgedSrcSize) pledgedSrcSize zcs.toCCtx taken y := by
  cases ho with
  | going pledgedSrcSize taken hended hending hw =>
    rw [CStream.toFlush_of_flushed (hb.flushed (by simp [hstage])), List.append_nil] at hw
    exact ⟨pledgedSrcSize, taken, rfl, hended, hending, hw⟩
  | ended _ _ _ hflush => simp [hstage] at hflush

lemma BlockCompressor.DecodedBy.Open.load {hc : c.DecodedBy d w R} (ho : hc.Open params v.zcs y x)
    (hb : v.zcs.Buffered) (hload : v.zcs.streamStage = .load) : ∃ loaded,
      v.src = loaded ++ v.load.src ∧ hc.Open params v.load.zcs y (x ++ loaded) ∧
        v.load.zcs.Buffered ∧ v.load.zcs.streamStage = .load := by
  have hflushed := hb.flushed (by simp [hload])
  have hin := hb.inBuffers (by simp [hload])
  obtain ⟨pledgedSrcSize, taken, rfl, hended, hending, hw⟩ := ho.loading hb hload
  obtain ⟨loaded, hsrc, hblock, -⟩ := hin.block_load
  have hnothing : v.load.zcs.toFlush = [] := CStream.toFlush_of_flushed hflushed
  refine ⟨loaded, hsrc, ?_, ⟨fun _ => hin.load, fun _ => hflushed⟩, hload⟩
  rw [List.append_assoc, ← hblock]
  refine .going pledgedSrcSize taken hended hending ?_
  rw [hnothing, List.append_nil]
  exact hw

/-- Preparing the next block does not touch the output. -/
lemma CStream.next_spec (zcs : CStream S) (cctx : CCtx S) (last : Bool) :
    (zcs.next cctx last).toCCtx = cctx ∧ (zcs.next cctx last).frameEnded = last ∧
      (zcs.next cctx last).streamStage = zcs.streamStage ∧
      (zcs.next cctx last).toFlush = zcs.toFlush := by
  rw [CStream.next, CStream.prepareNextBlock]
  split <;> exact ⟨rfl, rfl, rfl, rfl⟩

/-- The step lemma. -/
lemma BlockCompressor.DecodedBy.Open.turn {hc : c.DecodedBy d w R} (ho : hc.Open params v.zcs y x)
    (hb : v.zcs.Buffered) (h : c.Turn flushMode v v' more) : ∃ taken bytes,
      v.src = taken ++ v'.src ∧ v'.out = v.out ++ bytes ∧
        hc.Stands params v'.zcs (x ++ taken) (y ++ bytes) := by
  cases h with
  | rest cctx bytes hload _ hpos h =>
    obtain ⟨pledgedSrcSize, taken, rfl, -, hending, hw⟩ := ho.loading hb hload
    refine ⟨v.src, bytes, (List.append_nil _).symm, rfl, .complete pledgedSrcSize rfl ?_⟩
    have hblock : v.zcs.block = [] := by
      rw [CStream.block, hpos, Nat.zero_sub]
      rfl
    rw [hblock, List.append_nil]
    exact hw.compressEnd hending h
  | wait hload =>
    obtain ⟨loaded, hsrc, ho, -, hload⟩ := ho.load hb hload
    refine ⟨loaded, [], hsrc, (List.append_nil _).symm, .isOpen (by simp [hload]) ?_⟩
    rwa [List.append_nil]
  | direct cctx bytes last hload _ _ h =>
    obtain ⟨loaded, hsrc, ho, hb, hload⟩ := ho.load hb hload
    obtain ⟨pledgedSrcSize, taken, hx, -, hending, hw⟩ := ho.loading hb hload
    obtain ⟨hcctx, hended, hstage, hflush⟩ := v.load.zcs.next_spec cctx last
    have hblock := ((hb.inBuffers (by simp [hload])).next (blockSizeMax_compressPart h) last).2
    have hpart := hw.compressPart hending h
    rw [← hx] at hpart
    refine ⟨loaded, bytes, hsrc, rfl, ?_⟩
    cases last with
    | true => exact .complete pledgedSrcSize rfl hpart
    | false =>
      refine .isOpen (by simp [StreamVars.put, hstage, hload]) ?_
      have hgoing : hc.Open params (v.load.zcs.next cctx false) (y ++ bytes)
          ((x ++ loaded) ++ (v.load.zcs.next cctx false).block) := by
        refine .going pledgedSrcSize _ hended (by simp [hcctx, hpart.2]) ?_
        rw [hcctx, hflush, CStream.toFlush_of_flushed (hb.flushed (by simp [hload])),
          List.append_nil]
        exact hpart.1
      rw [hblock, List.append_nil] at hgoing
      exact hgoing
  | buffer cctx bytes last _ _ hload _ _ h hflush =>
    obtain ⟨loaded, hsrc, ho, hb, hload⟩ := ho.load hb hload
    obtain ⟨pledgedSrcSize, taken, hx, -, hending, hw⟩ := ho.loading hb hload
    obtain ⟨hcctx, hended, -, -⟩ := v.load.zcs.next_spec cctx last
    have hblock := ((hb.inBuffers (by simp [hload])).next (blockSizeMax_compressPart h) last).2
    have hpart := hw.compressPart hending h
    rw [← hx] at hpart
    obtain ⟨flushed, -, hv', hflushes⟩ := flush_eq hflush
    refine ⟨loaded, flushed, ?_, ?_, ?_⟩
    · rw [hv']
      exact hsrc
    · rw [hv']
      rfl
    · have hflush := v.load.zcs.toFlush_nextBuffered cctx last bytes
      refine BlockCompressor.DecodedBy.Open.flush ?_ rfl hflushes
      cases last with
      | true =>
        refine .ended pledgedSrcSize _ hended rfl ?_
        dsimp only
        rw [hflush]
        exact hpart
      | false =>
        have hgoing : hc.Open params (v.load.zcs.nextBuffered cctx false bytes) y
            ((x ++ loaded) ++ (v.load.zcs.next cctx false).block) := by
          refine .going pledgedSrcSize _ hended (?_ : (v.load.zcs.next cctx false).stage ≠ _) ?_
          · simp [hcctx, hpart.2]
          · rw [hflush]
            exact hcctx.symm ▸ hpart.1
        rw [hblock, List.append_nil] at hgoing
        exact hgoing
  | flush _ _ hstage hflush =>
    obtain ⟨flushed, -, hv', hflushes⟩ := flush_eq hflush
    refine ⟨[], flushed, ?_, ?_, ?_⟩
    · rw [hv']
      rfl
    · rw [hv']
      rfl
    · rw [List.append_nil]
      exact ho.flush hstage hflushes

/-- A turn that is the last one of a call to end a frame: the frame is complete, or the output is
full. -/
lemma BlockCompressor.Turn.last (h : c.Turn .eEnd v v' false) :
    v'.zcs.streamStage = .init ∧ v'.zcs.frameEnded = true ∨ v'.zcs.toFlush ≠ [] ∧ v'.room = 0 := by
  have hflush : ∀ {u : StreamVars S}, u.flush = (v', false) →
      v'.zcs.streamStage = .init ∧ v'.zcs.frameEnded = true ∨
        v'.zcs.toFlush ≠ [] ∧ v'.room = 0 := by
    intro u h
    obtain ⟨bytes, -, hv', hflushes⟩ := flush_eq h
    have hroom : v'.room = u.room - bytes.length := congrArg StreamVars.room hv'
    generalize v'.zcs = zcs' at hflushes ⊢
    cases hflushes with
    | full rest hne hflush hfull =>
      refine .inr ⟨CStream.toFlush_flushed hflush ▸ hne, ?_⟩
      rw [hroom, hfull, Nat.sub_self]
    | ended _ hended => exact .inl ⟨rfl, hended⟩
  generalize hmode : EndDirective.eEnd = mode at h
  generalize hmore : false = more at h
  cases h with
  | rest => exact .inl ⟨rfl, rfl⟩
  | wait _ hstop => rcases hstop with ⟨rfl, -⟩ | ⟨rfl, -⟩ <;> cases hmode
  | direct cctx _ last =>
    cases last with
    | true => exact .inl ⟨rfl, (v.load.zcs.next_spec cctx true).2.1⟩
    | false => cases hmore
  | buffer _ _ _ _ _ _ _ _ _ h => exact hflush (hmore ▸ h)
  | flush _ _ _ h => exact hflush (hmore ▸ h)

lemma BlockCompressor.Turn.stage_ne_init (h : c.Turn flushMode v v' more) :
    v.zcs.streamStage ≠ .init := by
  cases h <;> simp [*]

/-- The run lemma. -/
lemma BlockCompressor.DecodedBy.Open.run {hc : c.DecodedBy d w R} (ho : hc.Open params v.zcs y x)
    (hb : v.zcs.Buffered) (hstage : v.zcs.streamStage ≠ .init)
    (h : c.compressStreamGeneric flushMode v = .ok v') :
    v'.zcs.Buffered ∧
      (flushMode = .eEnd → v'.zcs.streamStage = .init ∧ v'.zcs.frameEnded = true ∨
        v'.zcs.toFlush ≠ [] ∧ v'.room = 0) ∧
      ∃ taken bytes, v.src = taken ++ v'.src ∧ v'.out = v.out ++ bytes ∧
        hc.Stands params v'.zcs (x ++ taken) (y ++ bytes) := by
  have hturn : ∀ ⦃w w' : StreamVars S⦄ ⦃more⦄,
      (w.zcs.Buffered ∧ ∃ taken bytes, v.src = taken ++ w.src ∧ w.out = v.out ++ bytes ∧
        hc.Stands params w.zcs (x ++ taken) (y ++ bytes)) →
      c.streamTurn flushMode w = .ok (w', more) →
      w'.zcs.Buffered ∧ ∃ taken bytes, v.src = taken ++ w'.src ∧ w'.out = v.out ++ bytes ∧
        hc.Stands params w'.zcs (x ++ taken) (y ++ bytes) := by
    rintro w w' more ⟨hb, taken, bytes, hsrc, hout, hstands⟩ hturn
    have hinv := streamTurn_eq_ok hturn
    refine ⟨hinv.buffered hb, ?_⟩
    cases hstands with
    | complete _ hstage _ => exact absurd hstage hinv.stage_ne_init
    | isOpen _ ho =>
      obtain ⟨taken', bytes', hsrc', hout', hstands'⟩ := ho.turn hb hinv
      refine ⟨taken ++ taken', bytes ++ bytes', ?_, ?_, ?_⟩
      · rw [List.append_assoc, ← hsrc', hsrc]
      · rw [hout', hout, List.append_assoc]
      · rw [← List.append_assoc, ← List.append_assoc]
        exact hstands'
  have hstart : v.zcs.Buffered ∧ ∃ taken bytes, v.src = taken ++ v.src ∧ v.out = v.out ++ bytes ∧
      hc.Stands params v.zcs (x ++ taken) (y ++ bytes) := by
    refine ⟨hb, [], [], rfl, (List.append_nil _).symm, ?_⟩
    rw [List.append_nil, List.append_nil]
    exact .isOpen hstage ho
  obtain ⟨w, -, hlast, hb', hend⟩ := turns_keeps hturn hstart h
  refine ⟨hb', ?_, hend⟩
  rintro rfl
  exact (streamTurn_eq_ok hlast).last

/-! ### Sessions -/

/-- Complete frames, of which `x` is the content, and then a frame that is open. -/
inductive BlockCompressor.DecodedBy.Follows (hc : c.DecodedBy d w R)
    (params : UInt64 → AppliedParams) (zcs : CStream S) : List UInt8 → List UInt8 → Prop
  | frames {x y : List UInt8} (hstage : zcs.streamStage = .init) (h : d.AreFrames w params x y) :
      Follows hc params zcs x y
  | isOpen {x y x' y' : List UInt8} (hstage : zcs.streamStage ≠ .init)
      (h : d.AreFrames w params x y) (ho : hc.Open params zcs y' x') :
      Follows hc params zcs (x ++ x') (y ++ y')

lemma BlockCompressor.DecodedBy.Follows.areFrames {hc : c.DecodedBy d w R}
    (h : hc.Follows params zcs x y) (hstage : zcs.streamStage = .init) :
    d.AreFrames w params x y := by
  cases h with
  | frames _ h => exact h
  | isOpen hne => exact absurd hstage hne

lemma open_initCompressStream2 (hc : c.DecodedBy d w R) (zcs : CStream S) (endOp : EndDirective)
    (inSize : Nat) : hc.Open params (c.initCompressStream2 params zcs endOp inSize) [] [] :=
  .going (zcs.pledgedSrcSize endOp inSize) [] rfl (by
    simp [BlockCompressor.initCompressStream2, BlockCompressor.resetCCtx])
    (hc.wrote_resetCCtx _ _)

lemma BlockDecoder.IsFrame.ne_nil {p : AppliedParams} {pledgedSrcSize : UInt64}
    {bytes : List UInt8} (h : d.IsFrame w p pledgedSrcSize x bytes) : bytes ≠ [] := by
  obtain ⟨k, blocks, e, digest, -, -, -, -, -, rfl⟩ := h.parts
  have hlen := @CCtxParams.length_header (p.applied pledgedSrcSize).toCCtxParams pledgedSrcSize 0
  intro hnil
  have hheader := (List.append_eq_nil_iff.mp hnil).1
  have hpos : 0 < startingInputLength (p.applied pledgedSrcSize).format := by
    cases (p.applied pledgedSrcSize).format <;> decide
  rw [hheader, List.length_nil] at hlen
  omega

/-- One call. -/
lemma BlockCompressor.DecodedBy.Follows.call {hc : c.DecodedBy d w R}
    (hf : hc.Follows params zcs x y) (hb : zcs.Buffered) {endOp : EndDirective}
    {output : OutBuffer} {input : InBuffer} (hout : output.pos ≤ output.size)
    (hin : input.pos ≤ input.size)
    (hret : isError (c.compressStream2 params zcs endOp output input).ret = false) :
    (c.compressStream2 params zcs endOp output input).state.Buffered ∧
      hc.Follows params (c.compressStream2 params zcs endOp output input).state
        (x ++ input.window.take (c.compressStream2 params zcs endOp output input).consumed)
        (y ++ (c.compressStream2 params zcs endOp output input).produced) ∧
      (endOp = .eEnd → (c.compressStream2 params zcs endOp output input).ret = 0 →
        (c.compressStream2 params zcs endOp output input).state.streamStage = .init ∧
          y ++ (c.compressStream2 params zcs endOp output input).produced ≠ []) := by
  obtain ⟨v, hrun, hreply⟩ := compressStream2_eq_ok hout hin hret
  rw [hreply]
  dsimp only
  obtain ⟨hb₁, hstage₁⟩ := buffered_start c params hb endOp (input.size - input.pos)
  obtain ⟨x₀, y₀, x₁, y₁, rfl, rfl, hframes, ho⟩ : ∃ x₀ y₀ x₁ y₁, x = x₀ ++ x₁ ∧ y = y₀ ++ y₁ ∧
      d.AreFrames w params x₀ y₀ ∧ hc.Open params (if zcs.streamStage = .init then
        c.initCompressStream2 params zcs endOp (input.size - input.pos) else zcs) y₁ x₁ := by
    cases hf with
    | frames hstage hframes =>
      refine ⟨x, y, [], [], (List.append_nil _).symm, (List.append_nil _).symm, hframes, ?_⟩
      rw [if_pos hstage]
      exact open_initCompressStream2 hc zcs endOp _
    | isOpen hstage hframes ho =>
      refine ⟨_, _, _, _, rfl, rfl, hframes, ?_⟩
      rw [if_neg hstage]
      exact ho
  obtain ⟨hb', hlast, taken, bytes, hsrc, hout, hstands⟩ := ho.run hb₁ hstage₁ hrun
  dsimp only at hsrc hout
  rw [List.nil_append] at hout
  have htaken : input.window.take (input.window.length - v.src.length) = taken := by
    rw [hsrc, List.length_append, Nat.add_sub_cancel, List.take_left]
  rw [htaken, hout, List.append_assoc, List.append_assoc]
  refine ⟨hb', ?_, ?_⟩
  · cases hstands with
    | complete pledgedSrcSize hstage hframe => exact .frames hstage (hframes.append _ hframe)
    | isOpen hstage ho' => exact .isOpen hstage hframes ho'
  · intro hend hzero
    have hstage : v.zcs.streamStage = .init := by
      rcases hlast hend with ⟨hstage, -⟩ | ⟨hne, -⟩
      · exact hstage
      · exact absurd (hb'.ret_eq_zero_iff.mp hzero) hne
    refine ⟨hstage, fun hnil => ?_⟩
    cases hstands with
    | complete pledgedSrcSize _ hframe => exact hframe.ne_nil (List.append_eq_nil_iff.mp hnil).2
    | isOpen hne => exact hne hstage

/-- The session lemma. -/
lemma BlockCompressor.DecodedBy.follows_of_session (hc : c.DecodedBy d w R)
    {cs : List (Call (CStream S) EndDirective)}
    (h : (c.streamCodec params).Session (c.createCStream params) cs zcs) (hok : NoErrors cs) :
    zcs.Buffered ∧ hc.Follows params zcs (bytesRead cs) (bytesPut cs) := by
  induction h with
  | start => exact ⟨buffered_createCStream c params, .frames rfl .nil⟩
  | call h op hout hin ih =>
    obtain ⟨hbefore, hlast⟩ := noErrors_append.mp hok
    obtain ⟨hb, hf⟩ := ih hbefore
    obtain ⟨hb', hf', -⟩ := hf.call hb hout hin (noErrors_singleton.mp hlast)
    simp only [bytesRead_append, bytesRead_cons, bytesRead_nil, bytesPut_append, bytesPut_cons,
      bytesPut_nil, List.append_nil]
    exact ⟨hb', hf'⟩

/-- The call that ends a frame. -/
lemma BlockCompressor.DecodedBy.areFrames_of_session (hc : c.DecodedBy d w R)
    {cs : List (Call (CStream S) EndDirective)} {call : Call (CStream S) EndDirective}
    (h : (c.streamCodec params).Session (c.createCStream params) (cs ++ [call]) zcs)
    (hok : NoErrors (cs ++ [call])) (hop : call.op = .eEnd) (hret : call.reply.ret = 0) :
    d.AreFrames w params (bytesRead (cs ++ [call])) (bytesPut (cs ++ [call])) ∧
      bytesPut (cs ++ [call]) ≠ [] := by
  obtain ⟨hbefore, hout, hin, hcall, -⟩ := h.last
  obtain ⟨hok', hlast⟩ := noErrors_append.mp hok
  obtain ⟨hb, hf⟩ := hc.follows_of_session hbefore hok'
  have hlast := noErrors_singleton.mp hlast
  rw [hcall] at hlast hret
  obtain ⟨-, hf', hends⟩ := hf.call hb hout hin hlast
  obtain ⟨hstage, hne⟩ := hends hop hret
  simp only [bytesRead_append, bytesRead_cons, bytesRead_nil, bytesPut_append, bytesPut_cons,
    bytesPut_nil, List.append_nil, Call.consumed]
  rw [hcall]
  exact ⟨hf'.areFrames hstage, hne⟩

/-! ### Decoding -/

/-- A decompression context that accepts what is written with the parameters. -/
structure DCtx.Accepts (dctx : DCtx) (params : UInt64 → AppliedParams) : Prop where
  format : ∀ pledgedSrcSize, dctx.format = (params pledgedSrcSize).format
  maxBlockSize : dctx.maxBlockSizeParam = 0 ∨
    ∀ pledgedSrcSize, (params pledgedSrcSize).maxBlockSize ≤ dctx.maxBlockSizeParam

variable {dctx : DCtx} {dstCapacity : Nat}

lemma BlockDecoder.IsFrame.not_skippable {p : AppliedParams} {pledgedSrcSize : UInt64}
    {bytes : List UInt8} (h : d.IsFrame w p pledgedSrcSize x bytes) (hformat : p.format = .zstd1) :
    isSkippable (readLE bytes 0 4) = false := by
  obtain ⟨k, blocks, e, digest, -, -, -, -, -, rfl⟩ := h.parts
  rw [CCtxParams.readLE_header (by rw [format_applied, hformat])]
  decide

/-- All frames are decoded. -/
lemma BlockDecoder.AreFrames.decompressMultiFrame (h : d.AreFrames w params x y)
    (haccepts : dctx.Accepts params) (hlen : x.length < 2 ^ 64) (hcap : x.length ≤ dstCapacity) :
    d.decompressMultiFrame dctx dstCapacity y = .ok x := by
  induction h with
  | nil =>
    have hpos : 0 < startingInputLength dctx.format := by cases dctx.format <;> decide
    exact decompressMultiFrame_eq_ok.mpr ⟨_, readAll_of_lt hpos, rfl⟩
  | @append x y x' y' pledgedSrcSize _ h' ih =>
    rw [List.length_append] at hlen hcap
    obtain ⟨s, hs, rfl⟩ := decompressMultiFrame_eq_ok.mp (ih (by omega) (by omega))
    have hskip : ¬(dctx.format = .zstd1 ∧ isSkippable (readLE y' 0 4) = true) := by
      rintro ⟨hformat, hmagic⟩
      rw [h'.not_skippable (haccepts.format _ ▸ hformat)] at hmagic
      cases hmagic
    have hframe := h'.decompressFrame (haccepts.format _)
      (haccepts.maxBlockSize.imp id fun hmax => hmax pledgedSrcSize) (by omega)
      (show x'.length ≤ dstCapacity - s.out.length by omega) []
    rw [List.append_nil] at hframe
    have hread : d.readFrame dctx (dstCapacity - s.out.length)
        { moreThan1Frame := false, out := [] } y' =
          .ok ({ moreThan1Frame := true, out := x' }, []) := by
      rw [readFrame_eq_ok, if_neg hskip]
      exact ⟨x', hframe, rfl⟩
    exact (decompressMultiFrame_behind hs _).mpr
      ⟨x', decompressMultiFrame_eq_ok.mpr ⟨_, readAll_readFrame hread, rfl⟩, rfl⟩

/-- A call that is given two bytes of a frame. -/
def continueCall : Call (CStream Unit) EndDirective :=
  (noCompress.streamCodec fun _ => level3).ask (noCompress.createCStream fun _ => level3) .eContinue
    (newStreamContext 20 8).output ((newStreamContext 20 8).input.stage [1, 2])

/-- A call that is given the last byte. -/
def endCall : Call (CStream Unit) EndDirective :=
  (noCompress.streamCodec fun _ => level3).ask continueCall.reply.state .eEnd
    (newStreamContext 20 8).output ((newStreamContext 20 8).input.stage [3])

lemma session_written :
    (noCompress.streamCodec fun _ => level3).Session (noCompress.createCStream fun _ => level3)
      ([continueCall] ++ [endCall]) endCall.reply.state :=
  (Codec.Session.start.call EndDirective.eContinue (by decide) (by decide)).call EndDirective.eEnd
    (by decide) (by decide)

lemma noErrors_written : NoErrors ([continueCall] ++ [endCall]) := by
  have hcontinue : isError continueCall.reply.ret = false := by decide +kernel
  have hend : isError endCall.reply.ret = false := by decide +kernel
  exact noErrors_append.mpr ⟨noErrors_singleton.mpr hcontinue, noErrors_singleton.mpr hend⟩

lemma bytesRead_written : bytesRead ([continueCall] ++ [endCall]) = [1, 2, 3] := by
  decide +kernel

lemma ret_endCall : endCall.reply.ret = 0 := by decide +kernel

/-- Whatever calls of `ZSTD_compressStream2` have been made, when one with `ZSTD_e_end` returns 0,
all that has been written is decompressed to all that has been read. -/
theorem decompressMultiFrame_of_session (hc : c.DecodedBy d w R)
    {cs : List (Call (CStream S) EndDirective)} {call : Call (CStream S) EndDirective}
    (h : (c.streamCodec params).Session (c.createCStream params) (cs ++ [call]) zcs)
    (hok : NoErrors (cs ++ [call])) (hop : call.op = .eEnd) (hret : call.reply.ret = 0)
    (haccepts : dctx.Accepts params) (hlen : (bytesRead (cs ++ [call])).length < 2 ^ 64)
    (hcap : (bytesRead (cs ++ [call])).length ≤ dstCapacity) :
    d.decompressMultiFrame dctx dstCapacity (bytesPut (cs ++ [call])) =
      .ok (bytesRead (cs ++ [call])) :=
  (hc.areFrames_of_session h hok hop hret).1.decompressMultiFrame haccepts hlen hcap

/-- Two calls, with two bytes and with one. -/
theorem decompressMultiFrame_of_session_three :
    let context := newStreamContext 20 8
    let first := (noCompress.streamCodec fun _ => level3).ask
      (noCompress.createCStream fun _ => level3) .eContinue context.output
      (context.input.stage [1, 2])
    let second := (noCompress.streamCodec fun _ => level3).ask first.reply.state .eEnd
      context.output (context.input.stage [3])
    noDecode.decompressMultiFrame .default 3 (bytesPut ([first] ++ [second])) = .ok [1, 2, 3] := by
  intro context first second
  have haccepts : DCtx.default.Accepts fun _ => level3 := ⟨fun _ => rfl, .inl rfl⟩
  have hread : bytesRead ([first] ++ [second]) = [1, 2, 3] := bytesRead_written
  rw [← hread]
  exact decompressMultiFrame_of_session (noCompress_decodedBy 0) session_written noErrors_written
    rfl ret_endCall haccepts (by rw [hread]; decide) (by rw [hread]; decide)

/-- Chunks that are fed to a compression stream, the last of which is not empty: the drained bytes
are decompressed to the chunks. -/
theorem decompressMultiFrame_of_feed (hc : c.DecodedBy d w R) {K : Type} {fuel : Nat}
    {drain : Drain K} {chunks : List Chunk} {last : Chunk} {sink : K} {beyond : Nat → Nat → UInt8}
    {t : World (CStream S) EndDirective K} {api : CompressApi (CStream S)}
    (hapi : api.compressStream2 = c.streamCodec params)
    (hr : feed (compression api) fuel drain chunks
      (World.start (compression api) (c.createCStream params) sink beyond) = .ok () t)
    (hharmless : t.log.Harmless) (hlast : chunks.getLast? = some last) (hne : 0 < last.len)
    (haccepts : dctx.Accepts params) (hlen : (contents chunks).length < 2 ^ 64)
    (hcap : (contents chunks).length ≤ dstCapacity) :
    d.decompressMultiFrame dctx dstCapacity t.log.delivered = .ok (contents chunks) := by
  have hsession := ((World.inSessionInvariant (compression api) _).feed_ok
    (World.inSession_start sink beyond) hr).session
  rw [delivered_of_feed hr, ← consumed_of_feed hr hharmless, Log.produced, Log.consumed]
  rw [← consumed_of_feed hr hharmless, Log.consumed] at hlen hcap
  obtain ⟨hok, ⟨hempty, -⟩ | ⟨-, cs, call, hcalls, -, hop, hret⟩⟩ := calls_of_feed hr
  · exact absurd ⟨last, hlast, hne⟩ hempty
  · have hcodec : (compression api).codec = c.streamCodec params := hapi
    rw [hcalls, hcodec] at hsession
    rw [hcalls] at hok hlen hcap ⊢
    exact (hc.areFrames_of_session hsession hok hop hret).1.decompressMultiFrame haccepts hlen hcap

/-- Two chunks, of two bytes and of one. -/
theorem decompressMultiFrame_of_feed_three :
    let api := CompressApi.ofCodec (noCompress.streamCodec fun _ => level3)
    let chunks : List Chunk := [.ofArr ⟨[97, 98], by decide⟩, .ofArr ⟨[99], by decide⟩]
    let r := feed (compression api) 2 (fun _ _ => ((), none)) chunks
      (World.start (compression api) (noCompress.createCStream fun _ => level3) () fun _ _ => 0)
    outcome r = .ok () ∧
      noDecode.decompressMultiFrame .default 3 (final r).log.delivered = .ok [97, 98, 99] := by
  intro api chunks r
  have hok : outcome r = .ok () := by decide +kernel
  have hharmless : (final r).log.Harmless := by decide +kernel
  refine ⟨hok, ?_⟩
  exact decompressMultiFrame_of_feed (noCompress_decodedBy 0) rfl (eq_ok_of_outcome hok)
    hharmless rfl (by decide) ⟨fun _ => rfl, .inl rfl⟩ (by decide) (by decide)

end VZstd
