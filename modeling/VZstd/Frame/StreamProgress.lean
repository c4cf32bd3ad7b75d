import VZstd.Frame.Bound
import VZstd.Frame.StreamFrames

/-!
# A compression stream does not get stuck

As long as the size that was pledged for a frame is kept, no call of `ZSTD_compressStream2` fails,
and its loop ends. With something to read and room to write, each call makes progress.
-/

namespace VZstd

open Memory Turns

variable {S : Type} {c : BlockCompressor S} {params : UInt64 → AppliedParams} {zcs : CStream S}
  {v v' : StreamVars S} {flushMode : EndDirective} {more : Bool}

/-! ### Between turns -/

/-- Between turns there is room for more input, and in the flush stage something is left. -/
structure CStream.Ready (zcs : CStream S) : Prop extends zcs.Buffered where
  pos_lt : zcs.streamStage ≠ .init → zcs.inBuffPos < zcs.inBuffTarget
  flushing : zcs.streamStage = .flush → zcs.outBuffFlushedSize < zcs.outBuffContentSize

lemma ready_createCStream (c : BlockCompressor S) (params : UInt64 → AppliedParams) :
    (c.createCStream params).Ready where
  toBuffered := buffered_createCStream c params
  pos_lt h := absurd rfl h
  flushing h := by cases h

lemma ready_start (c : BlockCompressor S) (params : UInt64 → AppliedParams) (hr : zcs.Ready)
    (endOp : EndDirective) (inSize : Nat) :
    (if zcs.streamStage = .init then c.initCompressStream2 params zcs endOp inSize
      else zcs).Ready := by
  split
  next =>
    have hin : (c.initCompressStream2 params zcs endOp inSize).InBuffers :=
      inBuffers_initCompressStream2 zcs endOp inSize
    exact ⟨⟨fun _ => hin, fun _ => rfl⟩, fun _ => hin.lt_target, fun hflush => by cases hflush⟩
  next => exact hr

lemma CStream.InBuffers.pos_lt_next (h : zcs.InBuffers) {cctx : CCtx S}
    (hsame : cctx.blockSizeMax = zcs.blockSizeMax) (last : Bool) :
    (zcs.next cctx last).inBuffPos < (zcs.next cctx last).inBuffTarget := by
  have hpos := h.blockSizeMax_pos
  rw [← hsame] at hpos
  rw [CStream.next, CStream.prepareNextBlock]
  split
  next => exact hpos
  next => exact Nat.lt_add_of_pos_right hpos

lemma CStream.Flushes.ready {room : Nat} {bytes : List UInt8} {zcs' : CStream S}
    (h : zcs.Flushes room bytes zcs' more) (hb : zcs.InBuffers)
    (hlt : zcs.inBuffPos < zcs.inBuffTarget) (hstage : zcs.streamStage = .flush) :
    zcs'.Ready := by
  refine ⟨h.buffered hb hstage, ?_, ?_⟩
  · cases h with
    | full => exact fun _ => hlt
    | ended => exact fun _ => hlt
    | done => exact fun _ => hlt
  · cases h with
    | full rest hne h _ =>
      intro _
      have hlen := congrArg List.length h
      have hpos := List.length_pos_iff.mpr hne
      rw [CStream.toFlush, slice_length, List.length_append] at hlen
      dsimp only
      omega
    | ended =>
      intro hflush
      cases hflush
    | done =>
      intro hflush
      cases hflush

/-- The step lemma. -/
lemma BlockCompressor.Turn.ready (h : c.Turn flushMode v v' more) (hr : v.zcs.Ready) :
    v'.zcs.Ready := by
  have hb := h.buffered hr.toBuffered
  cases h with
  | rest => exact ⟨hb, fun hne => absurd rfl hne, fun hflush => by cases hflush⟩
  | wait hload hstop =>
    have hin := (hr.inBuffers (by simp [hload])).load
    refine ⟨hb, fun _ => ?_, fun hflush => by simp [StreamVars.load, hload] at hflush⟩
    rcases hstop with ⟨-, hlt⟩ | ⟨-, heq⟩
    · exact hlt
    · rw [heq]
      exact hin.lt_target
  | direct cctx bytes last hload _ _ h =>
    have hlt := (hr.inBuffers (by simp [hload])).load.pos_lt_next (blockSizeMax_compressPart h) last
    obtain ⟨-, -, hstage, -⟩ := v.load.zcs.next_spec cctx last
    cases last with
    | true => exact ⟨hb, fun hne => absurd rfl hne, fun hflush => by cases hflush⟩
    | false =>
      have hload' : (v.load.zcs.next cctx false).streamStage = .load := hstage.trans hload
      exact ⟨hb, fun _ => hlt, fun hflush => by cases hload'.symm.trans hflush⟩
  | buffer cctx bytes last _ _ hload _ _ h hflush =>
    have hin := (hr.inBuffers (by simp [hload])).load
    obtain ⟨flushed, -, hv', hflushes⟩ := flush_eq hflush
    exact hflushes.ready (hin.nextBuffered (blockSizeMax_compressPart h) (length_compressPart_le h)
      last) (hin.pos_lt_next (blockSizeMax_compressPart h) last) rfl
  | flush _ _ hstage hflush =>
    obtain ⟨flushed, -, hv', hflushes⟩ := flush_eq hflush
    exact hflushes.ready (hr.inBuffers (by simp [hstage])) (hr.pos_lt (by simp [hstage])) hstage

/-! ### The size that was pledged -/

/-- A frame is going on: `x` has been compressed of its content. -/
structure CStream.Going (zcs : CStream S) (params : UInt64 → AppliedParams)
    (pledgedSrcSize : UInt64) (x : List UInt8) : Prop
    extends zcs.toCCtx.InFrame (params pledgedSrcSize) pledgedSrcSize x where
  notInit : zcs.streamStage ≠ .init
  notEnded : zcs.frameEnded = false
  notEnding : zcs.stage ≠ .ending
  target_le : zcs.inBuffTarget ≤ zcs.inToCompress + zcs.blockSizeMax ∨
    zcs.inBuffTarget ≤ zcs.inToCompress + zcs.blockSizeMax + 1 ∧
      pledgedSrcSize = .ofNat zcs.blockSizeMax

/-- How much of the content of a frame has been read, or is to come in a call. -/
def StreamVars.total (v : StreamVars S) (x : List UInt8) : Nat :=
  (x ++ v.zcs.block).length + v.src.length

/-- What is left of the input keeps what has been pledged: no size, or that of all the content, of
which all that is left comes with this call. -/
structure StreamVars.Keeps (v : StreamVars S) (params : UInt64 → AppliedParams)
    (flushMode : EndDirective) (pledgedSrcSize : UInt64) (x : List UInt8) : Prop
    extends v.zcs.Going params pledgedSrcSize x where
  total_lt : v.total x < maxInputSize.toNat
  kept : pledgedSrcSize = contentSizeUnknown ∨
    flushMode = .eEnd ∧ pledgedSrcSize = .ofNat (v.total x)

variable {pledgedSrcSize : UInt64} {x : List UInt8}

lemma CStream.length_block (zcs : CStream S) :
    zcs.block.length = zcs.inBuffPos - zcs.inToCompress := slice_length _ _ _

/-- Loading loses nothing. -/
lemma CStream.InBuffers.total_load (hin : v.zcs.InBuffers) (x : List UInt8) :
    v.load.total x = v.total x := by
  obtain ⟨loaded, hsrc, hblock, -⟩ := hin.block_load
  have hlen := congrArg List.length hsrc
  rw [List.length_append] at hlen
  rw [StreamVars.total, StreamVars.total, hblock, List.length_append, List.length_append,
    List.length_append]
  omega

/-- What was pledged is kept as long as nothing of the content is lost. -/
lemma StreamVars.Keeps.of_total {x' : List UInt8} (hk : v.Keeps params flushMode pledgedSrcSize x)
    (hg : v'.zcs.Going params pledgedSrcSize x') (htotal : v'.total x' = v.total x) :
    v'.Keeps params flushMode pledgedSrcSize x' := by
  refine ⟨hg, ?_, ?_⟩
  · rw [htotal]
    exact hk.total_lt
  · rw [htotal]
    exact hk.kept

lemma StreamVars.Keeps.load (hk : v.Keeps params flushMode pledgedSrcSize x)
    (hin : v.zcs.InBuffers) : v.load.Keeps params flushMode pledgedSrcSize x :=
  hk.of_total ⟨hk.toInFrame, hk.notInit, hk.notEnded, hk.notEnding, hk.target_le⟩ (hin.total_load x)

lemma chunkRoom_mono {m n : Nat} (h : m ≤ n) : chunkRoom m ≤ chunkRoom n := by
  rw [chunkRoom, chunkRoom, blockOverhead, blockOverhead]
  split <;> split <;> omega

lemma toNat_maxInputSize : maxInputSize.toNat = 18374966859414961920 := by decide

/-- What has been collected is no more than a block. -/
lemma StreamVars.Keeps.length_block_le (hk : v.Keeps params flushMode pledgedSrcSize x)
    (hin : v.zcs.InBuffers) : v.zcs.block.length ≤ v.zcs.blockSizeMax := by
  have hpos := hin.pos_le
  have hmax := hin.blockSizeMax_le
  have hlt := hk.total_lt
  rw [toNat_maxInputSize] at hlt
  rcases hk.target_le with hle | ⟨-, rfl⟩
  · rw [CStream.length_block]
    omega
  · rcases hk.kept with hunknown | ⟨-, hsize⟩
    · have hnat := congrArg UInt64.toNat hunknown
      rw [UInt64.toNat_ofNat_of_lt' (Nat.lt_of_le_of_lt hmax (by decide))] at hnat
      have hconst : contentSizeUnknown.toNat = 2 ^ 64 - 1 := rfl
      omega
    · have hnat := congrArg UInt64.toNat hsize
      rw [UInt64.toNat_ofNat_of_lt' (Nat.lt_of_le_of_lt hmax (by decide)),
        UInt64.toNat_ofNat_of_lt' (Nat.lt_trans hlt (by decide))] at hnat
      rw [hnat, StreamVars.total, List.length_append]
      omega

/-- A part is compressed. -/
lemma StreamVars.Keeps.compressPart_succeeds (hc : c.Fits)
    (hparts : ∀ n, (params n).inParts = false)
    (hk : v.Keeps params flushMode pledgedSrcSize x) {last : Bool} {dstCapacity : Nat}
    (hcap : chunkRoom v.zcs.block.length + 5 ≤ dstCapacity) (hlast : last = true → v.src = []) :
    ∃ cctx bytes, c.compressPart last v.zcs.toCCtx dstCapacity v.zcs.block = .ok (cctx, bytes) := by
  have hlt := hk.total_lt
  have hkept := hk.kept.imp id And.right
  rw [toNat_maxInputSize] at hlt
  rw [StreamVars.total] at hlt hkept
  cases last with
  | true =>
    have hnil : v.src.length = 0 := by rw [hlast rfl, List.length_nil]
    rw [hnil, Nat.add_zero] at hkept
    obtain ⟨cctx, bytes, h, -⟩ := hc.compressEnd_succeeds (hparts _) hk.toInFrame hk.notEnding hcap
      (by omega) hkept
    exact ⟨cctx, bytes, h⟩
  | false =>
    have hpledged : (x ++ v.zcs.block).length ≤ pledgedSrcSize.toNat := by
      rcases hkept with rfl | rfl
      · show _ ≤ 2 ^ 64 - 1
        omega
      · rw [UInt64.toNat_ofNat_of_lt' (Nat.lt_trans hlt (by decide))]
        exact Nat.le_add_right _ _
    obtain ⟨cctx, bytes, h, -⟩ := hc.compressContinueInternal_succeeds (hparts _) hk.toInFrame
      ((Nat.le_add_right _ 5).trans hcap) (by omega) hpledged false
    exact ⟨cctx, bytes, h⟩

lemma CStream.InBuffers.chunkRoom_le (hin : zcs.InBuffers) {n : Nat} (hn : n ≤ zcs.blockSizeMax) :
    chunkRoom n + 5 ≤ zcs.outBuffSize := by
  have hlt : zcs.blockSizeMax < maxInputSize.toNat :=
    Nat.lt_of_le_of_lt hin.blockSizeMax_le (by decide)
  have hmono := chunkRoom_mono hn
  have hroom := chunkRoom_le_compressBound hlt
  rw [hin.outBuffSize]
  omega

/-- No turn fails. -/
lemma StreamVars.Keeps.streamTurn_succeeds (hc : c.Fits) (hparts : ∀ n, (params n).inParts = false)
    (hk : v.Keeps params flushMode pledgedSrcSize x) (hb : v.zcs.Buffered)
    (hload : v.zcs.streamStage = .load) :
    ∃ v' more, c.streamTurn flushMode v = .ok (v', more) := by
  have hin := hb.inBuffers (by simp [hload])
  rw [BlockCompressor.streamTurn, hload]
  dsimp only
  split
  next hrest =>
    obtain ⟨rfl, hroom, hpos⟩ := hrest
    have hblock : v.zcs.block = [] := by
      rw [CStream.block, hpos, Nat.zero_sub]
      rfl
    have hlt := hk.total_lt
    have hkept := hk.kept.imp id And.right
    rw [StreamVars.total, hblock, List.append_nil, ← List.length_append] at hlt hkept
    rw [toNat_maxInputSize] at hlt
    have hsrc : v.src.length < maxInputSize.toNat := by
      rw [List.length_append] at hlt
      rw [toNat_maxInputSize]
      omega
    obtain ⟨cctx, bytes, h, -⟩ := hc.compressEnd_succeeds (hparts _) hk.toInFrame hk.notEnding
      ((chunkRoom_le_compressBound hsrc).trans hroom) (by omega) hkept
    rw [BlockCompressor.compressRest, h]
    exact ⟨_, _, rfl⟩
  next =>
    split
    next => exact ⟨_, _, rfl⟩
    next =>
      have hk' := hk.load hin
      have hle := hk'.length_block_le hin.load
      have hlt := hk'.total_lt
      have hblock : v.load.zcs.block.length < maxInputSize.toNat := by
        rw [StreamVars.total, List.length_append] at hlt
        omega
      have hcap : chunkRoom v.load.zcs.block.length + 5 ≤
          if v.load.RoomFor v.load.zcs.block.length then v.load.room
            else v.load.zcs.outBuffSize := by
        split
        next hroom => exact (chunkRoom_le_compressBound hblock).trans hroom
        next => exact hin.load.chunkRoom_le hle
      obtain ⟨cctx, bytes, h⟩ := hk'.compressPart_succeeds hc hparts hcap
        (fun hlast => (of_decide_eq_true hlast).2 :
          decide (flushMode = .eEnd ∧ v.load.src = []) = true → v.load.src = [])
      rw [BlockCompressor.compressLoaded]
      dsimp only
      rw [h]
      dsimp only
      split
      next => exact ⟨_, _, rfl⟩
      next => exact ⟨_, _, rfl⟩

/-- Behind a part that was not the last, the frame goes on. -/
lemma CStream.Going.next {cctx : CCtx S} {dstCapacity : Nat} {bytes : List UInt8}
    (hg : zcs.Going params pledgedSrcSize x)
    (h : c.compressPart false zcs.toCCtx dstCapacity zcs.block = .ok (cctx, bytes)) :
    (zcs.next cctx false).Going params pledgedSrcSize (x ++ zcs.block) := by
  obtain ⟨hf, -, hending⟩ := hg.toInFrame.compressContinueInternal hg.notEnding h
  obtain ⟨hcctx, hended, hstage, -⟩ := zcs.next_spec cctx false
  refine ⟨?_, ?_, hended, ?_, ?_⟩
  · rw [hcctx]
    exact hf
  · rw [hstage]
    exact hg.notInit
  · rw [hcctx]
    exact hending rfl
  · rw [CStream.next, CStream.prepareNextBlock]
    split
    next => exact .inl (Nat.le_add_left _ _)
    next => exact .inl (Nat.le_refl _)

/-- The turns that are left, at most. -/
def StreamVars.turnsLeft (v : StreamVars S) : Nat :=
  v.pending + if v.zcs.streamStage = .flush then 1 else 0

/-- A part that is compressed is not empty, unless it is the last one. -/
lemma CStream.InBuffers.block_ne_nil (hin : v.zcs.InBuffers)
    (hstop : ¬v.load.zcs.StopsLoading flushMode) (hmore : flushMode = .eEnd → v.load.src ≠ []) :
    v.load.zcs.inToCompress < v.load.zcs.inBuffPos := by
  have hlt := hin.load.lt_target
  have hto := hin.load.toCompress_le
  obtain ⟨-, -, -, hfull⟩ := hin.block_load
  cases flushMode with
  | eContinue =>
    have hpos : ¬v.load.zcs.inBuffPos < v.load.zcs.inBuffTarget := fun h => hstop (.inl ⟨rfl, h⟩)
    omega
  | eFlush =>
    have hne : v.load.zcs.inBuffPos ≠ v.load.zcs.inToCompress := fun h => hstop (.inr ⟨rfl, h⟩)
    omega
  | eEnd =>
    have hpos : v.load.zcs.inBuffPos = v.load.zcs.inBuffTarget := hfull.resolve_left (hmore rfl)
    omega

lemma StreamVars.turnsLeft_lt (hload : v'.zcs.streamStage = .load) (h : v'.pending < v.pending) :
    v'.turnsLeft < v.turnsLeft := by
  rw [StreamVars.turnsLeft, StreamVars.turnsLeft, if_neg (by simp [hload])]
  exact Nat.lt_of_lt_of_le h (Nat.le_add_right _ _)

/-- A turn behind which there is more to do leaves less of it. -/
lemma BlockCompressor.Turn.turnsLeft_lt (h : c.Turn flushMode v v' true)
    (hin : v.zcs.InBuffers) : v'.zcs.streamStage = .load ∧ v'.turnsLeft < v.turnsLeft := by
  have hpart : ∀ w : StreamVars S, v.load.zcs.inToCompress < v.load.zcs.inBuffPos →
      w.zcs.block = [] → w.src = v.load.src → w.pending < v.pending := by
    intro w hne hblock hsrc
    have hnil := congrArg List.length hblock
    obtain ⟨loaded, hload, hloaded, -⟩ := hin.block_load
    have hlen := congrArg List.length hload
    have hlen' := congrArg List.length hloaded
    rw [List.length_append] at hlen hlen'
    rw [CStream.length_block, List.length_nil] at hnil
    rw [CStream.length_block, CStream.length_block] at hlen'
    rw [StreamVars.pending, StreamVars.pending, hsrc]
    omega
  generalize hmore : true = more at h
  cases h with
  | rest => cases hmore
  | wait => cases hmore
  | direct cctx bytes last hload hstop hlast h =>
    obtain rfl : last = false := by simpa using hmore.symm
    obtain ⟨-, -, hstage, -⟩ := v.load.zcs.next_spec cctx false
    have hload' : (v.load.zcs.next cctx false).streamStage = .load := hstage.trans hload
    have hblock := (hin.load.next (blockSizeMax_compressPart h) false).2
    have hne := hin.block_ne_nil hstop fun hend hsrc => by simp [hend, hsrc] at hlast
    exact ⟨hload', StreamVars.turnsLeft_lt hload' (hpart _ hne hblock rfl)⟩
  | buffer cctx bytes last v' more hload hstop hlast h hflush =>
    subst hmore
    obtain ⟨flushed, -, hv', hflushes⟩ := flush_eq hflush
    generalize v'.zcs = zcs' at hv' hflushes
    subst hv'
    obtain ⟨-, hended, -, -⟩ := v.load.zcs.next_spec cctx last
    cases hflushes with
    | done _ hgoing =>
      obtain rfl : last = false := hended.symm.trans hgoing
      have hblock := (hin.load.next (blockSizeMax_compressPart h) false).2
      have hne := hin.block_ne_nil hstop fun hend hsrc => by simp [hend, hsrc] at hlast
      exact ⟨rfl, StreamVars.turnsLeft_lt rfl (hpart _ hne hblock rfl)⟩
  | flush v' more hstage hflush =>
    subst hmore
    obtain ⟨flushed, -, hv', hflushes⟩ := flush_eq hflush
    generalize v'.zcs = zcs' at hv' hflushes
    subst hv'
    cases hflushes with
    | done =>
      refine ⟨rfl, ?_⟩
      rw [StreamVars.turnsLeft, StreamVars.turnsLeft, if_pos hstage]
      exact Nat.lt_succ_self _

/-- No frame is open. -/
structure CStream.Closed (zcs : CStream S) : Prop where
  stage : zcs.streamStage = .init
  pledged : zcs.pledgedSrcSizePlusOne = 0

/-- All that is left of the frame is to flush its end. -/
structure CStream.Ending (zcs : CStream S) : Prop where
  ended : zcs.frameEnded = true
  stage : zcs.streamStage = .flush

lemma CStream.Going.flush {zcs' : CStream S} {room : Nat} {bytes : List UInt8}
    (hg : zcs.Going params pledgedSrcSize x) (h : zcs.Flushes room bytes zcs' more) :
    zcs'.Going params pledgedSrcSize x ∧ zcs'.block = zcs.block := by
  cases h with
  | full => exact ⟨⟨hg.toInFrame, hg.notInit, hg.notEnded, hg.notEnding, hg.target_le⟩, rfl⟩
  | ended _ hended => simp [hg.notEnded] at hended
  | done => exact ⟨⟨hg.toInFrame, by simp, hg.notEnded, hg.notEnding, hg.target_le⟩, rfl⟩

/-- What a turn makes of a frame that is going on: it is complete, or ended but for flushing, or it
goes on, and nothing of the content is lost. -/
lemma BlockCompressor.Turn.going (h : c.Turn flushMode v v' more) (hin : v.zcs.InBuffers)
    (hg : v.zcs.Going params pledgedSrcSize x) :
    v'.zcs.Closed ∨ v'.zcs.Ending ∨
      ∃ x', v'.zcs.Going params pledgedSrcSize x' ∧ v'.total x' = v.total x := by
  have htotal := hin.total_load x
  have hload : v.load.zcs.Going params pledgedSrcSize x :=
    ⟨hg.toInFrame, hg.notInit, hg.notEnded, hg.notEnding, hg.target_le⟩
  have hpart : ∀ {w : StreamVars S}, w.zcs.block = [] → w.src = v.load.src →
      w.total (x ++ v.load.zcs.block) = v.total x := by
    intro w hblock hsrc
    rw [← htotal, StreamVars.total, StreamVars.total, hblock, List.append_nil, hsrc]
  cases h with
  | rest => exact .inl ⟨rfl, rfl⟩
  | wait => exact .inr (.inr ⟨x, hload, htotal⟩)
  | direct cctx bytes last _ _ _ h =>
    cases last with
    | true => exact .inl ⟨rfl, rfl⟩
    | false =>
      exact .inr (.inr ⟨_, hload.next h,
        hpart (hin.load.next (blockSizeMax_compressPart h) false).2 rfl⟩)
  | buffer cctx bytes last v' more _ _ _ h hflush =>
    obtain ⟨flushed, -, hv', hflushes⟩ := flush_eq hflush
    generalize v'.zcs = zcs' at hv' hflushes
    subst hv'
    obtain ⟨-, hended, -, -⟩ := v.load.zcs.next_spec cctx last
    have hblock := (hin.load.next (blockSizeMax_compressPart h) last).2
    cases last with
    | true =>
      cases hflushes with
      | full => exact .inr (.inl ⟨hended, rfl⟩)
      | ended => exact .inl ⟨rfl, rfl⟩
      | done _ hcontra => cases hended.symm.trans hcontra
    | false =>
      have hnext := hload.next h
      have hbuffered : (v.load.zcs.nextBuffered cctx false bytes).Going params pledgedSrcSize
          (x ++ v.load.zcs.block) :=
        ⟨hnext.toInFrame, by simp [CStream.nextBuffered], hnext.notEnded, hnext.notEnding,
          hnext.target_le⟩
      obtain ⟨hgoing, hsame⟩ := hbuffered.flush hflushes
      exact .inr (.inr ⟨_, hgoing, hpart (hsame.trans hblock) rfl⟩)
  | flush v' more hstage hflush =>
    obtain ⟨flushed, -, hv', hflushes⟩ := flush_eq hflush
    generalize v'.zcs = zcs' at hv' hflushes
    subst hv'
    obtain ⟨hgoing, hsame⟩ := hg.flush hflushes
    refine .inr (.inr ⟨x, hgoing, ?_⟩)
    rw [StreamVars.total, StreamVars.total]
    dsimp only [StreamVars.put]
    rw [hsame]

/-- A frame that has been ended is flushed. -/
lemma BlockCompressor.Turn.ending (h : c.Turn flushMode v v' more)
    (hending : v.zcs.Ending) : v'.zcs.Closed ∨ v'.zcs.Ending := by
  have hstage := hending.stage
  cases h with
  | rest _ _ hload => cases hstage.symm.trans hload
  | wait hload => cases hstage.symm.trans hload
  | direct _ _ _ hload => cases hstage.symm.trans hload
  | buffer _ _ _ _ _ hload => cases hstage.symm.trans hload
  | flush _ _ _ hflush =>
    obtain ⟨flushed, -, -, hflushes⟩ := flush_eq hflush
    generalize v'.zcs = zcs' at hflushes
    cases hflushes with
    | full => exact .inr ⟨hending.ended, hstage⟩
    | ended => exact .inl ⟨rfl, rfl⟩
    | done _ hcontra => cases hending.ended.symm.trans hcontra

/-! ### Calls -/

/-- Between turns of a call that keeps what has been pledged. -/
structure StreamVars.Live (v : StreamVars S) (params : UInt64 → AppliedParams)
    (flushMode : EndDirective) : Prop extends v.zcs.Ready where
  stage : v.zcs.streamStage ≠ .init
  frame : v.zcs.Ending ∨ ∃ pledgedSrcSize x, v.Keeps params flushMode pledgedSrcSize x

lemma StreamVars.Live.turn (hl : v.Live params flushMode) (hc : c.Fits)
    (hparts : ∀ n, (params n).inParts = false) :
    ∃ v' more, c.streamTurn flushMode v = .ok (v', more) ∧
      (more = true → v'.Live params flushMode ∧ v'.turnsLeft < v.turnsLeft) := by
  have hin := hl.inBuffers hl.stage
  obtain ⟨v', more, hturn⟩ : ∃ v' more, c.streamTurn flushMode v = .ok (v', more) := by
    cases hstage : v.zcs.streamStage with
    | init => exact absurd hstage hl.stage
    | flush =>
      rw [BlockCompressor.streamTurn, hstage]
      exact ⟨_, _, rfl⟩
    | load =>
      obtain hending | ⟨pledgedSrcSize, x, hk⟩ := hl.frame
      · cases hstage.symm.trans hending.stage
      · exact hk.streamTurn_succeeds hc hparts hl.toBuffered hstage
  refine ⟨v', more, hturn, ?_⟩
  rintro rfl
  have hinv := streamTurn_eq_ok hturn
  obtain ⟨hload, hlt⟩ := hinv.turnsLeft_lt hin
  refine ⟨⟨hinv.ready hl.toReady, by simp [hload], ?_⟩, hlt⟩
  obtain hending | ⟨pledgedSrcSize, x, hk⟩ := hl.frame
  · rcases hinv.ending hending with hclosed | hending
    · cases hload.symm.trans hclosed.stage
    · exact .inl hending
  · rcases hinv.going hin hk.toGoing with hclosed | hending | ⟨x', hg, htotal⟩
    · cases hload.symm.trans hclosed.stage
    · exact .inl hending
    · exact .inr ⟨pledgedSrcSize, x', hk.of_total hg htotal⟩

/-- The loop ends. -/
lemma StreamVars.Live.run (hl : v.Live params flushMode) (hc : c.Fits)
    (hparts : ∀ n, (params n).inParts = false) :
    ∃ v', c.compressStreamGeneric flushMode v = .ok v' := by
  have hsize : v.turnsLeft < v.pending + 2 := by
    rw [StreamVars.turnsLeft]
    split <;> omega
  have hturn : ∀ ⦃w : StreamVars S⦄, w.Live params flushMode →
      ∃ v' more, c.streamTurn flushMode w = .ok (v', more) ∧
        (more = true → v'.Live params flushMode ∧ v'.turnsLeft < w.turnsLeft) :=
    fun w hw => hw.turn hc hparts
  exact turns_ends hturn hl hsize

/-- Where a session stands that has read `n` bytes. -/
def CStream.Underway (zcs : CStream S) (params : UInt64 → AppliedParams) (n : Nat) : Prop :=
  zcs.Closed ∨ zcs.Ending ∨
    ∃ pledgedSrcSize x, zcs.Going params pledgedSrcSize x ∧ (x ++ zcs.block).length ≤ n

/-- The call gives the size that was pledged for the frame that is open. -/
def CStream.KeepsPledge (zcs : CStream S) (endOp : EndDirective) (inSize : Nat) : Prop :=
  zcs.streamStage = .init ∨ zcs.frameEnded = true ∨ zcs.pledgedSrcSizePlusOne = 0 ∨
    endOp = .eEnd ∧
      zcs.pledgedSrcSizePlusOne = zcs.consumedSrcSize + .ofNat (zcs.block.length + inSize) + 1

lemma going_initCompressStream2 (zcs : CStream S) (endOp : EndDirective) (inSize : Nat) :
    (c.initCompressStream2 params zcs endOp inSize).Going params
      (zcs.pledgedSrcSize endOp inSize) [] where
  toInFrame := inFrame_resetCCtx c _ _
  notInit := by simp [BlockCompressor.initCompressStream2]
  notEnded := rfl
  notEnding := by simp [BlockCompressor.initCompressStream2, BlockCompressor.resetCCtx]
  target_le := by
    by_cases hsame : UInt64.ofNat (c.resetCCtx (params (zcs.pledgedSrcSize endOp inSize))
        (zcs.pledgedSrcSize endOp inSize)).blockSizeMax = zcs.pledgedSrcSize endOp inSize
    · refine .inr ⟨?_, hsame.symm⟩
      dsimp only [BlockCompressor.initCompressStream2]
      rw [decide_eq_true hsame, Nat.zero_add]
      exact Nat.le_refl _
    · left
      dsimp only [BlockCompressor.initCompressStream2]
      rw [decide_eq_false hsame, Nat.zero_add]
      exact Nat.le_refl _

/-- The frame that a call begins with. -/
lemma CStream.Underway.begins {n : Nat} (hu : zcs.Underway params n) (c : BlockCompressor S)
    (endOp : EndDirective) (inSize : Nat) :
    (if zcs.streamStage = .init then c.initCompressStream2 params zcs endOp inSize
      else zcs).Underway params n := by
  split
  next =>
    refine .inr (.inr ⟨_, [], going_initCompressStream2 zcs endOp inSize, ?_⟩)
    exact Nat.zero_le _
  next => exact hu

/-- The run lemma. -/
lemma CStream.Underway.run {n : Nat} (hu : v.zcs.Underway params n) (hr : v.zcs.Ready)
    (h : c.compressStreamGeneric flushMode v = .ok v') :
    v'.zcs.Ready ∧ v'.zcs.Underway params (n + (v.src.length - v'.src.length)) := by
  have hturn : ∀ ⦃w w' : StreamVars S⦄ ⦃more⦄,
      (w.zcs.Ready ∧ (w.zcs.Closed ∨ w.zcs.Ending ∨ ∃ pledgedSrcSize x,
        w.zcs.Going params pledgedSrcSize x ∧ w.total x ≤ n + v.src.length)) →
      c.streamTurn flushMode w = .ok (w', more) →
      w'.zcs.Ready ∧ (w'.zcs.Closed ∨ w'.zcs.Ending ∨ ∃ pledgedSrcSize x,
        w'.zcs.Going params pledgedSrcSize x ∧ w'.total x ≤ n + v.src.length) := by
    rintro w w' more ⟨hr, hw⟩ hturn
    have hinv := streamTurn_eq_ok hturn
    refine ⟨hinv.ready hr, ?_⟩
    obtain hclosed | hending | ⟨pledgedSrcSize, x, hg, htotal⟩ := hw
    · exact absurd hclosed.stage hinv.stage_ne_init
    · rcases hinv.ending hending with hclosed | hending
      · exact .inl hclosed
      · exact .inr (.inl hending)
    · have hin := hr.inBuffers hinv.stage_ne_init
      rcases hinv.going hin hg with hclosed | hending | ⟨x', hg', hsame⟩
      · exact .inl hclosed
      · exact .inr (.inl hending)
      · exact .inr (.inr ⟨pledgedSrcSize, x', hg', hsame.trans_le htotal⟩)
  have hstart : v.zcs.Ready ∧ (v.zcs.Closed ∨ v.zcs.Ending ∨ ∃ pledgedSrcSize x,
      v.zcs.Going params pledgedSrcSize x ∧ v.total x ≤ n + v.src.length) := by
    refine ⟨hr, hu.imp id (Or.imp id ?_)⟩
    rintro ⟨pledgedSrcSize, x, hg, hle⟩
    exact ⟨pledgedSrcSize, x, hg, Nat.add_le_add_right hle _⟩
  obtain ⟨-, -, -, hr', hend⟩ := turns_keeps hturn hstart h
  refine ⟨hr', hend.imp id (Or.imp id ?_)⟩
  rintro ⟨pledgedSrcSize, x, hg, hle⟩
  refine ⟨pledgedSrcSize, x, hg, ?_⟩
  rw [StreamVars.total] at hle
  omega

/-- The session lemma. -/
lemma underway_of_session {cs : List (Call (CStream S) EndDirective)}
    (h : (c.streamCodec params).Session (c.createCStream params) cs zcs) (hok : NoErrors cs) :
    zcs.Ready ∧ zcs.Underway params (bytesRead cs).length := by
  induction h with
  | start => exact ⟨ready_createCStream c params, .inl ⟨rfl, rfl⟩⟩
  | @call cs t h op output input hout hin ih =>
    obtain ⟨hbefore, hlast⟩ := noErrors_append.mp hok
    obtain ⟨hr, hu⟩ := ih hbefore
    obtain ⟨v, hrun, hreply⟩ := compressStream2_eq_ok hout hin (noErrors_singleton.mp hlast)
    obtain ⟨hr', hu'⟩ := (hu.begins c op (input.size - input.pos)).run
      (ready_start c params hr op (input.size - input.pos)) hrun
    have hread : (bytesRead (cs ++ [(c.streamCodec params).ask t op output input])).length =
        (bytesRead cs).length + (input.window.length - v.src.length) := by
      rw [bytesRead_append, bytesRead_cons, bytesRead_nil, List.append_nil, List.length_append]
      show _ + (input.window.take (c.compressStream2 params t op output input).consumed).length = _
      rw [hreply, List.length_take]
      dsimp only
      rw [Nat.min_eq_left (Nat.sub_le _ _)]
    have hstate : ((c.streamCodec params).call t op output input).state = v.zcs :=
      congrArg Reply.state hreply
    rw [hread, hstate]
    exact ⟨hr', hu'⟩

/-- What a call that keeps the pledge begins with. -/
lemma CStream.Underway.live {n inSize : Nat} {src : List UInt8} (out : List UInt8) (room : Nat)
    (hu : zcs.Underway params n) (hr : zcs.Ready) {endOp : EndDirective}
    (hpledge : zcs.KeepsPledge endOp inSize) (hsrc : src.length = inSize)
    (hlen : n + inSize < maxInputSize.toNat) (c : BlockCompressor S) :
    StreamVars.Live
      { zcs :=
          if zcs.streamStage = .init then c.initCompressStream2 params zcs endOp inSize else zcs
        src := src
        out := out
        room := room } params endOp := by
  subst hsrc
  refine ⟨ready_start c params hr endOp _, (buffered_start c params hr.toBuffered endOp _).2, ?_⟩
  dsimp only
  by_cases hstage : zcs.streamStage = .init
  · rw [if_pos hstage]
    refine .inr ⟨_, [], going_initCompressStream2 zcs endOp _, ?_, ?_⟩
    · show 0 + src.length < _
      omega
    · show _ ∨ endOp = .eEnd ∧ _ = UInt64.ofNat (0 + src.length)
      rw [CStream.pledgedSrcSize, Nat.zero_add]
      split
      next hend => exact .inr ⟨hend, UInt64.add_sub_cancel _ _⟩
      next =>
        obtain hclosed | hending | ⟨_, _, hg, -⟩ := hu
        · left
          rw [hclosed.pledged]
          rfl
        · cases hstage.symm.trans hending.stage
        · exact absurd hstage hg.notInit
  · rw [if_neg hstage]
    obtain hclosed | hending | ⟨pledgedSrcSize, x, hg, hle⟩ := hu
    · exact absurd hclosed.stage hstage
    · exact .inl hending
    · refine .inr ⟨pledgedSrcSize, x, hg, ?_, ?_⟩
      · rw [StreamVars.total]
        dsimp only
        omega
      · rcases hpledge with hinit | hended | hunknown | ⟨hend, hknown⟩
        · exact absurd hinit hstage
        · cases hg.notEnded.symm.trans hended
        · left
          rw [hg.pledged] at hunknown
          exact (UInt64.add_left_inj 1).mp (hunknown.trans (by decide))
        · refine .inr ⟨hend, ?_⟩
          rw [hg.pledged, hg.consumed, ← UInt64.ofNat_add, UInt64.add_left_inj] at hknown
          rw [hknown, StreamVars.total, List.length_append, Nat.add_assoc]

/-- With something to read and room to write, a turn reads or writes something. -/
lemma BlockCompressor.Turn.advances (h : c.Turn flushMode v v' more) (hr : v.zcs.Ready)
    (hsrc : v.src ≠ []) (hroom : 0 < v.room) :
    v'.src.length < v.src.length ∨ v'.room < v.room := by
  have hlen := List.length_pos_iff.mpr hsrc
  have hload : v.zcs.streamStage = .load → v.load.src.length < v.src.length := by
    intro hload
    have hlt := hr.pos_lt (by simp [hload])
    dsimp only [StreamVars.load]
    rw [List.length_drop]
    omega
  cases h with
  | rest => exact .inl hlen
  | wait hstage => exact .inl (hload hstage)
  | direct _ _ _ hstage => exact .inl (hload hstage)
  | buffer _ _ _ v' _ hstage _ _ _ hflush =>
    obtain ⟨flushed, -, hv', -⟩ := flush_eq hflush
    rw [hv']
    exact .inl (hload hstage)
  | flush _ _ hstage hflush =>
    obtain ⟨flushed, hle, hv', hflushes⟩ := flush_eq hflush
    have hleft := hr.flushing hstage
    have htoFlush : 0 < v.zcs.toFlush.length := by
      rw [CStream.toFlush, slice_length]
      omega
    have hpos : 0 < flushed.length := by
      generalize v'.zcs = zcs' at hflushes
      cases hflushes with
      | full _ _ _ hall => exact hall ▸ hroom
      | ended hall => exact hall ▸ htoFlush
      | done hall => exact hall ▸ htoFlush
    right
    rw [hv']
    dsimp only [StreamVars.put]
    omega

lemma CStream.Ready.compressStreamGeneric (hr : v.zcs.Ready) (hsrc : v.src ≠ [])
    (hroom : 0 < v.room) (h : c.compressStreamGeneric flushMode v = .ok v') :
    v'.src.length < v.src.length ∨ v'.room < v.room := by
  obtain ⟨w, more, hfirst, hrest⟩ := turns_eq_ok.mp h
  have hadvances := (streamTurn_eq_ok hfirst).advances hr hsrc hroom
  cases more with
  | false =>
    obtain rfl : w = v' := hrest
    exact hadvances
  | true =>
    have hmoves := moves_turns hrest
    have hshort := hmoves.src.length_le
    have hle := hmoves.room_le
    omega

/-- In every session, a call that keeps the size that was pledged for the open frame succeeds, and
with something to read and room to write, it reads or writes something. -/
theorem compressStream2_succeeds (hc : c.Fits) (hparts : ∀ n, (params n).inParts = false)
    {cs : List (Call (CStream S) EndDirective)}
    (h : (c.streamCodec params).Session (c.createCStream params) cs zcs) (hok : NoErrors cs)
    {endOp : EndDirective} {output : OutBuffer} {input : InBuffer}
    (hout : output.pos ≤ output.size) (hin : input.pos ≤ input.size)
    (hlen : (bytesRead cs).length + (input.size - input.pos) < maxInputSize.toNat)
    (hpledge : zcs.KeepsPledge endOp (input.size - input.pos)) :
    isError (c.compressStream2 params zcs endOp output input).ret = false ∧
      (input.window ≠ [] → 0 < output.room →
        0 < (c.compressStream2 params zcs endOp output input).consumed +
          (c.compressStream2 params zcs endOp output input).produced.length) := by
  obtain ⟨hr, hu⟩ := underway_of_session h hok
  have hlive := hu.live [] output.room hr hpledge input.window_length hlen c
  obtain ⟨v, hrun⟩ := hlive.run hc hparts
  have hreply : c.compressStream2 params zcs endOp output input =
      { state := v.zcs
        ret := .ofNat (v.zcs.outBuffContentSize - v.zcs.outBuffFlushedSize)
        consumed := input.window.length - v.src.length
        produced := v.out } := by
    rw [BlockCompressor.compressStream2, if_neg (Nat.not_lt.mpr hout),
      if_neg (Nat.not_lt.mpr hin)]
    dsimp only
    rw [hrun]
  have hready := ready_start c params hr endOp (input.size - input.pos)
  have hle := ((hu.begins c endOp (input.size - input.pos)).run hready hrun).1.toBuffered.toFlush_le
  rw [hreply]
  refine ⟨?_, fun hne hroom => ?_⟩
  · have hlt : v.zcs.outBuffContentSize - v.zcs.outBuffFlushedSize < UInt64.size :=
      Nat.lt_of_le_of_lt hle (by decide)
    rw [← Bool.not_eq_true, isError_iff, UInt64.toNat_ofNat_of_lt' hlt]
    omega
  · have hmoves := moves_turns hrun
    have hadvances := hready.compressStreamGeneric hne hroom hrun
    have hsrc := hmoves.src.length_le
    have hout := hmoves.length_out
    dsimp only at hsrc hout hadvances ⊢
    rw [List.length_nil, Nat.zero_add] at hout
    omega

/-- A call behind one that has left two bytes in the buffer. -/
theorem compressStream2_succeeds_three :
    let context := newStreamContext 20 8
    let first := (noCompress.streamCodec fun _ => level3).ask
      (noCompress.createCStream fun _ => level3) .eContinue context.output
      (context.input.stage [1, 2])
    let r := noCompress.compressStream2 (fun _ => level3) first.reply.state .eEnd context.output
      (context.input.stage [3])
    isError r.ret = false ∧ 0 < r.consumed + r.produced.length := by
  intro context first r
  have hout : context.output.pos ≤ context.output.size := by decide
  have hone : (context.input.stage [1, 2]).pos ≤ (context.input.stage [1, 2]).size := by decide
  have htwo : (context.input.stage [3]).pos ≤ (context.input.stage [3]).size := by decide
  have hsession : (noCompress.streamCodec fun _ => level3).Session
      (noCompress.createCStream fun _ => level3) [first] first.reply.state :=
    Codec.Session.start.call EndDirective.eContinue hout hone
  have hok : NoErrors [first] := noErrors_singleton.mpr (by decide +kernel)
  have hpledge : first.reply.state.KeepsPledge .eEnd
      ((context.input.stage [3]).size - (context.input.stage [3]).pos) :=
    .inr (.inr (.inl (by decide +kernel)))
  obtain ⟨hret, hadvances⟩ := compressStream2_succeeds noCompress_fits (fun _ => rfl) hsession hok
    hout htwo (by decide +kernel) hpledge
  exact ⟨hret, hadvances (by decide +kernel) (by decide)⟩

end VZstd
