import VZstd.Frame.DecompressSession

/-!
# The loop of a decompression stream ends

On any input, also one that is not a stream of frames, and in any state that calls without errors
can lead to, each turn after which there is more work has taken something of the input, or has
flushed.
-/

namespace VZstd

open Memory Turns

variable {E : Type} {d : BlockDecoder E} {dctx : DCtx} {maxWindowSize : Nat}
  {zds zds' : DStream E} {v v' : DStreamVars E} {more : Bool} {src istart : List UInt8}

/-- The input buffer is used while a block is collected, and holds less than all of it. -/
def DStream.Collects (zds : DStream E) : Prop :=
  if zds.streamStage = .load then zds.inPos < zds.expected else zds.inPos = 0

lemma collects_of_inPos (hstage : zds.streamStage ≠ .load) (hin : zds.inPos = 0) :
    zds.Collects := by
  rw [DStream.Collects, if_neg hstage]
  exact hin

lemma DStream.Collects.inPos (h : zds.Collects) (hstage : zds.streamStage ≠ .load) :
    zds.inPos = 0 := by
  rwa [DStream.Collects, if_neg hstage] at h

/-- What is asked for where a header is not complete. -/
lemma length_lt_of_getFrameHeaderAdvanced {format : Format} {hSize : UInt64}
    (h : getFrameHeaderAdvanced src format = .error hSize) (hsize : isError hSize = false) :
    src.length < hSize.toNat := by
  rw [getFrameHeaderAdvanced] at h
  split at h
  next hlt =>
    split at h
    next =>
      obtain rfl := Except.error.inj h
      exact absurd hsize (by decide)
    next =>
      obtain rfl := Except.error.inj h
      have htoNat : (UInt64.ofNat (startingInputLength format)).toNat =
          startingInputLength format := by cases format <;> rfl
      rwa [htoNat]
  next =>
    split at h
    next =>
      split at h
      next =>
        split at h
        next hlt =>
          obtain rfl := Except.error.inj h
          exact hlt
        next => cases h
      next =>
        obtain rfl := Except.error.inj h
        exact absurd hsize (by decide)
    next =>
      split at h
      next hlt =>
        obtain rfl := Except.error.inj h
        exact hlt
      next =>
        rw [frameHeaderFields] at h
        dsimp only at h
        split at h
        next =>
          obtain rfl := Except.error.inj h
          exact absurd hsize (by decide)
        next =>
          split at h
          next =>
            obtain rfl := Except.error.inj h
            exact absurd hsize (by decide)
          next => cases h

/-! ### Turns -/

/-- What is kept by a turn, and what goes down where there is more work. -/
structure DStreamVars.Advances (v v' : DStreamVars E) (more : Bool) : Prop where
  collects : v'.zds.Collects
  work : more = true → v'.work < v.work

lemma le_work (v : DStreamVars E) : 2 * v.src.length ≤ v.work := by
  rw [DStreamVars.work]
  omega

lemma decompressContinueStream_inPos (h : d.decompressContinueStream zds src = .ok zds') :
    zds'.inPos = zds.inPos ∧ zds'.streamStage ≠ .load := by
  rw [BlockDecoder.decompressContinueStream] at h
  dsimp only at h
  split at h
  next => cases h
  next =>
    split at h
    all_goals
      obtain rfl := Except.ok.inj h
      exact ⟨rfl, fun hcontra => by cases hcontra⟩

lemma advances_loadStage (hlt : v.zds.inPos < v.zds.expected) (hstage : v.zds.streamStage = .load)
    (h : d.loadStage v = .ok (v', more)) : v.Advances v' more := by
  rw [BlockDecoder.loadStage] at h
  dsimp only at h
  split at h
  next => cases h
  next =>
    split at h
    next hshort =>
      obtain ⟨rfl, rfl⟩ := Prod.mk.inj (Except.ok.inj h)
      refine ⟨?_, fun hcontra => by cases hcontra⟩
      rw [DStream.Collects, if_pos hstage]
      dsimp only
      omega
    next hall =>
      split at h
      next => cases h
      next zds' hcontinue =>
        obtain ⟨rfl, rfl⟩ := Prod.mk.inj (Except.ok.inj h)
        obtain ⟨hin, hload⟩ := decompressContinueStream_inPos hcontinue
        refine ⟨collects_of_inPos hload hin, fun _ => DStreamVars.work_lt_of_length_lt ?_⟩
        dsimp only
        rw [List.length_drop]
        omega

lemma advances_readStage (hin : v.zds.inPos = 0) (hstage : v.zds.streamStage = .read)
    (h : d.readStage v = .ok (v', more)) : v.Advances v' more := by
  have hpos : v.zds.nextSrcSizeToDecompressWithInputSize v.src.length = v.zds.expected ∨
      (1 ≤ v.zds.nextSrcSizeToDecompressWithInputSize v.src.length ∧
        v.zds.nextSrcSizeToDecompressWithInputSize v.src.length ≤ max 1 v.src.length) := by
    rw [DFrame.nextSrcSizeToDecompressWithInputSize]
    split
    next => exact .inl rfl
    next =>
      split
      next => exact .inl rfl
      next => exact .inr (by omega)
  rw [BlockDecoder.readStage] at h
  dsimp only at h
  generalize v.zds.nextSrcSizeToDecompressWithInputSize v.src.length = neededInSize at h hpos
  split at h
  next =>
    obtain ⟨rfl, rfl⟩ := Prod.mk.inj (Except.ok.inj h)
    exact ⟨collects_of_inPos (fun hcontra => by cases hcontra) hin, fun hcontra => by cases hcontra⟩
  next hne =>
    split at h
    next hle =>
      split at h
      next => cases h
      next zds' hcontinue =>
        obtain ⟨rfl, rfl⟩ := Prod.mk.inj (Except.ok.inj h)
        obtain ⟨hin', hload⟩ := decompressContinueStream_inPos hcontinue
        refine ⟨collects_of_inPos hload (hin'.trans hin),
          fun _ => DStreamVars.work_lt_of_length_lt ?_⟩
        dsimp only
        rw [List.length_drop]
        omega
    next hgt =>
      split at h
      next =>
        obtain ⟨rfl, rfl⟩ := Prod.mk.inj (Except.ok.inj h)
        refine ⟨collects_of_inPos ?_ hin, fun hcontra => by cases hcontra⟩
        rw [hstage]
        decide
      next hnil =>
        -- what is there is collected: it is not all of the block
        have hlen := List.length_pos_iff.mpr hnil
        have hlt : v.zds.inPos < v.zds.expected := by omega
        have hadvances := advances_loadStage (v := { v with zds := { v.zds with
          streamStage := .load } }) hlt rfl h
        refine ⟨hadvances.collects, fun hmore => ?_⟩
        have hwork : v'.work < 2 * v.src.length := hadvances.work hmore
        exact Nat.lt_of_lt_of_le hwork (le_work v)

lemma advances_flush (h : v.zds.Collects) (hstage : v.zds.streamStage = .flush) :
    v.Advances v.flush.1 v.flush.2 := by
  have hin := h.inPos (by rw [hstage]; decide)
  rw [DStreamVars.flush]
  dsimp only
  split
  next =>
    refine ⟨collects_of_inPos ?_ hin, fun hcontra => by cases hcontra⟩
    show v.zds.streamStage ≠ .load
    rw [hstage]
    decide
  next =>
    split
    all_goals
      exact ⟨collects_of_inPos (fun hcontra => by cases hcontra) hin, fun _ =>
        DStreamVars.work_lt_of_flush hstage (fun hcontra => by cases hcontra) rfl⟩

lemma limitMemory_inPos (h : zds.limitMemory = .ok zds') : zds'.inPos = zds.inPos := by
  have hresize : ∀ zds : DStream E, zds.resizeBuffers.inPos = zds.inPos := by
    intro zds
    obtain ⟨_, _, _, heq, -⟩ := zds.resizeBuffers_eq
    rw [heq]
  rw [DStream.limitMemory] at h
  dsimp only at h
  split at h
  next => cases h
  next =>
    obtain rfl := Except.ok.inj h
    exact hresize _

lemma consumeHeader_inPos {fParams : FrameHeader} (h : d.consumeHeader zds fParams = .ok zds') :
    zds'.inPos = zds.inPos := by
  rw [BlockDecoder.consumeHeader] at h
  dsimp only at h
  split at h
  next =>
    have hin := limitMemory_inPos h
    exact hin
  next =>
    split at h
    next => cases h
    next =>
      have hin := limitMemory_inPos h
      exact hin

lemma advances_loadHeaderStage (hin : v.zds.inPos = 0) (hstage : v.zds.streamStage = .loadHeader)
    (h : d.loadHeaderStage istart v = .ok (v', more)) : v.Advances v' more := by
  have hnot : v.zds.streamStage ≠ .load := by
    rw [hstage]
    decide
  rw [BlockDecoder.loadHeaderStage] at h
  split at h
  next hSize herror =>
    split at h
    next => cases h
    next hsize =>
      have hlt := length_lt_of_getFrameHeaderAdvanced herror (Bool.not_eq_true _ ▸ hsize)
      rw [DStreamVars.loadMore] at h
      dsimp only at h
      split at h
      next hall =>
        obtain ⟨rfl, rfl⟩ := Prod.mk.inj (Except.ok.inj h)
        refine ⟨collects_of_inPos hnot hin, fun _ => DStreamVars.work_lt_of_length_lt ?_⟩
        rw [List.length_append, List.length_take] at hall
        dsimp only
        rw [List.length_drop]
        omega
      next =>
        split at h <;>
          obtain ⟨rfl, rfl⟩ := Prod.mk.inj (Except.ok.inj h) <;>
          exact ⟨collects_of_inPos hnot hin, fun hcontra => by cases hcontra⟩
  next =>
    split at h
    next =>
      split at h
      next => cases h
      next =>
        obtain ⟨rfl, rfl⟩ := Prod.mk.inj (Except.ok.inj h)
        exact ⟨collects_of_inPos (fun hcontra => by cases hcontra) hin,
          fun hcontra => by cases hcontra⟩
    next =>
      split at h
      next => cases h
      next zds' hheader =>
        have hadvances := advances_readStage (v := { v with zds := { zds' with
          streamStage := .read } }) ((consumeHeader_inPos hheader).trans hin) rfl h
        refine ⟨hadvances.collects, fun hmore => ?_⟩
        have hwork : v'.work < 2 * v.src.length := hadvances.work hmore
        exact Nat.lt_of_lt_of_le hwork (le_work v)

/-- The step lemma. -/
lemma DStream.Collects.decompressTurn (hv : v.zds.Collects)
    (h : d.decompressTurn istart v = .ok (v', more)) : v.Advances v' more := by
  rw [BlockDecoder.decompressTurn] at h
  split at h
  next hstage =>
    have hadvances := advances_loadHeaderStage (v := { v with zds := v.zds.initStream }) rfl rfl h
    refine ⟨hadvances.collects, fun hmore => ?_⟩
    have hwork : v'.work < 2 * v.src.length := hadvances.work hmore
    exact Nat.lt_of_lt_of_le hwork (le_work v)
  next hstage =>
    exact advances_loadHeaderStage (hv.inPos (by rw [hstage]; decide)) hstage h
  next hstage => exact advances_readStage (hv.inPos (by rw [hstage]; decide)) hstage h
  next hstage =>
    rw [DStream.Collects, if_pos hstage] at hv
    exact advances_loadStage hv hstage h
  next hstage =>
    obtain ⟨rfl, rfl⟩ := Prod.mk.inj (Except.ok.inj h)
    exact advances_flush hv hstage

/-! ### Sessions -/

lemma DStream.Collects.reply (h : zds.Collects) (consumed inputSize : Nat)
    (produced : List UInt8) : (zds.reply consumed inputSize produced).state.Collects := by
  rw [DStream.reply]
  split
  next => exact h
  next hnone =>
    split
    next =>
      split
      next =>
        split
        next =>
          refine collects_of_inPos (fun hcontra => by cases hcontra) ?_
          rw [DStream.Collects] at h
          split at h
          next => omega
          next => exact h
        next => exact h
      next => exact h
    next =>
      split
      next => exact h
      next => exact h

lemma DStream.Collects.finish (h : v.zds.Collects) (istart : List UInt8) :
    (v.finish istart).state.Collects := by
  have hcounted : ∀ n, ({ v.zds with noForwardProgress := n } : DStream E).Collects := fun _ => h
  rw [DStreamVars.finish]
  split
  next => exact h
  next =>
    split
    next =>
      dsimp only
      split
      next => exact h
      next =>
        split
        next => exact h
        next => exact (hcounted _).reply _ _ _
    next => exact (hcounted 0).reply _ _ _

lemma collects_of_session {cs : List (Call (DStream E) Unit)}
    (h : d.streamCodec.Session (d.createDStream dctx maxWindowSize) cs zds) : zds.Collects := by
  induction h with
  | start => exact collects_of_inPos (fun hcontra => by cases hcontra) rfl
  | @call cs zds h op output input hout hin ih =>
    show (d.decompressStream zds output input).state.Collects
    rw [BlockDecoder.decompressStream, if_neg (Nat.not_lt.mpr hin), if_neg (Nat.not_lt.mpr hout)]
    dsimp only
    split
    next => exact ih
    next v hrun =>
      obtain ⟨_, -, -, hcollects⟩ := turns_keeps (P := fun v : DStreamVars E => v.zds.Collects)
        (fun s s' more hs hturn => (hs.decompressTurn hturn).collects) ih hrun
      exact hcollects.finish _

/-- Whatever has been read, as long as no call has failed, the loop of the next call ends by itself:
it does not matter how many turns it is allowed. -/
theorem decompressStream_ends {cs : List (Call (DStream E) Unit)}
    (h : d.streamCodec.Session (d.createDStream dctx maxWindowSize) cs zds) (_ : NoErrors cs)
    (output : OutBuffer) (input : InBuffer) (stuck : UInt64) (n : Nat)
    (hn : (zds.vars output input).work < n) :
    turns stuck (d.decompressTurn input.window) n (zds.vars output input) =
      turns (0 - 1) (d.decompressTurn input.window) ((zds.vars output input).work + 2)
        (zds.vars output input) := by
  have hcollects : (zds.vars output input).zds.Collects := collects_of_session h
  exact turns_eq_turns (P := fun v : DStreamVars E => v.zds.Collects) (fun s s' more hs hturn =>
    ⟨(hs.decompressTurn hturn).collects, (hs.decompressTurn hturn).work⟩) hcollects hn
    (Nat.lt_add_of_pos_right Nat.two_pos)

/-- A call with three bytes that are no frame. -/
theorem decompressStream_ends_three :
    let output := (newStreamContext 20 16).output
    let input := (newStreamContext 20 16).input.stage [1, 2, 3]
    let v := secondCall.reply.state.vars output input
    turns 7 (noDecode.decompressTurn input.window) 100 v =
      turns (0 - 1) (noDecode.decompressTurn input.window) (v.work + 2) v := by
  intro output input v
  exact decompressStream_ends session_three noErrors_three output input 7 100 (by decide +kernel)

end VZstd
