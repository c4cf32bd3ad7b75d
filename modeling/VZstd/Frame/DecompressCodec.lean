import VZstd.Frame.DecompressStream

/-!
# `ZSTD_decompressStream` as a codec

In whatever state it is called, it reads no more than it is given, and puts no more than there is
room for.
-/

namespace VZstd

open Memory Reader Turns

variable {E : Type} {d : BlockDecoder E} {dctx : DCtx} {dstCapacity : Nat}
  {src x istart : List UInt8} {v v' : DStreamVars E} {more : Bool}

/-- The contents of all frames fit. -/
lemma length_decompressMultiFrame_le (h : d.decompressMultiFrame dctx dstCapacity src = .ok x) :
    x.length ≤ dstCapacity := by
  obtain ⟨s, hs, rfl⟩ := decompressMultiFrame_eq_ok.mp h
  have hall := readAll_keeps (P := fun (s : MultiFrame) _ => s.out.length ≤ dstCapacity) (fun s src
      t rest hle _ hread => by
    rw [readFrame_eq_ok] at hread
    split at hread
    next =>
      obtain ⟨_, _, rfl, _⟩ := hread
      exact hle
    next =>
      obtain ⟨y, hy, rfl⟩ := hread
      have hroom := length_decompressFrame_le hy
      rw [List.length_append]
      omega) (Nat.zero_le _) hs
  exact hall.1

/-- A turn leaves the room that it does not fill. -/
def DStreamVars.Fills (v v' : DStreamVars E) : Prop :=
  v'.out.length + v'.room = v.out.length + v.room

lemma fills_loadStage (h : d.loadStage v = .ok (v', more)) : v.Fills v' := by
  rw [BlockDecoder.loadStage] at h
  dsimp only at h
  split at h
  next => cases h
  next =>
    split at h
    next =>
      obtain ⟨rfl, -⟩ := Prod.mk.inj (Except.ok.inj h)
      rfl
    next =>
      split at h
      next => cases h
      next =>
        obtain ⟨rfl, -⟩ := Prod.mk.inj (Except.ok.inj h)
        rfl

lemma fills_readStage (h : d.readStage v = .ok (v', more)) : v.Fills v' := by
  rw [BlockDecoder.readStage] at h
  dsimp only at h
  split at h
  next =>
    obtain ⟨rfl, -⟩ := Prod.mk.inj (Except.ok.inj h)
    rfl
  next =>
    split at h
    next =>
      split at h
      next => cases h
      next =>
        obtain ⟨rfl, -⟩ := Prod.mk.inj (Except.ok.inj h)
        rfl
    next =>
      split at h
      next =>
        obtain ⟨rfl, -⟩ := Prod.mk.inj (Except.ok.inj h)
        rfl
      next =>
        have hfills := fills_loadStage h
        exact hfills

lemma fills_flush (v : DStreamVars E) : v.Fills v.flush.1 := by
  have hle : min (v.zds.outEnd - v.zds.outStart) v.room ≤ v.room := Nat.min_le_right _ _
  rw [DStreamVars.Fills, DStreamVars.flush]
  dsimp only
  split
  next =>
    simp only [DStreamVars.put, List.length_append, slice_length]
    omega
  next =>
    split
    all_goals
      simp only [DStreamVars.put, List.length_append, slice_length]
      omega

lemma fills_loadHeaderStage (h : d.loadHeaderStage istart v = .ok (v', more)) : v.Fills v' := by
  rw [BlockDecoder.loadHeaderStage] at h
  split at h
  next hSize _ =>
    split at h
    next => cases h
    next =>
      rw [DStreamVars.loadMore] at h
      dsimp only at h
      split at h
      next =>
        obtain ⟨rfl, -⟩ := Prod.mk.inj (Except.ok.inj h)
        rfl
      next =>
        split at h <;>
          obtain ⟨rfl, -⟩ := Prod.mk.inj (Except.ok.inj h) <;> rfl
  next =>
    split at h
    next cSize _ =>
      split at h
      next => cases h
      next x hx =>
        obtain ⟨rfl, -⟩ := Prod.mk.inj (Except.ok.inj h)
        have hle := length_decompressMultiFrame_le hx
        simp only [DStreamVars.Fills, DStreamVars.put, List.length_append]
        omega
    next =>
      split at h
      next => cases h
      next =>
        have hfills := fills_readStage h
        exact hfills

/-- The step lemma. -/
lemma fills_decompressTurn (h : d.decompressTurn istart v = .ok (v', more)) : v.Fills v' := by
  rw [BlockDecoder.decompressTurn] at h
  split at h
  next =>
    have hfills := fills_loadHeaderStage h
    exact hfills
  next => exact fills_loadHeaderStage h
  next => exact fills_readStage h
  next => exact fills_loadStage h
  next =>
    obtain rfl : v.flush.1 = v' := (Prod.mk.inj (Except.ok.inj h)).1
    exact fills_flush v

/-- What a call says that it has read and put. -/
lemma DStreamVars.finish_le (v : DStreamVars E) (istart : List UInt8) :
    (v.finish istart).consumed ≤ istart.length ∧
      (v.finish istart).produced.length ≤ v.out.length := by
  have hreply : ∀ (zds : DStream E) (consumed : Nat), consumed ≤ istart.length →
      (zds.reply consumed istart.length v.out).consumed ≤ istart.length ∧
        (zds.reply consumed istart.length v.out).produced.length ≤ v.out.length := by
    intro zds consumed hle
    rw [DStream.reply]
    split
    next => exact ⟨hle, Nat.le_refl _⟩
    next =>
      split
      next =>
        split
        next =>
          split
          next => exact ⟨hle, Nat.le_refl _⟩
          next hlt => exact ⟨Nat.not_le.mp hlt, Nat.le_refl _⟩
        next => exact ⟨hle, Nat.le_refl _⟩
      next =>
        split
        next => exact ⟨hle, Nat.le_refl _⟩
        next => exact ⟨(Nat.sub_le _ _).trans hle, Nat.le_refl _⟩
  rw [DStreamVars.finish]
  split
  next => exact ⟨Nat.sub_le _ _, Nat.le_refl _⟩
  next =>
    split
    next =>
      dsimp only
      split
      next => exact ⟨Nat.zero_le _, Nat.zero_le _⟩
      next =>
        split
        next => exact ⟨Nat.zero_le _, Nat.zero_le _⟩
        next => exact hreply _ _ (Nat.zero_le _)
    next => exact hreply _ _ (Nat.sub_le _ _)

/-- `ZSTD_decompressStream` as the codec of a decompression stream. -/
def BlockDecoder.streamCodec (d : BlockDecoder E) : Codec (DStream E) Unit where
  call zds _ output input := d.decompressStream zds output input
  consumed_le zds _ output input := by
    have hwindow := input.window_length
    rw [BlockDecoder.decompressStream]
    split
    next => exact Nat.zero_le _
    next =>
      split
      next => exact Nat.zero_le _
      next =>
        dsimp only
        split
        next => exact Nat.zero_le _
        next v _ => exact (v.finish_le input.window).1.trans hwindow.le
  produced_le zds _ output input := by
    rw [BlockDecoder.decompressStream]
    split
    next => exact Nat.zero_le _
    next =>
      split
      next => exact Nat.zero_le _
      next =>
        dsimp only
        split
        next => exact Nat.zero_le _
        next v hrun =>
          obtain ⟨_, -, -, hfills⟩ := turns_keeps (P := fun v : DStreamVars E =>
            v.out.length + v.room = output.room) (fun s s' more hs hturn =>
              (fills_decompressTurn hturn).trans hs) (Nat.zero_add _) hrun
          have hle := (v.finish_le input.window).2
          show _ ≤ output.room
          omega

end VZstd
