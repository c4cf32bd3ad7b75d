import VZstd.Frame.DecompressRing

/-!
# The turns of a decompression stream

Inside of a frame, each turn of `ZSTD_decompressStream` reads what comes next of the frame and puts
what comes next of its content, however both are cut into pieces.
-/

namespace VZstd

open Memory Turns

variable {E : Type} {d : BlockDecoder E} {zds zds' : DStream E} {v v' v'' : DStreamVars E}
  {x y z bytes rest src tail taken taken' put put' istart : List UInt8}

/-- What was read and put on the way from `v` to `v'`. -/
structure DStreamVars.Passes (v v' : DStreamVars E) (taken put : List UInt8) : Prop where
  src : v.src = taken ++ v'.src
  out : v'.out = v.out ++ put
  room : v.room = v'.room + put.length
  toDCtx : v'.zds.toDCtx = v.zds.toDCtx
  maxWindowSize : v'.zds.maxWindowSize = v.zds.maxWindowSize
  hostageByte : v'.zds.hostageByte = v.zds.hostageByte
  hint : v'.hint = v.hint

lemma DStreamVars.Passes.refl (v : DStreamVars E) : v.Passes v [] [] :=
  ⟨rfl, (List.append_nil _).symm, rfl, rfl, rfl, rfl, rfl⟩

lemma DStreamVars.Passes.trans (h : v.Passes v' taken put) (h' : v'.Passes v'' taken' put') :
    v.Passes v'' (taken ++ taken') (put ++ put') where
  src := by rw [h.src, h'.src, List.append_assoc]
  out := by rw [h'.out, h.out, List.append_assoc]
  room := by
    rw [h.room, h'.room, List.length_append]
    omega
  toDCtx := h'.toDCtx.trans h.toDCtx
  maxWindowSize := h'.maxWindowSize.trans h.maxWindowSize
  hostageByte := h'.hostageByte.trans h.hostageByte
  hint := h'.hint.trans h.hint

/-- Why a call stops: the frame has ended, the input is exhausted, or the output is full. -/
def DStreamVars.Stops (v : DStreamVars E) : Prop :=
  v.zds.streamStage = .init ∨ v.zds.expected ≠ 0 ∧ v.src = [] ∨
    v.zds.outStart ≠ v.zds.outEnd ∧ v.room = 0

/-- A turn where `bytes` are to be read and `y` is to be put. -/
def BlockDecoder.Turns (d : BlockDecoder E) (v : DStreamVars E) (bytes y : List UInt8)
    (r : Except UInt64 (DStreamVars E × Bool)) : Prop :=
  ∃ v' more taken put bytes' y', r = .ok (v', more) ∧ bytes = taken ++ bytes' ∧ y = put ++ y' ∧
    v.Passes v' taken put ∧ d.Stands v'.zds bytes' y' ∧
    if more then v'.zds.streamStage ≠ .init ∧ v'.work < v.work else v'.Stops

lemma BlockDecoder.Turns.of_eq {r : Except UInt64 (DStreamVars E × Bool)}
    (h : d.Turns v' bytes y r) (hsrc : v'.src = v.src) (hout : v'.out = v.out)
    (hroom : v'.room = v.room) (hdctx : v'.zds.toDCtx = v.zds.toDCtx)
    (hwindow : v'.zds.maxWindowSize = v.zds.maxWindowSize)
    (hhostage : v'.zds.hostageByte = v.zds.hostageByte)
    (hhint : v'.hint = v.hint) (hwork : v'.work ≤ v.work) : d.Turns v bytes y r := by
  obtain ⟨v'', more, taken, put, bytes', y', hr, hbytes, hy, hpasses, hstands, hmore⟩ := h
  refine ⟨v'', more, taken, put, bytes', y', hr, hbytes, hy, ⟨hsrc ▸ hpasses.src,
    hout ▸ hpasses.out, hroom ▸ hpasses.room, hdctx ▸ hpasses.toDCtx,
    hwindow ▸ hpasses.maxWindowSize, hhostage ▸ hpasses.hostageByte, hhint ▸ hpasses.hint⟩,
    hstands, ?_⟩
  cases more with
  | true => exact ⟨hmore.1, Nat.lt_of_lt_of_le hmore.2 hwork⟩
  | false => exact hmore

/-- What a call can see of a frame. -/
lemma eq_take_append (h : src <+: bytes ++ tail) {n : Nat} (hn : n ≤ src.length)
    (hle : n ≤ bytes.length) : bytes = src.take n ++ bytes.drop n := by
  have htake : src.take n = bytes.take n := by
    obtain ⟨q, hq⟩ := h
    have hsrc : (src ++ q).take n = src.take n := List.take_append_of_le_length hn
    rw [← hsrc, hq, List.take_append_of_le_length hle]
  rw [htake, List.take_append_drop]

lemma prefix_of_append (h : taken ++ src <+: taken ++ bytes ++ tail) : src <+: bytes ++ tail := by
  rw [List.append_assoc] at h
  exact (List.prefix_append_right_inj _).mp h

/-- The state behind a step. -/
lemma BlockDecoder.Ready.steps {x' w : List UInt8} (h : d.Ready zds x bytes y)
    (hin : zds.inPos = 0) (hgoing : d.Going zds' x' rest w) (hsteps : zds.Steps zds' z) :
    d.Stands zds' rest (z ++ w) ∧ zds'.streamStage ≠ .init := by
  have hend := hsteps.outEnd
  rw [← hsteps.outStart] at hend
  rcases hsteps.streamStage with hstage | ⟨hstage, rfl⟩
  · have hlen : zds'.outEnd - zds'.outStart = z.length := by omega
    refine ⟨?_, by simp [hstage]⟩
    rw [← hsteps.pending, ← hlen]
    exact .flush hstage (hsteps.inPos.trans hin) (by omega) hgoing
  · refine ⟨.read hstage (hsteps.inPos.trans hin) ⟨hgoing, hend.symm, ?_⟩, by simp [hstage]⟩
    rw [hsteps.outBuffSize, hsteps.fParams, hsteps.outStart]
    exact h.fits

lemma DStreamVars.work_lt_of_length_lt (h : v'.src.length < v.src.length) : v'.work < v.work := by
  rw [DStreamVars.work, DStreamVars.work]
  split <;> omega

/-- A turn that takes something of the input leaves less work. -/
lemma DStreamVars.work_lt (h : v.src = taken ++ v'.src) (hne : taken ≠ []) :
    v'.work < v.work := by
  have hpos := List.length_pos_iff.mpr hne
  refine DStreamVars.work_lt_of_length_lt ?_
  rw [h, List.length_append]
  omega

/-- And so does one that has flushed. -/
lemma DStreamVars.work_lt_of_flush (hstage : v.zds.streamStage = .flush)
    (hstage' : v'.zds.streamStage ≠ .flush) (hsrc : v'.src = v.src) : v'.work < v.work := by
  rw [DStreamVars.work, DStreamVars.work, if_pos hstage, if_neg hstage', hsrc]
  exact Nat.lt_succ_self _

lemma BlockDecoder.Ready.loadStage
    (h : d.Ready v.zds x (slice v.zds.inBuff 0 v.zds.inPos ++ bytes) y)
    (hstage : v.zds.streamStage = .load) (hlt : v.zds.inPos < v.zds.expected)
    (hsrc : v.src <+: bytes ++ tail) : d.Turns v bytes y (d.loadStage v) := by
  obtain ⟨hskip, hexpected, -, hlimit⟩ := h.ahead.expected_spec
  rw [List.length_append, slice_length] at hexpected
  have hinBuffSize := h.inBuffSize
  have hfits : ¬(v.zds.stage ≠ .skipFrame ∧
      v.zds.inBuffSize - v.zds.inPos < v.zds.expected - v.zds.inPos) := by omega
  generalize hn : min (v.zds.expected - v.zds.inPos) v.src.length = n
  have hbytes : bytes = v.src.take n ++ bytes.drop n := eq_take_append hsrc (by omega) (by omega)
  have htaken : (v.src.take n).length = n := by
    rw [List.length_take]
    omega
  have hloaded : slice (write v.zds.inBuff v.zds.inPos (v.src.take n)) 0 (v.zds.inPos + n) =
      slice v.zds.inBuff 0 v.zds.inPos ++ v.src.take n := by
    have happend := slice_write_append v.zds.inBuff 0 v.zds.inPos (v.src.take n)
    rwa [Nat.zero_add, htaken] at happend
  rw [hbytes, ← List.append_assoc, ← hloaded] at h
  rw [BlockDecoder.loadStage]
  dsimp only
  rw [if_neg hfits, if_neg hskip, hn]
  by_cases hmore : n < v.zds.expected - v.zds.inPos
  · have hall : n = v.src.length := by omega
    rw [if_pos hmore]
    refine ⟨_, false, v.src.take n, [], bytes.drop n, y, rfl, hbytes, rfl,
      ⟨(List.take_append_drop n v.src).symm, (List.append_nil _).symm, rfl, rfl, rfl, rfl, rfl⟩,
      .load hstage ?_ ⟨h.toGoing.congr rfl rfl rfl rfl rfl, h.flushed, h.fits⟩,
      .inr (.inl ⟨?_, ?_⟩)⟩
    · show v.zds.inPos + n < v.zds.expected
      omega
    · show v.zds.expected ≠ 0
      omega
    · show v.src.drop n = []
      rw [hall, List.drop_length]
  · have hall : v.zds.inPos + n = v.zds.expected := by omega
    have hne : v.src.take n ≠ [] := List.ne_nil_of_length_pos (by omega)
    rw [hall] at h hloaded
    have hready : d.Ready { v.zds with
        inBuff := write v.zds.inBuff v.zds.inPos (v.src.take n)
        inPos := 0 } x (slice (write v.zds.inBuff v.zds.inPos (v.src.take n)) 0 v.zds.expected ++
          bytes.drop n) y :=
      ⟨h.toGoing.congr rfl rfl rfl rfl rfl, h.flushed, h.fits⟩
    have hpiece : slice (write v.zds.inBuff v.zds.inPos (v.src.take n)) 0 v.zds.expected ≠ [] :=
      List.ne_nil_of_length_pos (by rw [slice_length]; omega)
    obtain ⟨-, -, -, hnext⟩ := v.zds.toDFrame.next_spec (by omega) 0
    obtain ⟨zds', z, w, hstep, rfl, hgoing, hsteps⟩ := hready.decompressContinueStream hpiece
      (by rw [slice_length]; exact hnext.symm)
    obtain ⟨hstands, hinit⟩ := hready.steps rfl hgoing hsteps
    have hsrc := (List.take_append_drop n v.src).symm
    rw [if_neg hmore, hstep]
    exact ⟨_, true, v.src.take n, [], bytes.drop n, z ++ w, rfl, hbytes, rfl,
      ⟨hsrc, (List.append_nil _).symm, rfl, hsteps.toDCtx, hsteps.maxWindowSize,
        hsteps.hostageByte, rfl⟩, hstands, hinit,
      DStreamVars.work_lt hsrc hne⟩

lemma BlockDecoder.Ready.readStage (h : d.Ready v.zds x bytes y)
    (hstage : v.zds.streamStage = .read) (hin : v.zds.inPos = 0)
    (hsrc : v.src <+: bytes ++ tail) : d.Turns v bytes y (d.readStage v) := by
  obtain ⟨-, hexpected, hended, -⟩ := h.ahead.expected_spec
  rw [BlockDecoder.readStage]
  dsimp only
  by_cases hzero : v.zds.expected = 0
  · obtain ⟨-, rfl, rfl⟩ := hended hzero
    rw [if_pos (h.ahead.next_of_ended hzero _)]
    refine ⟨_, false, [], [], [], [], rfl, rfl, rfl,
      ⟨rfl, (List.append_nil _).symm, rfl, rfl, rfl, rfl, rfl⟩, ?_, .inl rfl⟩
    exact .ended rfl hin hzero ⟨h.toGoing.congr rfl rfl rfl rfl rfl, h.flushed, h.fits⟩
  · obtain ⟨hpos, hle, hagain, -⟩ := v.zds.toDFrame.next_spec hzero v.src.length
    generalize v.zds.nextSrcSizeToDecompressWithInputSize v.src.length = n at hpos hle hagain ⊢
    rw [if_neg hpos.ne']
    by_cases hall : n ≤ v.src.length
    · have hbytes : bytes = v.src.take n ++ bytes.drop n :=
        eq_take_append hsrc hall (hle.trans hexpected)
      have htaken : (v.src.take n).length = n := by
        rw [List.length_take]
        omega
      have hne : v.src.take n ≠ [] := List.ne_nil_of_length_pos (by omega)
      rw [hbytes] at h
      obtain ⟨zds', z, w, hstep, rfl, hgoing, hsteps⟩ := h.decompressContinueStream hne
        (by rw [htaken]; exact hagain.symm)
      obtain ⟨hstands, hinit⟩ := h.steps hin hgoing hsteps
      have hsrc := (List.take_append_drop n v.src).symm
      rw [if_pos hall, hstep]
      exact ⟨_, true, v.src.take n, [], bytes.drop n, z ++ w, rfl, hbytes, rfl,
        ⟨hsrc, (List.append_nil _).symm, rfl, hsteps.toDCtx, hsteps.maxWindowSize,
        hsteps.hostageByte, rfl⟩, hstands, hinit,
        DStreamVars.work_lt hsrc hne⟩
    · rw [if_neg hall]
      split
      next hnil =>
        exact ⟨v, false, [], [], bytes, y, rfl, rfl, rfl, .refl v, .read hstage hin h,
          .inr (.inl ⟨hzero, hnil⟩)⟩
      next =>
        have hready : d.Ready { v.zds with streamStage := .load } x
            (slice v.zds.inBuff 0 v.zds.inPos ++ bytes) y := by
          rw [hin]
          exact ⟨h.toGoing.congr rfl rfl rfl rfl rfl, h.flushed, h.fits⟩
        have hturns := BlockDecoder.Ready.loadStage (d := d) (v := { v with
            zds := { v.zds with streamStage := .load } }) hready rfl
            (by rw [hin]; exact Nat.pos_of_ne_zero hzero) hsrc
        refine hturns.of_eq rfl rfl rfl rfl rfl rfl rfl ?_
        rw [DStreamVars.work, DStreamVars.work]
        simp [hstage]

lemma BlockDecoder.Going.flush (h : d.Going v.zds x bytes y)
    (hstage : v.zds.streamStage = .flush) (hin : v.zds.inPos = 0)
    (hle : v.zds.outStart ≤ v.zds.outEnd) :
    d.Turns v bytes (slice v.zds.outBuff v.zds.outStart (v.zds.outEnd - v.zds.outStart) ++ y)
      (.ok v.flush) := by
  rw [DStreamVars.flush]
  dsimp only
  generalize hn : min (v.zds.outEnd - v.zds.outStart) v.room = n
  have hcut : slice v.zds.outBuff v.zds.outStart (v.zds.outEnd - v.zds.outStart) =
      slice v.zds.outBuff v.zds.outStart n ++
        slice v.zds.outBuff (v.zds.outStart + n) (v.zds.outEnd - (v.zds.outStart + n)) := by
    rw [← slice_add]
    congr 1
    omega
  rw [hcut, List.append_assoc]
  have hroom : v.room = v.room - (slice v.zds.outBuff v.zds.outStart n).length +
      (slice v.zds.outBuff v.zds.outStart n).length := by
    rw [slice_length]
    omega
  by_cases hmore : n ≠ v.zds.outEnd - v.zds.outStart
  · rw [if_pos hmore]
    refine ⟨_, false, [], _, bytes, _, rfl, rfl, rfl, ⟨rfl, rfl, hroom, rfl, rfl, rfl, rfl⟩,
      .flush hstage hin ?_ (h.congr rfl rfl rfl rfl rfl), .inr (.inr ⟨?_, ?_⟩)⟩
    · show v.zds.outStart + n ≤ v.zds.outEnd
      omega
    · show v.zds.outStart + n ≠ v.zds.outEnd
      omega
    · show v.room - (slice v.zds.outBuff v.zds.outStart n).length = 0
      rw [slice_length]
      omega
  · have hall : v.zds.outStart + n = v.zds.outEnd := by omega
    have hnil : slice v.zds.outBuff (v.zds.outStart + n)
        (v.zds.outEnd - (v.zds.outStart + n)) = [] := by
      rw [hall, Nat.sub_self, slice_zero]
    rw [if_neg hmore, hnil, List.nil_append]
    split
    next hrestart =>
      obtain ⟨old, -, hring⟩ := h.ring
      have hwindow := h.windowed hrestart.1
      have hfull : v.zds.outBuffSize < v.zds.outEnd + v.zds.fParams.blockSizeMax.toNat :=
        hall ▸ hrestart.2
      have hle_window : v.zds.fParams.windowSize.toNat ≤ v.zds.outEnd := by omega
      refine ⟨_, true, [], _, bytes, y, rfl, rfl, rfl, ⟨rfl, rfl, hroom, rfl, rfl, rfl, rfl⟩,
        .read rfl hin ⟨⟨h.ahead, h.counts, ⟨v.zds.outEnd, h.outEnd_le,
          hring.restart hle_window (by omega)⟩, h.size, h.blockSizeMax_le, h.inBuffSize,
          Nat.zero_le _, h.outBuffSize, h.windowed, ?_⟩, rfl, ?_⟩, by simp,
          DStreamVars.work_lt_of_flush hstage (by simp) rfl⟩
      · exact fun hge => absurd hrestart.1 (Nat.not_lt.mpr hge)
      · intro _
        show 0 + v.zds.fParams.blockSizeMax.toNat ≤ v.zds.outBuffSize
        omega
    next hrestart =>
      refine ⟨_, true, [], _, bytes, y, rfl, rfl, rfl, ⟨rfl, rfl, hroom, rfl, rfl, rfl, rfl⟩,
        .read rfl hin ⟨h.congr rfl rfl rfl rfl rfl, hall, ?_⟩, by simp,
          DStreamVars.work_lt_of_flush hstage (by simp) rfl⟩
      exact fun hlt => Nat.not_lt.mp fun hcontra => hrestart ⟨hlt, hcontra⟩

/-- The step lemma. -/
lemma BlockDecoder.Stands.turn (h : d.Stands v.zds bytes y) (hinit : v.zds.streamStage ≠ .init)
    (hsrc : v.src <+: bytes ++ tail) : d.Turns v bytes y (d.decompressTurn istart v) := by
  rw [BlockDecoder.decompressTurn]
  cases h with
  | read hstage hin h =>
    rw [hstage]
    exact h.readStage hstage hin hsrc
  | load hstage hlt h =>
    rw [hstage]
    exact h.loadStage hstage hlt hsrc
  | flush hstage hin hle h =>
    rw [hstage]
    exact h.flush hstage hin hle
  | ended hstage => exact absurd hstage hinit

/-- What a call does of a frame, once its header has been read. -/
def BlockDecoder.Runs (d : BlockDecoder E) (v v' : DStreamVars E) (bytes y : List UInt8) : Prop :=
  ∃ taken put bytes' y', bytes = taken ++ bytes' ∧ y = put ++ y' ∧ v.Passes v' taken put ∧
    d.Stands v'.zds bytes' y' ∧ v'.Stops

/-- The run lemma: from a first turn on, the loop ends and does not fail. -/
lemma BlockDecoder.Turns.run {n : Nat}
    (h : d.Turns v bytes y (d.decompressTurn istart v)) (hsrc : v.src <+: bytes ++ tail)
    (hn : v.work < n) :
    ∃ v', turns (0 - 1) (d.decompressTurn istart) n v = .ok v' ∧ d.Runs v v' bytes y := by
  have hturn : ∀ ⦃w : DStreamVars E⦄,
      (∃ taken put bytes' y', bytes = taken ++ bytes' ∧ y = put ++ y' ∧ v.Passes w taken put ∧
        d.Turns w bytes' y' (d.decompressTurn istart w)) →
      ∃ w' more, d.decompressTurn istart w = .ok (w', more) ∧
        if more then (∃ taken put bytes' y', bytes = taken ++ bytes' ∧ y = put ++ y' ∧
            v.Passes w' taken put ∧ d.Turns w' bytes' y' (d.decompressTurn istart w')) ∧
          w'.work < w.work
        else d.Runs v w' bytes y := by
    rintro w ⟨taken, put, bytes', y', hbytes, hy, hpasses, hturns⟩
    obtain ⟨w', more, taken', put', bytes'', y'', hr, hbytes', hy', hpasses', hstands, hmore⟩ :=
      hturns
    have hall := hpasses.trans hpasses'
    rw [hbytes', ← List.append_assoc] at hbytes
    rw [hy', ← List.append_assoc] at hy
    refine ⟨w', more, hr, ?_⟩
    cases more with
    | true =>
      refine ⟨⟨_, _, bytes'', y'', hbytes, hy, hall, ?_⟩, hmore.2⟩
      rw [hall.src, hbytes] at hsrc
      exact hstands.turn hmore.1 (prefix_of_append hsrc)
    | false => exact ⟨_, _, bytes'', y'', hbytes, hy, hall, hstands, hmore⟩
  exact turns_reaches hturn ⟨[], [], bytes, y, rfl, rfl, .refl v, h⟩ hn

end VZstd
