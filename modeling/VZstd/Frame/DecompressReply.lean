import VZstd.Frame.DecompressCodec
import VZstd.Frame.DecompressOpen

/-!
# What a call of a decompression stream answers

The end of a call. A frame that has been read to its end is held back by its last byte as long as
some of its content is in the output buffer.
-/

namespace VZstd

open Memory Turns

variable {E : Type} {d : BlockDecoder E} {zds zds' : DStream E} {v v' : DStreamVars E}
  {fParams : FrameHeader} {header body x y z bytes cur tail istart window : List UInt8}

/-- No frame has begun. -/
structure DStream.Closed (zds : DStream E) : Prop extends zds.Bounded where
  start : zds.streamStage = .init ∨ zds.AtHeader ∧ zds.headerBuffer = []

/-- A frame has begun: `cur` is what is to be read of it, and `z` is what is to be put. -/
inductive BlockDecoder.Underway (d : BlockDecoder E) (zds : DStream E) (header : List UInt8)
    (fParams : FrameHeader) (body : List UInt8) : (cur z : List UInt8) → Prop
  | opening {cur z : List UInt8} (hne : cur ≠ [])
      (hcut : zds.headerBuffer.length < header.length)
      (h : d.Opening zds header fParams body cur z) : Underway d zds header fParams body cur z
  | going {cur z : List UInt8} (hne : cur ≠ []) (hlen : cur.length ≤ body.length)
      (hb : zds.Bounded) (hinit : zds.streamStage ≠ .init) (hhostage : zds.hostageByte = false)
      (h : d.Stands zds cur z) : Underway d zds header fParams body cur z
  /-- The last byte is read, but it is said that it is not. -/
  | held {z : List UInt8} (b : UInt8) (hb : zds.Bounded) (hinit : zds.streamStage ≠ .init)
      (hhostage : zds.hostageByte = true) (h : d.Stands zds [] z) :
      Underway d zds header fParams body [b] z

/-- A call on a frame that has begun: some of it has been read, and some of its content has been
put. The result is 0 where all of it has; else all of the input has been read, or the room is used
up. -/
structure BlockDecoder.Answers (d : BlockDecoder E) (zds : DStream E) (header : List UInt8)
    (fParams : FrameHeader) (body window : List UInt8) (room : Nat) (cur z : List UInt8)
    (r : Reply (DStream E)) : Prop where
  toDCtx : r.state.toDCtx = zds.toDCtx
  maxWindowSize : r.state.maxWindowSize = zds.maxWindowSize
  noError : isError r.ret = false
  parts : ∃ cur' z', cur = window.take r.consumed ++ cur' ∧ z = r.produced ++ z' ∧
    (r.ret ≠ 0 ∧ d.Underway r.state header fParams body cur' z' ∧
        (r.consumed = window.length ∨ r.produced.length = room ∧ z' ≠ []) ∨
      r.ret = 0 ∧ r.state.Closed ∧ cur' = [] ∧ z' = [])

lemma BlockDecoder.Stands.keep (h : d.Stands zds y z) (hostageByte : Bool)
    (noForwardProgress : Nat) :
    d.Stands { zds with
      hostageByte := hostageByte, noForwardProgress := noForwardProgress } y z := by
  cases h with
  | read hstage hin h =>
    exact .read hstage hin ⟨h.toGoing.congr rfl rfl rfl rfl rfl, h.flushed, h.fits⟩
  | load hstage hlt h =>
    exact .load hstage hlt ⟨h.toGoing.congr rfl rfl rfl rfl rfl, h.flushed, h.fits⟩
  | flush hstage hin hle h => exact .flush hstage hin hle (h.congr rfl rfl rfl rfl rfl)
  | ended hstage hin hexpected h =>
    exact .ended hstage hin hexpected ⟨h.toGoing.congr rfl rfl rfl rfl rfl, h.flushed, h.fits⟩

/-- The state of the frame, where more is to be read of it or not. -/
lemma BlockDecoder.Stands.expected_spec (h : d.Stands zds cur z) :
    (zds.expected = 0 ↔ cur = []) ∧ (zds.expected ≠ 0 → zds.inPos < zds.expected) ∧
      zds.expected ≤ 131072 := by
  have hgoing : ∀ {x bytes y : List UInt8}, d.Going zds x bytes y →
      zds.expected ≤ bytes.length ∧ (zds.expected = 0 → bytes = []) ∧ zds.expected ≤ 131072 := by
    intro x bytes y h
    obtain ⟨-, hle, hended, hlimit⟩ := h.ahead.expected_spec
    have hblock := h.blockSizeMax_le
    exact ⟨hle, fun hzero => (hended hzero).2.1, by omega⟩
  have hread : ∀ {x bytes y : List UInt8}, zds.inPos = 0 → d.Going zds x bytes y →
      (zds.expected = 0 ↔ bytes = []) ∧ (zds.expected ≠ 0 → zds.inPos < zds.expected) ∧
        zds.expected ≤ 131072 := by
    intro x bytes y hin h
    obtain ⟨hle, hended, hlimit⟩ := hgoing h
    refine ⟨⟨hended, ?_⟩, fun hne => by omega, hlimit⟩
    rintro rfl
    exact Nat.le_zero.mp hle
  cases h with
  | read _ hin h => exact hread hin h.toGoing
  | load _ hlt h =>
    obtain ⟨hle, -, hlimit⟩ := hgoing h.toGoing
    rw [List.length_append, slice_length] at hle
    refine ⟨⟨fun hzero => absurd hlt (by omega), ?_⟩, fun _ => hlt, hlimit⟩
    rintro rfl
    rw [List.length_nil] at hle
    omega
  | flush _ hin _ h => exact hread hin h
  | ended _ hin _ h => exact hread hin h.toGoing

variable (istart) in
/-- How a call ends where no header is incomplete. -/
lemma DStreamVars.finish_cases (hhint : v.hint = none) :
    (isError (v.finish istart).ret = true ∧ v.src.length = istart.length ∧ v.out = [] ∧
      (v.room = 0 ∨ v.src = [])) ∨
    ∃ n, v.finish istart = ({ v.zds with noForwardProgress := n } : DStream E).reply
      (istart.length - v.src.length) istart.length v.out := by
  rw [DStreamVars.finish, hhint]
  dsimp only
  split
  next hnone =>
    split
    next hfull => exact .inl ⟨(by decide : isError (0 - 80) = true), hnone.1, hnone.2, .inl hfull.2⟩
    next =>
      split
      next hempty =>
        exact .inl ⟨(by decide : isError (0 - 82) = true), hnone.1, hnone.2, .inr hempty.2⟩
      next =>
        refine .inr ⟨v.zds.noForwardProgress + 1, ?_⟩
        rw [hnone.1, Nat.sub_self]
  next => exact .inr ⟨_, rfl⟩

lemma BlockDecoder.Stands.bounded (h : d.Stands zds cur z)
    (hmax : zds.maxWindowSize ≤ 2 ^ windowLogMax) : zds.Bounded := by
  cases h with
  | read _ _ h => exact ⟨hmax, h.outBuffSize⟩
  | load _ _ h => exact ⟨hmax, h.outBuffSize⟩
  | flush _ _ _ h => exact ⟨hmax, h.outBuffSize⟩
  | ended _ _ _ h => exact ⟨hmax, h.outBuffSize⟩

lemma BlockDecoder.Stands.not_loadHeader (h : d.Stands zds cur z) :
    zds.streamStage ≠ .loadHeader := by
  cases h with
  | read hstage => simp [hstage]
  | load hstage => simp [hstage]
  | flush hstage => simp [hstage]
  | ended hstage => simp [hstage]

/-- What is in the output buffer is to be put. -/
lemma BlockDecoder.Stands.ne_nil (h : d.Stands zds cur z) (hne : zds.outStart ≠ zds.outEnd) :
    zds.streamStage = .flush ∧ z ≠ [] := by
  cases h with
  | read _ _ h => exact absurd h.flushed hne
  | load _ _ h => exact absurd h.flushed hne
  | flush hstage _ hle _ =>
    refine ⟨hstage, List.ne_nil_of_length_pos ?_⟩
    rw [List.length_append, slice_length]
    omega
  | ended _ _ _ h => exact absurd h.flushed hne

/-- Where a call stops at the end of a frame, all of the content is put, or the output is full. -/
lemma BlockDecoder.Stands.stops (h : d.Stands v.zds cur z) (hzero : v.zds.expected = 0)
    (hstops : v.Stops) :
    v.zds.streamStage = .init ∧ v.zds.outEnd = v.zds.outStart ∧ z = [] ∨
      v.zds.streamStage ≠ .init ∧ v.zds.outEnd ≠ v.zds.outStart ∧ v.room = 0 ∧ z ≠ [] := by
  rcases hstops with hinit | ⟨hne, -⟩ | ⟨hne, hroom⟩
  · cases h with
    | read hstage => simp [hstage] at hinit
    | load hstage => simp [hstage] at hinit
    | flush hstage => simp [hstage] at hinit
    | ended hstage _ _ h => exact .inl ⟨hstage, h.flushed.symm, rfl⟩
  · exact absurd hzero hne
  · obtain ⟨hstage, hz⟩ := h.ne_nil hne
    exact .inr ⟨by simp [hstage], Ne.symm hne, hroom, hz⟩

/-- The result of a call that stops inside of a frame asks for more. -/
lemma BlockDecoder.Stands.result_spec (h : d.Stands zds cur z) (hne : zds.expected ≠ 0) :
    isError (.ofNat zds.result) = false ∧ UInt64.ofNat zds.result ≠ 0 := by
  obtain ⟨-, hlt, hle⟩ := h.expected_spec
  have hpos := hlt hne
  have hresult : 0 < zds.result ∧ zds.result ≤ 131075 := by
    rw [DStream.result, blockHeaderLength]
    split <;> omega
  have htoNat : (UInt64.ofNat zds.result).toNat = zds.result :=
    UInt64.toNat_ofNat_of_lt' (Nat.lt_of_le_of_lt hresult.2 (by decide))
  refine ⟨?_, fun hzero => ?_⟩
  · rw [← Bool.not_eq_true, isError_iff, htoNat]
    omega
  · rw [hzero] at htoNat
    have hnat : (0 : UInt64).toNat = 0 := rfl
    omega

lemma take_of_passes {taken put : List UInt8} (h : v.Passes v' taken put) :
    v.src.take (v.src.length - v'.src.length) = taken := by
  rw [h.src, List.length_append, Nat.add_sub_cancel, List.take_left]

/-- The end of a call on a frame that is not held back. -/
lemma BlockDecoder.Stands.answers {taken put cur' z' : List UInt8}
    (hstands : d.Stands v'.zds cur' z') (hpasses : v.Passes v' taken put) (hstops : v'.Stops)
    (hout : v.out = []) (hhint : v.hint = none) (hne : taken ++ cur' ≠ [])
    (hlen : cur'.length ≤ body.length) (hmax : v.zds.maxWindowSize ≤ 2 ^ windowLogMax)
    (hhostage : v.zds.hostageByte = false) :
    (isError (v'.finish v.src).ret = true ∧ (v.src = [] ∨ v.room = 0)) ∨
      d.Answers v.zds header fParams body v.src v.room (taken ++ cur') (put ++ z')
        (v'.finish v.src) := by
  have hput : v'.out = put := by rw [hpasses.out, hout, List.nil_append]
  have htake := take_of_passes hpasses
  have hroom := hpasses.room
  have hbounded := hstands.bounded (hpasses.maxWindowSize ▸ hmax)
  obtain ⟨herror, hsrc, hnil, hfull⟩ | ⟨n, hfinish⟩ :=
    DStreamVars.finish_cases v.src (hpasses.hint.trans hhint)
  · refine .inl ⟨herror, ?_⟩
    rw [hput] at hnil
    subst hnil
    rcases hfull with hfull | hfull
    · exact .inr (by rw [hroom, hfull]; rfl)
    · rw [hfull] at hsrc
      exact .inl (List.eq_nil_of_length_eq_zero hsrc.symm)
  · right
    rw [hfinish, DStream.reply, hput]
    dsimp only
    obtain ⟨hended, -, -⟩ := hstands.expected_spec
    by_cases hzero : v'.zds.expected = 0
    · obtain rfl := hended.mp hzero
      rw [if_neg (not_not.mpr hzero), hpasses.hostageByte, hhostage,
        if_neg Bool.false_ne_true, if_neg Bool.false_ne_true]
      obtain ⟨hinit, hflushed, rfl⟩ | ⟨hinit, hpending, hfull, hz⟩ := hstands.stops hzero hstops
      · rw [if_pos hflushed]
        refine ⟨hpasses.toDCtx, hpasses.maxWindowSize, isError_zero, [], [], ?_, rfl,
          .inr ⟨rfl, ⟨⟨hbounded.maxWindowSize, hbounded.outBuffSize⟩, .inl hinit⟩, rfl, rfl⟩⟩
        rw [htake]
      · rw [if_neg hpending]
        rw [List.append_nil] at hne
        obtain ⟨t, b, rfl⟩ : ∃ t b, taken = t ++ [b] :=
          ⟨taken.dropLast, taken.getLast hne, (List.dropLast_append_getLast hne).symm⟩
        have ht : v.src.take (v.src.length - v'.src.length - 1) = t := by
          rw [hpasses.src, List.length_append, Nat.add_sub_cancel, List.length_append,
            List.length_singleton, Nat.add_sub_cancel, List.append_assoc, List.take_left]
        refine ⟨hpasses.toDCtx, hpasses.maxWindowSize, (by decide : isError 1 = false), [b], z', ?_,
          rfl, .inl ⟨(by decide : (1 : UInt64) ≠ 0), .held b ⟨hbounded.maxWindowSize,
            hbounded.outBuffSize⟩ hinit rfl (hstands.keep true n), .inr ⟨?_, hz⟩⟩⟩
        · rw [ht, List.append_nil]
        · rw [hroom, hfull, Nat.zero_add]
    · rw [if_pos hzero]
      have hcur : cur' ≠ [] := fun hnil => hzero (hended.mpr hnil)
      have hinit : v'.zds.streamStage ≠ .init := by
        intro hstage
        cases hstands with
        | read h => simp [h] at hstage
        | load h => simp [h] at hstage
        | flush h => simp [h] at hstage
        | ended _ _ h => exact hzero h
      have hall : v.src.length - v'.src.length = v.src.length ∨
          put.length = v.room ∧ z' ≠ [] := by
        rcases hstops with hstage | ⟨-, hnil⟩ | ⟨hpending, hfull⟩
        · exact absurd hstage hinit
        · rw [hnil, List.length_nil, Nat.sub_zero]
          exact .inl rfl
        · rw [hroom, hfull, Nat.zero_add]
          exact .inr ⟨rfl, (hstands.ne_nil hpending).2⟩
      obtain ⟨hok, hret⟩ := hstands.result_spec hzero
      refine ⟨hpasses.toDCtx, hpasses.maxWindowSize, hok, cur', z', ?_, rfl,
        .inl ⟨hret, .going hcur hlen ⟨hbounded.maxWindowSize, hbounded.outBuffSize⟩ hinit
          (hpasses.hostageByte.trans hhostage) (hstands.keep _ n), hall⟩⟩
      rw [htake]

/-- The end of a frame is looked for again. -/
lemma BlockDecoder.Stands.readAgain (h : d.Stands zds [] z) (hinit : zds.streamStage = .init)
    (hostageByte : Bool) (noForwardProgress : Nat) :
    d.Stands { zds with
      streamStage := .read
      hostageByte := hostageByte
      noForwardProgress := noForwardProgress } [] z := by
  generalize hcur : ([] : List UInt8) = cur at h
  cases h with
  | read hstage => simp [hstage] at hinit
  | load hstage => simp [hstage] at hinit
  | flush hstage => simp [hstage] at hinit
  | ended _ hin _ h =>
    exact .read rfl hin ⟨h.toGoing.congr rfl rfl rfl rfl rfl, h.flushed, h.fits⟩

/-- The end of a call on a frame of which the last byte is held back. -/
lemma BlockDecoder.Runs.answers_held {b : UInt8} (h : d.Runs v v' [] z) (hout : v.out = [])
    (hhint : v.hint = none) (hmax : v.zds.maxWindowSize ≤ 2 ^ windowLogMax)
    (hhostage : v.zds.hostageByte = true) (hsrc : v.src <+: [b] ++ tail) :
    (isError (v'.finish v.src).ret = true ∧ (v.src = [] ∨ v.room = 0)) ∨
      d.Answers v.zds header fParams body v.src v.room [b] z (v'.finish v.src) := by
  obtain ⟨taken, put, cur', z', hcur, rfl, hpasses, hstands, hstops⟩ := h
  obtain ⟨rfl, rfl⟩ := List.append_eq_nil_iff.mp hcur.symm
  have hput : v'.out = put := by rw [hpasses.out, hout, List.nil_append]
  have hsame : v'.src = v.src := hpasses.src.symm
  have hbounded := hstands.bounded (hpasses.maxWindowSize ▸ hmax)
  have hzero : v'.zds.expected = 0 := hstands.expected_spec.1.mpr rfl
  obtain ⟨herror, hlen, hnil, hfull⟩ | ⟨n, hfinish⟩ :=
    DStreamVars.finish_cases v.src (hpasses.hint.trans hhint)
  · refine .inl ⟨herror, ?_⟩
    rw [hput] at hnil
    subst hnil
    have hroom := hpasses.room
    rcases hfull with hfull | hfull
    · exact .inr (by rw [hroom, hfull]; rfl)
    · exact .inl (hsame ▸ hfull)
  · right
    rw [hfinish, DStream.reply, hput, hsame]
    dsimp only
    rw [Nat.sub_self, if_neg (not_not.mpr hzero), hpasses.hostageByte, hhostage, if_pos rfl,
      if_pos rfl]
    obtain ⟨hinit, hflushed, rfl⟩ | ⟨hinit, hpending, hfull, hz⟩ := hstands.stops hzero hstops
    · rw [if_pos hflushed]
      by_cases hempty : v.src.length ≤ 0
      · rw [if_pos hempty]
        refine ⟨hpasses.toDCtx, hpasses.maxWindowSize, (by decide : isError 1 = false), [b], [],
          rfl, rfl, .inl ⟨(by decide : (1 : UInt64) ≠ 0), .held b ⟨hbounded.maxWindowSize,
            hbounded.outBuffSize⟩ (by simp) rfl (hstands.readAgain hinit true n),
          .inl (Nat.le_zero.mp hempty).symm⟩⟩
      · rw [if_neg hempty]
        have hfirst : [b] = v.src.take 1 := by
          cases hv : v.src with
          | nil => simp [hv] at hempty
          | cons c cs =>
            rw [hv, List.singleton_append, List.cons_prefix_cons] at hsrc
            rw [List.take_succ_cons, List.take_zero, hsrc.1]
        exact ⟨hpasses.toDCtx, hpasses.maxWindowSize, isError_zero, [], [],
          hfirst.trans (List.append_nil _).symm, rfl,
          .inr ⟨rfl, ⟨⟨hbounded.maxWindowSize, hbounded.outBuffSize⟩, .inl hinit⟩, rfl, rfl⟩⟩
    · rw [if_neg hpending]
      refine ⟨hpasses.toDCtx, hpasses.maxWindowSize, (by decide : isError 1 = false), [b], z', rfl,
        rfl, .inl ⟨(by decide : (1 : UInt64) ≠ 0), .held b ⟨hbounded.maxWindowSize,
          hbounded.outBuffSize⟩ hinit rfl (hstands.keep true n), .inr ⟨?_, hz⟩⟩⟩
      rw [hpasses.room, hfull, Nat.zero_add]

/-- The end of a call that has begun in a header. -/
lemma BlockDecoder.Opens.answers (h : d.Opens v v' header fParams body cur z) (hout : v.out = [])
    (hhint : v.hint = none) (hne : cur ≠ []) (hmax : v.zds.maxWindowSize ≤ 2 ^ windowLogMax) :
    (isError (v'.finish v.src).ret = true ∧ (v.src = [] ∨ v.room = 0)) ∨
      d.Answers v.zds header fParams body v.src v.room cur z (v'.finish v.src) := by
  cases h with
  | runs hhostage hbytes hy hpasses hstands hstops hlen =>
    subst hbytes hy
    exact hstands.answers hpasses hstops hout hhint hne hlen hmax hhostage
  | single hstage hexpected hflushed hhostage hb hpasses =>
    have hput : v'.out = z := by rw [hpasses.out, hout, List.nil_append]
    have htake := take_of_passes hpasses
    obtain ⟨herror, hsrc, -, -⟩ | ⟨n, hfinish⟩ :=
      DStreamVars.finish_cases v.src (hpasses.hint.trans hhint)
    · rw [hpasses.src, List.length_append] at hsrc
      have hpos := List.length_pos_iff.mpr hne
      omega
    · right
      rw [hfinish, DStream.reply, hput]
      dsimp only
      rw [if_neg (not_not.mpr hexpected), if_pos hflushed.symm, hhostage,
        if_neg Bool.false_ne_true]
      refine ⟨hpasses.toDCtx, hpasses.maxWindowSize, isError_zero, [], [], ?_,
        (List.append_nil _).symm, .inr ⟨rfl, ⟨⟨hb.maxWindowSize, hb.outBuffSize⟩, .inl hstage⟩,
          rfl, rfl⟩⟩
      rw [htake, List.append_nil]
  | @starved bytes' hint hpos hlt hhint' hsrc hout' hdctx hwindow hbytes hne' hcut h =>
    right
    rw [DStreamVars.finish, hhint']
    dsimp only
    have htoNat : (UInt64.ofNat hint).toNat = hint :=
      UInt64.toNat_ofNat_of_lt' (hlt.trans (by decide))
    refine ⟨hdctx, hwindow, ?_, bytes', z, ?_, ?_, .inl ⟨?_, .opening hne' hcut h, .inl ?_⟩⟩
    · rw [← Bool.not_eq_true, isError_iff, htoNat]
      omega
    · rw [hsrc, List.length_nil, Nat.sub_zero, List.take_length]
      exact hbytes
    · rw [hout', hout]
      rfl
    · intro hzero
      have hnat := congrArg UInt64.toNat hzero
      rw [htoNat] at hnat
      exact hpos.ne' hnat
    · rw [hsrc, List.length_nil, Nat.sub_zero]

end VZstd
