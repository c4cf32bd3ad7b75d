import VZstd.Decoding
import VZstd.Frame.DecompressReply

/-!
# Sessions of a decompression stream

However the frames of a stream are cut into calls, and whatever room each call has, what is put is
the content of what is read.
-/

namespace VZstd

open History Turns

variable {E : Type} {d : BlockDecoder E} {dctx : DCtx} {maxWindowSize : Nat}
  {zds zds' : DStream E} {fParams : FrameHeader} {output : OutBuffer} {input : InBuffer}
  {header body x y z bytes bytes' cur tail p q : List UInt8}

/-! ### Frames -/

/-- One frame that a stream accepts, and its content. -/
def BlockDecoder.IsOneStreamFrame (d : BlockDecoder E) (dctx : DCtx) (maxWindowSize : Nat)
    (bytes x : List UInt8) : Prop :=
  ∃ header fParams body, bytes = header ++ body ∧
    d.IsStreamFrame dctx maxWindowSize header fParams body x

lemma selfDelimiting_isOneStreamFrame (d : BlockDecoder E) (dctx : DCtx) (maxWindowSize : Nat) :
    SelfDelimiting (d.IsOneStreamFrame dctx maxWindowSize) where
  nonempty := by
    rintro x ⟨header, fParams, body, hnil, h⟩
    exact h.header_ne_nil (List.append_eq_nil_iff.mp hnil.symm).1
  unique := by
    rintro _ x _ x' ⟨header, fParams, body, rfl, h⟩ ⟨header', fParams', body', rfl, h'⟩ ⟨rest, heq⟩
    have hread := exact_decompressFrame.append
      (h.decodes (max x.length x'.length) (Nat.le_max_left _ _)) rest
    rw [heq, h'.decodes _ (Nat.le_max_right _ _), List.nil_append] at hread
    obtain ⟨rfl, rfl⟩ := Prod.mk.inj (Except.ok.inj hread)
    exact ⟨(List.append_nil _).symm.trans heq, rfl⟩

/-- Frames one after the other that a stream accepts, none of them skippable, and their content. -/
inductive BlockDecoder.AreStreamFrames (d : BlockDecoder E) (dctx : DCtx) (maxWindowSize : Nat) :
    List UInt8 → List UInt8 → Prop
  | nil : AreStreamFrames d dctx maxWindowSize [] []
  | cons {header body x bytes y : List UInt8} {fParams : FrameHeader}
      (h : d.IsStreamFrame dctx maxWindowSize header fParams body x)
      (h' : AreStreamFrames d dctx maxWindowSize bytes y) :
      AreStreamFrames d dctx maxWindowSize (header ++ body ++ bytes) (x ++ y)

lemma BlockDecoder.AreStreamFrames.append (h : d.AreStreamFrames dctx maxWindowSize bytes x)
    (h' : d.AreStreamFrames dctx maxWindowSize bytes' y) :
    d.AreStreamFrames dctx maxWindowSize (bytes ++ bytes') (x ++ y) := by
  induction h with
  | nil => exact h'
  | cons h _ ih =>
    rw [List.append_assoc (_ ++ _), List.append_assoc _ _ y]
    exact .cons h ih

lemma BlockDecoder.IsStreamFrame.areStreamFrames
    (h : d.IsStreamFrame dctx maxWindowSize header fParams body x) :
    d.AreStreamFrames dctx maxWindowSize (header ++ body) x := by
  have hone := BlockDecoder.AreStreamFrames.cons h .nil
  rwa [List.append_nil, List.append_nil] at hone

/-- What comes behind the frames of a stream. -/
lemma BlockDecoder.AreStreamFrames.behind (h : d.AreStreamFrames dctx maxWindowSize bytes x)
    (h' : d.AreStreamFrames dctx maxWindowSize (bytes ++ bytes') y) :
    ∃ y', y = x ++ y' ∧ d.AreStreamFrames dctx maxWindowSize bytes' y' := by
  induction h generalizing y with
  | nil => exact ⟨y, rfl, h'⟩
  | @cons header body x bytes y₁ fParams hframe _ ih =>
    generalize hall : header ++ body ++ bytes ++ bytes' = all at h'
    rw [List.append_assoc] at hall
    cases h' with
    | nil =>
      exact absurd (List.append_eq_nil_iff.mp (List.append_eq_nil_iff.mp hall).1).1
        hframe.header_ne_nil
    | cons hframe' hrest =>
      obtain ⟨-, rfl, rfl⟩ := (selfDelimiting_isOneStreamFrame d dctx maxWindowSize).eq_of_append
        ⟨_, _, _, rfl, hframe⟩ ⟨_, _, _, rfl, hframe'⟩ hall
      obtain ⟨y', rfl, hbehind⟩ := ih hrest
      exact ⟨y', (List.append_assoc _ _ _).symm, hbehind⟩

lemma BlockDecoder.IsOneStreamFrame.areStreamFrames
    (h : d.IsOneStreamFrame dctx maxWindowSize bytes x) :
    d.AreStreamFrames dctx maxWindowSize bytes x := by
  obtain ⟨header, fParams, body, rfl, hframe⟩ := h
  exact hframe.areStreamFrames

/-- All frames are decompressed in one call. -/
lemma BlockDecoder.AreStreamFrames.decompressMultiFrame
    (h : d.AreStreamFrames dctx maxWindowSize bytes x) {dstCapacity : Nat}
    (hcap : x.length ≤ dstCapacity) :
    d.decompressMultiFrame dctx dstCapacity bytes = .ok x := by
  induction h generalizing dstCapacity with
  | nil =>
    have hpos : 0 < startingInputLength dctx.format := by cases dctx.format <;> decide
    exact decompressMultiFrame_eq_ok.mpr ⟨_, Reader.readAll_of_lt hpos, rfl⟩
  | cons h _ ih =>
    rw [List.length_append] at hcap
    have hfirst := h.decompressMultiFrame (Nat.le_of_add_right_le hcap)
    obtain ⟨s, hs, hout⟩ := decompressMultiFrame_eq_ok.mp hfirst
    refine (decompressMultiFrame_behind hs _).mpr ⟨_, ih ?_, ?_⟩
    · rw [hout]
      omega
    · rw [hout]

/-- A call that begins in a header is not given what looks like a frame. -/
def DStream.Unmistaken (zds : DStream E) (window : List UInt8) : Prop :=
  zds.streamStage = .loadHeader → zds.headerBuffer ≠ [] →
    ∀ info, findFrameSizeInfo window zds.format ≠ .ok info

/-! ### Calls -/

/-- The variables at the start of a call. -/
def DStream.vars (zds : DStream E) (output : OutBuffer) (input : InBuffer) : DStreamVars E where
  zds := zds
  src := input.window
  out := []
  room := output.room
  hint := none

lemma decompressStream_eq {v : DStreamVars E} (hin : input.pos ≤ input.size)
    (hout : output.pos ≤ output.size)
    (h : turns (0 - 1) (d.decompressTurn input.window) ((zds.vars output input).work + 2)
      (zds.vars output input) = .ok v) :
    d.decompressStream zds output input = v.finish input.window := by
  rw [DStream.vars] at h
  rw [BlockDecoder.decompressStream, if_neg (Nat.not_lt.mpr hin), if_neg (Nat.not_lt.mpr hout)]
  dsimp only
  rw [h]

/-- A call on a frame that has begun. -/
lemma BlockDecoder.Underway.call (h : d.Underway zds header fParams body cur z)
    (hsrc : input.window <+: cur ++ tail) (hmax : zds.maxWindowSize ≤ 2 ^ windowLogMax)
    (hunmistaken : zds.Unmistaken input.window) (hin : input.pos ≤ input.size)
    (hout : output.pos ≤ output.size) :
    (isError (d.decompressStream zds output input).ret = true ∧
      (input.window = [] ∨ output.room = 0)) ∨
    d.Answers zds header fParams body input.window output.room cur z
      (d.decompressStream zds output input) := by
  have hlt : (zds.vars output input).work < (zds.vars output input).work + 2 :=
    Nat.lt_add_of_pos_right Nat.two_pos
  cases h with
  | opening hne _ h =>
    have haligned : (zds.vars output input).Aligned input.window := by
      by_cases hnil : zds.headerBuffer = []
      · left
        show zds.headerBuffer ++ input.window = input.window
        rw [hnil, List.nil_append]
      · exact .inr (hunmistaken h.streamStage hnil)
    obtain ⟨v, hrun, hopens⟩ :=
      BlockDecoder.Opening.run (v := zds.vars output input) h hsrc haligned hlt
    rw [decompressStream_eq hin hout hrun]
    exact hopens.answers rfl rfl hne hmax
  | going hne hlen _ hinit hhostage h =>
    have hturns : d.Turns (zds.vars output input) cur z
        (d.decompressTurn input.window (zds.vars output input)) :=
      BlockDecoder.Stands.turn h hinit hsrc
    obtain ⟨v, hrun, taken, put, cur', z', rfl, rfl, hpasses, hstands, hstops⟩ :=
      hturns.run hsrc hlt
    have hlen' : cur'.length ≤ body.length := by
      rw [List.length_append] at hlen
      omega
    rw [decompressStream_eq hin hout hrun]
    exact hstands.answers hpasses hstops rfl rfl hne hlen' hmax hhostage
  | held b _ hinit hhostage h =>
    have hsrc' : (zds.vars output input).src <+: [] ++ ([b] ++ tail) := hsrc
    have hturns : d.Turns (zds.vars output input) [] z
        (d.decompressTurn input.window (zds.vars output input)) :=
      BlockDecoder.Stands.turn h hinit hsrc'
    obtain ⟨v, hrun, hruns⟩ := hturns.run hsrc' hlt
    rw [decompressStream_eq hin hout hrun]
    exact hruns.answers_held rfl rfl hmax hhostage hsrc

/-- Where no frame has begun, the first turn begins one. -/
lemma DStream.Closed.begins (h : zds.Closed) : ∃ zds' : DStream E, zds'.AtHeader ∧
    zds'.headerBuffer = [] ∧ zds'.toDCtx = zds.toDCtx ∧
    zds'.maxWindowSize = zds.maxWindowSize ∧
    ∀ (output : OutBuffer) (input : InBuffer),
      (zds'.vars output input).work = (zds.vars output input).work ∧
      ∀ n, turns (0 - 1) (d.decompressTurn input.window) (n + 1) (zds.vars output input) =
        turns (0 - 1) (d.decompressTurn input.window) (n + 1) (zds'.vars output input) := by
  rcases h.start with hinit | ⟨hheader, hnil⟩
  · refine ⟨zds.initStream, ⟨⟨h.maxWindowSize, h.outBuffSize⟩, rfl, rfl, rfl, rfl, rfl⟩, rfl, rfl,
      rfl, fun output input => ⟨?_, fun n => ?_⟩⟩
    · rw [DStreamVars.work, DStreamVars.work]
      simp [DStream.vars, DStream.initStream, hinit]
    · have hturn : d.decompressTurn input.window (zds.vars output input) =
          d.decompressTurn input.window (zds.initStream.vars output input) := by
        have hstage : (zds.vars output input).zds.streamStage = .init := hinit
        rw [BlockDecoder.decompressTurn, BlockDecoder.decompressTurn, hstage]
        rfl
      rw [turns, turns, hturn]
  · exact ⟨zds, hheader, hnil, rfl, rfl, fun _ _ => ⟨rfl, fun _ => rfl⟩⟩

/-- A call at the start of a frame. -/
lemma DStream.Closed.call (h : zds.Closed)
    (hframe : d.IsStreamFrame zds.toDCtx zds.maxWindowSize header fParams body x)
    (hsrc : input.window <+: header ++ body ++ tail) (hin : input.pos ≤ input.size)
    (hout : output.pos ≤ output.size) :
    (isError (d.decompressStream zds output input).ret = true ∧
      (input.window = [] ∨ output.room = 0)) ∨
    d.Answers zds header fParams body input.window output.room (header ++ body) x
      (d.decompressStream zds output input) := by
  obtain ⟨zds', hheader, hnil, hdctx, hwindow, hturns⟩ := h.begins (d := d)
  obtain ⟨hwork, hturns⟩ := hturns output input
  have hopening : d.Opening zds' header fParams body (header ++ body) x :=
    ⟨hheader, by rw [hdctx, hwindow]; exact hframe, by rw [hnil]; exact List.nil_prefix,
      by rw [hnil, List.nil_append]⟩
  have haligned : (zds'.vars output input).Aligned input.window := by
    left
    show zds'.headerBuffer ++ input.window = input.window
    rw [hnil, List.nil_append]
  have hne : header ++ body ≠ [] :=
    fun hnil => hframe.header_ne_nil (List.append_eq_nil_iff.mp hnil).1
  obtain ⟨v, hrun, hopens⟩ := BlockDecoder.Opening.run (v := zds'.vars output input) hopening hsrc
    haligned (Nat.lt_add_of_pos_right Nat.two_pos)
  rw [hwork, ← hturns] at hrun
  rw [decompressStream_eq hin hout hrun]
  rcases hopens.answers rfl rfl hne (hwindow ▸ h.maxWindowSize) with hrefuses | hanswers
  · exact .inl hrefuses
  · exact .inr ⟨hanswers.toDCtx.trans hdctx, hanswers.maxWindowSize.trans hwindow,
      hanswers.noError, hanswers.parts⟩

/-- A call behind the last frame. -/
lemma DStream.Closed.call_nil (h : zds.Closed) (hnil : input.window = [])
    (hin : input.pos ≤ input.size) (hout : output.pos ≤ output.size) :
    isError (d.decompressStream zds output input).ret = false ∧
      (d.decompressStream zds output input).ret ≠ 0 ∧
      (d.decompressStream zds output input).consumed = 0 ∧
      (d.decompressStream zds output input).produced = [] ∧
      (d.decompressStream zds output input).state.toDCtx = zds.toDCtx ∧
      (d.decompressStream zds output input).state.maxWindowSize = zds.maxWindowSize ∧
      (d.decompressStream zds output input).state.Closed := by
  obtain ⟨zds', hheader, hbuffer, hdctx, hwindow, hturns⟩ := h.begins (d := d)
  obtain ⟨-, hturns⟩ := hturns output input
  have hsize : (UInt64.ofNat (startingInputLength zds'.format)).toNat =
      startingInputLength zds'.format := by cases zds'.format <;> rfl
  have hpos : 0 < startingInputLength zds'.format := by cases zds'.format <;> decide
  have hnot : isError (.ofNat (startingInputLength zds'.format)) = false := by
    cases zds'.format <;> decide
  have hempty : getFrameHeaderAdvanced [] zds'.format =
      .error (.ofNat (startingInputLength zds'.format)) := by
    have hshort : ([] : List UInt8).length < startingInputLength zds'.format := hpos
    rw [getFrameHeaderAdvanced, if_pos hshort, if_neg fun hcontra => Nat.lt_irrefl 0 hcontra.1]
  generalize hhint : max (frameHeaderSizeMin zds'.format) (startingInputLength zds'.format) - 0 +
    blockHeaderLength = hint
  have hlt : hint < 32 := by
    rw [← hhint]
    cases zds'.format <;> decide
  have hturn : d.decompressTurn input.window (zds'.vars output input) =
      .ok ({ zds'.vars output input with
        zds := { zds' with headerBuffer := [] }
        src := []
        hint := some hint }, false) := by
    have hstage : (zds'.vars output input).zds.streamStage = .loadHeader := hheader.streamStage
    have hsrc : (zds'.vars output input).src = [] := hnil
    have hnone : (zds'.vars output input).zds.headerBuffer = [] := hbuffer
    have hformat : (zds'.vars output input).zds.format = zds'.format := rfl
    rw [BlockDecoder.decompressTurn, hstage]
    dsimp only
    rw [BlockDecoder.loadHeaderStage, hnone, hformat, hempty]
    dsimp only
    rw [hnot, if_neg Bool.false_ne_true, DStreamVars.loadMore, hnone, hsrc, hsize]
    dsimp only
    rw [List.take_nil, List.append_nil, List.length_nil, if_neg (Nat.not_le.mpr hpos), hformat,
      hempty]
    dsimp only
    rw [hnot, if_neg Bool.false_ne_true, List.drop_nil, hhint]
    rfl
  have hrun : turns (0 - 1) (d.decompressTurn input.window) ((zds.vars output input).work + 2)
      (zds.vars output input) = .ok { zds'.vars output input with
        zds := { zds' with headerBuffer := [] }
        src := []
        hint := some hint } := by
    rw [hturns]
    exact turns_eq_ok.mpr ⟨_, false, hturn, rfl⟩
  rw [decompressStream_eq hin hout hrun, DStreamVars.finish]
  have htoNat : (UInt64.ofNat hint).toNat = hint :=
    UInt64.toNat_ofNat_of_lt' (hlt.trans (by decide))
  have hbounded : ({ zds' with headerBuffer := [] } : DStream E).Bounded :=
    ⟨hheader.maxWindowSize, hheader.outBuffSize⟩
  have hpositive : 0 < hint := by
    rw [← hhint]
    exact Nat.succ_pos _
  refine ⟨?_, ?_, ?_, rfl, hdctx, hwindow, hbounded,
    .inr ⟨⟨hbounded, hheader.streamStage, hheader.inPos, hheader.outStart, hheader.outEnd,
      hheader.hostageByte⟩, rfl⟩⟩
  · show isError (.ofNat hint) = false
    rw [← Bool.not_eq_true, isError_iff, htoNat]
    omega
  · intro hzero
    have hnat := congrArg UInt64.toNat hzero
    rw [htoNat] at hnat
    exact hpositive.ne' hnat
  · show input.window.length - ([] : List UInt8).length = 0
    rw [hnil]
    rfl

/-! ### Sessions -/

/-- Where a stream of frames stands: `p` has been read of the frame that is open and `q` has been
put of its content; `bytes` are to be read of the stream and `y` is to be put. -/
inductive BlockDecoder.Awaits (d : BlockDecoder E) (dctx : DCtx) (maxWindowSize : Nat)
    (zds : DStream E) : (p q bytes y : List UInt8) → Prop
  | between {bytes y : List UInt8} (h : zds.Closed)
      (hrest : d.AreStreamFrames dctx maxWindowSize bytes y) :
      Awaits d dctx maxWindowSize zds [] [] bytes y
  | within {p q cur z bytes y header body x : List UInt8} {fParams : FrameHeader}
      (hframe : d.IsStreamFrame dctx maxWindowSize header fParams body x)
      (hp : header ++ body = p ++ cur) (hq : x = q ++ z)
      (h : d.Underway zds header fParams body cur z)
      (hrest : d.AreStreamFrames dctx maxWindowSize bytes y) :
      Awaits d dctx maxWindowSize zds p q (cur ++ bytes) (z ++ y)

lemma BlockDecoder.Underway.ne_nil (h : d.Underway zds header fParams body cur z) : cur ≠ [] := by
  cases h with
  | opening hne => exact hne
  | going hne => exact hne
  | held b => exact List.cons_ne_nil b []

/-- Nothing is to be put behind the last frame: the output buffer is empty then. -/
lemma BlockDecoder.Awaits.eq_nil (h : d.Awaits dctx maxWindowSize zds p q bytes y)
    (hbytes : bytes = []) : y = [] := by
  cases h with
  | between _ hrest =>
    subst hbytes
    generalize hnil : ([] : List UInt8) = rest at hrest
    cases hrest with
    | nil => rfl
    | cons hframe _ =>
      exact absurd (List.append_eq_nil_iff.mp (List.append_eq_nil_iff.mp hnil.symm).1).1
        hframe.header_ne_nil
  | within _ _ _ hunderway _ =>
    exact absurd (List.append_eq_nil_iff.mp hbytes).1 hunderway.ne_nil

/-- A state in which a stream of frames can be continued. -/
structure BlockDecoder.Follows (d : BlockDecoder E) (dctx : DCtx) (maxWindowSize : Nat)
    (zds : DStream E) (p q bytes y : List UInt8) : Prop where
  sameDCtx : zds.toDCtx = dctx
  sameWindow : zds.maxWindowSize = maxWindowSize
  awaits : d.Awaits dctx maxWindowSize zds p q bytes y

/-- What a call does on a stream of frames. -/
inductive BlockDecoder.Proceeds (d : BlockDecoder E) (dctx : DCtx) (maxWindowSize : Nat)
    (zds : DStream E) (window : List UInt8) (room : Nat) (r : Reply (DStream E)) :
    (p q bytes y : List UInt8) → Prop
  /-- There is no frame. -/
  | idle (hnil : window = []) (hok : isError r.ret = false) (hret : r.ret ≠ 0)
      (hconsumed : r.consumed = 0) (hproduced : r.produced = [])
      (hdctx : r.state.toDCtx = zds.toDCtx)
      (hwindow : r.state.maxWindowSize = zds.maxWindowSize) (h : r.state.Closed) :
      Proceeds d dctx maxWindowSize zds window room r [] [] [] []
  /-- The frame that is open goes on, or the next one begins. -/
  | frame {p q cur z bytes y header body x : List UInt8} {fParams : FrameHeader}
      (hframe : d.IsStreamFrame dctx maxWindowSize header fParams body x)
      (hp : header ++ body = p ++ cur) (hq : x = q ++ z) (hne : cur ≠ [])
      (hrest : d.AreStreamFrames dctx maxWindowSize bytes y)
      (h : d.Answers zds header fParams body window room cur z r) :
      Proceeds d dctx maxWindowSize zds window room r p q (cur ++ bytes) (z ++ y)

section Proceeds

variable {window : List UInt8} {room : Nat} {r : Reply (DStream E)}

lemma BlockDecoder.Proceeds.noError
    (h : d.Proceeds dctx maxWindowSize zds window room r p q bytes y) : isError r.ret = false := by
  cases h with
  | idle _ hok => exact hok
  | frame _ _ _ _ _ h => exact h.noError

/-- When the call returns 0, the frame is complete; else it is still open. -/
lemma BlockDecoder.Proceeds.next
    (h : d.Proceeds dctx maxWindowSize zds window room r p q bytes y) (hdctx : zds.toDCtx = dctx)
    (hwindow : zds.maxWindowSize = maxWindowSize) :
    ∃ bytes' y', bytes = window.take r.consumed ++ bytes' ∧ y = r.produced ++ y' ∧
      if r.ret = 0 then
        d.IsOneStreamFrame dctx maxWindowSize (p ++ window.take r.consumed) (q ++ r.produced) ∧
          d.Follows dctx maxWindowSize r.state [] [] bytes' y'
      else d.Follows dctx maxWindowSize r.state (p ++ window.take r.consumed) (q ++ r.produced)
        bytes' y' := by
  cases h with
  | idle hnil _ hret hconsumed hproduced hdctx' hwindow' h =>
    refine ⟨[], [], ?_, ?_, ?_⟩
    · rw [hconsumed, List.take_zero, List.append_nil]
    · rw [hproduced, List.append_nil]
    · rw [if_neg hret, hconsumed, hproduced, List.take_zero, List.append_nil]
      exact ⟨hdctx'.trans hdctx, hwindow'.trans hwindow, .between h .nil⟩
  | @frame p q cur z bytes y header body x fParams hframe hp hq _ hrest h =>
    have hdctx' := h.toDCtx.trans hdctx
    have hwindow' := h.maxWindowSize.trans hwindow
    obtain ⟨cur', z', rfl, rfl, hparts⟩ := h.parts
    refine ⟨cur' ++ bytes, z' ++ y, List.append_assoc _ _ _, List.append_assoc _ _ _, ?_⟩
    rw [← List.append_assoc] at hp hq
    rcases hparts with ⟨hret, hunderway, -⟩ | ⟨hret, hclosed, rfl, rfl⟩
    · rw [if_neg hret]
      exact ⟨hdctx', hwindow', .within hframe hp hq hunderway hrest⟩
    · rw [List.append_nil] at hp hq
      rw [if_pos hret]
      exact ⟨⟨header, fParams, body, hp.symm, hq ▸ hframe⟩, hdctx', hwindow',
        .between hclosed hrest⟩

end Proceeds

/-- The step lemma. -/
lemma BlockDecoder.Follows.call (h : d.Follows dctx maxWindowSize zds p q bytes y)
    (hmax : maxWindowSize ≤ 2 ^ windowLogMax) (hsrc : input.window <+: bytes)
    (hunmistaken : zds.Unmistaken input.window) (hin : input.pos ≤ input.size)
    (hout : output.pos ≤ output.size) :
    (isError (d.decompressStream zds output input).ret = true ∧
      (input.window = [] ∨ output.room = 0)) ∨
    d.Proceeds dctx maxWindowSize zds input.window output.room
      (d.decompressStream zds output input) p q bytes y := by
  obtain ⟨hdctx, hwindow, hawaits⟩ := h
  cases hawaits with
  | between hclosed hrest =>
    cases hrest with
    | nil =>
      right
      have hnil := List.prefix_nil.mp hsrc
      obtain ⟨hok, hret, hconsumed, hproduced, hdctx', hwindow', hclosed'⟩ :=
        hclosed.call_nil (d := d) hnil hin hout
      exact .idle hnil hok hret hconsumed hproduced hdctx' hwindow' hclosed'
    | @cons header body x bytes y fParams hframe hrest =>
      refine (hclosed.call (hdctx.symm ▸ hwindow.symm ▸ hframe) hsrc hin hout).imp id fun h => ?_
      have hne : header ++ body ≠ [] :=
        fun hnil => hframe.header_ne_nil (List.append_eq_nil_iff.mp hnil).1
      exact .frame hframe (List.nil_append _).symm (List.nil_append _).symm hne hrest h
  | within hframe hp hq hunderway hrest =>
    exact (hunderway.call hsrc (hwindow.symm ▸ hmax) hunmistaken hin hout).imp id
      fun h => .frame hframe hp hq hunderway.ne_nil hrest h

/-- The calls of a session are given a stream, each from where the one before it stopped. -/
structure Streams (stream : List UInt8) (cs : List (Call (DStream E) Unit)) : Prop where
  presented : Presents stream cs
  unmistaken : ∀ c ∈ cs, c.state.Unmistaken c.input.window

lemma streams_append_singleton {stream : List UInt8} {cs : List (Call (DStream E) Unit)}
    {c : Call (DStream E) Unit} : Streams stream (cs ++ [c]) ↔
      Streams stream cs ∧ bytesRead cs ++ c.input.window <+: stream ∧
        c.state.Unmistaken c.input.window := by
  constructor
  · rintro ⟨hpresented, hunmistaken⟩
    obtain ⟨hbefore, hlast⟩ := always_snoc.mp hpresented
    exact ⟨⟨hbefore, fun e he => hunmistaken e (List.mem_append_left _ he)⟩, hlast,
      hunmistaken c (by simp)⟩
  · rintro ⟨⟨hpresented, hunmistaken⟩, hlast, hc⟩
    refine ⟨always_snoc.mpr ⟨hpresented, hlast⟩, fun e he => ?_⟩
    rcases List.mem_append.mp he with he | he
    · exact hunmistaken e he
    · obtain rfl := List.mem_singleton.mp he
      exact hc

/-- A stream that is cut in two, behind the header of a frame. -/
lemma streams_pair {stream : List UInt8} {c c' : Call (DStream E) Unit}
    (hread : bytesRead [c] = c.input.window) (hwindows : c.input.window ++ c'.input.window = stream)
    (hc : c.state.streamStage ≠ .loadHeader) (hc' : c'.state.streamStage ≠ .loadHeader) :
    Streams stream ([c] ++ [c']) := by
  have hnil : Streams stream ([] : List (Call (DStream E) Unit)) :=
    ⟨always_nil, fun c hc => absurd hc List.not_mem_nil⟩
  have hone : Streams stream ([] ++ [c]) := by
    refine streams_append_singleton.mpr ⟨hnil, ?_, fun hcontra => absurd hcontra hc⟩
    exact hwindows ▸ List.prefix_append _ _
  rw [List.nil_append] at hone
  refine streams_append_singleton.mpr ⟨hone, ?_, fun hcontra => absurd hcontra hc'⟩
  rw [hread, hwindows]

lemma closed_createDStream (d : BlockDecoder E) (dctx : DCtx)
    (hmax : maxWindowSize ≤ 2 ^ windowLogMax) : (d.createDStream dctx maxWindowSize).Closed :=
  ⟨⟨hmax, (by decide : 0 < contentSizeUnknown.toNat)⟩, .inl rfl⟩

/-- Where the calls `cs` have come to in a stream of frames: `done` are the frames that they have
read to the end and `out` is the content of these; `bytes` are to be read and `y` is to be put. -/
structure BlockDecoder.IsAt (d : BlockDecoder E) (dctx : DCtx) (maxWindowSize : Nat)
    (stream content : List UInt8) (cs : List (Call (DStream E) Unit)) (zds : DStream E)
    (done out bytes y : List UInt8) : Prop where
  frames : d.AreStreamFrames dctx maxWindowSize done out
  read : bytesRead cs = done ++ bytesRead (openCalls cs)
  put : bytesPut cs = out ++ bytesPut (openCalls cs)
  stream_eq : stream = bytesRead cs ++ bytes
  content_eq : content = bytesPut cs ++ y
  follows : d.Follows dctx maxWindowSize zds (bytesRead (openCalls cs)) (bytesPut (openCalls cs))
    bytes y

section IsAt

variable {stream content done out : List UInt8} {cs : List (Call (DStream E) Unit)}
  {c : Call (DStream E) Unit}

lemma BlockDecoder.IsAt.snoc
    (h : d.IsAt dctx maxWindowSize stream content cs zds done out bytes y)
    (hproceeds : d.Proceeds dctx maxWindowSize zds c.input.window c.output.room c.reply
      (bytesRead (openCalls cs)) (bytesPut (openCalls cs)) bytes y) :
    ∃ done' out' bytes' y', d.IsAt dctx maxWindowSize stream content (cs ++ [c]) c.reply.state
      done' out' bytes' y' := by
  obtain ⟨bytes', y', hbytes, hy, hnext⟩ :=
    hproceeds.next h.follows.sameDCtx h.follows.sameWindow
  have hread : bytesRead (cs ++ [c]) = bytesRead cs ++ c.consumed := by simp
  have hput : bytesPut (cs ++ [c]) = bytesPut cs ++ c.reply.produced := by simp
  have hstream : stream = bytesRead (cs ++ [c]) ++ bytes' := by
    rw [hread, List.append_assoc, Call.consumed, ← hbytes]
    exact h.stream_eq
  have hcontent : content = bytesPut (cs ++ [c]) ++ y' := by
    rw [hput, List.append_assoc, ← hy]
    exact h.content_eq
  by_cases hret : c.reply.ret = 0
  · rw [if_pos hret] at hnext
    obtain ⟨hframe, hfollows⟩ := hnext
    have hopen : openCalls (cs ++ [c]) = [] := by rw [openCalls_concat, if_pos hret]
    refine ⟨_, _, bytes', y', h.frames.append hframe.areStreamFrames, ?_, ?_, hstream, hcontent, ?_⟩
    · rw [hread, h.read, hopen, bytesRead_nil, List.append_nil, List.append_assoc, Call.consumed]
    · rw [hput, h.put, hopen, bytesPut_nil, List.append_nil, List.append_assoc]
    · rw [hopen]
      exact hfollows
  · rw [if_neg hret] at hnext
    have hopen : openCalls (cs ++ [c]) = openCalls cs ++ [c] := by
      rw [openCalls_concat, if_neg hret]
    have hread' : bytesRead (openCalls cs ++ [c]) = bytesRead (openCalls cs) ++ c.consumed := by
      simp
    have hput' : bytesPut (openCalls cs ++ [c]) = bytesPut (openCalls cs) ++ c.reply.produced := by
      simp
    refine ⟨done, out, bytes', y', h.frames, ?_, ?_, hstream, hcontent, ?_⟩
    · rw [hread, h.read, hopen, hread', List.append_assoc]
    · rw [hput, h.put, hopen, hput', List.append_assoc]
    · rw [hopen, hread', hput']
      exact hnext

/-- The next call of a session. -/
lemma BlockDecoder.IsAt.call
    (h : d.IsAt dctx maxWindowSize stream content cs zds done out bytes y)
    (hmax : maxWindowSize ≤ 2 ^ windowLogMax) (hsrc : bytesRead cs ++ input.window <+: stream)
    (hunmistaken : zds.Unmistaken input.window) (hin : input.pos ≤ input.size)
    (hout : output.pos ≤ output.size) :
    (isError (d.decompressStream zds output input).ret = true ∧
      (input.window = [] ∨ output.room = 0)) ∨
    d.Proceeds dctx maxWindowSize zds input.window output.room
      (d.decompressStream zds output input) (bytesRead (openCalls cs)) (bytesPut (openCalls cs))
      bytes y := by
  rw [h.stream_eq] at hsrc
  exact h.follows.call hmax ((List.prefix_append_right_inj _).mp hsrc) hunmistaken hin hout

end IsAt

/-- The session lemma. -/
lemma BlockDecoder.AreStreamFrames.isAt {stream content : List UInt8}
    {cs : List (Call (DStream E) Unit)} (h : d.AreStreamFrames dctx maxWindowSize stream content)
    (hmax : maxWindowSize ≤ 2 ^ windowLogMax)
    (hsession : d.streamCodec.Session (d.createDStream dctx maxWindowSize) cs zds)
    (hok : NoErrors cs) (hstreams : Streams stream cs) :
    ∃ done out bytes y,
      d.IsAt dctx maxWindowSize stream content cs zds done out bytes y := by
  induction hsession with
  | start =>
    exact ⟨[], [], stream, content, .nil, rfl, rfl, rfl, rfl, rfl, rfl,
      .between (closed_createDStream d dctx hmax) h⟩
  | @call cs zds hsession op output input hout hin ih =>
    obtain ⟨hbefore, hlast⟩ := noErrors_append.mp hok
    have hret : isError (d.decompressStream zds output input).ret = false :=
      noErrors_singleton.mp hlast
    obtain ⟨hstreams', hsrc, hunmistaken⟩ := streams_append_singleton.mp hstreams
    obtain ⟨done, out, bytes, y, hat⟩ := ih hbefore hstreams'
    rcases hat.call hmax hsrc hunmistaken hin hout with ⟨herror, -⟩ | hproceeds
    · have hcontra := hret.symm.trans herror
      cases hcontra
    · exact hat.snoc hproceeds

/-- When all of the stream has been read, all of the content has been put. -/
lemma BlockDecoder.AreStreamFrames.put_eq {stream content : List UInt8}
    {cs : List (Call (DStream E) Unit)} (h : d.AreStreamFrames dctx maxWindowSize stream content)
    (hmax : maxWindowSize ≤ 2 ^ windowLogMax)
    (hsession : d.streamCodec.Session (d.createDStream dctx maxWindowSize) cs zds)
    (hok : NoErrors cs) (hstreams : Streams stream cs) (hall : bytesRead cs = stream) :
    bytesPut cs = content := by
  obtain ⟨done, out, bytes, y, hat⟩ := h.isAt hmax hsession hok hstreams
  have hbytes : bytes = [] := by
    have hstream := hat.stream_eq
    rw [hall] at hstream
    exact List.append_cancel_left (hstream.symm.trans (List.append_nil _).symm)
  rw [hat.content_eq, hat.follows.awaits.eq_nil hbytes, List.append_nil]

/-- A frame of three bytes. -/
lemma areStreamFrames_three : noDecode.AreStreamFrames .default 2097152
    [40, 181, 47, 253, 36, 3, 25, 0, 0, 97, 98, 99, 153, 9, 119, 173] [97, 98, 99] := by
  have hblocks : noDecode.AreBlocks 0 3 [] () (writeBlockHeader true .raw 3 ++ [97, 98, 99])
      [97, 98, 99] () true :=
    areBlocks_raw (y := [97, 98, 99]) (by decide) (Nat.le_refl _) true
  have hframe : noDecode.IsFrame 0 level3 3 [97, 98, 99]
      [40, 181, 47, 253, 36, 3, 25, 0, 0, 97, 98, 99, 153, 9, 119, 173] :=
    ⟨fun _ => rfl, 3, _, (), _, by decide, by decide, Nat.le_refl _, hblocks,
      fun _ => ⟨_, (hashed_reset 0).update [97, 98, 99], rfl⟩, by decide +kernel⟩
  have hformat : DCtx.default.format = level3.format := rfl
  have hparam : DCtx.default.maxBlockSizeParam = 0 := rfl
  obtain ⟨header, fParams, body, hbytes, hstream⟩ := hframe.isStreamFrame hformat (by decide)
    (.inl hparam) (Nat.zero_le _) (Nat.le_refl _) (by decide)
  rw [hbytes]
  exact hstream.areStreamFrames

/-- A call that is given the header and one byte of the block. -/
def firstCall : Call (DStream Unit) Unit :=
  noDecode.streamCodec.ask (noDecode.createDStream .default 2097152) ()
    (newStreamContext 20 16).output
    ((newStreamContext 20 16).input.stage [40, 181, 47, 253, 36, 3, 25, 0, 0, 97])

def secondCall : Call (DStream Unit) Unit :=
  noDecode.streamCodec.ask firstCall.reply.state () (newStreamContext 20 16).output
    ((newStreamContext 20 16).input.stage [98, 99, 153, 9, 119, 173])

lemma session_three :
    noDecode.streamCodec.Session (noDecode.createDStream .default 2097152)
      ([firstCall] ++ [secondCall]) secondCall.reply.state :=
  (Codec.Session.start.call () (by decide) (by decide)).call () (by decide) (by decide)

lemma noErrors_three : NoErrors ([firstCall] ++ [secondCall]) := by
  have hfirst : isError firstCall.reply.ret = false := by decide +kernel
  have hsecond : isError secondCall.reply.ret = false := by decide +kernel
  exact noErrors_append.mpr ⟨noErrors_singleton.mpr hfirst, noErrors_singleton.mpr hsecond⟩

lemma streams_three :
    Streams [40, 181, 47, 253, 36, 3, 25, 0, 0, 97, 98, 99, 153, 9, 119, 173]
      ([firstCall] ++ [secondCall]) := by
  have hread : bytesRead [firstCall] = firstCall.input.window := by decide +kernel
  have hwindows : firstCall.input.window ++ secondCall.input.window =
      [40, 181, 47, 253, 36, 3, 25, 0, 0, 97, 98, 99, 153, 9, 119, 173] := by decide +kernel
  have hfirst : firstCall.state.streamStage ≠ .loadHeader := by decide
  have hsecond : secondCall.state.streamStage ≠ .loadHeader := by decide +kernel
  exact streams_pair hread hwindows hfirst hsecond

/-- On a stream of frames, no call fails that is given something to read and room to put it. -/
theorem decompressStream_succeeds {stream content : List UInt8}
    {cs : List (Call (DStream E) Unit)} {call : Call (DStream E) Unit}
    (h : d.AreStreamFrames dctx maxWindowSize stream content)
    (hmax : maxWindowSize ≤ 2 ^ windowLogMax)
    (hsession : d.streamCodec.Session (d.createDStream dctx maxWindowSize) (cs ++ [call]) zds)
    (hok : NoErrors cs) (hstreams : Streams stream (cs ++ [call]))
    (hin : call.input.window ≠ []) (hroom : call.output.pos < call.output.size) :
    isError call.reply.ret = false := by
  obtain ⟨hbefore, hout, hpos, hcall, -⟩ := hsession.last
  obtain ⟨hstreams', hsrc, hunmistaken⟩ := streams_append_singleton.mp hstreams
  obtain ⟨done, out, bytes, y, hat⟩ := h.isAt hmax hbefore hok hstreams'
  rw [hcall]
  rcases hat.call hmax hsrc hunmistaken hpos hout with ⟨-, hnil | hfull⟩ | hproceeds
  · exact absurd hnil hin
  · exact absurd hfull (Nat.sub_pos_of_lt hroom).ne'
  · exact hproceeds.noError

/-- The second of two calls. -/
theorem decompressStream_succeeds_three : isError secondCall.reply.ret = false := by
  have hfirst : NoErrors [firstCall] := (noErrors_append.mp noErrors_three).1
  exact decompressStream_succeeds areStreamFrames_three (by decide) session_three hfirst
    streams_three (by decide +kernel) (by decide)

-- The header is cut, and the rest of the frame looks like a frame: it is decoded as one, and fails.
example :
    let dctx : DCtx := { DCtx.default with format := .magicless }
    let context := newStreamContext 32 16
    let first := noDecode.streamCodec.ask (noDecode.createDStream dctx 2097152) () context.output
      (context.input.stage [32])
    let second := noDecode.streamCodec.ask first.reply.state () context.output
      (context.input.stage [32, 3, 1, 0, 0])
    noDecode.decompressMultiFrame dctx 32 [32, 32, 3, 1, 0, 0] = .ok (List.replicate 32 0) ∧
      isError first.reply.ret = false ∧ bytesRead [first] = [32] ∧
      isError second.reply.ret = true := by
  decide +kernel

/-- However a stream of frames is cut into calls, what is put is the start of the content. When all
of the stream is read, it is all of the content: nothing remains in the buffer. -/
theorem decompressStream_delivers {stream content : List UInt8}
    {cs : List (Call (DStream E) Unit)}
    (h : d.AreStreamFrames dctx maxWindowSize stream content)
    (hmax : maxWindowSize ≤ 2 ^ windowLogMax)
    (hsession : d.streamCodec.Session (d.createDStream dctx maxWindowSize) cs zds)
    (hok : NoErrors cs) (hstreams : Streams stream cs) :
    bytesPut cs <+: content ∧ (bytesRead cs = stream → bytesPut cs = content) := by
  obtain ⟨done, out, bytes, y, hat⟩ := h.isAt hmax hsession hok hstreams
  exact ⟨hat.content_eq ▸ List.prefix_append _ _, h.put_eq hmax hsession hok hstreams⟩

/-- Two calls. -/
theorem decompressStream_delivers_three :
    bytesPut ([firstCall] ++ [secondCall]) = [97, 98, 99] := by
  have hall : bytesRead ([firstCall] ++ [secondCall]) =
      [40, 181, 47, 253, 36, 3, 25, 0, 0, 97, 98, 99, 153, 9, 119, 173] := by decide +kernel
  exact (decompressStream_delivers areStreamFrames_three (by decide) session_three noErrors_three
    streams_three).2 hall

/-- When a call returns 0, what has been put is what one call makes of all that has been read. -/
theorem decompressMultiFrame_of_streams {stream content : List UInt8}
    {cs : List (Call (DStream E) Unit)} {call : Call (DStream E) Unit}
    (h : d.AreStreamFrames dctx maxWindowSize stream content)
    (hmax : maxWindowSize ≤ 2 ^ windowLogMax)
    (hsession : d.streamCodec.Session (d.createDStream dctx maxWindowSize) (cs ++ [call]) zds)
    (hok : NoErrors (cs ++ [call])) (hstreams : Streams stream (cs ++ [call]))
    (hret : call.reply.ret = 0) {dstCapacity : Nat}
    (hcap : (bytesPut (cs ++ [call])).length ≤ dstCapacity) :
    d.decompressMultiFrame dctx dstCapacity (bytesRead (cs ++ [call])) =
      .ok (bytesPut (cs ++ [call])) := by
  obtain ⟨done, out, bytes, y, hat⟩ := h.isAt hmax hsession hok hstreams
  have hopen : openCalls (cs ++ [call]) = [] := by rw [openCalls_concat, if_pos hret]
  have hread : bytesRead (cs ++ [call]) = done := by
    rw [hat.read, hopen, bytesRead_nil, List.append_nil]
  have hput : bytesPut (cs ++ [call]) = out := by
    rw [hat.put, hopen, bytesPut_nil, List.append_nil]
  rw [hput] at hcap ⊢
  rw [hread]
  exact hat.frames.decompressMultiFrame hcap

/-- Two calls, and one for all of it. -/
theorem decompressMultiFrame_of_streams_three :
    noDecode.decompressMultiFrame .default 3 (bytesRead ([firstCall] ++ [secondCall])) =
      .ok (bytesPut ([firstCall] ++ [secondCall])) := by
  have hret : secondCall.reply.ret = 0 := by decide +kernel
  have hcap : (bytesPut ([firstCall] ++ [secondCall])).length ≤ 3 := by decide +kernel
  exact decompressMultiFrame_of_streams areStreamFrames_three (by decide) session_three
    noErrors_three streams_three hret hcap

end VZstd
