import VZstd.Frame.DecompressHeader

/-!
# Opening a frame in a decompression stream

The turns of `ZSTD_decompressStream` from the first byte of a frame on: either the header remains
incomplete, or all of the frame is decoded in one pass, or its blocks come next.
-/

namespace VZstd

open Memory Turns

variable {E : Type} {d : BlockDecoder E} {zds : DStream E} {v v' v'' : DStreamVars E}
  {fParams : FrameHeader} {header body x y bytes bytes' tail taken istart : List UInt8}

/-- A header is being collected. -/
structure DStream.AtHeader (zds : DStream E) : Prop extends zds.Bounded where
  streamStage : zds.streamStage = .loadHeader
  inPos : zds.inPos = 0
  outStart : zds.outStart = 0
  outEnd : zds.outEnd = 0
  hostageByte : zds.hostageByte = false

/-- The first part of the header of `header ++ body` has been collected, and `bytes` are what is to
be read of the frame. -/
structure BlockDecoder.Opening (d : BlockDecoder E) (zds : DStream E) (header : List UInt8)
    (fParams : FrameHeader) (body bytes y : List UInt8) : Prop extends zds.AtHeader where
  isFrame : d.IsStreamFrame zds.toDCtx zds.maxWindowSize header fParams body y
  buffer : zds.headerBuffer <+: header
  rest : zds.headerBuffer ++ bytes = header ++ body

/-- Where a call leaves a frame that it has begun to read. -/
inductive BlockDecoder.Opens (d : BlockDecoder E) (v v' : DStreamVars E) (header : List UInt8)
    (fParams : FrameHeader) (body bytes y : List UInt8) : Prop
  | runs {taken put bytes' y' : List UInt8} (hhostage : v.zds.hostageByte = false)
      (hbytes : bytes = taken ++ bytes') (hy : y = put ++ y') (hpasses : v.Passes v' taken put)
      (hstands : d.Stands v'.zds bytes' y') (hstops : v'.Stops)
      (hlen : bytes'.length ≤ body.length)
  | single (hstage : v'.zds.streamStage = .init) (hexpected : v'.zds.expected = 0)
      (hflushed : v'.zds.outStart = v'.zds.outEnd) (hhostage : v'.zds.hostageByte = false)
      (hb : v'.zds.Bounded) (h : v.Passes v' bytes y)
  | starved {bytes' : List UInt8} (hint : Nat) (hpos : 0 < hint) (hlt : hint < 32)
      (hhint : v'.hint = some hint) (hsrc : v'.src = []) (hout : v'.out = v.out)
      (hdctx : v'.zds.toDCtx = v.zds.toDCtx)
      (hwindow : v'.zds.maxWindowSize = v.zds.maxWindowSize)
      (hbytes : bytes = v.src ++ bytes') (hne : bytes' ≠ [])
      (hcut : v'.zds.headerBuffer.length < header.length)
      (h : d.Opening v'.zds header fParams body bytes' y)

lemma BlockDecoder.Opens.after (h : d.Opens v' v'' header fParams body bytes' y)
    (hpasses : v.Passes v' taken []) (hbytes : bytes = taken ++ bytes') :
    d.Opens v v'' header fParams body bytes y := by
  subst hbytes
  cases h with
  | runs hhostage hbytes hy hpasses' hstands hstops hlen =>
    subst hbytes
    exact .runs (hpasses.hostageByte ▸ hhostage) (List.append_assoc _ _ _).symm hy
      (hpasses.trans hpasses') hstands hstops hlen
  | single hstage hexpected hflushed hhostage hb h =>
    exact .single hstage hexpected hflushed hhostage hb (hpasses.trans h)
  | starved hint hpos hlt hhint hsrc hout hdctx hwindow hbytes hne hcut h =>
    have hout' := hpasses.out
    rw [List.append_nil] at hout'
    refine .starved hint hpos hlt hhint hsrc (hout.trans hout') (hdctx.trans hpasses.toDCtx)
      (hwindow.trans hpasses.maxWindowSize) ?_ hne hcut h
    rw [hbytes, hpasses.src, List.append_assoc]

/-- More of the header has been collected. -/
lemma BlockDecoder.Opening.collect (h : d.Opening zds header fParams body (taken ++ bytes') y)
    (hle : (zds.headerBuffer ++ taken).length ≤ header.length) :
    d.Opening { zds with headerBuffer := zds.headerBuffer ++ taken } header fParams body bytes'
      y := by
  have hrest : zds.headerBuffer ++ taken ++ bytes' = header ++ body := by
    rw [List.append_assoc]
    exact h.rest
  have hbuffer : zds.headerBuffer ++ taken <+: header :=
    List.prefix_of_prefix_length_le ⟨bytes', hrest⟩ (List.prefix_append header body) hle
  exact ⟨⟨⟨h.maxWindowSize, h.outBuffSize⟩, h.streamStage, h.inPos, h.outStart, h.outEnd,
    h.hostageByte⟩, h.isFrame, hbuffer, hrest⟩

variable (istart) in
/-- A turn that collects more of the header. -/
lemma BlockDecoder.Opening.loadMore
    (h : d.Opening v.zds header fParams body bytes y)
    (hlt : v.zds.headerBuffer.length < header.length) (hsrc : v.src <+: bytes ++ tail) :
    ∃ v' more taken bytes', d.decompressTurn istart v = .ok (v', more) ∧
      bytes = taken ++ bytes' ∧ v'.zds.headerBuffer = v.zds.headerBuffer ++ taken ∧
      d.Opening v'.zds header fParams body bytes' y ∧
      if more then v.Passes v' taken [] ∧ v'.work < v.work
      else d.Opens v v' header fParams body bytes y := by
  obtain ⟨n, hread, hnot, hmore, hle⟩ :=
    h.isFrame.isHeader.error_of_prefix h.isFrame.not_skippable h.buffer hlt
  have hlen := congrArg List.length h.rest
  have hsize : header.length ≤ 19 := by
    rw [← h.isFrame.isHeader.size]
    exact toNat_frameHeaderSizeInternal_le h.isFrame.isHeader.start_le
  have hmin : frameHeaderSizeMin v.zds.format ≤ 6 := by cases v.zds.format <;> decide
  rw [List.length_append, List.length_append] at hlen
  rw [BlockDecoder.decompressTurn, h.streamStage]
  dsimp only
  rw [BlockDecoder.loadHeaderStage, hread]
  dsimp only
  rw [if_neg (by rw [hnot]; exact Bool.false_ne_true), DStreamVars.loadMore]
  dsimp only
  generalize hload : n.toNat - v.zds.headerBuffer.length = toLoad
  rcases Nat.lt_or_ge v.src.length toLoad with hshort | hlong
  · have htake : v.src.take toLoad = v.src := List.take_of_length_le hshort.le
    have hbytes : bytes = v.src ++ bytes.drop v.src.length := by
      have hall := eq_take_append hsrc (Nat.le_refl v.src.length) (by omega)
      rwa [List.take_length] at hall
    have hnew : (v.zds.headerBuffer ++ v.src).length < n.toNat := by
      rw [List.length_append]
      omega
    have hopening := (hbytes ▸ h).collect (hnew.le.trans hle)
    obtain ⟨m, hread', hnot', -⟩ := h.isFrame.isHeader.error_of_prefix h.isFrame.not_skippable
      hopening.buffer (Nat.lt_of_lt_of_le hnew hle)
    dsimp only at hread'
    rw [htake, if_neg (Nat.not_le.mpr hnew), hread']
    dsimp only
    rw [hnot', if_neg Bool.false_ne_true]
    refine ⟨_, false, v.src, _, rfl, hbytes, rfl, hopening, ?_⟩
    refine .starved _ (Nat.succ_pos _) ?_ rfl ?_ rfl rfl rfl hbytes ?_
      (Nat.lt_of_lt_of_le hnew hle) hopening
    · show max (frameHeaderSizeMin v.zds.format) n.toNat - (v.zds.headerBuffer ++ v.src).length +
        blockHeaderLength < 32
      rw [blockHeaderLength]
      omega
    · exact List.drop_eq_nil_of_le hshort.le
    · rw [Ne, List.drop_eq_nil_iff]
      omega
  · have hbytes : bytes = v.src.take toLoad ++ bytes.drop toLoad :=
      eq_take_append hsrc hlong (by omega)
    have htaken : (v.src.take toLoad).length = toLoad := by
      rw [List.length_take, Nat.min_eq_left hlong]
    have hnew : (v.zds.headerBuffer ++ v.src.take toLoad).length = n.toNat := by
      rw [List.length_append, htaken]
      omega
    have hopening := (hbytes ▸ h).collect (hnew.le.trans hle)
    have hne : v.src.take toLoad ≠ [] := List.ne_nil_of_length_pos (by omega)
    have hpasses : v.src = v.src.take toLoad ++ v.src.drop toLoad :=
      (List.take_append_drop _ _).symm
    rw [if_pos hnew.ge]
    exact ⟨_, true, _, _, rfl, hbytes, rfl, hopening,
      ⟨hpasses, (List.append_nil _).symm, rfl, rfl, rfl, rfl, rfl⟩,
      DStreamVars.work_lt hpasses hne⟩

/-- The call has begun at the start of the frame, or it does not take what it was given for a
frame. -/
def DStreamVars.Aligned (v : DStreamVars E) (istart : List UInt8) : Prop :=
  v.zds.headerBuffer ++ v.src = istart ∨
    ∀ info, findFrameSizeInfo istart v.zds.format ≠ .ok info

/-- All of the frame is decoded in one pass. -/
lemma BlockDecoder.Opening.single {n cSize : Nat}
    (h : d.Opening v.zds header fParams body bytes y) (hfull : v.zds.headerBuffer = header)
    (hsrc : v.src <+: bytes ++ tail) (haligned : v.Aligned istart)
    (hsingle : singlePass fParams v.zds.format v.room istart = some cSize) :
    ∃ v', turns (0 - 1) (d.decompressTurn istart) (n + 1) v = .ok v' ∧
      d.Opens v v' header fParams body bytes y := by
  have hbytes : bytes = body := by
    have hrest := h.rest
    rw [hfull] at hrest
    exact List.append_cancel_left hrest
  subst hbytes
  have hstart : header ++ v.src = istart := by
    rcases haligned with halign | hnot
    · rwa [hfull] at halign
    · rw [singlePass] at hsingle
      split at hsingle
      next =>
        split at hsingle
        next => cases hsingle
        next info hinfo => exact absurd hinfo (hnot info)
      next => cases hsingle
  have hprefix : istart <+: header ++ bytes ++ tail := by
    rw [← hstart, List.append_assoc]
    exact (List.prefix_append_right_inj _).mpr hsrc
  obtain ⟨htake, -, hroom⟩ :=
    h.isFrame.singlePass ⟨v.src, hstart⟩ hprefix hsingle
  have hrest : v.src = bytes ++ istart.drop cSize := by
    have hall : header ++ (bytes ++ istart.drop cSize) = header ++ v.src := by
      rw [hstart, ← List.append_assoc, ← htake, List.take_append_drop]
    exact (List.append_cancel_left hall).symm
  have hread : getFrameHeaderAdvanced v.zds.headerBuffer v.zds.format = .ok fParams := by
    rw [hfull]
    exact (decodeFrameHeader_eq_ok.mp h.isFrame.isHeader.decodes).1
  have hturn : d.decompressTurn istart v = .ok (({ v with
      zds := { v.zds with
        expected := 0
        stage := .getFrameHeaderSize
        streamStage := .init }
      src := istart.drop cSize } : DStreamVars E).put y, false) := by
    rw [BlockDecoder.decompressTurn, h.streamStage]
    dsimp only
    rw [BlockDecoder.loadHeaderStage, hread]
    dsimp only
    rw [hsingle]
    dsimp only
    rw [htake, h.isFrame.decompressMultiFrame hroom]
  refine ⟨_, turns_eq_ok.mpr ⟨_, false, hturn, rfl⟩, ?_⟩
  exact .single rfl rfl (h.outStart.trans h.outEnd.symm) h.hostageByte
    ⟨h.maxWindowSize, h.outBuffSize⟩
    ⟨hrest, rfl, (Nat.sub_add_cancel hroom).symm, rfl, rfl, rfl, rfl⟩

/-- Its blocks come next. -/
lemma BlockDecoder.Opening.blocks {n : Nat}
    (h : d.Opening v.zds header fParams body bytes y) (hfull : v.zds.headerBuffer = header)
    (hsrc : v.src <+: bytes ++ tail) (hn : v.work < n)
    (hsingle : singlePass fParams v.zds.format v.room istart = none) :
    ∃ v', turns (0 - 1) (d.decompressTurn istart) n v = .ok v' ∧
      d.Opens v v' header fParams body bytes y := by
  have hbytes : bytes = body := by
    have hrest := h.rest
    rw [hfull] at hrest
    exact List.append_cancel_left hrest
  subst hbytes
  have hread := (decodeFrameHeader_eq_ok.mp h.isFrame.isHeader.decodes).1
  obtain ⟨zds', hconsume, hready, hdctx, hwindow, hin, hhostage⟩ :=
    BlockDecoder.IsStreamFrame.consumeHeader (hfull.symm ▸ h.isFrame) h.toBounded h.outStart
      h.outEnd
  have hturn : d.decompressTurn istart v =
      d.readStage { v with zds := { zds' with streamStage := .read } } := by
    rw [BlockDecoder.decompressTurn, h.streamStage]
    dsimp only
    rw [BlockDecoder.loadHeaderStage, hfull, hread]
    dsimp only
    rw [hsingle]
    dsimp only
    rw [hconsume]
  have hturns : d.Turns v bytes y (d.decompressTurn istart v) := by
    rw [hturn]
    refine BlockDecoder.Turns.of_eq (BlockDecoder.Ready.readStage (v := { v with
      zds := { zds' with streamStage := .read } }) ⟨hready.toGoing.congr rfl rfl rfl rfl rfl,
        hready.flushed, hready.fits⟩ rfl (hin.trans h.inPos) hsrc) rfl rfl rfl hdctx hwindow
          hhostage rfl ?_
    rw [DStreamVars.work, DStreamVars.work]
    simp [h.streamStage]
  obtain ⟨v', hrun, taken, put, bytes', y', hbytes, hy, hpasses, hstands, hstops⟩ :=
    hturns.run hsrc hn
  have hlen : bytes'.length ≤ bytes.length := by
    rw [hbytes, List.length_append]
    exact Nat.le_add_left _ _
  exact ⟨v', hrun, .runs h.hostageByte hbytes hy hpasses hstands hstops hlen⟩

/-- The run lemma. -/
lemma BlockDecoder.Opening.run {n : Nat} (h : d.Opening v.zds header fParams body bytes y)
    (hsrc : v.src <+: bytes ++ tail) (haligned : v.Aligned istart) (hn : v.work < n) :
    ∃ v', turns (0 - 1) (d.decompressTurn istart) n v = .ok v' ∧
      d.Opens v v' header fParams body bytes y := by
  induction n generalizing v bytes with
  | zero => exact absurd hn (Nat.not_lt_zero _)
  | succ n ih =>
    by_cases hlt : v.zds.headerBuffer.length < header.length
    · obtain ⟨v', more, taken, bytes', hturn, hbytes, hbuffer, hopening, hmore⟩ :=
        h.loadMore istart hlt hsrc
      cases more with
      | true =>
        obtain ⟨hpasses, hwork⟩ := hmore
        have hsrc' : v'.src <+: bytes' ++ tail := by
          rw [hpasses.src, hbytes] at hsrc
          exact prefix_of_append hsrc
        have haligned' : v'.Aligned istart := by
          rw [DStreamVars.Aligned, hbuffer, List.append_assoc, ← hpasses.src, hpasses.toDCtx]
          exact haligned
        obtain ⟨v'', hrun, hopens⟩ := ih hopening hsrc' haligned' (by omega)
        exact ⟨v'', turns_eq_ok.mpr ⟨v', true, hturn, hrun⟩, hopens.after hpasses hbytes⟩
      | false => exact ⟨v', turns_eq_ok.mpr ⟨v', false, hturn, rfl⟩, hmore⟩
    · have hfull : v.zds.headerBuffer = header :=
        h.buffer.eq_of_length_le (Nat.not_lt.mp hlt)
      cases hsingle : singlePass fParams v.zds.format v.room istart with
      | none => exact h.blocks hfull hsrc hn hsingle
      | some cSize => exact h.single hfull hsrc haligned hsingle

end VZstd
