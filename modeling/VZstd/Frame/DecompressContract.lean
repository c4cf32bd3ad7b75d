import VZstd.DecompressRuns
import VZstd.Frame.DecompressSession
import VZstd.Lib.Beginnings

/-!
# The contract of a decompression stream

`ZSTD_decompressStream` as it is modelled keeps the contracts of `VZstd.Decoding`, on every stream
of frames and on every beginning of one.
-/

namespace VZstd

open Beginnings History Proc

variable {E : Type} {d : BlockDecoder E} {dctx : DCtx} {maxWindowSize : Nat} {zds : DStream E}
  {stream content done out bytes cur p q t window x y : List UInt8}
  {cs : List (Call (DStream E) Unit)} {c : Call (DStream E) Unit}

/-! ### What the bytes mean -/

/-- The frames that a stream accepts say what its bytes mean. -/
noncomputable def BlockDecoder.streamDecoding (d : BlockDecoder E) (dctx : DCtx)
    (maxWindowSize : Nat) : Decoding where
  content := given (d.AreStreamFrames dctx maxWindowSize)
  FrameEnd x := x ≠ [] ∧ ∃ y, d.AreStreamFrames dctx maxWindowSize x y
  Corrupt x := ¬Begins (d.AreStreamFrames dctx maxWindowSize) x
  content_nil := List.prefix_nil.mp (given_prefix_of_rel .nil .nil List.nil_prefix)
  frameEnd_nil h := h.1 rfl
  content_mono := given_mono .nil
  corrupt_mono h hcorrupt hbegins := hcorrupt (hbegins.of_prefix h)
  not_corrupt := by
    rintro x ⟨-, y, h⟩ hcorrupt
    exact hcorrupt ⟨x, y, h, List.prefix_refl x⟩

lemma BlockDecoder.AreStreamFrames.gives (h : d.AreStreamFrames dctx maxWindowSize x y) :
    Gives (d.AreStreamFrames dctx maxWindowSize) x y := by
  rintro _ z hz ⟨rest, rfl⟩
  obtain ⟨y', rfl, -⟩ := h.behind hz
  exact List.prefix_append _ _

lemma BlockDecoder.AreStreamFrames.content_eq (h : d.AreStreamFrames dctx maxWindowSize x y) :
    (d.streamDecoding dctx maxWindowSize).content x = y :=
  given_eq .nil h h.gives

/-! ### Sessions on a beginning of a stream -/

/-- What the calls have read says whether a header is being collected. -/
lemma BlockDecoder.Follows.unmistaken (h : d.Follows dctx maxWindowSize zds p q bytes y)
    (hwindow : p ≠ [] → (getFrameHeaderAdvanced p dctx.format).isOk = false →
      (findFrameSizeInfo window dctx.format).isOk = false) : zds.Unmistaken window := by
  intro hstage hbuffer info hinfo
  obtain ⟨rfl, -, hawaits⟩ := h
  cases hawaits with
  | between hclosed _ =>
    rcases hclosed.start with hinit | ⟨-, hnil⟩
    · rw [hinit] at hstage
      cases hstage
    · exact hbuffer hnil
  | within hframe hp _ hunderway _ =>
    cases hunderway with
    | opening _ hcut h =>
      have hread : zds.headerBuffer = p := List.append_cancel_right (h.rest.trans hp)
      obtain ⟨n, herror, -⟩ := h.isFrame.isHeader.error_of_prefix h.isFrame.not_skippable h.buffer
        hcut
      rw [hread] at hbuffer herror
      have hnot := hwindow hbuffer (by rw [herror]; rfl)
      rw [hinfo] at hnot
      cases hnot
    | going _ _ _ _ _ h => exact h.not_loadHeader hstage
    | held _ _ _ _ h => exact h.not_loadHeader hstage

/-- Where nothing has been read of the frame that is open, nothing has been put. -/
lemma BlockDecoder.Follows.put_eq_nil (h : d.Follows dctx maxWindowSize zds [] q bytes y) :
    q = [] := by
  obtain ⟨rfl, rfl, hawaits⟩ := h
  generalize hp : ([] : List UInt8) = p at hawaits
  cases hawaits with
  | between => rfl
  | @within _ q cur z _ _ header body x fParams hframe hparts hq hunderway _ =>
    subst hp
    rw [List.nil_append] at hparts
    have hlength := congrArg List.length hparts
    have hheader := List.length_pos_iff.mpr hframe.header_ne_nil
    have hbody := List.length_pos_iff.mpr hframe.body_ne_nil
    rw [List.length_append] at hlength
    cases hunderway with
    | opening _ _ h =>
      obtain ⟨-, rfl⟩ := (selfDelimiting_isOneStreamFrame _ _ _).unique ⟨_, _, _, rfl, hframe⟩
        ⟨_, _, _, rfl, h.isFrame⟩ (List.prefix_refl _)
      exact List.append_cancel_right hq.symm
    | going _ hlen =>
      omega
    | held b =>
      rw [List.length_singleton] at hlength
      omega

/-- What has been read of the frame that is open has no frame at its start. -/
lemma BlockDecoder.Follows.not_frame (h : d.Follows dctx maxWindowSize zds p q bytes y)
    (hframe : d.IsOneStreamFrame dctx maxWindowSize t x) : ¬t <+: p := by
  intro ht
  obtain ⟨-, -, hawaits⟩ := h
  cases hawaits with
  | between =>
    rw [List.prefix_nil.mp ht] at hframe
    exact (selfDelimiting_isOneStreamFrame _ _ _).nonempty _ hframe
  | within hopen hp _ hunderway _ =>
    obtain ⟨hsame, -⟩ := (selfDelimiting_isOneStreamFrame _ _ _).unique hframe
      ⟨_, _, _, rfl, hopen⟩ (ht.trans (hp ▸ List.prefix_append _ _))
    have hlength := congrArg List.length hsame
    have hcur := List.length_pos_iff.mpr hunderway.ne_nil
    have hle := ht.length_le
    rw [hp, List.length_append] at hlength
    omega

lemma streams_snoc (h : d.AreStreamFrames dctx maxWindowSize stream content)
    (hmax : maxWindowSize ≤ 2 ^ windowLogMax) (hx : x <+: stream)
    (hreads : d.streamCodec.Reads (d.createDStream dctx maxWindowSize) dctx.format x (cs ++ [c]))
    (hok : NoErrors cs) (hstreams : Streams stream cs) : Streams stream (cs ++ [c]) := by
  obtain ⟨_, hsession⟩ := hreads.session
  obtain ⟨done, out, bytes, y, hat⟩ := h.isAt hmax hsession.last.1 hok hstreams
  refine streams_append_singleton.mpr
    ⟨hstreams, (always_snoc.mp hreads.presented).2.trans hx, hat.follows.unmistaken ?_⟩
  exact fun hne hheader => (always_snoc.mp hreads.unmistaken).2 ⟨hne, hheader⟩

lemma streams_of_reads (h : d.AreStreamFrames dctx maxWindowSize stream content)
    (hmax : maxWindowSize ≤ 2 ^ windowLogMax) (hx : x <+: stream)
    (hreads : d.streamCodec.Reads (d.createDStream dctx maxWindowSize) dctx.format x cs)
    (hok : NoErrors cs) : Streams stream cs := by
  induction cs using List.reverseRecOn with
  | nil => exact ⟨always_nil, fun c hc => absurd hc List.not_mem_nil⟩
  | append_singleton cs c ih =>
    have hbefore := (noErrors_append.mp hok).1
    exact streams_snoc h hmax hx hreads hbefore (ih hreads.of_snoc hbefore)

/-- The last call of a session, which may fail. -/
lemma BlockDecoder.AreStreamFrames.proceeds
    (h : d.AreStreamFrames dctx maxWindowSize stream content)
    (hmax : maxWindowSize ≤ 2 ^ windowLogMax) (hx : x <+: stream)
    (hreading :
      d.streamCodec.Reading (d.createDStream dctx maxWindowSize) dctx.format x cs c) :
    ∃ done out bytes y,
      d.IsAt dctx maxWindowSize stream content cs c.state done out bytes y ∧
        ((isError c.reply.ret = true ∧ (c.input.window = [] ∨ c.output.room = 0)) ∨
          d.Proceeds dctx maxWindowSize c.state c.input.window c.output.room c.reply
            (bytesRead (openCalls cs)) (bytesPut (openCalls cs)) bytes y) := by
  have hstreams := streams_of_reads h hmax hx hreading.toReads.of_snoc hreading.noErrors
  have hlast := streams_snoc h hmax hx hreading.toReads hreading.noErrors hstreams
  obtain ⟨-, hsrc, hunmistaken⟩ := streams_append_singleton.mp hlast
  obtain ⟨_, hsession⟩ := hreading.session
  obtain ⟨hbefore, hout, hin, hcall, -⟩ := hsession.last
  have hreply : c.reply = d.decompressStream c.state c.output c.input := congrArg Call.reply hcall
  obtain ⟨done, out, bytes, y, hat⟩ := h.isAt hmax hbefore hreading.noErrors hstreams
  refine ⟨done, out, bytes, y, hat, ?_⟩
  rw [hreply]
  exact hat.call hmax hsrc hunmistaken hin hout

/-- The last call of a session, which does not fail. -/
lemma BlockDecoder.AreStreamFrames.proceeds_of_ok
    (h : d.AreStreamFrames dctx maxWindowSize stream content)
    (hmax : maxWindowSize ≤ 2 ^ windowLogMax) (hx : x <+: stream)
    (hreading :
      d.streamCodec.Reading (d.createDStream dctx maxWindowSize) dctx.format x cs c)
    (hok : isError c.reply.ret = false) :
    ∃ done out bytes y,
      d.IsAt dctx maxWindowSize stream content cs c.state done out bytes y ∧
        d.Proceeds dctx maxWindowSize c.state c.input.window c.output.room c.reply
          (bytesRead (openCalls cs)) (bytesPut (openCalls cs)) bytes y := by
  obtain ⟨done, out, bytes, y, hat, ⟨herror, -⟩ | hproceeds⟩ := h.proceeds hmax hx hreading
  · rw [hok] at herror
    cases herror
  · exact ⟨done, out, bytes, y, hat, hproceeds⟩

/-! ### The end of a frame -/

/-- Where no frame is open, all of the content has been put. -/
lemma BlockDecoder.IsAt.put_eq
    (h : d.IsAt dctx maxWindowSize stream content cs zds done out bytes y)
    (hopen : bytesRead (openCalls cs) = []) :
    bytesPut cs = (d.streamDecoding dctx maxWindowSize).content (bytesRead cs) := by
  have hfollows := h.follows
  rw [hopen] at hfollows
  rw [h.read, h.put, hopen, hfollows.put_eq_nil, List.append_nil, List.append_nil,
    h.frames.content_eq]

/-- The bytes `t` complete the frame that is open. -/
lemma BlockDecoder.IsAt.complete
    (h : d.IsAt dctx maxWindowSize stream content cs zds done out bytes y)
    (hframe : d.IsOneStreamFrame dctx maxWindowSize (bytesRead (openCalls cs) ++ t)
      (bytesPut (openCalls cs) ++ x)) :
    (d.streamDecoding dctx maxWindowSize).FrameEnd (bytesRead cs ++ t) ∧
      (d.streamDecoding dctx maxWindowSize).content (bytesRead cs ++ t) = bytesPut cs ++ x := by
  have hframes := h.frames.append hframe.areStreamFrames
  rw [← List.append_assoc, ← List.append_assoc, ← h.read, ← h.put] at hframes
  refine ⟨⟨fun hnil => ?_, _, hframes⟩, hframes.content_eq⟩
  obtain ⟨hread, ht⟩ := List.append_eq_nil_iff.mp hnil
  rw [h.read] at hread
  rw [(List.append_eq_nil_iff.mp hread).2, ht, List.append_nil] at hframe
  exact (selfDelimiting_isOneStreamFrame _ _ _).nonempty _ hframe

/-- The frame that is open ends where its own bytes end. -/
lemma BlockDecoder.IsAt.eq_of_ends
    (h : d.IsAt dctx maxWindowSize stream content cs zds done out (cur ++ bytes) y)
    (hframe : d.IsOneStreamFrame dctx maxWindowSize (bytesRead (openCalls cs) ++ cur)
      (bytesPut (openCalls cs) ++ x))
    (hcur : cur ≠ []) (ht : t <+: cur ++ bytes)
    (hends : (d.streamDecoding dctx maxWindowSize).Ends (bytesRead cs) (bytesPut cs) t) :
    t = cur := by
  obtain ⟨-, z, hz⟩ := hends.frameEnd
  rw [h.read, List.append_assoc] at hz
  obtain ⟨y', -, hopen⟩ := h.frames.behind hz
  generalize hall : bytesRead (openCalls cs) ++ t = all at hopen
  cases hopen with
  | nil =>
    obtain ⟨hnil, ht⟩ := List.append_eq_nil_iff.mp hall
    exact absurd (h.put_eq hnil) (hends.isOpen ht)
  | @cons header body _ more _ fParams hfirst _ =>
    obtain ⟨rest, hrest⟩ := ht
    have heq : (bytesRead (openCalls cs) ++ cur) ++ bytes = (header ++ body) ++ (more ++ rest) := by
      rw [List.append_assoc, ← hrest, ← List.append_assoc, hall, List.append_assoc _ more]
    obtain ⟨hsame, -, -⟩ := (selfDelimiting_isOneStreamFrame _ _ _).eq_of_append hframe
      ⟨_, _, _, rfl, hfirst⟩ heq
    rw [← hsame, List.append_assoc] at hall
    have hprefix : cur <+: t := ⟨more, (List.append_cancel_left hall).symm⟩
    by_contra hne
    exact hcur (hends.first cur hprefix (Ne.symm hne) (h.complete hframe).1).1

/-- A call that is given the end of a frame is a call on this frame. -/
lemma BlockDecoder.IsAt.answers_of_ends
    (h : d.IsAt dctx maxWindowSize stream content cs c.state done out bytes y)
    (hproceeds : d.Proceeds dctx maxWindowSize c.state c.input.window c.output.room c.reply
      (bytesRead (openCalls cs)) (bytesPut (openCalls cs)) bytes y)
    (hsrc : bytesRead cs ++ c.input.window <+: stream) (ht : t <+: c.input.window)
    (hends : (d.streamDecoding dctx maxWindowSize).Ends (bytesRead cs) (bytesPut cs) t) :
    ∃ header fParams body z,
      d.Answers c.state header fParams body c.input.window c.output.room t z c.reply ∧
        (d.streamDecoding dctx maxWindowSize).content (bytesRead cs ++ t) = bytesPut cs ++ z := by
  rw [h.stream_eq] at hsrc
  have hbytes := ht.trans ((List.prefix_append_right_inj _).mp hsrc)
  generalize hp : bytesRead (openCalls cs) = p at hproceeds
  generalize hq : bytesPut (openCalls cs) = q at hproceeds
  cases hproceeds with
  | idle => exact absurd (h.put_eq hp) (hends.isOpen (List.prefix_nil.mp hbytes))
  | @frame _ _ cur z _ _ header body x fParams hframe hread hput hne _ hanswers =>
    have hopen : d.IsOneStreamFrame dctx maxWindowSize (bytesRead (openCalls cs) ++ cur)
        (bytesPut (openCalls cs) ++ z) := by
      rw [hp, hq, ← hput]
      exact ⟨header, fParams, body, hread.symm, hframe⟩
    obtain rfl := h.eq_of_ends hopen hne hbytes hends
    exact ⟨header, fParams, body, z, hanswers, (h.complete hopen).2⟩

/-! ### The answer of a call -/

section Answers

variable {header body z : List UInt8} {fParams : FrameHeader} {room : Nat}
  {r : Reply (DStream E)}

lemma BlockDecoder.Answers.consumed_le
    (h : d.Answers zds header fParams body window room cur z r)
    (hle : r.consumed ≤ window.length) : r.consumed ≤ cur.length := by
  obtain ⟨cur', z', hcur, -⟩ := h.parts
  have hlength := congrArg List.length hcur
  rw [List.length_append, List.length_take, Nat.min_eq_left hle] at hlength
  omega

/-- A frame is finished when all of it is there and there is room for what it still gives. -/
lemma BlockDecoder.Answers.finishes
    (h : d.Answers zds header fParams body window room cur z r)
    (hle : r.consumed ≤ window.length) (hcur : cur <+: window) (hz : z.length ≤ room) :
    r.ret = 0 ∧ r.consumed = cur.length := by
  obtain ⟨cur', z', hparts, hput, ⟨-, hunderway, hall | ⟨hfull, hne⟩⟩ | ⟨hret, -, hnil, -⟩⟩ :=
    h.parts
  · -- all of the window is read, and the frame goes on behind it
    have hlength := congrArg List.length hparts
    rw [hall, List.take_length, List.length_append] at hlength
    have hpos := List.length_pos_iff.mpr hunderway.ne_nil
    have hshort := hcur.length_le
    omega
  · -- the room is used up, and there is more to put
    have hpos := List.length_pos_iff.mpr hne
    rw [hput, List.length_append] at hz
    omega
  · have hlength := congrArg List.length hparts
    rw [hnil, List.append_nil, List.length_take, Nat.min_eq_left hle] at hlength
    exact ⟨hret, hlength.symm⟩

lemma BlockDecoder.Answers.progress
    (h : d.Answers zds header fParams body window room cur z r) (hcur : cur ≠ [])
    (hwindow : window ≠ []) (hroom : 0 < room) : 0 < r.consumed + r.produced.length := by
  have hpos := List.length_pos_iff.mpr hwindow
  obtain ⟨cur', z', hparts, -, ⟨-, -, hall | ⟨hfull, -⟩⟩ | ⟨-, -, hnil, -⟩⟩ := h.parts
  · omega
  · omega
  · have hlength := List.length_pos_iff.mpr hcur
    rw [hparts, hnil, List.append_nil, List.length_take] at hlength
    omega

end Answers

/-! ### The contracts -/

section Contracts

variable (h : d.AreStreamFrames dctx maxWindowSize stream content)
  (hmax : maxWindowSize ≤ 2 ^ windowLogMax) (hx : x <+: stream)
include h hmax hx

/-- 0 is returned where a frame is complete. -/
theorem endsFrames_streamCodec :
    EndsFrames d.streamCodec (d.createDStream dctx maxWindowSize) dctx.format x
      (d.IsOneStreamFrame dctx maxWindowSize) := by
  intro cs c hreads hok
  obtain ⟨hbefore, hlast⟩ := noErrors_append.mp hok
  obtain ⟨done, out, bytes, y, hat, hproceeds⟩ :=
    h.proceeds_of_ok hmax hx ⟨hreads, hbefore⟩ (noErrors_singleton.mp hlast)
  obtain ⟨bytes', y', -, -, hnext⟩ := hproceeds.next hat.follows.sameDCtx hat.follows.sameWindow
  simp only [bytesRead_append, bytesRead_cons, bytesRead_nil, bytesPut_append, bytesPut_cons,
    bytesPut_nil, List.append_nil, Call.consumed]
  constructor
  · intro hret
    rw [if_pos hret] at hnext
    exact hnext.1
  · intro hframe
    by_contra hret
    rw [if_neg hret] at hnext
    exact hnext.not_frame hframe (List.prefix_refl _)

theorem stopsAtFrames_streamCodec :
    StopsAtFrames d.streamCodec (d.createDStream dctx maxWindowSize) dctx.format x
      (d.IsOneStreamFrame dctx maxWindowSize) := by
  intro cs hreads hok a y hframe ha
  have hstreams := streams_of_reads h hmax hx hreads hok
  obtain ⟨_, hsession⟩ := hreads.session
  obtain ⟨done, out, bytes, y', hat⟩ := h.isAt hmax hsession hok hstreams
  exact absurd ha (hat.follows.not_frame hframe)

/-- The calls mean what the frames say. -/
theorem decodes_streamCodec :
    Decodes (d.streamDecoding dctx maxWindowSize) d.streamCodec
      (d.createDStream dctx maxWindowSize) dctx.format x where
  fails cs c hreading hserved herror := by
    obtain ⟨done, out, bytes, y, -, ⟨-, hnil | hfull⟩ | hproceeds⟩ := h.proceeds hmax hx hreading
    · exact absurd hnil hserved.unread
    · have hroom := hserved.room
      rw [hfull, decompressStreamOutSize_eq] at hroom
      omega
    · have hcontra := herror.symm.trans hproceeds.noError
      cases hcontra
  flushes cs c hreading hok := by
    have hwindow := hreading.window
    have hbegins : Begins (d.AreStreamFrames dctx maxWindowSize)
        (bytesRead cs ++ c.input.window) := ⟨stream, content, h, hwindow.trans hx⟩
    refine prefix_given .nil hbegins fun s z hs hprefix => ?_
    -- what was given to the calls is also a beginning of the other stream
    have hagain : Presents s (cs ++ [c]) := always_snoc.mpr
      ⟨(always_snoc.mp hreading.again).2.trans hprefix, hprefix⟩
    have hunmistaken := (streams_snoc h hmax hx hreading.toReads hreading.noErrors
      (streams_of_reads h hmax hx hreading.toReads.of_snoc hreading.noErrors)).unmistaken
    obtain ⟨_, hsession⟩ := hreading.session
    have hall := noErrors_append.mpr ⟨hreading.noErrors, noErrors_singleton.mpr hok⟩
    obtain ⟨done, out, bytes, y, hat⟩ := hs.isAt hmax hsession hall ⟨hagain, hunmistaken⟩
    exact hat.content_eq ▸ List.prefix_append _ _
  returnsZero cs c hreading hret := by
    obtain ⟨done, out, bytes, y, hat, hproceeds⟩ :=
      h.proceeds_of_ok hmax hx hreading (hret ▸ isError_zero)
    obtain ⟨bytes', y', -, -, hnext⟩ := hproceeds.next hat.follows.sameDCtx hat.follows.sameWindow
    rw [if_pos hret] at hnext
    obtain ⟨hend, hcontent⟩ := hat.complete hnext.1
    simp only [bytesRead_append, bytesRead_cons, bytesRead_nil, bytesPut_append, bytesPut_cons,
      bytesPut_nil, List.append_nil, Call.consumed]
    exact ⟨hend, hcontent.symm⟩
  stops cs c t hreading hok hends ht := by
    obtain ⟨done, out, bytes, y, hat, hproceeds⟩ := h.proceeds_of_ok hmax hx hreading hok
    obtain ⟨header, fParams, body, z, hanswers, -⟩ :=
      hat.answers_of_ends hproceeds (hreading.window.trans hx) ht hends
    exact hanswers.consumed_le hreading.consumed_le
  finishes cs c t hreading hok hends ht hfits := by
    obtain ⟨done, out, bytes, y, hat, hproceeds⟩ := h.proceeds_of_ok hmax hx hreading hok
    obtain ⟨header, fParams, body, z, hanswers, hcontent⟩ :=
      hat.answers_of_ends hproceeds (hreading.window.trans hx) ht hends
    rw [hcontent, List.length_append] at hfits
    exact hanswers.finishes hreading.consumed_le ht (Nat.le_of_add_le_add_left hfits)
  progress cs c hreading hserved hok := by
    obtain ⟨done, out, bytes, y, -, hproceeds⟩ := h.proceeds_of_ok hmax hx hreading hok
    have hroom : 0 < c.output.room :=
      Nat.lt_of_lt_of_le (by rw [decompressStreamOutSize_eq]; decide) hserved.room
    generalize bytesRead (openCalls cs) = p at hproceeds
    generalize bytesPut (openCalls cs) = q at hproceeds
    cases hproceeds with
    | idle hnil => exact absurd hnil hserved.unread
    | frame _ _ _ hne _ hanswers => exact hanswers.progress hne hserved.unread hroom

end Contracts

/-! ### Frames in chunks -/

lemma BlockDecoder.IsOneStreamFrame.singleFrame
    (h : d.IsOneStreamFrame dctx maxWindowSize x y) :
    (d.streamDecoding dctx maxWindowSize).SingleFrame x := by
  have hself := selfDelimiting_isOneStreamFrame d dctx maxWindowSize
  refine ⟨⟨fun hnil => hself.nonempty y (hnil ▸ h), y, h.areStreamFrames⟩, ?_⟩
  rintro a ⟨rest, hrest⟩ hne ⟨hnil, z, hframes⟩
  cases hframes with
  | nil => exact hnil rfl
  | cons hfirst _ =>
    rw [List.append_assoc] at hrest
    obtain ⟨rfl, -, hbehind⟩ := hself.eq_of_append ⟨_, _, _, rfl, hfirst⟩ h
      (hrest.trans (List.append_nil x).symm)
    rw [(List.append_eq_nil_iff.mp hbehind).1, List.append_nil] at hne
    exact hne rfl

/-- A frame that is fed to `ZSTD_decompressStream` in chunks is decompressed if and only if what is
left of its content at the last call fits into the output buffer. -/
theorem streamFrame_decompresses_iff {K : Type} {api : DecompressApi (DStream E)}
    (hapi : api.decompressStream = d.streamCodec)
    (h : d.IsOneStreamFrame dctx maxWindowSize x y) (hmax : maxWindowSize ≤ 2 ^ windowLogMax)
    (f : Feeding K x) {fuel : Nat} (hfuel : x.length + y.length < fuel)
    (hregular : (final (f.run api (d.createDStream dctx maxWindowSize) fuel)).log.Regular
      dctx.format) :
    let r := f.run api (d.createDStream dctx maxWindowSize) fuel
    ∃ cs c, (final r).log.calls = cs ++ [c] ∧
      (outcome r = .ok () ∧ (final r).log.delivered = y ↔
        y.length ≤ (bytesPut cs).length + decompressStreamOutSize) := by
  intro r
  have hcontent := h.areStreamFrames.content_eq
  have hdec := decodes_streamCodec h.areStreamFrames hmax (List.prefix_refl x)
  rw [← hapi] at hdec
  rw [← hcontent] at hfuel ⊢
  exact f.decompresses_iff hdec hfuel hregular h.singleFrame

/-- Three bytes in two chunks. -/
example :
    let x : List UInt8 := [40, 181, 47, 253, 36, 3, 25, 0, 0, 97, 98, 99, 153, 9, 119, 173]
    let api := DecompressApi.ofCodec noDecode.streamCodec
    let r := (Feeding.cut x 10 (by decide)).run api (noDecode.createDStream .default 2097152) 32
    outcome r = .ok () ∧ (final r).log.delivered = [97, 98, 99] ∧
      (final r).log.Regular .zstd1 := by
  decide +kernel

-- A header that is cut, and a chunk that is a skippable frame by itself: the call takes it for the
-- frame, and a truncated stream is reported as finished. The run is not regular.
example :
    let api := DecompressApi.ofCodec noDecode.streamCodec
    let r := feed (decompression api) 2 (fun _ _ => ((), none))
      [.ofArr ⟨[40, 181, 47, 253, 64], by decide⟩,
        .ofArr ⟨[80, 42, 77, 24, 1, 0, 0, 0, 99], by decide⟩]
      (World.start (decompression api) (noDecode.createDStream .default 2097152) () fun _ _ => 0)
    outcome r = .ok () ∧ (final r).log.delivered = [] ∧ ¬(final r).log.Regular .zstd1 := by
  decide +kernel

end VZstd
