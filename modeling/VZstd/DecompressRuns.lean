import VZstd.BlockFrames
import VZstd.Stream.Termination

/-!
# Runs of a decompression

Each staged piece gets one codec call, and the last one decides: it has to read all that is left
and to flush all that is left, and it must not find the end of a frame on the way.
-/

namespace VZstd

open Proc

variable {D K K' : Type}

/-- A way of cutting `x` into chunks that are not empty, and a drain that never fails. -/
structure Feeding (K : Type) (x : List UInt8) where
  chunks : List Chunk
  nonempty : ∀ c ∈ chunks, 0 < c.len
  contents_eq : contents chunks = x
  drain : Drain K
  neverFails : drain.NeverFails
  sink : K
  beyond : Nat → Nat → UInt8

/-- The chunks are decompressed on fresh contexts. -/
def Feeding.run {x : List UInt8} (f : Feeding K x) (api : DecompressApi D) (d₀ : D) (fuel : Nat) :
    EStateM.Result Stop (World D Unit K) Unit :=
  feed (decompression api) fuel f.drain f.chunks
    (World.start (decompression api) d₀ f.sink f.beyond)

/-- At the last codec call, all that is left of `x` is the rest of one frame, and what it still
gives fits into the output buffer. -/
def LastCallFits (dec : Decoding) (x : List UInt8) (l : Log D Unit) : Prop :=
  ∃ cs c, l.calls = cs ++ [c] ∧ dec.Ends (bytesRead cs) (bytesPut cs) c.input.window ∧
    (dec.content x).length ≤ (bytesPut cs).length + decompressStreamOutSize

/-- `x` in one chunk. -/
def Feeding.whole (x : List UInt8) (h : 0 < x.length ∧ x.length < 2 ^ 31) : Feeding Unit x where
  chunks := [.ofArr ⟨x, h.2⟩]
  nonempty c hc := by
    rw [List.mem_singleton.mp hc]
    simpa [Chunk.ofArr] using h.1
  contents_eq := by simp
  drain _ _ := ((), none)
  neverFails _ _ := rfl
  sink := ()
  beyond _ _ := 0

/-- `x` in two chunks, the first of `n` bytes. -/
def Feeding.cut (x : List UInt8) (n : Nat) (h : 0 < n ∧ n < x.length ∧ x.length < 2 ^ 31) :
    Feeding Unit x where
  chunks := [.ofArr ⟨x.take n, by rw [List.length_take]; omega⟩,
    .ofArr ⟨x.drop n, by rw [List.length_drop]; omega⟩]
  nonempty := by
    simp [Chunk.ofArr]
    omega
  contents_eq := by simp
  drain _ _ := ((), none)
  neverFails _ _ := rfl
  sink := ()
  beyond _ _ := 0

section Contract

variable {api : DecompressApi D} {d₀ : D} {dec : Decoding} {format : Format} {x : List UInt8}
  {fuel : Nat}

/-- What holds between any two effects of a decompression. -/
def World.Decoded (api : DecompressApi D) (d₀ : D) (w : World D Unit K) : Prop :=
  w.InSession (decompression api) d₀ ∧ w.Presented (decompression api)

lemma decodedInvariant (api : DecompressApi D) (d₀ : D) :
    Invariant (decompression api).codec (World.Decoded api d₀ : World D Unit K → Prop) :=
  (World.inSessionInvariant _ d₀).and (World.presentedInvariant _)

lemma World.decoded_start (sink : K) (beyond : Nat → Nat → UInt8) :
    (World.start (decompression api) d₀ sink beyond).Decoded api d₀ :=
  ⟨inSession_start sink beyond, presented_start sink beyond⟩

/-- The last call of a decompression is a call on the stream `x`. -/
lemma World.Decoded.reading {w : World D Unit K} (h : w.Decoded api d₀)
    {cs : List (Call D Unit)} {c : Call D Unit} (hcalls : w.log.calls = cs ++ [c])
    (hok : NoErrors cs) (hregular : w.log.Regular format) (hx : w.log.staged <+: x) :
    api.decompressStream.Reading d₀ format x cs c where
  session := ⟨w.codec, hcalls ▸ h.1.session⟩
  presented := hcalls ▸ (h.2.presented hregular.harmless).trans hx
  again := hcalls ▸ h.2.again hregular.harmless
  unmistaken := hcalls ▸ hregular.unmistaken
  noErrors := hok

lemma persistent_regular : Persistent (Log.Regular format : Log D Unit → Prop) := by
  rintro l l' ⟨later, rfl⟩ hl
  exact hl.of_append

/-- A codec that decodes makes progress, and gives no more than the content. -/
lemma Decodes.productive (hdec : Decodes dec api.decompressStream d₀ format x) :
    Productive (decompression api) (World.Decoded api d₀ : World D Unit K → Prop)
      (Log.Regular format) x (dec.content x).length := by
  intro v op hv hdecoded hok _ hstaged hwindow hpos hregular hret
  have hanswer : (v.answer (v.request api.decompressStream op)).Decoded api d₀ :=
    (decodedInvariant api d₀).answer v op hdecoded
  have hreading : api.decompressStream.Reading d₀ format x v.log.calls
      (v.request api.decompressStream op) := by
    apply hanswer.reading (by simp) hok hregular
    simpa using hstaged
  constructor
  · refine hdec.progress _ _ hreading ⟨hwindow, ?_⟩ hret
    have hsize : v.sctx.output.size = decompressStreamOutSize := hv.outSize
    show decompressStreamOutSize ≤ v.sctx.output.size - v.sctx.output.pos
    omega
  · have hflushes := hdec.flushes _ _ hreading hret
    have hcontent := (hflushes.trans (dec.content_mono hreading.window)).length_le
    rw [bytesPut_append, bytesPut_cons, bytesPut_nil, List.append_nil] at hcontent
    exact hcontent

lemma Feeding.exists_last (f : Feeding K x) (hx : x ≠ []) :
    ∃ last, f.chunks.getLast? = some last ∧ 0 < last.len := by
  have hne : f.chunks ≠ [] := by
    intro hnil
    have hnil' := f.contents_eq
    rw [hnil, contents_nil] at hnil'
    exact hx hnil'.symm
  exact ⟨f.chunks.getLast hne, List.getLast?_eq_some_getLast hne,
    f.nonempty _ (List.getLast_mem hne)⟩

variable (hdec : Decodes dec api.decompressStream d₀ format x) (f : Feeding K x)
  (hfuel : x.length + (dec.content x).length < fuel)
  (hregular : (final (f.run api d₀ fuel)).log.Regular format)
include hdec hfuel hregular

lemma Feeding.run_end : FeedEnd (decompression api) f.drain
    (World.start (decompression api) d₀ f.sink f.beyond) f.chunks (f.run api d₀ fuel) := by
  apply feed_end (decodedInvariant api d₀) persistent_regular hdec.productive
    (World.ready_start d₀ f.sink f.beyond) (World.decoded_start f.sink f.beyond) ?_ hfuel hregular
  rw [f.contents_eq]
  exact List.prefix_refl x

/-- When the bytes end a frame, no codec call fails, and the run comes to the last one. -/
lemma Feeding.run_lastCall (hx : dec.FrameEnd x) :
    ∃ cs c, LastCall (decompression api) f.chunks (f.run api d₀ fuel) cs c ∧
      api.decompressStream.Reading d₀ format x cs c := by
  have hdecoded : (final (f.run api d₀ fuel)).Decoded api d₀ :=
    ((decodedInvariant api d₀).keeps_feed fuel f.drain f.chunks).final
      (World.decoded_start f.sink f.beyond)
  obtain ⟨last, hlast, hlen⟩ := f.exists_last (Decoding.FrameEnd.ne_nil hx)
  have hcodec : ∀ cs c, (final (f.run api d₀ fuel)).log.calls = cs ++ [c] → NoErrors cs →
      (∀ d ∈ cs, d.op = (decompression api).op false) → c.input.window ≠ [] →
      c.output.room = (decompression api).outSize →
      (final (f.run api d₀ fuel)).log.staged <+: contents f.chunks →
      isError c.reply.ret = false := by
    intro cs c hcalls hok _ hunread hroom hstaged
    have hreading := hdecoded.reading hcalls hok hregular (f.contents_eq ▸ hstaged)
    have hroom : c.output.room = decompressStreamOutSize := hroom
    rw [← Bool.not_eq_true]
    intro herr
    have hcorrupt := hdec.fails cs c hreading ⟨hunread, hroom.ge⟩ herr
    exact dec.not_corrupt hx (dec.corrupt_mono hreading.window hcorrupt)
  obtain ⟨cs, c, hcall⟩ :=
    (f.run_end hdec hfuel hregular).lastCall f.neverFails hlast hlen hcodec
  have hstaged : (final (f.run api d₀ fuel)).log.staged <+: x := by
    rw [hcall.staged, f.contents_eq]
  exact ⟨cs, c, hcall, hdecoded.reading hcall.calls hcall.earlier.1 hregular hstaged⟩

/-- When the bytes end a frame, the last call decides. -/
lemma Feeding.ok_iff_lastCallFits (hx : dec.FrameEnd x) :
    outcome (f.run api d₀ fuel) = .ok () ↔
      LastCallFits dec x (final (f.run api d₀ fuel)).log := by
  obtain ⟨cs, c, hcall, hreading⟩ := f.run_lastCall hdec hfuel hregular hx
  have hwindow : bytesRead cs ++ c.input.window = x :=
    (hcall.window hregular.harmless).trans f.contents_eq
  have hroom : c.output.room = decompressStreamOutSize := hcall.room
  rw [hcall.outcome_eq_ok]
  constructor
  · rintro ⟨hret, hall⟩
    refine ⟨cs, c, hcall.calls, ⟨hwindow ▸ hx, fun h => absurd h hcall.unread, ?_⟩, ?_⟩
    · intro a ha hne hend
      by_contra hopen
      -- the call would have stopped there
      obtain ⟨t, ht, hends⟩ := Decoding.exists_ends hend hopen
      have hstops := hdec.stops cs c t hreading hcall.ok hends (ht.trans ha)
      have hle := ht.length_le
      have hlt : a.length < c.input.window.length :=
        lt_of_le_of_ne ha.length_le fun heq => hne (ha.eq_of_length heq)
      omega
    · obtain ⟨_, hput⟩ := hdec.returnsZero cs c hreading hret
      have hread : bytesRead (cs ++ [c]) = x := by
        rw [← hwindow, bytesRead_append, bytesRead_cons, bytesRead_nil, List.append_nil,
          Call.consumed, hall, List.take_length]
      have hproduced : c.reply.produced.length ≤ c.output.room := by
        obtain ⟨t, hsession⟩ := hreading.session
        obtain ⟨_, _, _, hc, _⟩ := hsession.last
        rw [hc]
        exact api.decompressStream.produced_le _ _ _ _
      rw [hread, bytesPut_append, bytesPut_cons, bytesPut_nil, List.append_nil] at hput
      rw [← hput, List.length_append, ← hroom]
      exact Nat.add_le_add_left hproduced _
  · rintro ⟨cs', c', hcalls, hends, hfits⟩
    obtain ⟨rfl, hc⟩ := List.append_inj' (hcall.calls.symm.trans hcalls) rfl
    obtain rfl : c = c' := by simpa using hc
    refine hdec.finishes cs c _ hreading hcall.ok hends (List.prefix_refl _) ?_
    rwa [hwindow, hroom]

omit hfuel in
/-- A run that succeeds has decoded all of its bytes. -/
lemma Feeding.delivered_of_ok (hx : x ≠ []) (hok : outcome (f.run api d₀ fuel) = .ok ()) :
    dec.FrameEnd x ∧ (final (f.run api d₀ fuel)).log.delivered = dec.content x := by
  have hr := eq_ok_of_outcome hok
  have hdecoded := (decodedInvariant api d₀).feed_ok (World.decoded_start f.sink f.beyond) hr
  have hread := (consumed_of_feed hr hregular.harmless).trans f.contents_eq
  have hstaged := (staged_of_feed hr).trans f.contents_eq
  obtain ⟨hnoErrors, ⟨hempty, _⟩ | ⟨_, cs, c, hcalls, _, _, hret⟩⟩ := calls_of_feed hr
  · exact absurd (f.exists_last hx) hempty
  · rw [hcalls] at hnoErrors
    have hreading : api.decompressStream.Reading d₀ format x cs c := by
      apply hdecoded.reading hcalls (noErrors_append.mp hnoErrors).1 hregular
      rw [hstaged]
    obtain ⟨hend, hput⟩ := hdec.returnsZero cs c hreading hret
    rw [Log.consumed, hcalls] at hread
    rw [hread] at hend hput
    rw [delivered_of_feed hr, Log.produced, hcalls]
    exact ⟨hend, hput⟩

/-- A run on one frame succeeds if and only if what is left of the content at the last call fits
into the output buffer. -/
lemma Feeding.lastCallFits_iff (hx : dec.SingleFrame x) :
    ∃ cs c, (final (f.run api d₀ fuel)).log.calls = cs ++ [c] ∧
      (LastCallFits dec x (final (f.run api d₀ fuel)).log ↔
        (dec.content x).length ≤ (bytesPut cs).length + decompressStreamOutSize) := by
  obtain ⟨cs, c, hcall, _⟩ := f.run_lastCall hdec hfuel hregular hx.1
  have hwindow : bytesRead cs ++ c.input.window = x :=
    (hcall.window hregular.harmless).trans f.contents_eq
  refine ⟨cs, c, hcall.calls, ?_⟩
  constructor
  · rintro ⟨cs', c', hcalls, _, hfits⟩
    obtain ⟨rfl, _⟩ := List.append_inj' (hcall.calls.symm.trans hcalls) rfl
    exact hfits
  · intro hfits
    refine ⟨cs, c, hcall.calls, ⟨hwindow ▸ hx.1, fun h => absurd h hcall.unread, ?_⟩, hfits⟩
    intro a ha hne hend
    refine absurd hend (hx.2 _ ?_ ?_)
    · rw [← hwindow]
      exact (List.prefix_append_right_inj _).mpr ha
    · rw [← hwindow]
      exact fun heq => hne (List.append_cancel_left heq)

/-- A run on one frame decodes it if and only if what is left of the content at the last call fits
into the output buffer. -/
lemma Feeding.decompresses_iff (hx : dec.SingleFrame x) :
    ∃ cs c, (final (f.run api d₀ fuel)).log.calls = cs ++ [c] ∧
      (outcome (f.run api d₀ fuel) = .ok () ∧
          (final (f.run api d₀ fuel)).log.delivered = dec.content x ↔
        (dec.content x).length ≤ (bytesPut cs).length + decompressStreamOutSize) := by
  obtain ⟨cs, c, hcalls, hfits⟩ := f.lastCallFits_iff hdec hfuel hregular hx
  refine ⟨cs, c, hcalls, ?_⟩
  rw [← hfits, ← f.ok_iff_lastCallFits hdec hfuel hregular hx.1]
  refine and_iff_left_of_imp fun hok => ?_
  exact (f.delivered_of_ok hdec hregular (Decoding.FrameEnd.ne_nil hx.1) hok).2

end Contract

/-! ### One frame -/

/-- A frame of 14 bytes, with two blocks of 131072 equal bytes. -/
def twoBlocks : List UInt8 :=
  [0x28, 0xB5, 0x2F, 0xFD, 0x00, 0x58, 0x02, 0x00, 0x10, 7, 0x03, 0x00, 0x10, 7]

lemma length_content_twoBlocks : 262144 ≤ (blockDecoding.content twoBlocks).length := by
  have hfirst : blocks.state (twoBlocks.take 9) = .rle 131072 (Nat.le_refl _) false := by
    decide +kernel
  have hsecond : blocks.state (twoBlocks.take 13) = .rle 131072 (Nat.le_refl _) true := by
    decide +kernel
  have hprefix : blocks.output (twoBlocks.take 9 ++ [7]) <+: blocks.output (twoBlocks.take 13) :=
    Transducer.output_prefix ⟨[0x03, 0x00, 0x10], rfl⟩
  have hsplit : blockDecoding.content twoBlocks = blocks.output (twoBlocks.take 13 ++ [7]) :=
    congrArg blocks.output rfl
  have hlen := hprefix.length_le
  rw [output_rle hfirst, List.length_append, List.length_replicate] at hlen
  rw [hsplit, output_rle hsecond, List.length_append, List.length_replicate]
  omega

/-- Two runs agree: both succeed with the same bytes, or both raise an error. -/
def Agree (r : EStateM.Result Stop (World D Unit K) Unit)
    (r' : EStateM.Result Stop (World D Unit K') Unit) : Prop :=
  (outcome r = .ok () ∧ outcome r' = .ok () ∧ (final r).log.delivered = (final r').log.delivered) ∨
    ∃ e e', outcome r = .error (.raised e) ∧ outcome r' = .error (.raised e')

/-- No bytes are cut into no chunks. -/
lemma Feeding.chunks_eq_nil (f : Feeding K []) : f.chunks = [] := by
  cases hchunks : f.chunks with
  | nil => rfl
  | cons c cs =>
    have hlen := f.nonempty c (by simp [hchunks])
    have hcontents := congrArg List.length f.contents_eq
    rw [hchunks, contents_cons, List.length_append, Chunk.length_content, List.length_nil]
      at hcontents
    omega

section Agree

variable {api : DecompressApi D} {d₀ : D} {dec : Decoding} {format : Format} {x : List UInt8}
  {fuel fuel' : Nat}

lemma agree_of_nil (f : Feeding K []) (f' : Feeding K' []) :
    Agree (f.run api d₀ fuel) (f'.run api d₀ fuel') := by
  left
  rw [Feeding.run, Feeding.run, f.chunks_eq_nil, f'.chunks_eq_nil]
  exact ⟨rfl, rfl, rfl⟩

/-- Runs that both succeed have decoded the same bytes. -/
lemma agree_iff_ok (hdec : Decodes dec api.decompressStream d₀ format x) (f : Feeding K x)
    (f' : Feeding K' x) (hfuel : x.length + (dec.content x).length < fuel)
    (hfuel' : x.length + (dec.content x).length < fuel')
    (hregular : (final (f.run api d₀ fuel)).log.Regular format)
    (hregular' : (final (f'.run api d₀ fuel')).log.Regular format) (hx : x ≠ []) :
    Agree (f.run api d₀ fuel) (f'.run api d₀ fuel') ↔
      (outcome (f.run api d₀ fuel) = .ok () ↔ outcome (f'.run api d₀ fuel') = .ok ()) := by
  constructor
  · rintro (⟨hok, hok', _⟩ | ⟨e, e', herr, herr'⟩)
    · exact iff_of_true hok hok'
    · rw [herr, herr']
      exact iff_of_false (fun h => nomatch h) (fun h => nomatch h)
  · intro hiff
    rcases (f.run_end hdec hfuel hregular).outcome_cases with hok | ⟨e, herr⟩
    · have hok' := hiff.mp hok
      obtain ⟨_, hdelivered⟩ := f.delivered_of_ok hdec hregular hx hok
      obtain ⟨_, hdelivered'⟩ := f'.delivered_of_ok hdec hregular' hx hok'
      exact .inl ⟨hok, hok', hdelivered.trans hdelivered'.symm⟩
    · rcases (f'.run_end hdec hfuel' hregular').outcome_cases with hok' | ⟨e', herr'⟩
      · rw [hiff.mpr hok'] at herr
        cases herr
      · exact .inr ⟨e, e', herr, herr'⟩

end Agree

end VZstd
