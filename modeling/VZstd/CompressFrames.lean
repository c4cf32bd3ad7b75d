import Mathlib.Data.List.Iterate
import VZstd.Stream.Termination
import VZstd.Storing

/-!
# Frames that are written in chunks

A compression that is ended with `last = true` makes one `ZSTD_e_end` call, with the last piece of
the final chunk. So no frame is written when the final chunk is empty, and a frame whose rest does
not fit into the output buffer fails, although another call would have finished it.
-/

namespace VZstd

open Proc

variable {C K : Type}

/-- `c` comes after calls that only continued the frame. -/
def Codec.Continues (codec : Codec C EndDirective) (c₀ : C) (cs : List (Call C EndDirective))
    (c : Call C EndDirective) : Prop :=
  (∃ t, codec.Session c₀ (cs ++ [c]) t) ∧ ∀ d ∈ cs, d.op = .eContinue

lemma Codec.Continues.session {codec : Codec C EndDirective} {c₀ : C}
    {cs : List (Call C EndDirective)} {c : Call C EndDirective} (h : codec.Continues c₀ cs c) :
    codec.Session c₀ (cs ++ [c]) c.reply.state := by
  obtain ⟨⟨t, hsession⟩, -⟩ := h
  obtain ⟨-, -, -, -, rfl⟩ := hsession.last
  exact hsession

/-- What zstd.h says of the frame that `ZSTD_compressStream2` writes from the state `c₀` on, with
calls that continue it and then one that may end it. `IsFrame y x`: the bytes `y` are one complete
frame with the content `x`. -/
structure Encodes (codec : Codec C EndDirective) (c₀ : C)
    (IsFrame : List UInt8 → List UInt8 → Prop) : Prop where
  /-- `ZSTD_e_end` returns 0 when the frame is complete, and it holds what was read -/
  closes : ∀ cs c, codec.Continues c₀ cs c → NoErrors (cs ++ [c]) → c.ClosesFrame →
    IsFrame (bytesPut (cs ++ [c])) (bytesRead (cs ++ [c]))
  /-- only `ZSTD_e_end` writes the epilogue -/
  staysOpen : ∀ cs t, codec.Session c₀ cs t → NoErrors cs → (∀ d ∈ cs, d.op = .eContinue) →
    ∀ x, ¬IsFrame (bytesPut cs) x

/-- A codec that never fails, and of which zstd.h says when a frame can be finished. `toFlush s x`:
how many bytes end the frame that is open in the state `s` once it has read `x`. -/
structure Finishes (codec : Codec C EndDirective) (c₀ : C) (toFlush : C → List UInt8 → Nat)
    (limit : Nat → Nat) : Prop where
  noError : ∀ cs c, codec.Continues c₀ cs c → isError c.reply.ret = false
  /-- `ZSTD_e_end` flushes until it is done or the output buffer is full -/
  finishes : ∀ cs c, codec.Continues c₀ cs c → c.op = .eEnd →
    (c.reply.ret = 0 ∧ c.reply.consumed = c.input.window.length ↔
      toFlush c.state c.input.window ≤ c.output.room)
  /-- some forward progress is guaranteed -/
  progress : ∀ cs c, codec.Continues c₀ cs c → c.input.window ≠ [] → 0 < c.output.room →
    0 < c.reply.consumed + c.reply.produced.length
  /-- what is read gives a bounded number of bytes -/
  limited : ∀ cs c, codec.Continues c₀ cs c →
    (bytesPut (cs ++ [c])).length ≤ limit (bytesRead (cs ++ [c])).length
  limit_mono : ∀ m n, m ≤ n → limit m ≤ limit n

lemma not_closesFrame_of_continue {cs : List (Call C EndDirective)}
    (hops : ∀ d ∈ cs, d.op = .eContinue) : ∀ d ∈ cs, ¬d.ClosesFrame := by
  rintro d hd ⟨hend, _⟩
  rw [hops d hd] at hend
  cases hend

/-- The storing codec writes the frames that it should. -/
lemma storingApi_encodes :
    Encodes storingApi.compressStream2 (.taking []) (fun y x => y = storedFrame x) where
  closes cs c h _ hclose := by
    obtain ⟨⟨t, hsession⟩, hops⟩ := h
    obtain ⟨hbefore, _, _, hc, _⟩ := hsession.last
    rw [hc] at hclose ⊢
    exact (Storing.written_of_session hbefore (not_closesFrame_of_continue hops)).close hclose
  staysOpen cs t h _ hops x hframe := by
    have hends : ∀ d ∈ cs, d.op ≠ .eEnd := by
      intro d hd
      simp [hops d hd]
    rw [(Storing.taking_of_session h hends).2] at hframe
    simp [storedFrame] at hframe

/-- A call of the storing codec that only continued the frame before. -/
lemma Codec.Continues.storing {cs : List (Call Storing EndDirective)}
    {c : Call Storing EndDirective} (h : storing.Continues (.taking []) cs c) :
    c.state = .taking (bytesRead cs) ∧ bytesPut cs = [] ∧
      c.reply = c.state.reply c.op c.output.room c.input.window := by
  obtain ⟨⟨t, hsession⟩, hops⟩ := h
  obtain ⟨hbefore, _, _, hc, _⟩ := hsession.last
  have hends : ∀ d ∈ cs, d.op ≠ .eEnd := by
    intro d hd
    simp [hops d hd]
  obtain ⟨hstate, hput⟩ := Storing.taking_of_session hbefore hends
  exact ⟨hstate, hput, congrArg Call.reply hc⟩

lemma isError_blockSizeMax : isError blockSizeMax = false := by decide

/-- The storing codec finishes a frame as soon as it can. -/
lemma storingApi_finishes :
    Finishes storingApi.compressStream2 (.taking []) (fun s x => (s.toWrite x).length)
      (fun n => n + 3 * (n / 131072) + 9) where
  noError cs c h := by
    obtain ⟨hstate, _, hreply⟩ := h.storing
    rw [hreply, hstate]
    cases c.op with
    | eEnd => exact (Storing.flush_ret _ _ _).1
    | eContinue => exact isError_blockSizeMax
    | eFlush => exact isError_blockSizeMax
  finishes cs c h hop := by
    obtain ⟨hstate, _, hreply⟩ := h.storing
    rw [hreply, hstate, hop]
    have hret := (Storing.flush_ret (storedFrame (bytesRead cs ++ c.input.window)) c.output.room
      c.input.window.length).2
    exact (and_iff_left (Storing.flush_consumed _ _ _)).trans hret
  progress cs c h hne _ := by
    obtain ⟨hstate, _, hreply⟩ := h.storing
    have hlen := List.length_pos_iff.mpr hne
    rw [hreply, hstate]
    cases c.op <;> simp [Storing.reply] at hlen ⊢ <;> omega
  limited cs c h := by
    obtain ⟨hstate, hput, hreply⟩ := h.storing
    have hframe := (length_storedFrame (bytesRead cs ++ c.input.window)).2
    rw [bytesPut_append, hput, bytesRead_append, bytesPut_cons, bytesRead_cons, Call.consumed,
      hreply, hstate]
    cases c.op with
    | eEnd =>
      simp [Storing.reply, Storing.flush_produced] at hframe ⊢
      omega
    | eContinue => simp [Storing.reply]
    | eFlush => simp [Storing.reply]
  limit_mono m n h := by
    have hdiv := Nat.div_le_div_right (c := 131072) h
    omega

/-! ### The final chunk must not be empty -/

/-- When every call of a feed returns success, and every compaction was harmless, the drained bytes
are one complete frame of the chunks if and only if the final chunk is not empty. -/
theorem isFrame_iff_final_nonempty {api : CompressApi C} {c₀ : C}
    {IsFrame : List UInt8 → List UInt8 → Prop} (henc : Encodes api.compressStream2 c₀ IsFrame)
    {fuel : Nat} {drain : Drain K} {chunks : List Chunk} {sink : K} {beyond : Nat → Nat → UInt8}
    {w : World C EndDirective K}
    (hr : feed (compression api) fuel drain chunks (World.start (compression api) c₀ sink beyond) =
      .ok () w)
    (hharmless : w.log.Harmless) :
    IsFrame w.log.delivered (contents chunks) ↔
      ∃ last, chunks.getLast? = some last ∧ 0 < last.len := by
  have hsession := (World.inSessionInvariant (compression api) c₀).feed_ok
    (World.inSession_start sink beyond) hr
  rw [delivered_of_feed hr, ← consumed_of_feed hr hharmless]
  obtain ⟨hok, ⟨hempty, hops⟩ | ⟨hlast, cs, c, hcalls, hops, hop, hret⟩⟩ := calls_of_feed hr
  · refine iff_of_false (fun hframe => ?_) hempty
    exact henc.staysOpen _ _ hsession.session hok hops _ hframe
  · refine iff_of_true ?_ hlast
    rw [Log.produced, Log.consumed, hcalls]
    apply henc.closes cs c ⟨⟨w.codec, hcalls ▸ hsession.session⟩, hops⟩ (hcalls ▸ hok)
    exact ⟨hop, hret⟩

/-- Two chunks, of two bytes and of one. -/
theorem isFrame_of_two_chunks :
    let chunks : List Chunk := [.ofArr ⟨[97, 98], by decide⟩, .ofArr ⟨[99], by decide⟩]
    let r := feed (compression storingApi) 2 (fun _ _ => ((), none)) chunks
      (World.start (compression storingApi) (.taking []) () fun _ _ => 0)
    outcome r = .ok () ∧ (final r).log.delivered = storedFrame (contents chunks) := by
  intro chunks r
  have hok : outcome r = .ok () := by decide +kernel
  have hharmless : (final r).log.Harmless := by decide +kernel
  exact ⟨hok, (isFrame_iff_final_nonempty storingApi_encodes (eq_ok_of_outcome hok)
    hharmless).mpr ⟨_, rfl, by decide⟩⟩

/-- An empty final chunk: every call succeeds, and no byte is written. -/
theorem empty_final_chunk_writes_nothing :
    let chunks : List Chunk := [.ofArr ⟨[97, 98, 99], by decide⟩, .ofArr ⟨[], by decide⟩]
    let r := feed (compression storingApi) 2 (fun _ _ => ((), none)) chunks
      (World.start (compression storingApi) (.taking []) () fun _ _ => 0)
    Encodes storingApi.compressStream2 (.taking []) (fun y x => y = storedFrame x) ∧
      outcome r = .ok () ∧ (final r).log.delivered = [] ∧
      ∀ x, (final r).log.delivered ≠ storedFrame x := by
  intro chunks r
  have hok : outcome r = .ok () := by decide +kernel
  have hdelivered : (final r).log.delivered = [] := by decide +kernel
  refine ⟨storingApi_encodes, hok, hdelivered, ?_⟩
  intro x
  rw [hdelivered]
  simp [storedFrame]

/-! ### A frame must fit into one output buffer -/

section Unfinished

variable {api : CompressApi C} {c₀ : C} {toFlush : C → List UInt8 → Nat} {limit : Nat → Nat}

/-- The next call of a compression that has not been ended yet. -/
lemma World.InSession.continues {w : World C EndDirective K}
    (h : w.InSession (compression api) c₀)
    (hops : ∀ d ∈ w.log.calls, d.op = (compression api).op false) (op : EndDirective) :
    api.compressStream2.Continues c₀ w.log.calls (w.request api.compressStream2 op) :=
  ⟨⟨_, h.session.call op h.outPos h.input.pos_le⟩, hops⟩

/-- A codec that finishes frames makes progress until it has. -/
lemma Finishes.productive (hfin : Finishes api.compressStream2 c₀ toFlush limit)
    (X : List UInt8) :
    Productive (compression api)
      (World.InSession (compression api) c₀ : World C EndDirective K → Prop) (fun _ => True) X
      (limit X.length) := by
  intro v op hv hsession _ hops hstaged hwindow hpos _ _
  have hcall := hsession.continues hops op
  constructor
  · apply hfin.progress _ _ hcall hwindow
    have hsize := hv.outSize
    have hroom := (compression api).outSize_pos
    show 0 < v.sctx.output.size - v.sctx.output.pos
    omega
  · have hlimited := hfin.limited _ _ hcall
    refine (le_of_eq ?_).trans (hlimited.trans (hfin.limit_mono _ _ ?_))
    · simp [Log.produced, compression]
    · have hcount := (hv.answer op).count
      have hle := hstaged.length_le
      rw [Log.consumed, World.log_answer, Log.calls_append, Log.calls_singleton] at hcount
      simp only [Log.staged_append, Log.staged_singleton, Event.bytesStaged,
        List.append_nil] at hcount
      change (bytesRead (v.log.calls ++ [v.request api.compressStream2 op])).length + _ = _
        at hcount
      omega

/-- How a compression ends when nothing but the end of the frame can fail. -/
lemma compress_lastCall (hfin : Finishes api.compressStream2 c₀ toFlush limit) {drain : Drain K}
    (hdrain : drain.NeverFails) {chunks : List Chunk} {last : Chunk}
    (hlast : chunks.getLast? = some last) (hlen : 0 < last.len) {fuel : Nat}
    (hfuel : (contents chunks).length + limit (contents chunks).length < fuel) (sink : K)
    (beyond : Nat → Nat → UInt8) :
    ∃ cs c, LastCall (compression api) chunks
        (feed (compression api) fuel drain chunks (World.start (compression api) c₀ sink beyond))
        cs c ∧ api.compressStream2.Continues c₀ cs c := by
  have hstart : (World.start (compression api) c₀ sink beyond).InSession (compression api) c₀ :=
    World.inSession_start sink beyond
  have hsession := ((World.inSessionInvariant _ c₀).keeps_feed fuel drain chunks).final hstart
  have hend : FeedEnd (compression api) drain (World.start (compression api) c₀ sink beyond) chunks
      (feed (compression api) fuel drain chunks (World.start (compression api) c₀ sink beyond)) :=
    feed_end (World.inSessionInvariant _ c₀) persistent_true (hfin.productive (contents chunks))
      (World.ready_start c₀ sink beyond) hstart (by simp [World.start]) hfuel trivial
  generalize feed (compression api) fuel drain chunks
    (World.start (compression api) c₀ sink beyond) = r at hsession hend ⊢
  have hcontinues : ∀ cs c, (final r).log.calls = cs ++ [c] →
      (∀ d ∈ cs, d.op = (compression api).op false) → api.compressStream2.Continues c₀ cs c :=
    fun cs c hcalls hops => ⟨⟨_, hcalls ▸ hsession.session⟩, hops⟩
  obtain ⟨cs, c, hcall⟩ := hend.lastCall hdrain hlast hlen fun cs c hcalls _ hops _ _ _ =>
    hfin.noError cs c (hcontinues cs c hcalls hops)
  exact ⟨cs, c, hcall, hcontinues cs c hcall.calls hcall.earlier.2⟩

/-- With a non-empty final chunk, a codec that does not fail and a drain that does not fail, a
compression succeeds if and only if what is left to write at its one `ZSTD_e_end` call fits into
the output buffer. -/
theorem succeeds_iff_rest_fits (hfin : Finishes api.compressStream2 c₀ toFlush limit)
    {drain : Drain K} (hdrain : drain.NeverFails) {chunks : List Chunk} {last : Chunk}
    (hlast : chunks.getLast? = some last) (hlen : 0 < last.len) {fuel : Nat}
    (hfuel : (contents chunks).length + limit (contents chunks).length < fuel) (sink : K)
    (beyond : Nat → Nat → UInt8) :
    let r := feed (compression api) fuel drain chunks (World.start (compression api) c₀ sink beyond)
    ∃ cs c, (final r).log.calls = cs ++ [c] ∧ (∀ d ∈ cs, d.op = .eContinue) ∧ c.op = .eEnd ∧
      (outcome r = .ok () ↔ toFlush c.state c.input.window ≤ compressStreamOutSize) := by
  intro r
  obtain ⟨cs, c, hcall, hcontinues⟩ := compress_lastCall hfin hdrain hlast hlen hfuel sink beyond
  refine ⟨cs, c, hcall.calls, hcontinues.2, hcall.op, ?_⟩
  have hroom : c.output.room = compressStreamOutSize := hcall.room
  rw [hcall.outcome_eq_ok, ← hroom]
  exact hfin.finishes cs c hcontinues hcall.op

end Unfinished

/-- Two chunks, of two bytes and of one. -/
theorem succeeds_with_two_chunks :
    let chunks : List Chunk := [.ofArr ⟨[97, 98], by decide⟩, .ofArr ⟨[99], by decide⟩]
    let r := feed (compression storingApi) 16 (fun _ _ => ((), none)) chunks
      (World.start (compression storingApi) (.taking []) () fun _ _ => 0)
    ∃ cs c, (final r).log.calls = cs ++ [c] ∧ (∀ d ∈ cs, d.op = .eContinue) ∧ c.op = .eEnd ∧
      (outcome r = .ok () ↔ (c.state.toWrite c.input.window).length ≤ compressStreamOutSize) :=
  succeeds_iff_rest_fits storingApi_finishes (fun _ _ => rfl) rfl
    (by decide) (by decide) _ _

/-- `n` bytes that do not compress: one byte of each number of a multiplicative generator. -/
def noise (n : Nat) : List UInt8 :=
  (List.iterate (fun x => 16807 * x % 2147483647) 1 n).map fun x => (x / 256).toUInt8

lemma length_noise (n : Nat) : (noise n).length = n := by
  simp [noise, List.length_iterate]

lemma length_noise_take_lt : ((noise 262143).take 131071).length < 2 ^ 31 := by
  rw [List.length_take, length_noise]
  decide

lemma length_noise_drop_lt : ((noise 262143).drop 131071).length < 2 ^ 31 := by
  rw [List.length_drop, length_noise]
  decide

/-- Two blocks of noise, less one byte, in two chunks: `ZSTD_e_end` has both of them to write, and
one output buffer to write them to. -/
theorem two_blocks_are_unfinished :
    let chunks : List Chunk := [.ofArr ⟨(noise 262143).take 131071, length_noise_take_lt⟩,
      .ofArr ⟨(noise 262143).drop 131071, length_noise_drop_lt⟩]
    let r := feed (compression storingApi) 600000 (fun _ _ => ((), none)) chunks
      (World.start (compression storingApi) (.taking []) () fun _ _ => 0)
    Finishes storingApi.compressStream2 (.taking []) (fun s x => (s.toWrite x).length)
        (fun n => n + 3 * (n / 131072) + 9) ∧
      outcome r = .error (.raised (.message "unfinished compression")) := by
  intro chunks r
  have hlen : (contents chunks).length = 262143 := by
    simp [chunks, Chunk.length_content, Chunk.ofArr, length_noise]
  have hfuel : (contents chunks).length +
      ((contents chunks).length + 3 * ((contents chunks).length / 131072) + 9) < 600000 := by
    omega
  have hdrain : Drain.NeverFails fun (_ : Unit) _ => ((), none) := fun _ _ => rfl
  have hlast : chunks.getLast? =
      some (.ofArr ⟨(noise 262143).drop 131071, length_noise_drop_lt⟩) := rfl
  refine ⟨storingApi_finishes, ?_⟩
  obtain ⟨cs, c, hcall, hcontinues⟩ := compress_lastCall storingApi_finishes hdrain hlast
    (by simp [Chunk.ofArr, length_noise]) hfuel () fun _ _ => 0
  obtain ⟨hstate, _, _⟩ := hcontinues.storing
  have hlong : ¬(c.state.toWrite c.input.window).length ≤ c.output.room := by
    have hframe := (length_storedFrame (bytesRead cs ++ c.input.window)).1
    have hroom : c.output.room = 131591 := hcall.room.trans compressStreamOutSize_eq
    rw [List.length_append, hcall.count, hlen] at hframe
    rw [hstate, hroom]
    show ¬(storedFrame (bytesRead cs ++ c.input.window)).length ≤ _
    omega
  have hfinishes := storingApi_finishes.finishes cs c hcontinues hcall.op
  exact hcall.decides.trans (if_neg fun h => hlong (hfinishes.mp h))

end VZstd
