import VZstd.CompressFrames
import VZstd.StoredFrames

/-!
# Frames that are ended with `compress_end`

`compress_end` makes one `ZSTD_e_end` call on what is staged. It takes a result that says how much
is left to flush for a success, and does not look at the bytes that were not read; the check behind
the loop of `compress_chunk_at` does both.
-/

namespace VZstd

open Proc

variable {S Op C K : Type}

/-- Feed chunks in order, none of them as the last, until a call fails. -/
def feedOpen (dir : Direction S Op) (fuel : Nat) (drain : Drain K) :
    List Chunk → StreamM S Op K Unit
  | [] => pure ()
  | c :: cs => do
    chunkAt dir fuel c false drain
    feedOpen dir fuel drain cs

/-- What zstd.h says of the call that may end a frame. `toFlush s x`: how many bytes end the frame
that is open in the state `s` once it has read `x`, where the output buffer has the recommended
size. -/
structure Completes (codec : Codec C EndDirective) (c₀ : C)
    (IsFrame : List UInt8 → List UInt8 → Prop) (toFlush : C → List UInt8 → Nat) : Prop
    extends Encodes codec c₀ IsFrame where
  /-- as long as there is something left to flush, the frame is not complete -/
  unclosed : ∀ cs c, codec.Continues c₀ cs c → NoErrors (cs ++ [c]) → c.op = .eEnd →
    c.reply.ret ≠ 0 → ∀ x, ¬IsFrame (bytesPut (cs ++ [c])) x
  /-- a frame has one content -/
  unique : ∀ {y x x'}, IsFrame y x → IsFrame y x' → x = x'
  /-- `ZSTD_e_end` flushes until it is done or the output buffer is full -/
  finishes : ∀ cs c, codec.Continues c₀ cs c → NoErrors (cs ++ [c]) → c.op = .eEnd →
    c.output.room = compressStreamOutSize →
    (c.reply.ret = 0 ∧ c.reply.consumed = c.input.window.length ↔
      toFlush c.state c.input.window ≤ compressStreamOutSize)

/-! ### What the calls do -/

variable {dir : Direction S Op} {fuel : Nat} {drain : Drain K} {chunks : List Chunk}
  {w₀ w₁ w : World S Op K}

lemma Invariant.feedOpen_ok {I : World S Op K → Prop} (hI : Invariant dir.codec I) (h : I w₀)
    (hr : feedOpen dir fuel drain chunks w₀ = .ok () w) : I w := by
  induction chunks generalizing w₀ with
  | nil =>
    obtain rfl : w₀ = w := by simpa [feedOpen] using hr
    exact h
  | cons c cs ih =>
    have hkeeps := (hI.keeps_chunkAt fuel c false drain).final h
    rw [feedOpen, bind_run] at hr
    cases hc : chunkAt dir fuel c false drain w₀ with
    | error e w' => simp [hc] at hr
    | ok u w' =>
      rw [hc] at hr hkeeps
      exact ih hkeeps hr

lemma feedOpen_ok (h : w₀.Ready dir) (hr : feedOpen dir fuel drain chunks w₀ = .ok () w) :
    Fed dir w₀ w chunks := by
  induction chunks generalizing w₀ with
  | nil =>
    obtain rfl : w₀ = w := by simpa [feedOpen] using hr
    exact .refl h
  | cons c cs ih =>
    rw [feedOpen, bind_run] at hr
    cases hc : chunkAt dir fuel c false drain w₀ with
    | error e w' => simp [hc] at hr
    | ok u w' =>
      rw [hc] at hr
      obtain ⟨l, hprogress, hrest, _⟩ := chunkAt_ok h.toConserved hc
      have hfed := hprogress.fed h hrest
      exact hfed.trans (ih hfed.ready hr)

/-- An end call that succeeds: its codec call did not fail, and the output buffer is empty. -/
structure Ended (codec : Codec S Op) (op : Op) (w₀ w : World S Op K) : Prop where
  ok : isError (w₀.request codec op).reply.ret = false
  calls : w.log.calls = w₀.log.calls ++ [w₀.request codec op]
  window : w.sctx.input.window.length =
    w₀.sctx.input.window.length - (w₀.request codec op).reply.consumed
  outputPos : w.sctx.output.pos = 0

lemma endWith_ok {codec : Codec S Op} {op : Op}
    (hr : endWith codec op drain w₀ = .ok () w) : Ended codec op w₀ w := by
  rw [endWith, bind_ok (callCodec_run codec op w₀)] at hr
  by_cases herr : isError (w₀.request codec op).reply.ret = true
  · rw [bind_error (checkError_of_isError herr _)] at hr
    cases hr
  · have hok : isError (w₀.request codec op).reply.ret = false := by simpa using herr
    rw [bind_ok (checkError_of_not_isError hok _), get_bind] at hr
    split at hr
    next hpos =>
      rcases drainBuffer_cases drain (w₀.answer (w₀.request codec op)) with
        ⟨k, hk⟩ | ⟨k, e, _, hk⟩
      · rw [hk] at hr
        obtain rfl : w₀.served (w₀.request codec op) k = w := (EStateM.Result.ok.inj hr).2
        refine ⟨hok, by simp [World.served], ?_, by simp [World.served]⟩
        exact length_window_served w₀ _ k rfl
      · simp [hk] at hr
    next hpos =>
      obtain rfl : w₀.answer (w₀.request codec op) = w := by simpa using hr
      refine ⟨hok, by simp, ?_, Nat.eq_zero_of_not_pos hpos⟩
      simp [Call.inputAfter, Nat.sub_sub]

/-! ### The frame is complete if the rest of it fits -/

/-- After the first `ZSTD_e_end` call, the frame is complete if that call returned 0, and then it
holds what was read. -/
lemma Completes.isFrame_iff {codec : Codec C EndDirective} {c₀ : C}
    {IsFrame : List UInt8 → List UInt8 → Prop} {toFlush : C → List UInt8 → Nat}
    (h : Completes codec c₀ IsFrame toFlush) {cs : List (Call C EndDirective)}
    {c : Call C EndDirective} (hcontinues : codec.Continues c₀ cs c)
    (hok : NoErrors (cs ++ [c])) (hop : c.op = .eEnd) (x : List UInt8) :
    IsFrame (bytesPut (cs ++ [c])) x ↔ c.reply.ret = 0 ∧ bytesRead (cs ++ [c]) = x := by
  have hcloses : c.reply.ret = 0 → IsFrame (bytesPut (cs ++ [c])) (bytesRead (cs ++ [c])) :=
    fun hret => h.closes cs c hcontinues hok ⟨hop, hret⟩
  constructor
  · intro hframe
    have hret : c.reply.ret = 0 := by
      by_contra hpositive
      exact h.unclosed cs c hcontinues hok hop hpositive x hframe
    exact ⟨hret, h.unique (hcloses hret) hframe⟩
  · rintro ⟨hret, rfl⟩
    exact hcloses hret

/-- The codec call of a `compress_end` that succeeds after chunk calls that did. -/
structure EndCall (api : CompressApi C) (c₀ : C) (w₁ w : World C EndDirective K)
    (c : Call C EndDirective) : Prop where
  eq : c = w₁.request api.compressStream2 .eEnd
  continues : api.compressStream2.Continues c₀ w₁.log.calls c
  noErrors : NoErrors (w₁.log.calls ++ [c])
  room : c.output.room = compressStreamOutSize
  delivered : w.log.delivered = bytesPut (w₁.log.calls ++ [c])
  window : w.sctx.input.window.length = c.input.window.length - c.reply.consumed

lemma exists_endCall {api : CompressApi C} {c₀ : C} {fuel : Nat} {drain drain' : Drain K}
    {chunks : List Chunk} {sink : K} {beyond : Nat → Nat → UInt8} {w₁ w : World C EndDirective K}
    (hfeed : feedOpen (compression api) fuel drain chunks
      (World.start (compression api) c₀ sink beyond) = .ok () w₁)
    (hend : compressEnd api drain' w₁ = .ok () w) : ∃ c, EndCall api c₀ w₁ w c := by
  have hready := (feedOpen_ok (World.ready_start c₀ sink beyond) hfeed).ready
  have hsession := (World.inSessionInvariant (compression api) c₀).feedOpen_ok
    (World.inSession_start sink beyond) hfeed
  have haccounted : w.Accounted (compression api) := by
    have hbefore := (World.accountedInvariant (compression api)).feedOpen_ok
      (World.accounted_start c₀ sink beyond) hfeed
    have hafter := ((World.accountedInvariant _).keeps_endWith .eEnd drain').final hbefore
    have hrun : endWith (compression api).codec .eEnd drain' w₁ = .ok () w := hend
    rwa [hrun] at hafter
  have hended : Ended api.compressStream2 .eEnd w₁ w := endWith_ok hend
  refine ⟨w₁.request api.compressStream2 .eEnd, rfl, hsession.continues hready.ops .eEnd,
    noErrors_append.mpr ⟨hready.noErrors, noErrors_singleton.mpr hended.ok⟩, ?_, ?_, hended.window⟩
  · rw [OutBuffer.room, World.request_output, hready.outSize, hready.outputPos]
    rfl
  · rw [haccounted.delivered_eq hended.outputPos, Log.produced, hended.calls]

lemma storingApi_completes :
    Completes storingApi.compressStream2 (.taking []) (fun y x => y = storedFrame x)
      (fun s x => (s.toWrite x).length) where
  toEncodes := storingApi_encodes
  unclosed cs c h _ hop hret x := by
    obtain ⟨⟨t, hsession⟩, hops⟩ := h
    refine Storing.not_storedFrame_of_session hsession
      (List.forall_mem_append.mpr ⟨not_closesFrame_of_continue hops, ?_⟩) x
    rintro d hd ⟨_, hzero⟩
    rw [List.mem_singleton.mp hd] at hzero
    exact hret hzero
  unique h h' := storedFrame_injective (h.symm.trans h')
  finishes cs c h _ hop hroom := hroom ▸ storingApi_finishes.finishes cs c h hop

variable {api : CompressApi C} {c₀ : C} {toFlush : C → List UInt8 → Nat} {limit : Nat → Nat}

/-- Where neither the codec nor the drain fails, chunk calls that are not the last succeed. -/
lemma feedOpen_succeeds (hfin : Finishes api.compressStream2 c₀ toFlush limit) {drain : Drain K}
    (hdrain : drain.NeverFails) {X : List UInt8} {fuel : Nat}
    (hfuel : X.length + limit X.length < fuel) {w₀ : World C EndDirective K}
    (h : w₀.Ready (compression api)) (hsession : w₀.InSession (compression api) c₀)
    {chunks : List Chunk} (hX : w₀.log.staged ++ contents chunks <+: X) :
    ∃ w, feedOpen (compression api) fuel drain chunks w₀ = .ok () w := by
  induction chunks generalizing w₀ with
  | nil => exact ⟨w₀, rfl⟩
  | cons c cs ih =>
    rw [contents_cons, ← List.append_assoc] at hX
    have hI := World.inSessionInvariant (K := K) (compression api) c₀
    have hkeeps := (hI.keeps_chunkAt fuel c false drain).final hsession
    rcases chunkLoop_end hI persistent_true (hfin.productive X) h hsession c false
        ((List.prefix_append _ _).trans hX) hfuel trivial with
      ⟨l, w, hr, hprogress, hrest⟩ | ⟨e, w, ds, d, hr, hfailed⟩ | ⟨e, w, k, sink, bytes, hr, hd⟩
    · have hchunk := chunkAt_false_of_ok hr
      have hfed := hprogress.fed h hrest
      rw [hchunk] at hkeeps
      rw [feedOpen, bind_ok hchunk]
      refine ih hfed.ready hkeeps ?_
      rw [hfed.staged, contents_cons, contents_nil, List.append_nil]
      exact hX
    · have hchunk : chunkAt (compression api) fuel c false drain w₀ = .error (.raised e) w :=
        bind_error hr
      rw [hchunk] at hkeeps
      have hnone := hfin.noError (w₀.log.calls ++ ds) d
        ⟨⟨_, hfailed.calls ▸ hkeeps.session⟩,
          List.forall_mem_append.mpr ⟨h.ops, hfailed.earlier.2⟩⟩
      rw [hfailed.failed] at hnone
      cases hnone
    · exact absurd hd hdrain.ne_error

/-- An end call that neither the codec nor the drain fails. -/
lemma endWith_succeeds {codec : Codec S Op} {op : Op} {drain : Drain K} {w₀ : World S Op K}
    (hok : isError (w₀.request codec op).reply.ret = false) (hdrain : drain.NeverFails) :
    ∃ w, endWith codec op drain w₀ = .ok () w := by
  rw [endWith, bind_ok (callCodec_run codec op w₀), bind_ok (checkError_of_not_isError hok _),
    get_bind]
  split
  · rcases drainBuffer_cases drain (w₀.answer (w₀.request codec op)) with ⟨k, hk⟩ | ⟨k, e, hd, _⟩
    · exact ⟨_, hk⟩
    · exact absurd hd hdrain.ne_error
  · exact ⟨_, rfl⟩

/-- With the storing codec, a frame is ended too early as soon as it is longer than the output
buffer. -/
lemma storing_ends_too_early {chunks : List Chunk} {fuel : Nat}
    (hlong : compressStreamOutSize < (contents chunks).length)
    (hfuel : (contents chunks).length +
      ((contents chunks).length + 3 * ((contents chunks).length / 131072) + 9) < fuel) :
    let r := feedOpen (compression storingApi) fuel (fun _ _ => ((), none)) chunks
      (World.start (compression storingApi) (.taking []) () fun _ _ => 0)
    let s := compressEnd storingApi (fun _ _ => ((), none)) (final r)
    outcome r = .ok () ∧ outcome s = .ok () ∧ ∀ x, (final s).log.delivered ≠ storedFrame x := by
  intro r s
  have hdrain : Drain.NeverFails fun (_ : Unit) _ => ((), none) := fun _ _ => rfl
  have hstart : (World.start (compression storingApi) (.taking []) ()
      fun _ _ => 0).log.staged = [] := rfl
  obtain ⟨w₁, hfeed⟩ : ∃ w₁, r = .ok () w₁ :=
    feedOpen_succeeds storingApi_finishes hdrain hfuel (World.ready_start _ _ _)
      (World.inSession_start _ _) (by rw [hstart, List.nil_append])
  have hfed := feedOpen_ok (World.ready_start _ _ _) hfeed
  have hsession := (World.inSessionInvariant (compression storingApi) _).feedOpen_ok
    (World.inSession_start _ _) hfeed
  have hok := storingApi_finishes.noError _ _ (hsession.continues hfed.ready.ops .eEnd)
  obtain ⟨w, hend⟩ : ∃ w, compressEnd storingApi (fun _ _ => ((), none)) w₁ = .ok () w :=
    endWith_succeeds hok hdrain
  have hs : s = .ok () w := by
    show compressEnd storingApi (fun _ _ => ((), none)) (final r) = .ok () w
    rw [hfeed]
    exact hend
  obtain ⟨c, hcall⟩ := exists_endCall hfeed hend
  have hop : c.op = .eEnd := by rw [hcall.eq, World.request_op]
  obtain ⟨hstate, _, hreply⟩ := hcall.continues.storing
  refine ⟨by rw [hfeed, outcome_ok], by rw [hs, outcome_ok], fun x hframe => ?_⟩
  rw [hs, final_ok, hcall.delivered] at hframe
  obtain ⟨hret, _⟩ :=
    (storingApi_completes.isFrame_iff hcall.continues hcall.noErrors hop x).mp hframe
  rw [hreply, hstate, hop] at hret
  -- a result of 0 says that the whole frame fitted
  have hfits := (Storing.flush_ret _ _ _).2.mp hret
  have hframe := (length_storedFrame (bytesRead w₁.log.calls ++ c.input.window)).1
  have hcount := hfed.ready.count
  rw [hfed.staged, hstart, List.nil_append, Log.consumed] at hcount
  rw [List.length_append, hcall.eq, World.request_input, hcount] at hframe
  rw [hcall.room, hcall.eq, World.request_input] at hfits
  omega

lemma length_noise_lt : (noise 140000).length < 2 ^ 31 := by
  rw [length_noise]
  decide

end VZstd
