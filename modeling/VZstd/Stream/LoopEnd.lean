import Mathlib.Data.Set.Finite.Lattice
import Mathlib.Data.Set.Finite.List
import Mathlib.Order.Bounds.Basic
import VZstd.Stream.Termination

/-!
# The chunk loops end from every state

A chunk call may find an input buffer that is full, or even read to its end, and an output buffer
that no drain has emptied. The first pass then stages nothing; it reads or writes something, or it
does no more than rewind the buffers. After that each pass leaves less to read or to write.
-/

namespace VZstd

open Proc

variable {S Op C D K : Type}

/-- From the state `s` on, as long as the stream is only continued and no call fails: a call that
has something to read and room to write to makes progress, and what is read gives finitely many
bytes. -/
structure Codec.Advances (codec : Codec S Op) (op : Op) (s : S) : Prop where
  progress : ∀ cs c t, codec.Session s (cs ++ [c]) t → NoErrors cs →
    (∀ d ∈ cs ++ [c], d.op = op) → c.input.window ≠ [] → 0 < c.output.room →
    isError c.reply.ret = true ∨ 0 < c.reply.consumed ∨ 0 < c.reply.produced.length
  finite : ∀ x, ∃ n, ∀ cs t, codec.Session s cs t → NoErrors cs → (∀ d ∈ cs, d.op = op) →
    bytesRead cs = x → (bytesPut cs).length ≤ n

/-- There are finitely many words of a length, so a bound for each of them is one for all. -/
lemma Codec.Advances.exists_limit {codec : Codec S Op} {op : Op} {s : S}
    (h : codec.Advances op s) (n : Nat) :
    ∃ limit, ∀ cs t, codec.Session s cs t → NoErrors cs → (∀ d ∈ cs, d.op = op) →
      (bytesRead cs).length ≤ n → (bytesPut cs).length ≤ limit := by
  choose bound hbound using h.finite
  have : Finite UInt8 := Finite.of_injective UInt8.toFin fun _ _ h => UInt8.toFin_inj.mp h
  have hfinite : {x : List UInt8 | x.length ≤ n}.Finite := List.finite_length_le UInt8 n
  obtain ⟨limit, hlimit⟩ := (hfinite.image bound).bddAbove
  refine ⟨limit, fun cs t hsession hok hops hlen => ?_⟩
  have hle : bound (bytesRead cs) ≤ limit := hlimit ⟨bytesRead cs, hlen, rfl⟩
  exact (hbound _ cs t hsession hok hops rfl).trans hle

section Loop

variable {dir : Direction S Op} {src : Chunk} {last : Bool} {w₀ w : World S Op K} {l : Locals}

/-- What holds after any number of passes from a state in bounds. -/
structure Looping (dir : Direction S Op) (src : Chunk) (w₀ : World S Op K) (l : Locals)
    (w : World S Op K) : Prop where
  bounded : w.Bounded dir
  within : l.Within src
  /-- the calls so far, until the last piece has been staged -/
  continuing : 0 < l.restLen → ∃ cs, w.log.calls = w₀.log.calls ++ cs ∧
    dir.codec.Session w₀.codec cs w.codec ∧ NoErrors cs ∧ (∀ d ∈ cs, d.op = dir.op false) ∧
    (bytesRead cs).length + w.sctx.input.window.length + l.restLen.toNat =
      w₀.sctx.input.window.length + src.len.toNat

lemma Looping.start (h : w₀.Bounded dir) : Looping dir src w₀ (.start src) w₀ where
  bounded := h
  within := Locals.within_start src
  continuing := fun _ => ⟨[], by simp, .start, by simp [NoErrors], by simp, by simp [Locals.start]⟩

/-- The call of a pass belongs to the session. -/
lemma Looping.session_passCall (h : Looping dir src w₀ l w) {cs : List (Call S Op)}
    (hsession : dir.codec.Session w₀.codec cs w.codec) :
    dir.codec.Session w₀.codec (cs ++ [passCall dir src last l w])
      (passCall dir src last l w).reply.state :=
  hsession.call _ h.bounded.outPos (h.bounded.fed h.within).input.pos_le

/-- A pass that leaves a rest only continues the stream. -/
lemma passCall_op_of_more (src : Chunk) (last : Bool) (hmore : 0 < (l.next (w.free dir)).restLen) :
    (passCall dir src last l w).op = dir.op false := by
  have hne : ((l.next (w.free dir)).restLen == 0) = false := by
    simpa using Int.ne_of_gt hmore
  show dir.op (last && (l.next (w.free dir)).restLen == 0) = dir.op false
  rw [hne, Bool.and_false]

/-- A pass rewinds both buffers. -/
lemma Looping.served_pos (h : Looping dir src w₀ l w) (k : K) :
    ((w.fed dir src l).served (passCall dir src last l w) k).sctx.input.pos = 0 ∧
      ((w.fed dir src l).served (passCall dir src last l w) k).sctx.output.pos = 0 := by
  have hanswer := (h.bounded.fed h.within).answer
    (dir.op (last && (l.next (w.free dir)).restLen == 0))
  exact ⟨((World.boundedInvariant dir).emptied hanswer k).rewound_pos, by simp [World.served]⟩

/-- One more pass. -/
lemma Looping.step (h : Looping dir src w₀ l w) (hc : 0 < l.restLen) (k : K)
    (hok : isError (passCall dir src last l w).reply.ret = false) :
    Looping dir src w₀ { l.next (w.free dir) with res := (passCall dir src last l w).reply.ret }
      ((w.fed dir src l).served (passCall dir src last l w) k) := by
  have hnext := h.within.next (w.free dir) hc
  refine ⟨?_, ⟨hnext.le, hnext.split⟩, ?_⟩
  · exact (World.boundedInvariant dir).served (h.bounded.fed h.within) _ k
  · intro hmore
    obtain ⟨cs, hcalls, hsession, hnone, hops, hcount⟩ := h.continuing hc
    have hop := passCall_op_of_more src last hmore
    refine ⟨cs ++ [passCall dir src last l w], ?_, ?_, ?_, ?_, ?_⟩
    · simp [World.served, Progress.calls_fed, hcalls]
    · have hstate : ((w.fed dir src l).served (passCall dir src last l w) k).codec =
          (passCall dir src last l w).reply.state := by
        simp [World.served]
      rw [hstate]
      exact h.session_passCall hsession
    · exact noErrors_append.mpr ⟨hnone, noErrors_singleton.mpr hok⟩
    · exact List.forall_mem_append.mpr ⟨hops, by simpa using hop⟩
    · have hunread := h.bounded.unread_served h.within last k
      have hread : (passCall dir src last l w).consumed.length =
          (passCall dir src last l w).reply.consumed := by
        have hconsumed := (w.fed dir src l).request_consumed_le dir.codec
          (dir.op (last && (l.next (w.free dir)).restLen == 0))
        rw [← InBuffer.window_length] at hconsumed
        rw [Call.consumed, List.length_take]
        exact Nat.min_eq_left hconsumed
      rw [bytesRead_append, List.length_append, bytesRead_cons, bytesRead_nil, List.append_nil,
        hread]
      show _ + _ + (l.next (w.free dir)).restLen.toNat = _
      omega

/-- What is unread, in the chunk and in the buffer, what can still come out, and one pass more if
there is something to rewind. -/
def passesLeft (limit : Nat) (l : Locals) (w : World S Op K) : Nat :=
  if 0 < l.restLen then
    1 + l.restLen.toNat + w.sctx.input.window.length + (limit - w.log.produced.length) +
      if w.sctx.input.pos = 0 ∧ w.sctx.output.pos = 0 then 0 else 1
  else 0

/-- Either the call of a pass has something to read and room to write to, or a drain has failed
before. -/
lemma Looping.unread_or_stale (h : Looping dir src w₀ l w) (last : Bool) (hc : 0 < l.restLen) :
    (passCall dir src last l w).input.window ≠ [] ∧ 0 < (passCall dir src last l w).output.room ∨
      ¬(w.sctx.input.pos = 0 ∧ w.sctx.output.pos = 0) := by
  by_cases hstale : w.sctx.input.pos = 0 ∧ w.sctx.output.pos = 0
  · obtain ⟨hin, hout⟩ := hstale
    left
    have hsize := h.bounded.size_le
    have hinSize := dir.inSize_pos
    have houtSize := dir.outSize_pos
    have hlen := h.bounded.length_window_fed h.within
    have hwindow := w.sctx.input.window_length
    have hfree : w.free dir = dir.inSize - w.sctx.input.size := rfl
    constructor
    · show (w.fed dir src l).sctx.input.window ≠ []
      rw [← List.length_pos_iff]
      omega
    · show 0 < w.sctx.output.size - w.sctx.output.pos
      rw [h.bounded.outSize, hout]
      exact houtSize
  · exact .inr hstale

/-- Each pass leaves fewer to come. -/
lemma Looping.passesLeft_lt (h : Looping dir src w₀ l w) (hc : 0 < l.restLen) {limit : Nat}
    (hadv : dir.codec.Advances (dir.op false) w₀.codec)
    (hlimit : ∀ cs t, dir.codec.Session w₀.codec cs t → NoErrors cs →
      (∀ d ∈ cs, d.op = dir.op false) →
      (bytesRead cs).length ≤ w₀.sctx.input.window.length + src.len.toNat →
      (bytesPut cs).length ≤ limit) (k : K)
    (hok : isError (passCall dir src last l w).reply.ret = false) :
    passesLeft (w₀.log.produced.length + limit)
        { l.next (w.free dir) with res := (passCall dir src last l w).reply.ret }
        ((w.fed dir src l).served (passCall dir src last l w) k) <
      passesLeft (w₀.log.produced.length + limit) l w := by
  rw [passesLeft, passesLeft, if_pos hc]
  split
  next hmore =>
    have hstep := h.step hc k hok
    obtain ⟨cs, _, hsession, hnone, hops, _⟩ := h.continuing hc
    obtain ⟨ds, hcalls, hsession', hnone', hops', hcount⟩ := hstep.continuing hmore
    have hunread := h.bounded.unread_served h.within last k
    have hproduced : ((w.fed dir src l).served (passCall dir src last l w) k).log.produced.length ≤
        w₀.log.produced.length + limit := by
      have hput := hlimit ds _ hsession' hnone' hops' (by omega)
      rw [Log.produced, hcalls, bytesPut_append, List.length_append]
      exact Nat.add_le_add_left hput _
    rw [produced_served, List.length_append] at hproduced ⊢
    rw [if_pos (h.served_pos k)]
    show 1 + (l.next (w.free dir)).restLen.toNat + _ + _ + 0 < _
    rcases h.unread_or_stale last hc with ⟨hwindow, hroom⟩ | hstale
    · have hcall : ∀ d ∈ cs ++ [passCall dir src last l w], d.op = dir.op false :=
        List.forall_mem_append.mpr ⟨hops, by simpa using passCall_op_of_more src last hmore⟩
      have hprogress := (hadv.progress cs _ _ (h.session_passCall hsession) hnone hcall hwindow
        hroom).resolve_left (Bool.eq_false_iff.mp hok)
      split <;> omega
    · rw [if_neg hstale]
      omega
  next => omega

variable {drain : Drain K}

/-- The run lemma: with as much fuel as there are passes left at most, the loop ends. -/
lemma chunkLoop_ends (h : w₀.Bounded dir) (hadv : dir.codec.Advances (dir.op false) w₀.codec)
    (src : Chunk) (last : Bool) (drain : Drain K) :
    ∃ n, ∀ fuel, n ≤ fuel → ∀ w, chunkLoop dir fuel src last drain w₀ ≠ .error .running w := by
  obtain ⟨limit, hlimit⟩ := hadv.exists_limit (w₀.sctx.input.window.length + src.len.toNat)
  refine ⟨passesLeft (w₀.log.produced.length + limit) (.start src) w₀ + 1, ?_⟩
  intro fuel hfuel w hr
  have hpass : ∀ l w, decide (0 < l.restLen) = true → Looping dir src w₀ l w →
      Ends (fun l' w' => Looping dir src w₀ l' w' ∧ (True →
          passesLeft (w₀.log.produced.length + limit) l' w' <
            passesLeft (w₀.log.produced.length + limit) l w))
        (fun e _ => e = .running → ¬True) (chunkPass dir src last drain l w) := by
    intro l w hl hw
    have hc : 0 < l.restLen := by simpa using hl
    rcases chunkPass_cases hw.bounded hw.within hc drain with
      ⟨_, hr⟩ | ⟨hok, k, hr⟩ | ⟨_, k, e, bytes, _, hr⟩
    · rw [hr]
      rintro ⟨⟩
    · rw [hr]
      exact ⟨hw.step hc k hok, fun _ => hw.passesLeft_lt hc hadv hlimit k hok⟩
    · rw [hr]
      rintro ⟨⟩
  have htotal := whileFuel_total (fun _ => True) (passesLeft (w₀.log.produced.length + limit))
    hpass (fun _ _ hs => absurd trivial hs) fuel (.start src) w₀ (.start h) fun _ => hfuel
  have hrun : whileFuel .running (fun l => decide (0 < l.restLen))
      (chunkPass dir src last drain) fuel (.start src) w₀ = .error .running w := hr
  rw [hrun] at htotal
  exact htotal rfl trivial

/-- With the check behind the loop, too. -/
lemma chunkAt_ends (h : w₀.Bounded dir) (hadv : dir.codec.Advances (dir.op false) w₀.codec)
    (src : Chunk) (last : Bool) (drain : Drain K) :
    ∃ n, ∀ fuel, n ≤ fuel → outcome (chunkAt dir fuel src last drain w₀) ≠ .error .running := by
  obtain ⟨n, hn⟩ := chunkLoop_ends h hadv src last drain
  refine ⟨n, fun fuel hfuel hr => ?_⟩
  rw [chunkAt, bind_run] at hr
  cases hl : chunkLoop dir fuel src last drain w₀ with
  | error e w =>
    rw [hl] at hr
    obtain rfl : e = .running := by simpa using hr
    exact hn fuel hfuel w hl
  | ok l w =>
    simp only [hl, checkFinished, get_bind] at hr
    split at hr <;> cases hr

end Loop

/-- In every state that a run of either direction reaches, also behind a failed drain, every chunk
call ends. -/
theorem chunk_calls_end (capi : CompressApi C) (dapi : DecompressApi D)
    (cops : List (StreamOp (CompressCall K))) (dops : List (StreamOp (DecompressCall K))) (c : C)
    (d : D) (sink : K) (beyond : Nat → Nat → UInt8) :
    (let w := (runCompressOps capi cops (World.start (compression capi) c sink beyond)).2
     capi.compressStream2.Advances .eContinue w.codec → ∀ src last drain, ∃ n, ∀ fuel, n ≤ fuel →
       outcome (compressChunkAt capi fuel src last drain w) ≠ .error .running) ∧
    (let w := (runDecompressOps dapi dops (World.start (decompression dapi) d sink beyond)).2
     dapi.decompressStream.Advances () w.codec → ∀ src last drain, ∃ n, ∀ fuel, n ≤ fuel →
       outcome (decompressChunkAt dapi fuel src last drain w) ≠ .error .running) := by
  constructor
  · intro w hadv src last drain
    have hw : w.Bounded (compression capi) :=
      keeps_runCompressOps (World.boundedInvariant _) World.keeps_resetStream cops
        (World.bounded_start c sink beyond)
    exact chunkAt_ends hw hadv src last drain
  · intro w hadv src last drain
    have hw : w.Bounded (decompression dapi) :=
      keeps_runDecompressOps (World.boundedInvariant _) World.keeps_resetStream dops
        (World.bounded_start d sink beyond)
    exact chunkAt_ends hw hadv src last drain

lemma copier_puts {s t : Nat} {cs : List (Call Nat Op)} (h : copier.Session s cs t) :
    bytesPut cs = bytesRead cs := by
  induction h with
  | start => rfl
  | call h op hout hin ih =>
    rw [bytesPut_append, bytesRead_append, ih]
    rfl

lemma copier_advances (op : Op) (s : Nat) : copier.Advances op s where
  progress := by
    intro cs c t hsession _ _ hwindow hroom
    obtain ⟨_, _, _, hc, _⟩ := hsession.last
    have hconsumed : c.reply.consumed = min c.input.window.length c.output.room :=
      congrArg (fun d : Call Nat Op => d.reply.consumed) hc
    have hlen := List.length_pos_iff.mpr hwindow
    omega
  finite := by
    intro x
    refine ⟨x.length, ?_⟩
    intro cs t hsession _ _ hread
    rw [copier_puts hsession, hread]

/-- A drain that takes nothing. -/
def refusing : Drain K := fun k _ => (k, some ⟨"refused", 1⟩)

/-- Behind a failed drain, where the codec has read all that was staged. -/
theorem chunk_calls_end_behind_refusal :
    let src : Chunk := .ofArr ⟨[1, 2, 3], by decide⟩
    let cop : StreamOp (CompressCall Unit) := .call (.chunkAt 1 src false refusing)
    let dop : StreamOp (DecompressCall Unit) := .call ⟨1, src, false, refusing⟩
    let w := (runCompressOps (.ofCodec copier) [cop]
      (World.start (compression (.ofCodec copier)) 0 () fun _ _ => 0)).2
    let v := (runDecompressOps (.ofCodec copier) [dop]
      (World.start (decompression (.ofCodec copier)) 0 () fun _ _ => 0)).2
    w.sctx.input.pos = 3 ∧ w.sctx.output.pos = 3 ∧
      (∃ n, ∀ fuel, n ≤ fuel → outcome
        (compressChunkAt (.ofCodec copier) fuel src true (fun _ _ => ((), none)) w) ≠
          .error .running) ∧
      ∃ n, ∀ fuel, n ≤ fuel → outcome
        (decompressChunkAt (.ofCodec copier) fuel src true (fun _ _ => ((), none)) v) ≠
          .error .running := by
  intro src cop dop w v
  have hends := chunk_calls_end (.ofCodec copier) (.ofCodec copier) [cop] [dop] 0 0 ()
    fun _ _ => 0
  refine ⟨by decide +kernel, by decide +kernel, ?_, ?_⟩
  · exact hends.1 (copier_advances _ _) src true _
  · exact hends.2 (copier_advances _ _) src true _

end VZstd
