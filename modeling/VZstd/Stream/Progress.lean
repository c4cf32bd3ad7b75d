import VZstd.Stream.Loop
import VZstd.Stream.Session

/-!
# The progress of a chunk call

What holds after any number of passes of the chunk loop, what a chunk call that succeeds leaves
behind, why one that fails does so, and when the loop ends.
-/

namespace VZstd

open Proc

variable {S Op K : Type} {dir : Direction S Op} {src : Chunk} {last : Bool}

/-- The codec calls of a loop so far are `cs` and then `c`; no call failed, and each drain took what
it was given. -/
structure Served (dir : Direction S Op) (src : Chunk) (last : Bool) (l : Locals)
    (w₀ w : World S Op K) (cs : List (Call S Op)) (c : Call S Op) : Prop where
  len_pos : 0 < src.len
  rest_nonneg : 0 ≤ l.restLen
  calls : w.log.calls = w₀.log.calls ++ cs ++ [c]
  earlier : NoErrors cs ∧ ∀ d ∈ cs, d.op = dir.op false
  ok : isError c.reply.ret = false
  op : c.op = dir.op (last && l.restLen == 0)
  res : l.res = c.reply.ret
  /-- the call saw all that was unread -/
  window : w.log.Harmless → bytesRead (w₀.log.calls ++ cs) ++ c.input.window = w.log.staged
  unread : w₀.sctx.input.pos = 0 → c.input.window ≠ []
  room : w₀.sctx.output.pos = 0 → c.output.room = dir.outSize
  outputPos : w.sctx.output.pos = 0
  inputPos : w.sctx.input.pos = 0
  inputSize : w.sctx.input.size = c.input.window.length - c.reply.consumed
  consumed_le : c.reply.consumed ≤ c.input.window.length

/-- What holds after any number of passes from `w₀`. -/
structure Progress (dir : Direction S Op) (src : Chunk) (last : Bool) (w₀ : World S Op K)
    (l : Locals) (w : World S Op K) : Prop where
  conserved : w.Conserved dir
  within : l.Within src
  staged : w.log.staged ++ l.rest src = w₀.log.staged ++ src.content
  served : (l = .start src ∧ w = w₀) ∨ ∃ cs c, Served dir src last l w₀ w cs c

/-- The last codec call of the log failed. -/
structure CodecFailed (dir : Direction S Op) (src : Chunk) (w₀ w : World S Op K)
    (cs : List (Call S Op)) (c : Call S Op) : Prop where
  calls : w.log.calls = w₀.log.calls ++ cs ++ [c]
  earlier : NoErrors cs ∧ ∀ d ∈ cs, d.op = dir.op false
  failed : isError c.reply.ret = true
  unread : w₀.sctx.input.pos = 0 → c.input.window ≠ []
  room : w₀.sctx.output.pos = 0 → c.output.room = dir.outSize
  staged : w.log.staged <+: w₀.log.staged ++ src.content

/-- Why a chunk loop raised `e`. -/
inductive Failure (dir : Direction S Op) (src : Chunk) (drain : Drain K) (w₀ : World S Op K) :
    Stop → World S Op K → Prop
  | running (w) : Failure dir src drain w₀ .running w
  | codec (w cs c) (e : VError) (h : CodecFailed dir src w₀ w cs c) :
    Failure dir src drain w₀ (.raised e) w
  | drain (w k sink bytes) (e : DrainError) (h : drain k bytes = (sink, some e)) :
    Failure dir src drain w₀ (.raised (.drain e)) w

namespace Progress

variable {w₀ w : World S Op K} {l : Locals}

lemma start (h : w₀.Conserved dir) : Progress dir src last w₀ (.start src) w₀ where
  conserved := h
  within := Locals.within_start src
  staged := by rw [Locals.rest_start]
  served := .inl ⟨rfl, rfl⟩

lemma conserved_fed (h : Progress dir src last w₀ l w) : (w.fed dir src l).Conserved dir := by
  apply h.conserved.stage
  have hfed := (h.conserved.toBounded.fed h.within).input.size_le
  exact hfed

/-- The piece goes from the rest to the staged bytes. -/
lemma staged_fed (h : Progress dir src last w₀ l w) (hc : 0 < l.restLen) :
    (w.fed dir src l).log.staged ++ (l.next (w.free dir)).rest src =
      w₀.log.staged ++ src.content := by
  rw [h.within.rest_next _ hc, ← h.staged, World.fed]
  simp

lemma calls_fed : (w.fed dir src l).log.calls = w.log.calls := by
  simp [World.fed]

/-- The calls before the next one. -/
lemma calls_eq (h : Progress dir src last w₀ l w) (hc : 0 < l.restLen) :
    ∃ cs, w.log.calls = w₀.log.calls ++ cs ∧ NoErrors cs ∧ ∀ d ∈ cs, d.op = dir.op false := by
  rcases h.served with ⟨_, rfl⟩ | ⟨cs, c, hs⟩
  · exact ⟨[], by simp, by simp [NoErrors], by simp⟩
  · obtain ⟨hok, hops⟩ := hs.earlier
    refine ⟨cs ++ [c], by rw [hs.calls, List.append_assoc], ?_, ?_⟩
    · exact noErrors_append.mpr ⟨hok, noErrors_singleton.mpr hs.ok⟩
    · have hop : c.op = dir.op false := by
        have hne : (l.restLen == 0) = false := by simpa using hc.ne'
        rw [hs.op, hne, Bool.and_false]
      intro d hd
      rcases List.mem_append.mp hd with hd | hd
      · exact hops d hd
      · rw [List.mem_singleton.mp hd]
        exact hop

lemma output_pos (h : Progress dir src last w₀ l w) (h₀ : w₀.sctx.output.pos = 0) :
    w.sctx.output.pos = 0 := by
  rcases h.served with ⟨_, rfl⟩ | ⟨cs, c, hs⟩
  · exact h₀
  · exact hs.outputPos

/-- After a piece has been staged there is something to read. -/
lemma window_fed_ne_nil (h : Progress dir src last w₀ l w) (hc : 0 < l.restLen)
    (hpos : w.sctx.input.pos = 0) : (w.fed dir src l).sctx.input.window ≠ [] := by
  have hsize := h.conserved.size_le
  have hin := dir.inSize_pos
  have hlen := h.within.length_rest
  have hfree : w.free dir = dir.inSize - w.sctx.input.size := rfl
  rw [Ne, InBuffer.window_eq_nil_iff, World.fed, World.input_stage, InBuffer.stage_pos,
    InBuffer.stage_size, List.length_take, hlen]
  omega

lemma input_pos (h : Progress dir src last w₀ l w) (h₀ : w₀.sctx.input.pos = 0) :
    w.sctx.input.pos = 0 := by
  rcases h.served with ⟨_, rfl⟩ | ⟨cs, c, hs⟩
  · exact h₀
  · exact hs.inputPos

/-- All of the output buffer is there for a call. -/
lemma room_passCall (h : Progress dir src last w₀ l w) (h₀ : w₀.sctx.output.pos = 0) :
    (passCall dir src last l w).output.room = dir.outSize := by
  have hpos := h.output_pos h₀
  have hsize := h.conserved.outSize
  exact (congrArg₂ (· - ·) hsize hpos).trans (Nat.sub_zero _)

/-- One more pass. -/
lemma step (h : Progress dir src last w₀ l w) (hc : 0 < l.restLen) (k : K)
    (hok : isError (passCall dir src last l w).reply.ret = false) :
    Progress dir src last w₀
      { l.next (w.free dir) with res := (passCall dir src last l w).reply.ret }
      ((w.fed dir src l).served (passCall dir src last l w) k) := by
  obtain ⟨cs, hcalls, hcs⟩ := h.calls_eq hc
  have hfed := h.conserved_fed
  have hlog := (w.fed dir src l).log_served (passCall dir src last l w) k
  have hserved : ((w.fed dir src l).served (passCall dir src last l w) k).Conserved dir :=
    (World.conservedInvariant dir).served hfed _ k
  have hnext := h.within.next (w.free dir) hc
  refine ⟨hserved, ⟨hnext.le, hnext.split⟩, ?_, .inr ⟨cs, passCall dir src last l w, ?_⟩⟩
  · rw [← h.staged_fed hc]
    simp [World.served, Locals.rest]
  · constructor
    · exact Int.lt_of_lt_of_le hc h.within.le
    · exact h.within.next_nonneg _
    · simp [World.served, calls_fed, hcalls]
    · exact hcs
    · exact hok
    · rfl
    · rfl
    · intro hharmless
      have hpast : (w.fed dir src l).log.Harmless := by
        obtain ⟨later, hlater⟩ := hlog
        rw [← hlater, World.log_answer] at hharmless
        exact hharmless.of_append.of_append
      have hbalance := hfed.balance hpast
      rw [Log.consumed, calls_fed, hcalls] at hbalance
      simpa [World.served, passCall] using hbalance
    · intro h₀
      exact h.window_fed_ne_nil hc (h.input_pos h₀)
    · exact h.room_passCall
    · simp [World.served]
    · exact ((World.boundedInvariant dir).emptied (hfed.toBounded.answer _) k).rewound_pos
    · simp [World.served, passCall, Call.inputAfter]
      omega
    · rw [InBuffer.window_length]
      exact (w.fed dir src l).request_consumed_le dir.codec _

/-- A pass whose codec call fails. -/
lemma codecFailed (h : Progress dir src last w₀ l w) (hc : 0 < l.restLen)
    (herr : isError (passCall dir src last l w).reply.ret = true) :
    ∃ cs, CodecFailed dir src w₀ ((w.fed dir src l).answer (passCall dir src last l w)) cs
      (passCall dir src last l w) := by
  obtain ⟨cs, hcalls, hearlier⟩ := h.calls_eq hc
  refine ⟨cs, ?_, hearlier, herr, fun h₀ => h.window_fed_ne_nil hc (h.input_pos h₀),
    h.room_passCall, ?_⟩
  · simp [calls_fed, hcalls]
  · refine ⟨(l.next (w.free dir)).rest src, ?_⟩
    rw [← h.staged_fed hc]
    simp

/-- One pass, however it ends. -/
lemma pass (h : Progress dir src last w₀ l w) (hc : 0 < l.restLen) (drain : Drain K) :
    Ends (Progress dir src last w₀) (Failure dir src drain w₀)
      (chunkPass dir src last drain l w) := by
  rcases chunkPass_cases h.conserved.toBounded h.within hc drain with
    ⟨herr, hr⟩ | ⟨hok, k, hr⟩ | ⟨hok, k, e, bytes, hd, hr⟩
  · obtain ⟨cs, hfailed⟩ := h.codecFailed hc herr
    rw [hr]
    exact .codec _ cs _ _ hfailed
  · rw [hr]
    exact h.step hc k hok
  · rw [hr]
    exact .drain _ _ k bytes e hd

end Progress

/-! ### The whole loop, and the check behind it -/

variable {w₀ w : World S Op K}

/-- The loop makes progress until the whole chunk is staged, or stops for a reason. -/
lemma chunkLoop_progress (h : w₀.Conserved dir) (fuel : Nat) (src : Chunk) (last : Bool)
    (drain : Drain K) :
    Ends (fun l w => Progress dir src last w₀ l w ∧ l.restLen ≤ 0) (Failure dir src drain w₀)
      (chunkLoop dir fuel src last drain w₀) := by
  have hbody : ∀ l : Locals, decide (0 < l.restLen) = true →
      Triple (Progress dir src last w₀ l) (chunkPass dir src last drain l)
        (Progress dir src last w₀) (Failure dir src drain w₀) := by
    intro l hc w hw
    exact hw.pass (by simpa using hc) drain
  have hstop : ∀ l w, Progress dir src last w₀ l w → Failure dir src drain w₀ .running w :=
    fun _ w _ => .running w
  have hloop := Triple.whileFuel hbody hstop fuel (.start src)
  refine (hloop w₀ (Progress.start h)).mono (fun l w hw => ⟨hw.1, ?_⟩) fun _ _ he => he
  simpa using hw.2

/-- A chunk call that succeeds has staged the whole chunk; if it was the last one, the codec's last
result was 0 and all that was staged has been read. -/
lemma chunkAt_ok (h : w₀.Conserved dir) {fuel : Nat} {drain : Drain K}
    (hr : chunkAt dir fuel src last drain w₀ = .ok () w) :
    ∃ l, Progress dir src last w₀ l w ∧ l.restLen ≤ 0 ∧
      (last = true → l.res = 0 ∧ w.sctx.input.pos = w.sctx.input.size) := by
  have hloop := chunkLoop_progress h fuel src last drain
  rw [chunkAt, bind_run] at hr
  cases hl : chunkLoop dir fuel src last drain w₀ with
  | error e w' => simp [hl] at hr
  | ok l w' =>
    rw [hl] at hloop hr
    obtain ⟨hprogress, hrest⟩ := hloop
    simp only [checkFinished, get_bind] at hr
    split at hr
    next => simp at hr
    next hcheck =>
      obtain rfl : w' = w := by simpa using hr
      refine ⟨l, hprogress, hrest, ?_⟩
      rintro rfl
      simpa using hcheck

lemma Progress.staged_eq {l : Locals} (h : Progress dir src last w₀ l w) (hrest : l.restLen ≤ 0) :
    w.log.staged = w₀.log.staged ++ src.content := by
  have hstaged := h.staged
  rwa [Locals.rest_of_nonpos hrest, List.append_nil] at hstaged

/-! ### A chunk of one piece -/

def Drain.NeverFails (drain : Drain K) : Prop := ∀ k bytes, (drain k bytes).2 = none

lemma Drain.NeverFails.ne_error {drain : Drain K} (h : drain.NeverFails) {k sink : K}
    {bytes : List UInt8} {e : DrainError} : drain k bytes ≠ (sink, some e) := by
  intro hd
  have hnone := h k bytes
  rw [hd] at hnone
  cases hnone

/-- The first call of a stream whose first chunk fits into the input buffer sees all of it. -/
lemma passCall_start (s : S) (sink : K) (beyond : Nat → Nat → UInt8)
    (hfits : src.len ≤ dir.inSize) :
    let c := passCall dir src last (.start src) (World.start dir s sink beyond)
    c.state = s ∧ c.output.room = dir.outSize ∧ c.input.window = src.content := by
  refine ⟨rfl, Nat.sub_zero _, ?_⟩
  have hlen : src.content.length ≤ dir.inSize := by
    have hle := (Locals.within_start src).length_rest
    rw [Locals.rest_start] at hle
    change _ = src.len.toNat at hle
    omega
  have hfree : (World.start dir s sink beyond).free dir = dir.inSize := Nat.sub_zero _
  have hinput : (World.start dir s sink beyond).sctx.input.window = [] := rfl
  show ((World.start dir s sink beyond).fed dir src (.start src)).sctx.input.window = _
  rw [World.fed, World.input_stage, InBuffer.window_stage (Nat.le_refl _), hinput, hfree,
    Locals.rest_start, List.take_of_length_le hlen, List.nil_append]

/-- A chunk that fits into the input buffer gets one pass. -/
lemma chunkLoop_of_fits (h : w₀.Bounded dir) (hlen : 0 < src.len) (hfits : src.len ≤ w₀.free dir)
    {drain : Drain K} (hdrain : drain.NeverFails) (fuel : Nat)
    (hok : isError (passCall dir src last (.start src) w₀).reply.ret = false) :
    ∃ l w, chunkLoop dir (fuel + 1) src last drain w₀ = .ok l w ∧
      l.res = (passCall dir src last (.start src) w₀).reply.ret := by
  have hzero : ((Locals.start src).next (w₀.free dir)).restLen = 0 := Locals.next_of_le hfits
  have hfirst : (fun l : Locals => decide (0 < l.restLen)) (.start src) = true :=
    decide_eq_true hlen
  have hloop : chunkLoop dir (fuel + 1) src last drain =
      chunkPass dir src last drain (.start src) >>=
        whileFuel .running (fun l => decide (0 < l.restLen)) (chunkPass dir src last drain) fuel :=
    whileFuel_succ fuel hfirst
  rcases chunkPass_cases h (Locals.within_start src) hlen drain with
    ⟨herr, _⟩ | ⟨_, k, hr⟩ | ⟨_, k, e, bytes, hd, _⟩
  · rw [hok] at herr
    cases herr
  · refine ⟨{ (Locals.start src).next (w₀.free dir) with
      res := (passCall dir src last (.start src) w₀).reply.ret },
      (w₀.fed dir src (.start src)).served (passCall dir src last (.start src) w₀) k, ?_, rfl⟩
    rw [hloop, bind_ok hr, whileFuel_done _ (by simp [hzero])]
    rfl
  · exact absurd hd hdrain.ne_error

end VZstd
