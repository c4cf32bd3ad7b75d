import VZstd.Stream.Feed

/-!
# The chunk loop ends

A pass need not stage anything, and a codec call need not read anything. What gets smaller is the
number of bytes that are still to be read, in the chunk and in the input buffer, together with the
number of bytes that can still come out.
-/

namespace VZstd

open Proc

variable {S Op K : Type} {dir : Direction S Op}

/-- As long as `G` holds of the history, a codec call on a part of `X` that has something to read
and all of the output buffer to fill makes progress, and no more than `B` bytes come out. The call
is part of that history. -/
def Productive (dir : Direction S Op) (I : World S Op K → Prop) (G : Log S Op → Prop)
    (X : List UInt8) (B : Nat) : Prop :=
  ∀ (v : World S Op K) (op : Op), v.Conserved dir → I v → NoErrors v.log.calls →
    (∀ d ∈ v.log.calls, d.op = dir.op false) → v.log.staged <+: X →
    v.sctx.input.window ≠ [] → v.sctx.output.pos = 0 → G (v.answer (v.request dir.codec op)).log →
    isError (v.request dir.codec op).reply.ret = false →
    0 < (v.request dir.codec op).reply.consumed + (v.request dir.codec op).reply.produced.length ∧
      (v.log.produced ++ (v.request dir.codec op).reply.produced).length ≤ B

/-- The log of `l` is a part of every later log. -/
lemma prefixInvariant (codec : Codec S Op) (l : Log S Op) :
    Invariant codec (fun w : World S Op K => l <+: w.log) where
  stage _ _ h _ := h.trans (List.prefix_append _ _)
  answer _ _ h := h.trans (List.prefix_append _ _)
  drained _ _ _ h _ := h.trans (List.prefix_append _ _)
  compact _ h _ := h.trans (List.prefix_append _ _)

/-- `G` is a property of histories that a longer history can only lose. -/
def Persistent (G : Log S Op → Prop) : Prop := ∀ l l', l <+: l' → G l' → G l

lemma Persistent.invariant {G : Log S Op → Prop} (hG : Persistent G) (codec : Codec S Op) :
    Invariant codec (fun w : World S Op K => ¬G w.log) where
  stage w xs h _ := fun hG' => h (hG _ _ (List.prefix_append w.log [.staged xs]) hG')
  answer w op h :=
    fun hG' => h (hG _ _ (List.prefix_append w.log [.called (w.request codec op)]) hG')
  drained w _ b h _ := fun hG' => h (hG _ _ (List.prefix_append w.log [.drained _ b]) hG')
  compact w h _ := fun hG' => h (hG _ _ (List.prefix_append w.log [.compacted _ _]) hG')

/-- What holds after a run has held after its beginning. -/
lemma Persistent.of_bind {α β : Type} {G : Log S Op → Prop} (hG : Persistent G)
    {x : StreamM S Op K α} {f : α → StreamM S Op K β} {w : World S Op K}
    (hf : ∀ a w', w'.log <+: (final (f a w')).log) (h : G (final ((x >>= f) w)).log) :
    G (final (x w)).log := by
  rw [bind_run] at h
  cases hx : x w with
  | ok a w' =>
    rw [hx] at h
    exact hG _ _ (hf a w') h
  | error e w' => rwa [hx] at h

lemma persistent_true : Persistent (fun _ : Log S Op => True) := fun _ _ _ _ => trivial

section Loop

variable {src : Chunk} {last : Bool} {w₀ w : World S Op K} {l : Locals}

/-- What is unread, in the chunk and in the buffer, and what can still come out. -/
def remaining (B : Nat) (l : Locals) (w : World S Op K) : Nat :=
  l.restLen.toNat + w.sctx.input.window.length + (B - w.log.produced.length)

lemma Progress.staged_fed_prefix (h : Progress dir src last w₀ l w) (hc : 0 < l.restLen) :
    (w.fed dir src l).log.staged <+: w₀.log.staged ++ src.content :=
  ⟨_, h.staged_fed hc⟩

lemma length_window_served (v : World S Op K) (c : Call S Op) (k : K)
    (hc : c.input = v.sctx.input) :
    (v.served c k).sctx.input.window.length = v.sctx.input.window.length - c.reply.consumed := by
  rw [World.served, World.length_window_rewound, World.input_emptied, World.input_answer,
    Call.inputAfter, hc, InBuffer.window_length, InBuffer.window_length, InBuffer.advance_pos,
    InBuffer.advance_size, Nat.sub_sub]

/-- A pass makes what is unread smaller by what its call reads. -/
lemma World.Bounded.unread_served (h : w.Bounded dir) (hl : l.Within src) (last : Bool) (k : K) :
    ((w.fed dir src l).served (passCall dir src last l w) k).sctx.input.window.length +
        (l.next (w.free dir)).restLen.toNat + (passCall dir src last l w).reply.consumed =
      w.sctx.input.window.length + l.restLen.toNat := by
  have hconsumed := (w.fed dir src l).request_consumed_le dir.codec
    (dir.op (last && (l.next (w.free dir)).restLen == 0))
  have hwindow := h.length_window_fed hl
  have hrest := hl.next_toNat (w.free dir)
  rw [← InBuffer.window_length] at hconsumed
  change (passCall dir src last l w).reply.consumed ≤ _ at hconsumed
  rw [length_window_served _ _ k rfl, hwindow, hrest]
  rw [hwindow] at hconsumed
  omega

lemma produced_served (k : K) :
    ((w.fed dir src l).served (passCall dir src last l w) k).log.produced =
      w.log.produced ++ (passCall dir src last l w).reply.produced := by
  simp [World.served, Log.produced, Progress.calls_fed]

/-- A productive pass leaves less than there was. -/
lemma Progress.remaining_lt (h : Progress dir src last w₀ l w) {B : Nat} (k : K)
    (hlt : 0 < (passCall dir src last l w).reply.consumed +
      (passCall dir src last l w).reply.produced.length)
    (hB : (w.log.produced ++ (passCall dir src last l w).reply.produced).length ≤ B) (r : UInt64) :
    remaining B { l.next (w.free dir) with res := r }
      ((w.fed dir src l).served (passCall dir src last l w) k) < remaining B l w := by
  have hunread := h.conserved.toBounded.unread_served h.within last k
  rw [remaining, remaining, produced_served]
  rw [List.length_append] at hB ⊢
  show (l.next (w.free dir)).restLen.toNat + _ + _ < _
  omega

variable {I : World S Op K → Prop} {G : Log S Op → Prop} {B fuel : Nat} {drain : Drain K}

/-- With a productive codec, the loop does not run out of fuel while `G` holds. -/
lemma chunkLoop_terminates (hI : Invariant dir.codec I) (hG : Persistent G)
    (hprod : Productive dir I G (w₀.log.staged ++ src.content) B) (h : w₀.Ready dir)
    (hI₀ : I w₀) (hfuel : remaining B (.start src) w₀ < fuel)
    (hr : chunkLoop dir fuel src last drain w₀ = .error .running w) : ¬G w.log := by
  have hpass : ∀ l w, decide (0 < l.restLen) = true → Progress dir src last w₀ l w ∧ I w →
      Ends (fun l' w' => (Progress dir src last w₀ l' w' ∧ I w') ∧
          (G w'.log → remaining B l' w' < remaining B l w))
        (fun e w' => e = .running → ¬G w'.log) (chunkPass dir src last drain l w) := by
    rintro l w hl ⟨hw, hIw⟩
    have hc : 0 < l.restLen := by simpa using hl
    have hkeeps := hI.keeps_chunkPass src last drain l w hIw
    rcases chunkPass_cases hw.conserved.toBounded hw.within hc drain with
      ⟨_, hr⟩ | ⟨hok, k, hr⟩ | ⟨_, k, e, bytes, _, hr⟩
    · rw [hr]
      rintro ⟨⟩
    · rw [hr] at hkeeps ⊢
      refine ⟨⟨hw.step hc k hok, hkeeps⟩, fun hGw => ?_⟩
      have hready : w.Ready dir := hw.ready h (by simp [hc.ne'])
      have hcalls : (w.fed dir src l).log.calls = w.log.calls := Progress.calls_fed
      have hGfed : G ((w.fed dir src l).answer (passCall dir src last l w)).log :=
        hG _ _ ((w.fed dir src l).log_served _ k) hGw
      obtain ⟨hlt, hB⟩ := hprod (w.fed dir src l) _ hw.conserved_fed
        (hI.stage w _ hIw (hw.conserved.toBounded.fed hw.within).input.size_le)
        (by rw [hcalls]; exact hready.noErrors) (by rw [hcalls]; exact hready.ops)
        (hw.staged_fed_prefix hc) (hw.window_fed_ne_nil hc hready.inputPos) hready.outputPos hGfed
        hok
      apply hw.remaining_lt k hlt
      rwa [Log.produced, Progress.calls_fed] at hB
    · rw [hr]
      rintro ⟨⟩
  have hbad : ∀ l, Keeps (fun w => ¬G w.log) (chunkPass dir src last drain l) :=
    (hG.invariant dir.codec).keeps_chunkPass src last drain
  have htotal := whileFuel_total (fun w => G w.log) (remaining B) hpass hbad fuel (.start src) w₀
    ⟨Progress.start h.toConserved, hI₀⟩ fun _ => hfuel
  have hrun : whileFuel .running (fun l => decide (0 < l.restLen))
      (chunkPass dir src last drain) fuel (.start src) w₀ = .error .running w := hr
  rw [hrun] at htotal
  exact htotal rfl

end Loop

/-! ### How a feed ends -/

/-- The ways a feed ends when no loop runs out of fuel. -/
inductive FeedEnd (dir : Direction S Op) (drain : Drain K) (w₀ : World S Op K)
    (chunks : List Chunk) : EStateM.Result Stop (World S Op K) Unit → Prop where
  | nothing (h : chunks = []) : FeedEnd dir drain w₀ chunks (.ok () w₀)
  /-- the loop for the final chunk has ended, and only the check behind it is left -/
  | checked {init : List Chunk} {last : Chunk} {w₁ w : World S Op K} {l : Locals}
      (hchunks : chunks = init ++ [last]) (hfed : Fed dir w₀ w₁ init)
      (hprogress : Progress dir last true w₁ l w) (hrest : l.restLen ≤ 0) :
      FeedEnd dir drain w₀ chunks (checkFinished dir true l w)
  | codec {init rest : List Chunk} {src : Chunk} {w₁ w : World S Op K} {cs : List (Call S Op)}
      {c : Call S Op} {e : VError} (hchunks : chunks = init ++ src :: rest)
      (hfed : Fed dir w₀ w₁ init) (hfailed : CodecFailed dir src w₁ w cs c) :
      FeedEnd dir drain w₀ chunks (.error (.raised e) w)
  | drain {w : World S Op K} {k sink : K} {bytes : List UInt8} {e : DrainError}
      (h : drain k bytes = (sink, some e)) :
      FeedEnd dir drain w₀ chunks (.error (.raised (.drain e)) w)

variable {w₀ w₁ : World S Op K} {I : World S Op K → Prop} {G : Log S Op → Prop} {B fuel : Nat}
  {drain : Drain K} {X : List UInt8}

lemma checkFinished_true (l : Locals) (w : World S Op K) :
    checkFinished dir true l w =
      if l.res = 0 ∧ w.sctx.input.pos = w.sctx.input.size then .ok () w
      else .error (.raised (.message dir.unfinished)) w := by
  rw [checkFinished, get_bind]
  by_cases h : l.res = 0 ∧ w.sctx.input.pos = w.sctx.input.size
  · simp [h]
  · rw [if_neg h]
    rw [not_and_or] at h
    simp [h]

lemma checkFinished_log (last : Bool) (l : Locals) (w : World S Op K) :
    (final (checkFinished dir last l w)) = w := by
  rw [checkFinished, get_bind]
  split <;> rfl

/-- A feed returns or raises an error. -/
lemma FeedEnd.outcome_cases {chunks : List Chunk} {r : EStateM.Result Stop (World S Op K) Unit}
    (h : FeedEnd dir drain w₀ chunks r) :
    outcome r = .ok () ∨ ∃ e, outcome r = .error (.raised e) := by
  cases h with
  | nothing => exact .inl rfl
  | @checked init last w₁ w l =>
    rw [checkFinished_true]
    split
    · exact .inl rfl
    · exact .inr ⟨_, rfl⟩
  | codec => exact .inr ⟨_, rfl⟩
  | drain => exact .inr ⟨_, rfl⟩

lemma Productive.of_prefix {Y : List UInt8} (h : Productive dir I G X B) (hY : Y <+: X) :
    Productive dir I G Y B :=
  fun v op hv hIv hok hops hstaged => h v op hv hIv hok hops (hstaged.trans hY)

/-- The fuel that is enough for any part of `X`. -/
lemma remaining_start_le {src : Chunk} (h : w₀.Conserved dir)
    (hX : w₀.log.staged ++ src.content <+: X) :
    remaining B (.start src) w₀ ≤ X.length + B := by
  have hlen := (Locals.within_start src).length_rest
  have hcount := h.count
  have hle := hX.length_le
  rw [Locals.rest_start] at hlen
  rw [List.length_append, hlen] at hle
  rw [remaining]
  omega

/-- The loop stages the chunk, or the codec or the drain callback fails. -/
lemma chunkLoop_end (hI : Invariant dir.codec I) (hG : Persistent G)
    (hprod : Productive dir I G X B) (h : w₀.Ready dir) (hI₀ : I w₀) (src : Chunk) (last : Bool)
    (hX : w₀.log.staged ++ src.content <+: X) (hfuel : X.length + B < fuel)
    (hGr : G (final (chunkLoop dir fuel src last drain w₀)).log) :
    (∃ l w, chunkLoop dir fuel src last drain w₀ = .ok l w ∧
      Progress dir src last w₀ l w ∧ l.restLen ≤ 0) ∨
    (∃ e w cs c, chunkLoop dir fuel src last drain w₀ = .error (.raised e) w ∧
      CodecFailed dir src w₀ w cs c) ∨
    ∃ e w k sink bytes, chunkLoop dir fuel src last drain w₀ = .error (.raised (.drain e)) w ∧
      drain k bytes = (sink, some e) := by
  have hprogress := chunkLoop_progress h.toConserved fuel src last drain
  have hremaining : remaining B (.start src) w₀ ≤ X.length + B :=
    remaining_start_le h.toConserved hX
  cases hr : chunkLoop dir fuel src last drain w₀ with
  | ok l w =>
    rw [hr] at hprogress
    exact .inl ⟨l, w, rfl, hprogress⟩
  | error e w =>
    rw [hr] at hprogress hGr
    have hfailure : Failure dir src drain w₀ e w := hprogress
    cases hfailure with
    | running =>
      exact absurd hGr (chunkLoop_terminates hI hG (hprod.of_prefix hX) h hI₀
        (Nat.lt_of_le_of_lt hremaining hfuel) hr)
    | codec _ cs c e hfailed => exact .inr (.inl ⟨e, w, cs, c, rfl, hfailed⟩)
    | drain _ k sink bytes e hd => exact .inr (.inr ⟨e, w, k, sink, bytes, rfl, hd⟩)

/-- The check behind the loop adds nothing to the history. -/
lemma persistent_chunkLoop (hG : Persistent G) {src : Chunk} {last : Bool}
    (h : G (final (chunkAt dir fuel src last drain w₀)).log) :
    G (final (chunkLoop dir fuel src last drain w₀)).log := by
  refine hG.of_bind (fun l w => ?_) h
  exact (congrArg World.log (checkFinished_log last l w)).symm ▸ List.prefix_refl w.log

/-- A chunk that is not the last needs no check. -/
lemma chunkAt_false_of_ok {src : Chunk} {l : Locals} {w : World S Op K}
    (hr : chunkLoop dir fuel src false drain w₀ = .ok l w) :
    chunkAt dir fuel src false drain w₀ = .ok () w := by
  rw [chunkAt, bind_ok hr]
  rfl

/-- A feed that ends after the first chunk. -/
lemma FeedEnd.cons {c : Chunk} {chunks : List Chunk}
    {r : EStateM.Result Stop (World S Op K) Unit} (h : FeedEnd dir drain w₁ chunks r)
    (hfed : Fed dir w₀ w₁ [c]) (hne : chunks ≠ []) : FeedEnd dir drain w₀ (c :: chunks) r := by
  cases h with
  | nothing hnil => exact absurd hnil hne
  | checked hchunks hfed' hprogress hrest =>
    subst hchunks
    exact .checked rfl (hfed.trans hfed') hprogress hrest
  | codec hchunks hfed' hfailed =>
    subst hchunks
    exact .codec rfl (hfed.trans hfed') hfailed
  | drain hd => exact .drain hd

/-- The run lemma of a feed: with a productive codec and enough fuel, it ends. -/
lemma feed_end (hI : Invariant dir.codec I) (hG : Persistent G) (hprod : Productive dir I G X B)
    {chunks : List Chunk} (h : w₀.Ready dir) (hI₀ : I w₀)
    (hX : w₀.log.staged ++ contents chunks <+: X) (hfuel : X.length + B < fuel)
    (hGr : G (final (feed dir fuel drain chunks w₀)).log) :
    FeedEnd dir drain w₀ chunks (feed dir fuel drain chunks w₀) := by
  induction chunks using feed.induct generalizing w₀ with
  | case1 => exact .nothing rfl
  | case2 c =>
    rw [feed] at hGr ⊢
    rw [contents_cons, contents_nil, List.append_nil] at hX
    have hloop := persistent_chunkLoop hG hGr
    rw [chunkAt, bind_run]
    rcases chunkLoop_end hI hG hprod h hI₀ c true hX hfuel hloop with
      ⟨l, w, hr, hprogress, hrest⟩ | ⟨e, w, cs, d, hr, hfailed⟩ | ⟨e, w, k, sink, bytes, hr, hd⟩
    · rw [hr]
      exact .checked rfl (.refl h) hprogress hrest
    · rw [hr]
      exact .codec rfl (.refl h) hfailed
    · rw [hr]
      exact .drain hd
  | case3 c cs hne ih =>
    have hXc : w₀.log.staged ++ c.content <+: X := by
      refine List.IsPrefix.trans ⟨contents cs, ?_⟩ hX
      rw [List.append_assoc]
      rfl
    rw [feed_cons dir fuel drain c hne] at hGr ⊢
    have hloop := persistent_chunkLoop hG (hG.of_bind (fun _ w =>
      ((prefixInvariant dir.codec w.log).keeps_feed fuel drain cs).final
        (List.prefix_refl w.log)) hGr)
    rcases chunkLoop_end hI hG hprod h hI₀ c false hXc hfuel hloop with
      ⟨l, w, hr, hprogress, hrest⟩ | ⟨e, w, cs', d, hr, hfailed⟩ | ⟨e, w, k, sink, bytes, hr, hd⟩
    · have hchunk := chunkAt_false_of_ok hr
      have hfed := hprogress.fed h hrest
      have hIw : I w := by
        have hkeeps := (hI.keeps_chunkAt fuel c false drain).final hI₀
        rwa [hchunk] at hkeeps
      rw [bind_ok hchunk] at hGr ⊢
      refine (ih hfed.ready hIw ?_ hGr).cons hfed ?_
      · rw [hprogress.staged_eq hrest, List.append_assoc]
        exact hX
      · exact fun hnil => hne hnil
    · have hchunk : chunkAt dir fuel c false drain w₀ = .error (.raised e) w := bind_error hr
      rw [bind_error hchunk]
      exact .codec (List.nil_append (c :: cs)).symm (.refl h) hfailed
    · have hchunk : chunkAt dir fuel c false drain w₀ = .error (.raised (.drain e)) w :=
        bind_error hr
      rw [bind_error hchunk]
      exact .drain hd

/-! ### The last call -/

/-- The codec calls of a feed whose last call told the codec of the end, and what decided. -/
structure LastCall (dir : Direction S Op) (chunks : List Chunk)
    (r : EStateM.Result Stop (World S Op K) Unit) (cs : List (Call S Op)) (c : Call S Op) :
    Prop where
  calls : (final r).log.calls = cs ++ [c]
  earlier : NoErrors cs ∧ ∀ d ∈ cs, d.op = dir.op false
  ok : isError c.reply.ret = false
  op : c.op = dir.op true
  unread : c.input.window ≠ []
  room : c.output.room = dir.outSize
  staged : (final r).log.staged = contents chunks
  /-- the call saw all that was unread -/
  count : (bytesRead cs).length + c.input.window.length = (contents chunks).length
  window : (final r).log.Harmless → bytesRead cs ++ c.input.window = contents chunks
  decides : outcome r = if c.reply.ret = 0 ∧ c.reply.consumed = c.input.window.length then .ok ()
    else .error (.raised (.message dir.unfinished))

lemma LastCall.outcome_eq_ok {chunks : List Chunk}
    {r : EStateM.Result Stop (World S Op K) Unit} {cs : List (Call S Op)} {c : Call S Op}
    (h : LastCall dir chunks r cs c) :
    outcome r = .ok () ↔ c.reply.ret = 0 ∧ c.reply.consumed = c.input.window.length := by
  rw [h.decides]
  split
  next hdone => exact iff_of_true rfl hdone
  next hopen => exact iff_of_false (fun hok => nomatch hok) hopen

/-- When neither the codec nor the drain fails, a feed whose final chunk is not empty comes to the
last call. -/
lemma FeedEnd.lastCall {s : S} {sink : K} {beyond : Nat → Nat → UInt8} {chunks : List Chunk}
    {r : EStateM.Result Stop (World S Op K) Unit}
    (h : FeedEnd dir drain (World.start dir s sink beyond) chunks r) (hdrain : drain.NeverFails)
    {last : Chunk} (hlast : chunks.getLast? = some last) (hlen : 0 < last.len)
    (hcodec : ∀ cs c, (final r).log.calls = cs ++ [c] → NoErrors cs →
      (∀ d ∈ cs, d.op = dir.op false) → c.input.window ≠ [] → c.output.room = dir.outSize →
      (final r).log.staged <+: contents chunks → isError c.reply.ret = false) :
    ∃ cs c, LastCall dir chunks r cs c := by
  cases h with
  | nothing hnil => simp [hnil] at hlast
  | drain hd => exact absurd hd hdrain.ne_error
  | @codec init rest src w₁ w cs c e hchunks hfed hfailed =>
    have hprefix : w₁.log.staged ++ src.content <+: contents chunks := by
      rw [hfed.staged, hchunks, contents_append, contents_cons, ← List.append_assoc]
      exact List.prefix_append _ _
    have hok := hcodec (w₁.log.calls ++ cs) c hfailed.calls
      (noErrors_append.mpr ⟨hfed.ready.noErrors, hfailed.earlier.1⟩)
      (List.forall_mem_append.mpr ⟨hfed.ready.ops, hfailed.earlier.2⟩)
      (hfailed.unread hfed.ready.inputPos) (hfailed.room hfed.ready.outputPos)
      (hfailed.staged.trans hprefix)
    rw [hfailed.failed] at hok
    cases hok
  | @checked init z w₁ w l hchunks hfed hprogress hrest =>
    subst hchunks
    obtain rfl : z = last := by simpa using hlast
    have hstaged : w.log.staged = contents (init ++ [z]) := by
      rw [hprogress.staged_eq hrest, hfed.staged]
      simp [World.start]
    rcases hprogress.served with ⟨rfl, _⟩ | ⟨cs, c, hs⟩
    · exact absurd hlen (Int.not_lt.mpr hrest)
    · have hzero : l.restLen = 0 := Int.le_antisymm hrest hs.rest_nonneg
      have hle := hs.consumed_le
      refine ⟨w₁.log.calls ++ cs, c, ?_⟩
      constructor
      · rw [checkFinished_log]
        exact hs.calls
      · exact ⟨noErrors_append.mpr ⟨hfed.ready.noErrors, hs.earlier.1⟩,
          List.forall_mem_append.mpr ⟨hfed.ready.ops, hs.earlier.2⟩⟩
      · exact hs.ok
      · rw [hs.op, hzero]
        rfl
      · exact hs.unread hfed.ready.inputPos
      · exact hs.room hfed.ready.outputPos
      · rw [checkFinished_log]
        exact hstaged
      · have hcount := hprogress.conserved.count
        rw [hstaged, Log.consumed, hs.calls, bytesRead_append _ [c], List.length_append] at hcount
        simp [Call.consumed, hs.inputPos, hs.inputSize] at hcount hle ⊢
        omega
      · rw [checkFinished_log]
        exact fun hharmless => (hs.window hharmless).trans hstaged
      · have hread : w.sctx.input.pos = w.sctx.input.size ↔
            c.reply.consumed = c.input.window.length := by
          rw [hs.inputPos, hs.inputSize]
          omega
        rw [checkFinished_true, hs.res]
        simp only [hread]
        split <;> rfl

end VZstd
