import VZstd.Stream.Bounds
import VZstd.Stream.Functions

/-!
# The stable-buffer rules

A caller that sets a stable-buffer parameter promises to leave the buffers alone between two calls
of a frame. `drain_buffer` rewinds both buffers, so the promise is kept exactly as long as there is
nothing to rewind.
-/

namespace VZstd

open Proc

variable {S Op C D K : Type}

/-! ### Successive calls -/

/-- Two successive codec calls and what happened in between. -/
structure Succession (S Op : Type) where
  first : Call S Op
  between : Log S Op
  second : Call S Op

/-- The last codec call with the events since, and all successions so far. -/
structure Trail (S Op : Type) where
  last : Option (Call S Op × Log S Op)
  steps : List (Succession S Op)

def Trail.add (t : Trail S Op) : Event S Op → Trail S Op
  | .called d =>
    { last := some (d, [])
      steps := t.steps ++ (t.last.map fun p => ⟨p.1, p.2, d⟩).toList }
  | e => { t with last := t.last.map fun p => (p.1, p.2 ++ [e]) }

def Log.trail (l : Log S Op) : Trail S Op := l.foldl Trail.add { last := none, steps := [] }

lemma Log.trail_snoc (l : Log S Op) (e : Event S Op) : Log.trail (l ++ [e]) = l.trail.add e := by
  simp [Log.trail, List.foldl_append]

namespace Succession

/-- The rule of `ZSTD_c_stableInBuffer`: `pos` is what the codec last wrote, and `src[0 .. pos)` is
as it was. No operation assigns the `src` pointer. -/
def StableInput (s : Succession S Op) : Prop :=
  s.second.input.pos = s.first.inputAfter.pos ∧
    ∀ i < s.first.inputAfter.pos, s.second.input.src i = s.first.inputAfter.src i

/-- The rule of `ZSTD_c_stableOutBuffer`: `size - pos` has not grown. -/
def StableRoom (s : Succession S Op) : Prop := s.second.output.room ≤ s.first.outputAfter.room

/-- The rule of `ZSTD_d_stableOutBuffer`: `pos` and `dst[0 .. pos)` are as they were. -/
def StableOutput (s : Succession S Op) : Prop :=
  s.second.output.pos = s.first.outputAfter.pos ∧
    ∀ i < s.first.outputAfter.pos, s.second.output.dst i = s.first.outputAfter.dst i

end Succession

/-- The event leaves what the codec has read where it is: there is nothing to rewind. -/
def Event.KeepsInput : Event S Op → Prop
  | compacted before _ => before.pos = 0
  | _ => True

/-- The event leaves what the codec has put out where it is. -/
def Event.KeepsOutput : Event S Op → Prop
  | drained _ true => False
  | _ => True

def Succession.KeepsInput (s : Succession S Op) : Prop := ∀ e ∈ s.between, e.KeepsInput

def Succession.KeepsOutput (s : Succession S Op) : Prop := ∀ e ∈ s.between, e.KeepsOutput

/-! ### What the buffers are like since the last call -/

/-- The input buffer after `mid`, where `b` is how the last call left it. -/
def InBuffer.Since (mid : Log S Op) (b now : InBuffer) : Prop :=
  ((∀ e ∈ mid, e.KeepsInput) ∧ now.pos = b.pos ∧ ∀ i < b.pos, now.src i = b.src i) ∨
    ((¬∀ e ∈ mid, e.KeepsInput) ∧ now.pos = 0 ∧ 0 < b.pos)

/-- The output buffer after `mid`, where `b` is how the last call left it. -/
def OutBuffer.Since (mid : Log S Op) (b now : OutBuffer) : Prop :=
  ((∀ e ∈ mid, e.KeepsOutput) ∧ now = b) ∨
    ((¬∀ e ∈ mid, e.KeepsOutput) ∧ now.pos = 0 ∧ now.size = b.size ∧ 0 < b.pos)

lemma forall_mem_snoc {P : Event S Op → Prop} {l : Log S Op} {e : Event S Op} :
    (∀ x ∈ l ++ [e], P x) ↔ (∀ x ∈ l, P x) ∧ P e := by
  simp [or_imp, forall_and]

namespace InBuffer.Since

variable {mid : Log S Op} {b now : InBuffer}

/-- An event that keeps the input, and leaves `pos` and the bytes before it alone. -/
lemma keep (h : Since mid b now) (e : Event S Op) (he : e.KeepsInput) {now' : InBuffer}
    (hpos : now'.pos = now.pos) (hsrc : ∀ i < now.pos, now'.src i = now.src i) :
    Since (mid ++ [e]) b now' := by
  rcases h with ⟨hkeeps, heq, hbytes⟩ | ⟨hrewound, hzero, hlt⟩
  · refine .inl ⟨forall_mem_snoc.mpr ⟨hkeeps, he⟩, hpos.trans heq, ?_⟩
    intro i hi
    rw [hsrc i (heq ▸ hi), hbytes i hi]
  · refine .inr ⟨?_, hpos.trans hzero, hlt⟩
    intro hall
    exact hrewound (forall_mem_snoc.mp hall).1

/-- A compaction rewinds, unless nothing has been read. -/
lemma compact (h : Since mid b now) (beyond : Nat → UInt8) :
    Since (mid ++ [.compacted now (now.compact beyond)]) b (now.compact beyond) := by
  by_cases hpos : now.pos = 0
  · apply h.keep (.compacted now (now.compact beyond)) hpos
    · rw [InBuffer.compact_pos, hpos]
    · intro i hi
      omega
  · refine .inr ⟨fun hall => hpos (forall_mem_snoc.mp hall).2, InBuffer.compact_pos _ _, ?_⟩
    rcases h with ⟨_, heq, _⟩ | ⟨_, hzero, _⟩
    · omega
    · exact absurd hzero hpos

end InBuffer.Since

namespace OutBuffer.Since

variable {mid : Log S Op} {b now : OutBuffer}

lemma keep (h : Since mid b now) (e : Event S Op) (he : e.KeepsOutput) :
    Since (mid ++ [e]) b now := by
  rcases h with ⟨hkeeps, heq⟩ | ⟨htaken, hrest⟩
  · exact .inl ⟨forall_mem_snoc.mpr ⟨hkeeps, he⟩, heq⟩
  · exact .inr ⟨fun hall => htaken (forall_mem_snoc.mp hall).1, hrest⟩

/-- A drain that took the contents rewinds. -/
lemma taken (h : Since mid b now) (bytes : List UInt8) (hpos : 0 < now.pos) :
    Since (mid ++ [.drained bytes true]) b { now with pos := 0 } := by
  refine .inr ⟨fun hall => (forall_mem_snoc.mp hall).2, rfl, ?_⟩
  rcases h with ⟨_, rfl⟩ | ⟨_, hzero, _⟩
  · exact ⟨rfl, hpos⟩
  · omega

end OutBuffer.Since

/-- A succession obeys each rule exactly when nothing was rewound. -/
structure Succession.Lawful (s : Succession S Op) : Prop where
  input : s.StableInput ↔ s.KeepsInput
  room : s.StableRoom ↔ s.KeepsOutput
  output : s.StableOutput ↔ s.KeepsOutput

lemma Succession.lawful_of_since {s : Succession S Op}
    (hin : InBuffer.Since s.between s.first.inputAfter s.second.input)
    (hout : OutBuffer.Since s.between s.first.outputAfter s.second.output)
    (hsize : 0 < s.second.output.size) : s.Lawful := by
  constructor
  · rcases hin with ⟨hkeeps, hpos, hsrc⟩ | ⟨hrewound, hzero, hlt⟩
    · exact ⟨fun _ => hkeeps, fun _ => ⟨hpos, hsrc⟩⟩
    · refine ⟨?_, fun hkeeps => absurd hkeeps hrewound⟩
      rintro ⟨hpos, _⟩
      omega
  · rcases hout with ⟨hkeeps, heq⟩ | ⟨htaken, hzero, hsame, hlt⟩
    · refine ⟨fun _ => hkeeps, fun _ => ?_⟩
      rw [StableRoom, heq]
    · refine ⟨fun hroom => ?_, fun hkeeps => absurd hkeeps htaken⟩
      rw [StableRoom, OutBuffer.room, OutBuffer.room] at hroom
      omega
  · rcases hout with ⟨hkeeps, heq⟩ | ⟨htaken, hzero, hsame, hlt⟩
    · refine ⟨fun _ => hkeeps, fun _ => ?_⟩
      rw [StableOutput, heq]
      exact ⟨rfl, fun _ _ => rfl⟩
    · refine ⟨?_, fun hkeeps => absurd hkeeps htaken⟩
      rintro ⟨hpos, _⟩
      omega

/-! ### The invariant -/

namespace World

/-- Since the last call the buffers changed as said, and every succession so far is lawful. -/
structure Traced (dir : Direction S Op) (w : World S Op K) : Prop extends w.Bounded dir where
  last : ∀ c mid, w.log.trail.last = some (c, mid) →
    InBuffer.Since mid c.inputAfter w.sctx.input ∧ OutBuffer.Since mid c.outputAfter w.sctx.output
  steps : ∀ s ∈ w.log.trail.steps, s.Lawful

variable {dir : Direction S Op} {w : World S Op K}

lemma traced_start (codec : S) (sink : K) (beyond : Nat → Nat → UInt8) :
    (World.start dir codec sink beyond).Traced dir where
  toBounded := bounded_start codec sink beyond
  last := by
    intro c mid h
    cases h
  steps := by
    intro s hs
    cases hs

/-- An event that is no call. -/
lemma Traced.extend (h : w.Traced dir) {w' : World S Op K} (hw' : w'.Bounded dir)
    {e : Event S Op} (hlog : w'.log = w.log ++ [e])
    (hadd : w.log.trail.add e =
      { w.log.trail with last := w.log.trail.last.map fun p => (p.1, p.2 ++ [e]) })
    (hsince : ∀ (c : Call S Op) mid, InBuffer.Since mid c.inputAfter w.sctx.input →
      OutBuffer.Since mid c.outputAfter w.sctx.output →
      InBuffer.Since (mid ++ [e]) c.inputAfter w'.sctx.input ∧
        OutBuffer.Since (mid ++ [e]) c.outputAfter w'.sctx.output) : w'.Traced dir where
  toBounded := hw'
  last := by
    intro c mid hlast
    rw [hlog, Log.trail_snoc, hadd] at hlast
    obtain ⟨⟨c', mid'⟩, hold, heq⟩ := Option.map_eq_some_iff.mp hlast
    obtain ⟨rfl, rfl⟩ := Prod.mk.inj heq
    obtain ⟨hin, hout⟩ := h.last c' mid' hold
    exact hsince c' mid' hin hout
  steps := by
    intro s hs
    rw [hlog, Log.trail_snoc, hadd] at hs
    exact h.steps s hs

lemma Traced.stage (h : w.Traced dir) {xs : List UInt8}
    (hfit : w.sctx.input.size + xs.length ≤ w.sctx.input.cap) : (w.stage xs).Traced dir := by
  refine h.extend (h.toBounded.stage hfit) (w.log_stage xs) rfl ?_
  intro c mid hin hout
  refine ⟨hin.keep (.staged xs) trivial rfl ?_, hout.keep _ trivial⟩
  -- what is staged goes behind `size`, and `pos` is no further than that
  intro i hi
  exact Memory.write_of_lt _ _ (Nat.lt_of_lt_of_le hi h.input.pos_le)

lemma Traced.drained (h : w.Traced dir) (k : K) (b : Bool) (hpos : 0 < w.sctx.output.pos) :
    (w.drained w.drainBytes k b).Traced dir := by
  refine h.extend (h.toBounded.drained _ k b) (w.log_drained _ k b) rfl ?_
  intro c mid hin hout
  cases b with
  | true => exact ⟨hin.keep (.drained _ true) trivial rfl fun _ _ => rfl, hout.taken _ hpos⟩
  | false => exact ⟨hin.keep (.drained _ false) trivial rfl fun _ _ => rfl, hout.keep _ trivial⟩

lemma Traced.compact (h : w.Traced dir) : w.compact.Traced dir := by
  refine h.extend h.toBounded.compact w.log_compact rfl ?_
  intro c mid hin hout
  exact ⟨hin.compact _, hout.keep _ trivial⟩

lemma Traced.answer (h : w.Traced dir) (op : Op) :
    (w.answer (w.request dir.codec op)).Traced dir where
  toBounded := h.toBounded.answer op
  last := by
    intro c mid hlast
    rw [log_answer, Log.trail_snoc] at hlast
    obtain ⟨rfl, rfl⟩ := Prod.mk.inj (Option.some.inj hlast)
    exact ⟨.inl ⟨by simp, rfl, fun _ _ => rfl⟩, .inl ⟨by simp, rfl⟩⟩
  steps := by
    intro s hs
    rw [log_answer, Log.trail_snoc] at hs
    rcases List.mem_append.mp hs with hs | hs
    · exact h.steps s hs
    · obtain ⟨⟨c, mid⟩, hlast, rfl⟩ := Option.map_eq_some_iff.mp (Option.mem_toList.mp hs)
      obtain ⟨hin, hout⟩ := h.last c mid hlast
      apply Succession.lawful_of_since hin hout
      exact h.outSize ▸ dir.outSize_pos

lemma tracedInvariant (dir : Direction S Op) :
    Invariant dir.codec (World.Traced dir : World S Op K → Prop) where
  stage _ _ h hfit := h.stage hfit
  answer _ op h := h.answer op
  drained _ k b h hpos := h.drained k b hpos
  compact _ h _ := h.compact

end World

/-! ### Runs -/

/-- `rule` holds of any two successive calls, unless the first one ended a frame. -/
def Log.InFrames (ends : Call S Op → Prop) (rule : Succession S Op → Prop) (l : Log S Op) : Prop :=
  ∀ s ∈ l.trail.steps, ¬ends s.first → rule s

lemma Log.inFrames_congr {ends : Call S Op → Prop} {rule rule' : Succession S Op → Prop}
    {l : Log S Op} (h : ∀ s ∈ l.trail.steps, (rule s ↔ rule' s)) :
    l.InFrames ends rule ↔ l.InFrames ends rule' := by
  constructor
  · intro hl s hs hends
    exact (h s hs).mp (hl s hs hends)
  · intro hl s hs hends
    exact (h s hs).mpr (hl s hs hends)

/-- In every run, whatever parameters were set on the context, each stable-buffer rule is obeyed if
and only if between any two calls of a frame there was nothing to rewind. -/
theorem stable_iff_keeps (capi : CompressApi C) (dapi : DecompressApi D)
    (ccalls : List (CompressCall K)) (dcalls : List (DecompressCall K)) (c : C) (d : D) (sink : K)
    (beyond : Nat → Nat → UInt8) :
    (let log := (runCompress capi ccalls (World.start (compression capi) c sink beyond)).2.log
     (log.InFrames Call.ClosesFrame Succession.StableInput ↔
        log.InFrames Call.ClosesFrame Succession.KeepsInput) ∧
      (log.InFrames Call.ClosesFrame Succession.StableRoom ↔
        log.InFrames Call.ClosesFrame Succession.KeepsOutput)) ∧
    (let log := (runDecompress dapi dcalls (World.start (decompression dapi) d sink beyond)).2.log
     log.InFrames Call.EndsFrame Succession.StableOutput ↔
      log.InFrames Call.EndsFrame Succession.KeepsOutput) := by
  constructor
  · intro log
    have htraced := keeps_runCompress (World.tracedInvariant (compression capi)) ccalls
      (World.traced_start c sink beyond)
    constructor
    · exact Log.inFrames_congr fun s hs => (htraced.steps s hs).input
    · exact Log.inFrames_congr fun s hs => (htraced.steps s hs).room
  · intro log
    have htraced := keeps_runDecompress (World.tracedInvariant (decompression dapi)) dcalls
      (World.traced_start d sink beyond)
    exact Log.inFrames_congr fun s hs => (htraced.steps s hs).output

/-- Both parameters are accepted; then the codec reads `[1, 2, 3]` and finds `input.pos` back at 0
and more room than it left when it is given `[4]`. -/
theorem copier_finds_both_rewound :
    let api : CompressApi Nat := .ofCodec copier
    let start : World Nat EndDirective Unit := World.start (compression api) 0 () fun _ _ => 0
    let setUp : StreamM Nat EndDirective Unit Unit := do
      compressSetParam api .stableInBuffer 1
      compressSetParam api .stableOutBuffer 1
    let calls : List (CompressCall Unit) :=
      [.chunkAt 1 (.ofArr ⟨[1, 2, 3], by decide⟩) false fun _ _ => ((), none),
        .chunkAt 1 (.ofArr ⟨[4], by decide⟩) true fun _ _ => ((), none)]
    let log := (runCompress api calls (final (setUp start))).2.log
    outcome (setUp start) = .ok () ∧ ¬log.InFrames Call.ClosesFrame Succession.StableInput ∧
      ¬log.InFrames Call.ClosesFrame Succession.StableRoom := by
  intro api start setUp calls log
  have hsteps : log.trail.steps.map (fun s => (s.first.op, s.first.inputAfter.pos,
      s.second.input.pos, s.first.outputAfter.room, s.second.output.room)) =
        [(.eContinue, 3, 0, 131588, 131591)] := by decide +kernel
  obtain ⟨s, hs, hvalues⟩ := List.map_eq_singleton_iff.mp hsteps
  simp only [Prod.mk.injEq] at hvalues
  obtain ⟨hop, hpos, hpos', hroom, hroom'⟩ := hvalues
  have hmem : s ∈ log.trail.steps := by simp [hs]
  have hopen : ¬s.first.ClosesFrame := by
    rintro ⟨hend, _⟩
    rw [hop] at hend
    cases hend
  refine ⟨rfl, ?_, ?_⟩
  · intro h
    obtain ⟨hsame, _⟩ := h s hmem hopen
    omega
  · intro h
    have hle : s.second.output.room ≤ s.first.outputAfter.room := h s hmem hopen
    omega

end VZstd
