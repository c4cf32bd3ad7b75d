import VZstd.Stream.Bounds
import VZstd.Stream.Functions
import Mathlib.Data.List.Forall2

/-!
# Streams are isolated by a reset

`StreamContext.reset` clears the indices and not the bytes. Two worlds are `Similar` when they
differ only in bytes outside the live windows; every operation takes similar worlds to similar ones,
so that what an earlier stream left in the buffers is never seen.
-/

namespace VZstd

open Proc

variable {S Op C D P K : Type}

/-- The codec looks only at its own state, at the unread bytes and at the room for its output. -/
def Codec.Local (codec : Codec S Op) : Prop :=
  ∀ s op (o₁ o₂ : OutBuffer) (i₁ i₂ : InBuffer), o₁.room = o₂.room → i₁.window = i₂.window →
    codec.call s op o₁ i₁ = codec.call s op o₂ i₂

/-- What can be seen of an event from outside the stream context. -/
inductive Observation (S Op : Type) where
  | staged (bytes : List UInt8)
  | called (op : Op) (input : List UInt8) (room : Nat) (reply : Reply S)
  | drained (bytes : List UInt8) (taken : Bool)
  | compacted (pos size : Nat)
  | returned (ret : UInt64)

def Event.observe : Event S Op → Observation S Op
  | staged bytes => .staged bytes
  | called c => .called c.op c.input.window c.output.room c.reply
  | drained bytes taken => .drained bytes taken
  | compacted before _ => .compacted before.pos before.size
  | returned ret => .returned ret

/-- What can be seen of the world since its history was `past`. -/
def World.Seen (past : Log S Op) (obs : List (Observation S Op)) (w : World S Op K) : Prop :=
  ∃ l, w.log = past ++ l ∧ l.map Event.observe = obs

/-- Two worlds that only differ in bytes outside the live windows, and in their past. -/
structure World.Similar (dir : Direction S Op) (past₁ past₂ : Log S Op) (w₁ w₂ : World S Op K) :
    Prop where
  left : w₁.Bounded dir
  right : w₂.Bounded dir
  codec : w₁.codec = w₂.codec
  sink : w₁.sink = w₂.sink
  inputPos : w₁.sctx.input.pos = w₂.sctx.input.pos
  inputSize : w₁.sctx.input.size = w₂.sctx.input.size
  window : w₁.sctx.input.window = w₂.sctx.input.window
  contents : w₁.sctx.output.contents = w₂.sctx.output.contents
  seen : ∃ obs, w₁.Seen past₁ obs ∧ w₂.Seen past₂ obs

namespace World

lemma Seen.snoc {past : Log S Op} {obs : List (Observation S Op)} {w w' : World S Op K}
    {e : Event S Op} (h : w.Seen past obs) (hlog : w'.log = w.log ++ [e]) :
    w'.Seen past (obs ++ [e.observe]) := by
  obtain ⟨l, hl, rfl⟩ := h
  refine ⟨l ++ [e], ?_, by simp⟩
  rw [hlog, hl, List.append_assoc]

namespace Similar

variable {dir : Direction S Op} {past₁ past₂ : Log S Op} {w₁ w₂ : World S Op K}

lemma outputPos (h : w₁.Similar dir past₁ past₂ w₂) :
    w₁.sctx.output.pos = w₂.sctx.output.pos := by
  rw [← OutBuffer.contents_length, h.contents, OutBuffer.contents_length]

lemma room (h : w₁.Similar dir past₁ past₂ w₂) :
    w₁.sctx.output.room = w₂.sctx.output.room := by
  rw [OutBuffer.room, OutBuffer.room, h.outputPos, h.left.outSize, h.right.outSize]

lemma drainBytes_eq (h : w₁.Similar dir past₁ past₂ w₂) : w₁.drainBytes = w₂.drainBytes := by
  rw [h.left.drainBytes_eq, h.right.drainBytes_eq, h.contents]

lemma seen_snoc (h : w₁.Similar dir past₁ past₂ w₂) {w₁' w₂' : World S Op K} {e₁ e₂ : Event S Op}
    (h₁ : w₁'.log = w₁.log ++ [e₁]) (h₂ : w₂'.log = w₂.log ++ [e₂])
    (he : e₁.observe = e₂.observe) : ∃ obs, w₁'.Seen past₁ obs ∧ w₂'.Seen past₂ obs := by
  obtain ⟨obs, hseen₁, hseen₂⟩ := h.seen
  refine ⟨obs ++ [e₁.observe], hseen₁.snoc h₁, ?_⟩
  rw [he]
  exact hseen₂.snoc h₂

/-! ### The effects -/

lemma stage (h : w₁.Similar dir past₁ past₂ w₂) (xs : List UInt8)
    (hfit : w₁.sctx.input.size + xs.length ≤ w₁.sctx.input.cap) :
    (w₁.stage xs).Similar dir past₁ past₂ (w₂.stage xs) where
  left := h.left.stage hfit
  right := h.right.stage (by rwa [← h.inputSize, h.right.cap, ← h.left.cap])
  codec := h.codec
  sink := h.sink
  inputPos := h.inputPos
  inputSize := by simp [h.inputSize]
  window := by
    rw [input_stage, input_stage, InBuffer.window_stage h.left.input.pos_le,
      InBuffer.window_stage h.right.input.pos_le, h.window]
  contents := h.contents
  seen := h.seen_snoc (w₁.log_stage xs) (w₂.log_stage xs) rfl

/-- A local codec gives the same answer in both worlds. -/
lemma reply_eq (h : w₁.Similar dir past₁ past₂ w₂) (hlocal : dir.codec.Local) (op : Op) :
    (w₁.request dir.codec op).reply = (w₂.request dir.codec op).reply := by
  rw [request, request, h.codec]
  exact hlocal _ _ _ _ _ _ h.room h.window

lemma answer (h : w₁.Similar dir past₁ past₂ w₂) (hlocal : dir.codec.Local) (op : Op) :
    (w₁.answer (w₁.request dir.codec op)).Similar dir past₁ past₂
      (w₂.answer (w₂.request dir.codec op)) := by
  have hreply := h.reply_eq hlocal op
  have hpos₁ := h.left.input.pos_le
  have hpos₂ := h.right.input.pos_le
  have hconsumed₁ := w₁.request_consumed_le dir.codec op
  have hconsumed₂ := w₂.request_consumed_le dir.codec op
  constructor
  · exact h.left.answer op
  · exact h.right.answer op
  · exact congrArg Reply.state hreply
  · exact h.sink
  · simp [Call.inputAfter, h.inputPos, hreply]
  · exact h.inputSize
  · simp only [input_answer, Call.inputAfter, request_input]
    rw [InBuffer.window_advance (by omega), InBuffer.window_advance (by omega), h.window, hreply]
  · simp [Call.outputAfter, h.contents, hreply]
  · apply h.seen_snoc (w₁.log_answer _) (w₂.log_answer _)
    simp [Event.observe, h.window, h.room, hreply]

lemma drained (h : w₁.Similar dir past₁ past₂ w₂) (xs : List UInt8) (k : K) (b : Bool) :
    (w₁.drained xs k b).Similar dir past₁ past₂ (w₂.drained xs k b) where
  left := h.left.drained xs k b
  right := h.right.drained xs k b
  codec := h.codec
  sink := rfl
  inputPos := h.inputPos
  inputSize := h.inputSize
  window := h.window
  contents := by
    cases b with
    | true => rfl
    | false => exact h.contents
  seen := h.seen_snoc (w₁.log_drained xs k b) (w₂.log_drained xs k b) rfl

/-- Whatever the move reads from behind the live window ends up behind the live window. -/
lemma compact (h : w₁.Similar dir past₁ past₂ w₂) :
    w₁.compact.Similar dir past₁ past₂ w₂.compact where
  left := h.left.compact
  right := h.right.compact
  codec := h.codec
  sink := h.sink
  inputPos := by simp
  inputSize := by simp [h.inputPos, h.inputSize]
  window := by
    rw [input_compact, input_compact, InBuffer.window_compact h.left.input,
      InBuffer.window_compact h.right.input, h.window, h.inputPos]
  contents := h.contents
  seen := by
    apply h.seen_snoc w₁.log_compact w₂.log_compact
    simp [Event.observe, h.inputPos, h.inputSize]

end Similar

end World

/-! ### The operations in lockstep -/

section Lockstep

variable {dir : Direction S Op} {past₁ past₂ : Log S Op}

lemma lockstep_stagePiece (src : Chunk) (pos len : Int) :
    Lockstep (World.Similar dir past₁ past₂ (K := K)) (stagePiece src pos len)
      (stagePiece src pos len) := by
  intro w₁ w₂ h
  have hcap : w₁.sctx.input.cap = w₂.sctx.input.cap := h.left.cap.trans h.right.cap.symm
  rw [stagePiece, get_bind, get_bind, h.inputSize, hcap]
  split
  next hbounds =>
    refine ⟨rfl, h.stage _ ?_⟩
    rw [h.inputSize, hcap, List.length_take]
    omega
  next => exact ⟨rfl, h⟩

lemma lockstep_callCodec (hlocal : dir.codec.Local) (op : Op) :
    Lockstep (World.Similar dir past₁ past₂ (K := K)) (callCodec dir.codec op)
      (callCodec dir.codec op) := by
  intro w₁ w₂ h
  exact ⟨congrArg Reply.ret (h.reply_eq hlocal op), h.answer hlocal op⟩

lemma lockstep_drainBuffer (drain : Drain K) :
    Lockstep (World.Similar dir past₁ past₂) (drainBuffer drain) (drainBuffer drain) := by
  apply Lockstep.bind
  · intro w₁ w₂ h
    rw [drainOutput, get_bind, get_bind, h.outputPos, h.sink, h.drainBytes_eq]
    split
    next =>
      cases drain w₂.sink w₂.drainBytes with
      | mk k r =>
        cases r with
        | none => exact ⟨rfl, h.drained _ k true⟩
        | some e => exact ⟨rfl, h.drained _ k false⟩
    next => exact ⟨rfl, h⟩
  · intro _ w₁ w₂ h
    rw [compactInput_run, compactInput_run, h.inputSize]
    split
    · exact ⟨rfl, h.compact⟩
    · exact ⟨rfl, h⟩

lemma lockstep_chunkPass (hlocal : dir.codec.Local) (src : Chunk) (last : Bool) (drain : Drain K)
    (l : Locals) :
    Lockstep (World.Similar dir past₁ past₂) (chunkPass dir src last drain l)
      (chunkPass dir src last drain l) := by
  intro w₁ w₂ h
  rw [chunkPass, get_bind, get_bind, h.inputSize]
  apply Lockstep.bind (lockstep_stagePiece _ _ _) _ _ _ h
  intro _
  apply Lockstep.bind (lockstep_callCodec hlocal _)
  intro res
  apply Lockstep.bind (lockstep_checkError res)
  intro _
  exact Lockstep.bind (lockstep_drainBuffer drain) fun _ => Lockstep.pure _

lemma lockstep_chunkAt (hlocal : dir.codec.Local) (fuel : Nat) (src : Chunk) (last : Bool)
    (drain : Drain K) :
    Lockstep (World.Similar dir past₁ past₂) (chunkAt dir fuel src last drain)
      (chunkAt dir fuel src last drain) := by
  apply Lockstep.bind
  · exact Lockstep.whileFuel (lockstep_chunkPass hlocal src last drain) fuel _
  · intro l w₁ w₂ h
    rw [checkFinished, get_bind, get_bind, h.inputPos, h.inputSize]
    split
    · exact ⟨rfl, h⟩
    · exact ⟨rfl, h⟩

lemma lockstep_endWith (dir : Direction S Op) (hlocal : dir.codec.Local) (op : Op)
    (drain : Drain K) :
    Lockstep (World.Similar dir past₁ past₂) (endWith dir.codec op drain)
      (endWith dir.codec op drain) := by
  apply Lockstep.bind (lockstep_callCodec hlocal op)
  intro res
  apply Lockstep.bind (lockstep_checkError res)
  intro _ w₁ w₂ h
  rw [get_bind, get_bind, h.outputPos]
  split
  · exact lockstep_drainBuffer drain w₁ w₂ h
  · exact ⟨rfl, h⟩

end Lockstep

/-! ### After a reset -/

/-- A world whose stream context has been reset and a new one with the same codec state. -/
lemma World.similar_start {dir : Direction S Op} {w : World S Op K} (h : w.Bounded dir)
    (hpos : w.sctx.output.pos = 0 ∧ w.sctx.input.size = 0 ∧ w.sctx.input.pos = 0)
    (beyond : Nat → Nat → UInt8) :
    w.Similar dir w.log [] (World.start dir w.codec w.sink beyond) := by
  obtain ⟨hout, hsize, hin⟩ := hpos
  refine ⟨h, bounded_start _ _ _, rfl, rfl, hin, hsize, ?_, ?_, ?_⟩
  · rw [InBuffer.window, InBuffer.window, hin, hsize]
    rfl
  · rw [OutBuffer.contents, OutBuffer.contents, hout]
    rfl
  · exact ⟨[], ⟨[], (List.append_nil _).symm, rfl⟩, ⟨[], rfl, rfl⟩⟩

/-- The runs went alike: the same results, the same bytes to the same calls of the codec and of the
drain callbacks, and the same codec and receiver at the end. -/
structure SameRuns (past : Log S Op) (r₁ r₂ : List (Except Stop Unit) × World S Op K) : Prop where
  results : r₁.1 = r₂.1
  codec : r₁.2.codec = r₂.2.codec
  sink : r₁.2.sink = r₂.2.sink
  seen : r₁.2.Seen past (r₂.2.log.map Event.observe)

/-- Procedures in lockstep go alike from a reset world and a new one. -/
lemma sameRuns_of_lockstep {dir : Direction S Op} {xs : List (StreamM S Op K Unit)}
    {old reset : World S Op K} {s : S} (h : old.Bounded dir)
    (hsctx : reset.sctx = old.sctx.reset) (hcodec : reset.codec = s) (hsink : reset.sink = old.sink)
    (beyond : Nat → Nat → UInt8)
    (hxs : ∀ x ∈ xs, Lockstep (World.Similar dir reset.log []) x x) :
    SameRuns reset.log (runAll xs reset) (runAll xs (World.start dir s old.sink beyond)) := by
  have hbounded : reset.Bounded dir := by
    have hreset := h.resetBuffers
    constructor
    · exact hsctx ▸ hreset.input
    · exact hsctx ▸ hreset.cap
    · exact hsctx ▸ hreset.outSize
    · exact hsctx ▸ hreset.outPos
  have hpos : reset.sctx.output.pos = 0 ∧ reset.sctx.input.size = 0 ∧
      reset.sctx.input.pos = 0 := by
    rw [hsctx]
    exact ⟨rfl, rfl, rfl⟩
  rw [← hcodec, ← hsink]
  obtain ⟨hresults, hsimilar⟩ :=
    Lockstep.runAll (List.forall₂_same.mpr hxs) (World.similar_start hbounded hpos beyond)
  refine ⟨hresults, hsimilar.codec, hsimilar.sink, ?_⟩
  obtain ⟨obs, hseen, ⟨l, hl, hobs⟩⟩ := hsimilar.seen
  rw [hl, List.nil_append, hobs]
  exact hseen

/-- `StreamContext.reset` and `reset(session_only)` on the context, after a history of calls. -/
def resetCompression (api : CompressApi C) : StreamM C EndDirective K Unit := do
  resetStream
  compressReset api .sessionOnly

def resetDecompression (api : DecompressApi D) : StreamM D Unit K Unit := do
  resetStream
  decompressReset api .sessionOnly

/-- After a reset of both contexts, every sequence of calls goes as on new contexts with the same
parameters, whatever the history left in the buffers. -/
theorem reset_isolates :
    (∀ {C P K : Type} (api : CompressApi C) (parameters : C → P) (initial : P → C),
      api.compressStream2.Local →
      (∀ c, (api.reset c ResetDir.sessionOnly.code).1 = initial (parameters c)) →
      ∀ (history calls : List (CompressCall K)) (codec : C) (sink : K)
        (beyond beyond' : Nat → Nat → UInt8),
      let old := (runCompress api history (World.start (compression api) codec sink beyond)).2
      let reset := final (resetCompression api old)
      let new := World.start (compression api) (initial (parameters old.codec)) old.sink beyond'
      SameRuns reset.log (runCompress api calls reset) (runCompress api calls new)) ∧
    (∀ {D P K : Type} (api : DecompressApi D) (parameters : D → P) (initial : P → D),
      api.decompressStream.Local →
      (∀ d, (api.reset d ResetDir.sessionOnly.code).1 = initial (parameters d)) →
      ∀ (history calls : List (DecompressCall K)) (codec : D) (sink : K)
        (beyond beyond' : Nat → Nat → UInt8),
      let old := (runDecompress api history (World.start (decompression api) codec sink beyond)).2
      let reset := final (resetDecompression api old)
      let new := World.start (decompression api) (initial (parameters old.codec)) old.sink beyond'
      SameRuns reset.log (runDecompress api calls reset) (runDecompress api calls new)) := by
  constructor
  · intro C P K api parameters initial hlocal hreset history calls codec sink beyond beyond' old
      reset new
    have hold : old.Bounded (compression api) :=
      keeps_runCompress (World.boundedInvariant _) history (World.bounded_start codec sink beyond)
    have hsctx : reset.sctx = old.sctx.reset := rfl
    have hcodec : reset.codec = initial (parameters old.codec) := hreset old.codec
    refine sameRuns_of_lockstep hold hsctx hcodec rfl beyond' ?_
    intro x hx
    obtain ⟨call, _, rfl⟩ := List.mem_map.mp hx
    cases call with
    | chunkAt fuel src last drain => exact lockstep_chunkAt hlocal fuel src last drain
    | finish drain => exact lockstep_endWith (compression api) hlocal .eEnd drain
  · intro D P K api parameters initial hlocal hreset history calls codec sink beyond beyond' old
      reset new
    have hold : old.Bounded (decompression api) :=
      keeps_runDecompress (World.boundedInvariant _) history
        (World.bounded_start codec sink beyond)
    have hsctx : reset.sctx = old.sctx.reset := rfl
    have hcodec : reset.codec = initial (parameters old.codec) := hreset old.codec
    refine sameRuns_of_lockstep hold hsctx hcodec rfl beyond' ?_
    intro x hx
    obtain ⟨call, _, rfl⟩ := List.mem_map.mp hx
    exact lockstep_chunkAt hlocal call.fuel call.src call.last call.drain

lemma copier_local : (copier : Codec Nat Op).Local := by
  intro s op o₁ o₂ i₁ i₂ hroom hwindow
  simp only [copier, hroom, hwindow]

def copierApi : CompressApi Nat :=
  { CompressApi.ofCodec copier with reset := fun _ _ => (0, 0) }

/-- After a drain that failed with three bytes in the buffer, and a reset. -/
theorem reset_isolates_copier :
    let history : List (CompressCall (List UInt8)) :=
      [.chunkAt 1 (.ofArr ⟨[1, 2, 3], by decide⟩) true fun k _ => (k, some ⟨"full", 28⟩)]
    let calls : List (CompressCall (List UInt8)) :=
      [.chunkAt 1 (.ofArr ⟨[4, 5], by decide⟩) true fun k bytes => (k ++ bytes, none),
        .finish fun k _ => (k, none)]
    let old := (runCompress copierApi history
      (World.start (compression copierApi) 0 [] fun _ i => i.toUInt8)).2
    let reset := final (resetCompression copierApi old)
    SameRuns reset.log (runCompress copierApi calls reset)
      (runCompress copierApi calls
        (World.start (compression copierApi) 0 old.sink fun _ _ => 0)) := by
  intro history calls old reset
  exact reset_isolates.1 copierApi (fun _ => ()) (fun _ => 0) copier_local (fun _ => rfl) history
    calls 0 [] _ _

end VZstd
