import VZstd.Stream.Operations

/-!
# What each operation does

What each effect does to the log and to the buffers, one inversion lemma for each function of the
source, and the rule that an invariant of the four effects is an invariant of every operation.
-/

namespace VZstd

open Proc Memory

variable {S Op K : Type}

@[simp] lemma bytesRead_nil : bytesRead ([] : List (Call S Op)) = [] := rfl

@[simp] lemma bytesRead_append (cs ds : List (Call S Op)) :
    bytesRead (cs ++ ds) = bytesRead cs ++ bytesRead ds := List.flatMap_append

@[simp] lemma bytesRead_cons (c : Call S Op) (cs : List (Call S Op)) :
    bytesRead (c :: cs) = c.consumed ++ bytesRead cs := rfl

@[simp] lemma bytesPut_nil : bytesPut ([] : List (Call S Op)) = [] := rfl

@[simp] lemma bytesPut_append (cs ds : List (Call S Op)) :
    bytesPut (cs ++ ds) = bytesPut cs ++ bytesPut ds := List.flatMap_append

@[simp] lemma bytesPut_cons (c : Call S Op) (cs : List (Call S Op)) :
    bytesPut (c :: cs) = c.reply.produced ++ bytesPut cs := rfl

namespace Log

variable (l l' : Log S Op)

@[simp] lemma staged_nil : staged ([] : Log S Op) = [] := rfl

@[simp] lemma staged_append : staged (l ++ l') = staged l ++ staged l' := List.flatMap_append

@[simp] lemma staged_singleton (e : Event S Op) : staged [e] = e.bytesStaged :=
  List.append_nil _

@[simp] lemma calls_nil : calls ([] : Log S Op) = [] := rfl

@[simp] lemma calls_append : calls (l ++ l') = calls l ++ calls l' := List.filterMap_append

@[simp] lemma calls_singleton (e : Event S Op) : calls [e] = e.call?.toList := by
  cases e <;> rfl

@[simp] lemma consumed_nil : consumed ([] : Log S Op) = [] := rfl

@[simp] lemma consumed_append : consumed (l ++ l') = consumed l ++ consumed l' := by
  simp [consumed]

@[simp] lemma consumed_singleton (e : Event S Op) : consumed [e] = bytesRead e.call?.toList := by
  simp [consumed]

@[simp] lemma produced_nil : produced ([] : Log S Op) = [] := rfl

@[simp] lemma produced_append : produced (l ++ l') = produced l ++ produced l' := by
  simp [produced]

@[simp] lemma produced_singleton (e : Event S Op) : produced [e] = bytesPut e.call?.toList := by
  simp [produced]

@[simp] lemma delivered_nil : delivered ([] : Log S Op) = [] := rfl

@[simp] lemma delivered_append : delivered (l ++ l') = delivered l ++ delivered l' :=
  List.flatMap_append

@[simp] lemma delivered_singleton (e : Event S Op) : delivered [e] = e.bytesTaken :=
  List.append_nil _

end Log

namespace World

variable (w : World S Op K)

/-! ### The log after each effect -/

@[simp] lemma log_record (e : Event S Op) : (w.record e).log = w.log ++ [e] := rfl

@[simp] lemma log_stage (xs : List UInt8) : (w.stage xs).log = w.log ++ [.staged xs] := rfl

@[simp] lemma log_answer (c : Call S Op) : (w.answer c).log = w.log ++ [.called c] := rfl

@[simp] lemma log_drained (xs : List UInt8) (k : K) (b : Bool) :
    (w.drained xs k b).log = w.log ++ [.drained xs b] := rfl

@[simp] lemma log_compact :
    w.compact.log = w.log ++ [.compacted w.sctx.input w.compact.sctx.input] := rfl

/-! ### The buffers after each effect -/

@[simp] lemma input_stage (xs : List UInt8) :
    (w.stage xs).sctx.input = w.sctx.input.stage xs := rfl

@[simp] lemma input_answer (c : Call S Op) : (w.answer c).sctx.input = c.inputAfter := rfl

@[simp] lemma input_drained (xs : List UInt8) (k : K) (b : Bool) :
    (w.drained xs k b).sctx.input = w.sctx.input := rfl

@[simp] lemma input_compact :
    w.compact.sctx.input = w.sctx.input.compact (w.beyond w.log.length) := rfl

@[simp] lemma output_stage (xs : List UInt8) : (w.stage xs).sctx.output = w.sctx.output := rfl

@[simp] lemma output_answer (c : Call S Op) : (w.answer c).sctx.output = c.outputAfter := rfl

@[simp] lemma output_drained_true (xs : List UInt8) (k : K) :
    (w.drained xs k true).sctx.output = { w.sctx.output with pos := 0 } := rfl

@[simp] lemma output_drained_false (xs : List UInt8) (k : K) :
    (w.drained xs k false).sctx.output = w.sctx.output := rfl

@[simp] lemma output_compact : w.compact.sctx.output = w.sctx.output := rfl

@[simp] lemma codec_stage (xs : List UInt8) : (w.stage xs).codec = w.codec := rfl

@[simp] lemma codec_answer (c : Call S Op) : (w.answer c).codec = c.reply.state := rfl

@[simp] lemma codec_drained (xs : List UInt8) (k : K) (b : Bool) :
    (w.drained xs k b).codec = w.codec := rfl

@[simp] lemma codec_compact : w.compact.codec = w.codec := rfl

@[simp] lemma request_input (codec : Codec S Op) (op : Op) :
    (w.request codec op).input = w.sctx.input := rfl

@[simp] lemma request_output (codec : Codec S Op) (op : Op) :
    (w.request codec op).output = w.sctx.output := rfl

@[simp] lemma request_op (codec : Codec S Op) (op : Op) : (w.request codec op).op = op := rfl

@[simp] lemma request_state (codec : Codec S Op) (op : Op) :
    (w.request codec op).state = w.codec := rfl

lemma request_consumed_le (codec : Codec S Op) (op : Op) :
    (w.request codec op).reply.consumed ≤ w.sctx.input.size - w.sctx.input.pos :=
  codec.consumed_le _ _ _ _

lemma request_produced_le (codec : Codec S Op) (op : Op) :
    (w.request codec op).reply.produced.length ≤ w.sctx.output.size - w.sctx.output.pos :=
  codec.produced_le _ _ _ _

end World

/-! ### The functions -/

lemma drainOutput_cases (drain : Drain K) (w : World S Op K) :
    (w.sctx.output.pos = 0 ∧ drainOutput drain w = .ok () w) ∨
    (∃ k, 0 < w.sctx.output.pos ∧ drain w.sink w.drainBytes = (k, none) ∧
      drainOutput drain w = .ok () (w.drained w.drainBytes k true)) ∨
    (∃ k e, 0 < w.sctx.output.pos ∧ drain w.sink w.drainBytes = (k, some e) ∧
      drainOutput drain w = .error (.raised (.drain e)) (w.drained w.drainBytes k false)) := by
  unfold drainOutput
  rw [get_bind]
  by_cases hpos : 0 < w.sctx.output.pos
  · rw [if_pos hpos]
    cases hd : drain w.sink w.drainBytes with
    | mk k r =>
      cases r with
      | none => exact .inr (.inl ⟨k, hpos, rfl, rfl⟩)
      | some e => exact .inr (.inr ⟨k, e, hpos, rfl, rfl⟩)
  · rw [if_neg hpos]
    exact .inl ⟨by omega, rfl⟩

lemma compactInput_run (w : World S Op K) :
    compactInput w = .ok () (if 0 < w.sctx.input.size then w.compact else w) := by
  unfold compactInput
  rw [get_bind]
  split <;> rfl

lemma stagePiece_cases (src : Chunk) (pos len : Int) (w : World S Op K) :
    (w.sctx.input.size + len ≤ w.sctx.input.cap ∧ 0 ≤ len ∧
      stagePiece src pos len w =
        .ok () (w.stage ((src.bytes.drop pos.toNat).take len.toNat))) ∨
    stagePiece src pos len w = .error .aborted w := by
  unfold stagePiece
  rw [get_bind]
  split
  next h => exact .inl ⟨h.2.2.2, h.2.1, rfl⟩
  next => exact .inr rfl

lemma callCodec_run (codec : Codec S Op) (op : Op) (w : World S Op K) :
    callCodec codec op w =
      .ok (w.request codec op).reply.ret (w.answer (w.request codec op)) := rfl

lemma feed_cons (dir : Direction S Op) (fuel : Nat) (drain : Drain K) (c : Chunk)
    {cs : List Chunk} (h : cs ≠ []) :
    feed dir fuel drain (c :: cs) =
      chunkAt dir fuel c false drain >>= fun _ => feed dir fuel drain cs := by
  cases cs with
  | nil => exact absurd rfl h
  | cons d ds => rfl

/-! ### Invariants -/

/-- `I` survives each effect of the operations on a direction's codec. -/
structure Invariant (codec : Codec S Op) (I : World S Op K → Prop) : Prop where
  stage : ∀ w xs, I w → w.sctx.input.size + xs.length ≤ w.sctx.input.cap → I (w.stage xs)
  answer : ∀ w op, I w → I (w.answer (w.request codec op))
  drained : ∀ w k b, I w → 0 < w.sctx.output.pos → I (w.drained w.drainBytes k b)
  compact : ∀ w, I w → 0 < w.sctx.input.size → I w.compact

namespace Invariant

variable {codec : Codec S Op} {I : World S Op K → Prop}

lemma and {J : World S Op K → Prop} (h : Invariant codec I) (h' : Invariant codec J) :
    Invariant codec (fun w => I w ∧ J w) where
  stage w xs hw hfit := ⟨h.stage w xs hw.1 hfit, h'.stage w xs hw.2 hfit⟩
  answer w op hw := ⟨h.answer w op hw.1, h'.answer w op hw.2⟩
  drained w k b hw hpos := ⟨h.drained w k b hw.1 hpos, h'.drained w k b hw.2 hpos⟩
  compact w hw hsize := ⟨h.compact w hw.1 hsize, h'.compact w hw.2 hsize⟩

lemma keeps_drainBuffer (h : Invariant codec I) (drain : Drain K) :
    Keeps I (drainBuffer drain : StreamM S Op K Unit) := by
  apply Keeps.bind
  · intro w hw
    rcases drainOutput_cases drain w with ⟨_, hr⟩ | ⟨k, hpos, _, hr⟩ | ⟨k, e, hpos, _, hr⟩
    · rw [hr]; exact hw
    · rw [hr]; exact h.drained w k true hw hpos
    · rw [hr]; exact h.drained w k false hw hpos
  · intro _ w hw
    rw [compactInput_run]
    show I (if 0 < w.sctx.input.size then w.compact else w)
    split
    · exact h.compact w hw ‹_›
    · exact hw

lemma keeps_callCodec (h : Invariant codec I) (op : Op) :
    Keeps I (callCodec codec op : StreamM S Op K UInt64) :=
  fun w hw => h.answer w op hw

lemma keeps_checkError (res : UInt64) : Keeps I (checkError res) := by
  unfold checkError
  split
  · exact Keeps.throw _
  · exact Keeps.pure _

lemma keeps_stagePiece (h : Invariant codec I) (src : Chunk) (pos len : Int) :
    Keeps I (stagePiece src pos len : StreamM S Op K Unit) := by
  intro w hw
  rcases stagePiece_cases src pos len w with ⟨hfit, hlen, hr⟩ | hr
  · rw [hr]
    refine h.stage w _ hw ?_
    rw [List.length_take]
    omega
  · rw [hr]; exact hw

lemma keeps_chunkPass {dir : Direction S Op} (h : Invariant dir.codec I) (src : Chunk)
    (last : Bool) (drain : Drain K) (l : Locals) : Keeps I (chunkPass dir src last drain l) := by
  intro w hw
  rw [chunkPass, get_bind]
  exact Keeps.bind (h.keeps_stagePiece _ _ _) (fun _ =>
    Keeps.bind (h.keeps_callCodec _) fun res =>
      Keeps.bind (keeps_checkError res) fun _ =>
        Keeps.bind (h.keeps_drainBuffer drain) fun _ => Keeps.pure _) w hw

lemma keeps_checkFinished (dir : Direction S Op) (last : Bool) (l : Locals) :
    Keeps I (checkFinished dir last l) := by
  intro w hw
  unfold checkFinished
  rw [get_bind]
  split <;> exact hw

/-- The run lemma of the chunk functions. -/
lemma keeps_chunkAt {dir : Direction S Op} (h : Invariant dir.codec I) (fuel : Nat) (src : Chunk)
    (last : Bool) (drain : Drain K) : Keeps I (chunkAt dir fuel src last drain) :=
  Keeps.bind (Keeps.whileFuel (h.keeps_chunkPass src last drain) _ _) (keeps_checkFinished dir last)

lemma keeps_endWith (h : Invariant codec I) (op : Op) (drain : Drain K) :
    Keeps I (endWith codec op drain) := by
  refine Keeps.bind (h.keeps_callCodec op) fun res =>
    Keeps.bind (keeps_checkError res) fun _ => ?_
  intro w hw
  rw [get_bind]
  split
  · exact h.keeps_drainBuffer drain w hw
  · exact hw

lemma keeps_feed {dir : Direction S Op} (h : Invariant dir.codec I) (fuel : Nat)
    (drain : Drain K) (cs : List Chunk) : Keeps I (feed dir fuel drain cs) := by
  induction cs using feed.induct with
  | case1 => exact Keeps.pure ()
  | case2 c => exact h.keeps_chunkAt fuel c true drain
  | case3 c cs hne ih =>
    rw [feed_cons dir fuel drain c hne]
    exact Keeps.bind (h.keeps_chunkAt fuel c false drain) fun _ => ih

end Invariant

end VZstd
