import VZstd.Stream.Loop
import VZstd.Stream.Functions

/-!
# One stream context, both directions

The type of a stream context does not say which constructor made it, and each chunk function takes
the room in the input buffer from a constant of its own. A chunk call of the other direction stays
in the buffer exactly when the first piece of its chunk does.
-/

namespace VZstd

open Proc

variable {S S' Op Op' C D K : Type}

/-! ### Both contexts behind one stream context -/

/-- A direction on a larger state, with a codec that acts on a part of it. -/
def Direction.over (dir : Direction S Op) (codec : Codec S' Op') (f : Op → Op') :
    Direction S' Op' where
  codec := codec
  op done := f (dir.op done)
  inSize := dir.inSize
  outSize := dir.outSize
  unfinished := dir.unfinished
  inSize_pos := dir.inSize_pos
  inSize_lt := dir.inSize_lt
  outSize_pos := dir.outSize_pos
  outSize_lt := dir.outSize_lt

def pairCodec (capi : CompressApi C) (dapi : DecompressApi D) :
    Codec (C × D) (EndDirective ⊕ Unit) where
  call s op output input :=
    match op with
    | .inl op =>
      let r := capi.compressStream2.call s.1 op output input
      { state := (r.state, s.2), ret := r.ret, consumed := r.consumed, produced := r.produced }
    | .inr op =>
      let r := dapi.decompressStream.call s.2 op output input
      { state := (s.1, r.state), ret := r.ret, consumed := r.consumed, produced := r.produced }
  consumed_le s op output input := by
    cases op with
    | inl op => exact capi.compressStream2.consumed_le s.1 op output input
    | inr op => exact dapi.decompressStream.consumed_le s.2 op output input
  produced_le s op output input := by
    cases op with
    | inl op => exact capi.compressStream2.produced_le s.1 op output input
    | inr op => exact dapi.decompressStream.produced_le s.2 op output input

def sharedCompression (capi : CompressApi C) (dapi : DecompressApi D) :
    Direction (C × D) (EndDirective ⊕ Unit) :=
  (compression capi).over (pairCodec capi dapi) .inl

def sharedDecompression (capi : CompressApi C) (dapi : DecompressApi D) :
    Direction (C × D) (EndDirective ⊕ Unit) :=
  (decompression dapi).over (pairCodec capi dapi) .inr

/-- What one direction sees of the world, with a history of its own. -/
def World.seenAs (view : S' → S) (v : World S' Op' K) (log : Log S Op) : World S Op K where
  codec := view v.codec
  sctx := v.sctx
  sink := v.sink
  beyond := v.beyond
  log := log

def World.ViewOf (view : S' → S) (w : World S Op K) (v : World S' Op' K) : Prop :=
  ∃ log : Log S Op, log.length = v.log.length ∧ w = v.seenAs view log

/-- The larger codec acts on the part that is seen as the smaller one does. -/
def Codec.ActsOn (codec : Codec S Op) (codec' : Codec S' Op') (view : S' → S) (f : Op → Op') :
    Prop :=
  ∀ s op output input,
    let r := codec.call (view s) op output input
    let r' := codec'.call s (f op) output input
    r.state = view r'.state ∧ r.ret = r'.ret ∧ r.consumed = r'.consumed ∧ r.produced = r'.produced

@[simp] lemma World.sctx_seenAs (view : S' → S) (v : World S' Op' K) (log : Log S Op) :
    (v.seenAs view log).sctx = v.sctx := rfl

section View

variable {dir : Direction S Op} {codec' : Codec S' Op'} {view : S' → S} {f : Op → Op'}

lemma lockstep_callCodec_over {codec : Codec S Op} (h : codec.ActsOn codec' view f) (op : Op) :
    Lockstep (World.ViewOf view (K := K)) (callCodec codec op) (callCodec codec' (f op)) := by
  rintro _ v ⟨log, htime, rfl⟩
  obtain ⟨hstate, hret, hconsumed, hproduced⟩ := h v.codec op v.sctx.output v.sctx.input
  refine ⟨hret, log ++ [.called ((v.seenAs view log).request codec op)], by simp [htime], ?_⟩
  simp only [World.answer, World.request, World.seenAs, Codec.ask, Call.inputAfter,
    Call.outputAfter, hstate, hconsumed, hproduced]

lemma lockstep_stagePiece_over (src : Chunk) (pos len : Int) :
    Lockstep (fun (w : World S Op K) (v : World S' Op' K) => w.ViewOf view v)
      (stagePiece src pos len) (stagePiece src pos len) := by
  rintro _ v ⟨log, htime, rfl⟩
  rw [stagePiece, stagePiece, get_bind, get_bind, World.sctx_seenAs]
  split
  · exact ⟨rfl, log ++ [.staged _], by simp [htime], rfl⟩
  · exact ⟨rfl, log, htime, rfl⟩

lemma lockstep_drainBuffer_over (drain : Drain K) :
    Lockstep (fun (w : World S Op K) (v : World S' Op' K) => w.ViewOf view v)
      (drainBuffer drain) (drainBuffer drain) := by
  apply Lockstep.bind
  · rintro _ v ⟨log, htime, rfl⟩
    have hbytes : (v.seenAs view log).drainBytes = v.drainBytes := rfl
    have hsink : (v.seenAs view log).sink = v.sink := rfl
    rw [drainOutput, drainOutput, get_bind, get_bind, World.sctx_seenAs, hbytes, hsink]
    split
    next =>
      cases drain v.sink v.drainBytes with
      | mk k r =>
        cases r with
        | none => exact ⟨rfl, log ++ [.drained _ true], by simp [htime], rfl⟩
        | some e => exact ⟨rfl, log ++ [.drained _ false], by simp [htime], rfl⟩
    next => exact ⟨rfl, log, htime, rfl⟩
  · rintro _ _ v ⟨log, htime, rfl⟩
    rw [compactInput_run, compactInput_run, World.sctx_seenAs]
    split
    -- the bytes behind the array are those of the same time
    · refine ⟨rfl, log ++ [.compacted v.sctx.input v.compact.sctx.input], by simp [htime], ?_⟩
      simp only [World.compact, World.seenAs, htime]
    · exact ⟨rfl, log, htime, rfl⟩

/-- A chunk call over the larger state does what the chunk call itself does. -/
lemma lockstep_chunkAt_over (h : dir.codec.ActsOn codec' view f) (fuel : Nat) (src : Chunk)
    (last : Bool) (drain : Drain K) :
    Lockstep (World.ViewOf view) (chunkAt dir fuel src last drain)
      (chunkAt (dir.over codec' f) fuel src last drain) := by
  apply Lockstep.bind
  · apply Lockstep.whileFuel
    rintro l _ v ⟨log, htime, rfl⟩
    rw [chunkPass, chunkPass, get_bind, get_bind]
    apply Lockstep.bind (lockstep_stagePiece_over _ _ _) _ _ _ ⟨log, htime, rfl⟩
    intro _
    apply Lockstep.bind (lockstep_callCodec_over h _)
    intro res
    apply Lockstep.bind (lockstep_checkError res)
    intro _
    exact Lockstep.bind (lockstep_drainBuffer_over drain) fun _ => Lockstep.pure _
  · rintro l _ v ⟨log, htime, rfl⟩
    rw [checkFinished, checkFinished, get_bind, get_bind, World.sctx_seenAs]
    split
    · exact ⟨rfl, log, htime, rfl⟩
    · exact ⟨rfl, log, htime, rfl⟩

lemma lockstep_endWith_over {codec : Codec S Op} (h : codec.ActsOn codec' view f) (op : Op)
    (drain : Drain K) :
    Lockstep (World.ViewOf view) (endWith codec op drain) (endWith codec' (f op) drain) := by
  apply Lockstep.bind (lockstep_callCodec_over h op)
  intro res
  apply Lockstep.bind (lockstep_checkError res)
  rintro _ _ v ⟨log, htime, rfl⟩
  rw [get_bind, get_bind, World.sctx_seenAs]
  split
  · exact lockstep_drainBuffer_over drain _ v ⟨log, htime, rfl⟩
  · exact ⟨rfl, log, htime, rfl⟩

end View

lemma pairCodec_actsOn (capi : CompressApi C) (dapi : DecompressApi D) :
    capi.compressStream2.ActsOn (pairCodec capi dapi) Prod.fst .inl ∧
      dapi.decompressStream.ActsOn (pairCodec capi dapi) Prod.snd .inr :=
  ⟨fun _ _ _ _ => ⟨rfl, rfl, rfl, rfl⟩, fun _ _ _ _ => ⟨rfl, rfl, rfl, rfl⟩⟩

/-! ### The operations on one stream context -/

/-- The two constructors of a stream context. -/
inductive StreamConstructor where
  | newCompressStreamContext
  | newDecompressStreamContext

def StreamConstructor.direction (capi : CompressApi C) (dapi : DecompressApi D) :
    StreamConstructor → Direction (C × D) (EndDirective ⊕ Unit)
  | newCompressStreamContext => sharedCompression capi dapi
  | newDecompressStreamContext => sharedDecompression capi dapi

/-- The safe operations on a stream context, each loop with fuel for one pass at least. -/
inductive SharedOp (K : Type) where
  | compressChunk (fuel : Nat) (src : ByteArr) (last : Bool) (drain : Drain K)
  | compressEnd (drain : Drain K)
  | decompressChunk (fuel : Nat) (src : ByteArr) (last : Bool) (drain : Drain K)
  | reset

def SharedOp.run (capi : CompressApi C) (dapi : DecompressApi D) :
    SharedOp K → StreamM (C × D) (EndDirective ⊕ Unit) K Unit
  | compressChunk fuel src last drain =>
    chunkAt (sharedCompression capi dapi) (fuel + 1) (.ofArr src) last drain
  | compressEnd drain => endWith (pairCodec capi dapi) (.inl .eEnd) drain
  | decompressChunk fuel src last drain =>
    chunkAt (sharedDecompression capi dapi) (fuel + 1) (.ofArr src) last drain
  | reset => resetStream

/-- The first piece of `src` stays in the buffer, for a chunk function that counts on a length of
`inSize`. -/
def InBuffer.Fits (b : InBuffer) (inSize : Nat) (src : ByteArr) : Prop :=
  0 < src.1.length → b.size ≤ inSize ∧ (inSize ≤ b.cap ∨ b.size + src.1.length ≤ b.cap)

def SharedOp.Fits (b : InBuffer) : SharedOp K → Prop
  | compressChunk _ src _ _ => b.Fits compressStreamInSize src
  | decompressChunk _ src _ _ => b.Fits decompressStreamInSize src
  | compressEnd _ | reset => True

/-! ### One pass of either direction -/

section Pass

variable {made dir : Direction S Op} {src : Chunk} {last : Bool} {l : Locals} {w : World S Op K}
  {drain : Drain K}

/-- What is left of the chunk has room, or at least every piece of it has. -/
def Locals.HasRoom (inSize : Nat) (l : Locals) (b : InBuffer) : Prop :=
  0 < l.restLen → b.size ≤ inSize ∧ (inSize ≤ b.cap ∨ b.size + l.restLen ≤ b.cap)

lemma World.size_served (w : World S Op K) (c : Call S Op) (k : K)
    (hc : c.input = w.sctx.input) :
    (w.served c k).sctx.input.size ≤ w.sctx.input.size := by
  rw [World.served, World.rewound_size, World.input_emptied, World.input_answer, Call.inputAfter,
    hc, InBuffer.advance_size]
  exact Nat.sub_le _ _

/-- With room for the piece, a pass stays in the buffer, and so does the next one. -/
lemma chunkPass_hasRoom (hcodec : dir.codec = made.codec) (hb : w.Bounded made)
    (hl : l.Within src) (hc : 0 < l.restLen) (hroom : l.HasRoom dir.inSize w.sctx.input) :
    Ends (fun l' w' => l'.Within src ∧ w'.Bounded made ∧ l'.HasRoom dir.inSize w'.sctx.input)
      (fun e w' => e ≠ .aborted ∧ w'.Bounded made) (chunkPass dir src last drain l w) := by
  obtain ⟨hsize, hcap⟩ := hroom hc
  have hfree : w.free dir = dir.inSize - w.sctx.input.size := rfl
  have hfit : w.sctx.input.size + min (w.free dir) l.restLen.toNat ≤ w.sctx.input.cap := by
    omega
  have hlen : ((l.rest src).take (w.free dir)).length = min (w.free dir) l.restLen.toNat := by
    rw [List.length_take, hl.length_rest]
  have hfed : (w.fed dir src l).Bounded made := hb.stage (by rwa [hlen])
  have hnext := hl.next (w.free dir) hc
  rw [chunkPass_eq_of_room hsize hfit hl hc]
  generalize dir.op _ = op
  rcases serve_cases dir.codec op drain (w.fed dir src l) with
    ⟨_, hr⟩ | ⟨_, k, hr⟩ | ⟨_, k, e, bytes, _, hr⟩
  · rw [bind_error hr, hcodec]
    exact ⟨by simp, hfed.answer op⟩
  · rw [bind_ok hr, hcodec]
    refine ⟨⟨hnext.le, hnext.split⟩, (World.boundedInvariant made).served hfed op k, ?_⟩
    intro hmore
    have hmore' : 0 < (l.next (w.free dir)).restLen := hmore
    have hrest := hl.next_toNat (w.free dir)
    -- a piece of all the room goes to the end of what the function counts on
    have hfull : dir.inSize ≤ w.sctx.input.cap := by omega
    have hfedSize : (w.fed dir src l).sctx.input.size ≤ dir.inSize := by
      rw [World.fed, World.input_stage, InBuffer.stage_size, hlen]
      omega
    have hserved := ((w.fed dir src l).size_served ((w.fed dir src l).request made.codec op) k
      rfl).trans hfedSize
    have hcapServed : ((w.fed dir src l).served ((w.fed dir src l).request made.codec op)
        k).sctx.input.cap = w.sctx.input.cap :=
      ((World.boundedInvariant made).served hfed op k).cap.trans hb.cap.symm
    exact ⟨hserved, .inl (hcapServed ▸ hfull)⟩
  · rw [bind_error hr, hcodec]
    exact ⟨by simp, (hfed.answer op).drained _ _ _⟩

/-- The loop lemma. -/
lemma chunkAt_hasRoom (hcodec : dir.codec = made.codec) (hb : w.Bounded made)
    (hroom : (Locals.start src).HasRoom dir.inSize w.sctx.input) (fuel : Nat) :
    outcome (chunkAt dir fuel src last drain w) ≠ .error .aborted := by
  have hbody : ∀ l : Locals, decide (0 < l.restLen) = true →
      Triple (fun w => l.Within src ∧ w.Bounded made ∧ l.HasRoom dir.inSize w.sctx.input)
        (chunkPass dir src last drain l)
        (fun l w => l.Within src ∧ w.Bounded made ∧ l.HasRoom dir.inSize w.sctx.input)
        (fun e _ => e ≠ .aborted) := by
    rintro l hc w ⟨hl, hw, hr⟩
    exact (chunkPass_hasRoom hcodec hw hl (by simpa using hc) hr).mono (fun _ _ h => h)
      fun _ _ h => h.1
  have hstop : ∀ (l : Locals) (w : World S Op K),
      l.Within src ∧ w.Bounded made ∧ l.HasRoom dir.inSize w.sctx.input →
        Stop.running ≠ .aborted := by
    intro _ _ _
    simp
  have hloop := Triple.whileFuel hbody hstop fuel (.start src) w
    ⟨Locals.within_start src, hb, hroom⟩
  change Ends _ _ (chunkLoop dir fuel src last drain w) at hloop
  intro habort
  rw [chunkAt, bind_run] at habort
  cases hr : chunkLoop dir fuel src last drain w with
  | error e w' =>
    rw [hr] at hloop habort
    exact hloop (by simpa using habort)
  | ok l w' =>
    simp only [hr, checkFinished, get_bind] at habort
    split at habort <;> cases habort

/-- Without that room, the first pass leaves the buffer. -/
lemma chunkPass_aborts (hb : w.Bounded made) (hl : l.Within src) (hc : 0 < l.restLen)
    (hroom : ¬l.HasRoom dir.inSize w.sctx.input) :
    chunkPass dir src last drain l w = .error .aborted w := by
  have hlt := dir.inSize_lt
  have hmade := made.inSize_lt
  have hcap := hb.cap
  have hsize := hb.input.size_le
  have hsplit := hl.split hc
  have hlen := src.len_lt
  have hnarrow : i32 w.sctx.input.size = w.sctx.input.size := i32_of_inRange (by omega)
  have hmaxLen : i32 (dir.inSize - i32 w.sctx.input.size) = dir.inSize - w.sctx.input.size := by
    rw [hnarrow, i32_of_inRange (by omega)]
  have hout : ¬(0 ≤ l.pos ∧ 0 ≤ (nextPiece l.restLen (dir.inSize - w.sctx.input.size)).1 ∧
      l.pos + (nextPiece l.restLen (dir.inSize - w.sctx.input.size)).1 ≤ src.bytes.length ∧
      w.sctx.input.size + (nextPiece l.restLen (dir.inSize - w.sctx.input.size)).1 ≤
        w.sctx.input.cap) := by
    rintro ⟨_, hnonneg, _, hfit⟩
    apply hroom
    intro _
    rw [nextPiece] at hnonneg hfit
    split at hfit
    next hpiece =>
      rw [if_pos hpiece] at hnonneg
      omega
    next hpiece =>
      rw [if_neg hpiece] at hnonneg
      dsimp only at hnonneg hfit
      omega
  rw [chunkPass, get_bind, hmaxLen]
  exact bind_error (by rw [stagePiece, get_bind, if_neg hout]; rfl)

/-- A call with fuel for a pass stays in the buffer if and only if its first piece does. -/
lemma chunkAt_aborts_iff (hcodec : dir.codec = made.codec) (hb : w.Bounded made) (src : ByteArr)
    (last : Bool) (drain : Drain K) (fuel : Nat) :
    outcome (chunkAt dir (fuel + 1) (.ofArr src) last drain w) ≠ .error .aborted ↔
      w.sctx.input.Fits dir.inSize src := by
  have hroom : (Locals.start (.ofArr src)).HasRoom dir.inSize w.sctx.input ↔
      w.sctx.input.Fits dir.inSize src := by
    simp only [Locals.HasRoom, InBuffer.Fits, Locals.start, Chunk.ofArr]
    omega
  rw [← hroom]
  refine ⟨fun hstays => ?_, fun h => chunkAt_hasRoom hcodec hb h (fuel + 1)⟩
  by_contra hfull
  have hc : 0 < (Locals.start (.ofArr src)).restLen := by
    by_contra hempty
    exact hfull fun h => absurd h hempty
  have hpass : chunkPass dir (.ofArr src) last drain (.start (.ofArr src)) w = .error .aborted w :=
    chunkPass_aborts hb (Locals.within_start _) hc hfull
  have hloop : chunkLoop dir (fuel + 1) (.ofArr src) last drain w = .error .aborted w := by
    have hsucc : chunkLoop dir (fuel + 1) (.ofArr src) last drain = chunkPass dir (.ofArr src) last
        drain (.start (.ofArr src)) >>= whileFuel .running (fun l => decide (0 < l.restLen))
          (chunkPass dir (.ofArr src) last drain) fuel :=
      whileFuel_succ fuel (decide_eq_true hc)
    rw [hsucc, bind_error hpass]
  apply hstays
  rw [chunkAt, bind_error hloop, outcome_error]

lemma endWith_ne_aborted (codec : Codec S Op) (op : Op) (drain : Drain K) (w : World S Op K) :
    outcome (endWith codec op drain w) ≠ .error .aborted := by
  rw [endWith, bind_ok (callCodec_run codec op w)]
  by_cases herr : isError (w.request codec op).reply.ret = true
  · rw [bind_error (checkError_of_isError herr _), outcome_error]
    simp
  · rw [bind_ok (checkError_of_not_isError (by simpa using herr) _), get_bind]
    split
    · rcases drainBuffer_cases drain (w.answer (w.request codec op)) with
        ⟨k, hr⟩ | ⟨k, e, _, hr⟩
      · rw [hr]
        simp
      · rw [hr]
        simp
    · simp

end Pass

/-! ### Runs -/

variable (capi : CompressApi C) (dapi : DecompressApi D)

/-- The world after a run of operations, also after ones that failed. -/
def runShared (ops : List (SharedOp K)) (w : World (C × D) (EndDirective ⊕ Unit) K) :
    World (C × D) (EndDirective ⊕ Unit) K :=
  (runAll (ops.map (SharedOp.run capi dapi)) w).2

lemma StreamConstructor.codec_eq (made : StreamConstructor) :
    (made.direction capi dapi).codec = pairCodec capi dapi := by
  cases made <;> rfl

/-- The bounds of the buffers survive every operation of either direction. -/
lemma SharedOp.keeps_bounded (made : StreamConstructor) (op : SharedOp K) :
    Keeps (World.Bounded (made.direction capi dapi)) (op.run capi dapi) := by
  have hinv : Invariant (pairCodec capi dapi)
      (World.Bounded (made.direction capi dapi) : World _ _ K → Prop) :=
    made.codec_eq capi dapi ▸ World.boundedInvariant _
  cases op with
  | compressChunk fuel src last drain =>
    have hdir : Invariant (sharedCompression capi dapi).codec _ := hinv
    exact hdir.keeps_chunkAt (fuel + 1) (.ofArr src) last drain
  | compressEnd drain => exact hinv.keeps_endWith (.inl .eEnd) drain
  | decompressChunk fuel src last drain =>
    have hdir : Invariant (sharedDecompression capi dapi).codec _ := hinv
    exact hdir.keeps_chunkAt (fuel + 1) (.ofArr src) last drain
  | reset => exact World.keeps_resetStream

/-- The operation copies nothing out of bounds, and leaves the indices of both buffers in bounds. -/
def SharedOp.StaysInBounds (op : SharedOp K) (w : World (C × D) (EndDirective ⊕ Unit) K) : Prop :=
  outcome (op.run capi dapi w) ≠ .error .aborted ∧
    (final (op.run capi dapi w)).sctx.input.InBounds ∧
    (final (op.run capi dapi w)).sctx.input.cap = w.sctx.input.cap ∧
    (final (op.run capi dapi w)).sctx.output.pos ≤ (final (op.run capi dapi w)).sctx.output.size

/-- The step lemma. -/
lemma SharedOp.staysInBounds_iff {made : StreamConstructor} (op : SharedOp K)
    {w : World (C × D) (EndDirective ⊕ Unit) K} (hw : w.Bounded (made.direction capi dapi)) :
    op.StaysInBounds capi dapi w ↔ op.Fits w.sctx.input := by
  have hfinal := (op.keeps_bounded capi dapi made).final hw
  have hcap := hfinal.cap.trans hw.cap.symm
  have hcodec := made.codec_eq capi dapi
  have hout : op.StaysInBounds capi dapi w ↔ outcome (op.run capi dapi w) ≠ .error .aborted :=
    ⟨fun h => h.1, fun h => ⟨h, hfinal.input, hcap, hfinal.outPos⟩⟩
  rw [hout]
  cases op with
  | compressChunk fuel src last drain =>
    have hdir : (sharedCompression capi dapi).codec = (made.direction capi dapi).codec :=
      hcodec.symm
    exact chunkAt_aborts_iff hdir hw src last drain fuel
  | decompressChunk fuel src last drain =>
    have hdir : (sharedDecompression capi dapi).codec = (made.direction capi dapi).codec :=
      hcodec.symm
    exact chunkAt_aborts_iff hdir hw src last drain fuel
  | compressEnd drain => exact iff_of_true (endWith_ne_aborted _ _ drain w) trivial
  | reset => exact iff_of_true (by simp [SharedOp.run, resetStream]) trivial

/-- On a stream context from the matching constructor there is always room. -/
lemma fits_of_matching {w : World (C × D) (EndDirective ⊕ Unit) K} (src : ByteArr) :
    (w.Bounded (sharedCompression capi dapi) → w.sctx.input.Fits compressStreamInSize src) ∧
      (w.Bounded (sharedDecompression capi dapi) →
        w.sctx.input.Fits decompressStreamInSize src) :=
  ⟨fun hw _ => ⟨hw.size_le, .inl hw.cap.ge⟩, fun hw _ => ⟨hw.size_le, .inl hw.cap.ge⟩⟩

/-- On the other one, `compress_chunk` needs that no more is staged than its own buffer could hold,
and `decompress_chunk` that the whole chunk has room. -/
lemma fits_iff_of_other {w : World (C × D) (EndDirective ⊕ Unit) K} (src : ByteArr) :
    (w.Bounded (sharedDecompression capi dapi) → (w.sctx.input.Fits compressStreamInSize src ↔
        (0 < src.1.length → w.sctx.input.size ≤ 131072))) ∧
      (w.Bounded (sharedCompression capi dapi) → (w.sctx.input.Fits decompressStreamInSize src ↔
        (0 < src.1.length → w.sctx.input.size + src.1.length ≤ 131072))) := by
  constructor
  · intro hw
    have hcap : w.sctx.input.cap = 131075 := hw.cap.trans decompressStreamInSize_eq
    rw [InBuffer.Fits, hcap, compressStreamInSize_eq]
    omega
  · intro hw
    have hcap : w.sctx.input.cap = 131072 := hw.cap.trans compressStreamInSize_eq
    have hsize := hw.input.size_le
    rw [InBuffer.Fits, hcap, decompressStreamInSize_eq]
    omega

/-- On a stream context from either constructor, every operation of a run stays in the buffers if
and only if every chunk has room for its first piece. -/
theorem staysInBounds_iff_fits (made : StreamConstructor) (ops : List (SharedOp K)) (c : C) (d : D)
    (sink : K) (beyond : Nat → Nat → UInt8) :
    let start := World.start (made.direction capi dapi) (c, d) sink beyond
    (∀ past op later, ops = past ++ op :: later →
        op.StaysInBounds capi dapi (runShared capi dapi past start)) ↔
      ∀ past op later, ops = past ++ op :: later →
        op.Fits (runShared capi dapi past start).sctx.input := by
  intro start
  have hbounded : ∀ past : List (SharedOp K),
      (runShared capi dapi past start).Bounded (made.direction capi dapi) := fun past =>
    keeps_runAll_map (SharedOp.keeps_bounded capi dapi made) past
      (World.bounded_start (c, d) sink beyond)
  refine forall₄_congr fun past op later _ => ?_
  exact op.staysInBounds_iff capi dapi (hbounded past)

/-- A long chunk to decompress leaves a stream context that was made for compression. -/
lemma decompressChunk_aborts (src : ByteArr) (hlen : 131072 < src.1.length) (fuel : Nat)
    (last : Bool) (drain : Drain K) (s : C × D) (sink : K) (beyond : Nat → Nat → UInt8) :
    outcome ((SharedOp.decompressChunk fuel src last drain).run capi dapi
      (World.start (sharedCompression capi dapi) s sink beyond)) = .error .aborted := by
  have hw : (World.start (sharedCompression capi dapi) s sink beyond).Bounded
      (sharedCompression capi dapi) := World.bounded_start s sink beyond
  have hfull : ¬(World.start (sharedCompression capi dapi) s sink beyond).sctx.input.Fits
      decompressStreamInSize src := by
    rw [(fits_iff_of_other capi dapi src).2 hw]
    intro hroom
    have hsize := hroom (by omega)
    omega
  have hdir : (sharedDecompression capi dapi).codec = (sharedCompression capi dapi).codec := rfl
  exact not_not.mp (mt (chunkAt_aborts_iff hdir hw src last drain fuel).mp hfull)

lemma length_replicate_lt : (List.replicate 131075 (0 : UInt8)).length < 2 ^ 31 := by
  rw [List.length_replicate]
  decide

/-- The first piece of a full chunk is three bytes longer than the buffer of the other direction. -/
theorem full_chunk_leaves_buffer :
    let op : SharedOp Unit := .decompressChunk 0 ⟨List.replicate 131075 0, length_replicate_lt⟩ true
      fun _ _ => ((), none)
    let start := World.start (StreamConstructor.newCompressStreamContext.direction
      (.ofCodec copier) (.ofCodec copier)) (0, 0) () fun _ _ => 0
    outcome (op.run (.ofCodec copier) (.ofCodec copier) start) = .error .aborted ∧
      ¬op.StaysInBounds (.ofCodec copier) (.ofCodec copier) start := by
  intro op start
  have hlen : 131072 < (List.replicate 131075 (0 : UInt8)).length := by
    rw [List.length_replicate]
    decide
  have habort : outcome (op.run (.ofCodec copier) (.ofCodec copier) start) = .error .aborted :=
    decompressChunk_aborts (.ofCodec copier) (.ofCodec copier) _ hlen 0 true _ (0, 0) () _
  exact ⟨habort, fun h => h.1 habort⟩

end VZstd
