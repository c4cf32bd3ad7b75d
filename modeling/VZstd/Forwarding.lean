import VZstd.Stream.Functions

/-!
# Errors are forwarded

Every operation that gets a `size_t` from zstd either checks it or discards it. What is checked
comes out as an error with the code that zstd negated, and no other error comes out as one of zstd;
`reset`, `free` and `compress_bound` discard the result.
-/

namespace VZstd

open Proc

variable {S Op C D K : Type} {α β : Type}

/-- The `size_t` results of the history, in order. -/
def Log.rets (l : Log S Op) : List UInt64 := l.filterMap Event.ret?

@[simp] lemma Log.rets_append (l l' : Log S Op) :
    Log.rets (l ++ l') = Log.rets l ++ Log.rets l' := List.filterMap_append

/-- An error code among `rets` is raised with its own number; without one, nothing is raised as an
error of zstd. -/
structure Faithful (rets : List UInt64) (o : Except Stop α) : Prop where
  raised : ∀ ret ∈ rets, isError ret = true →
    ∃ e, o = .error (.raised e) ∧ e.code = 2 ^ 64 - (ret.toNat : Int)
  genuine : (∀ ret ∈ rets, isError ret = false) → ∀ e, o = .error (.raised e) → ¬e.IsZstd

/-- From `w`, the operation forwards the results that it gets from zstd. -/
def ForwardsAt (x : StreamM S Op K α) (w : World S Op K) : Prop :=
  ∃ l, (final (x w)).log = w.log ++ l ∧ Faithful l.rets (outcome (x w))

def Forwards (x : StreamM S Op K α) : Prop := ∀ w, ForwardsAt x w

/-! ### Rules -/

lemma Faithful.ok {rets : List UInt64} (a : α) (h : ∀ ret ∈ rets, isError ret = false) :
    Faithful rets (.ok a) where
  raised := by
    intro ret hret herr
    rw [h ret hret] at herr
    cases herr
  genuine := by
    intro _ e he
    cases he

lemma Faithful.all_ok {rets : List UInt64} {a : α} (h : Faithful rets (.ok a)) :
    ∀ ret ∈ rets, isError ret = false := by
  intro ret hret
  rw [← Bool.not_eq_true]
  intro herr
  obtain ⟨e, he, _⟩ := h.raised ret hret herr
  cases he

/-- An operation that stops does so with the same error at every type. -/
lemma Faithful.error {rets : List UInt64} {e : Stop}
    (h : Faithful rets (.error e : Except Stop α)) : Faithful rets (.error e : Except Stop β) where
  raised := by
    intro ret hret herr
    obtain ⟨v, hv, hcode⟩ := h.raised ret hret herr
    exact ⟨v, by rw [Except.error.inj hv], hcode⟩
  genuine := by
    intro hall v hv
    exact h.genuine hall v (by rw [Except.error.inj hv])

namespace Forwards

lemma pure (a : α) : Forwards (pure a : StreamM S Op K α) := by
  intro w
  exact ⟨[], (List.append_nil _).symm, Faithful.ok a (by simp [Log.rets])⟩

/-- Raising anything but an error of zstd. -/
lemma throw {e : Stop} (h : ∀ v, e = .raised v → ¬v.IsZstd) :
    Forwards (throw e : StreamM S Op K α) := by
  intro w
  refine ⟨[], (List.append_nil _).symm, ⟨by simp [Log.rets], ?_⟩⟩
  intro _ v hv
  exact h v (Except.error.inj hv)

lemma bind {x : StreamM S Op K α} {f : α → StreamM S Op K β} (hx : Forwards x)
    (hf : ∀ a, Forwards (f a)) : Forwards (x >>= f) := by
  intro w
  obtain ⟨l, hl, hfaithful⟩ := hx w
  rw [ForwardsAt, bind_run]
  cases hr : x w with
  | ok a w' =>
    rw [hr] at hl hfaithful
    obtain ⟨l', hl', hfaithful'⟩ := hf a w'
    have hok := hfaithful.all_ok
    refine ⟨l ++ l', ?_, ⟨?_, ?_⟩⟩
    · rw [hl', ← List.append_assoc]
      exact congrArg (· ++ l') hl
    · intro ret hret herr
      rw [Log.rets_append] at hret
      rcases List.mem_append.mp hret with hret | hret
      · rw [hok ret hret] at herr
        cases herr
      · exact hfaithful'.raised ret hret herr
    · intro hall e he
      apply hfaithful'.genuine _ e he
      intro ret hret
      exact hall ret (by rw [Log.rets_append]; exact List.mem_append_right _ hret)
  | error e w' =>
    rw [hr] at hl hfaithful
    exact ⟨l, hl, hfaithful.error⟩

/-- An operation that only reads the world before it goes on. -/
lemma get_bind {f : World S Op K → StreamM S Op K β} (hf : ∀ w, ForwardsAt (f w) w) :
    Forwards (get >>= f) := hf

lemma set_bind {f : Unit → StreamM S Op K β} {w w' : World S Op K} (hlog : w'.log = w.log)
    (hf : ForwardsAt (f ()) w') : ForwardsAt (set w' >>= f) w := by
  obtain ⟨l, hl, hfaithful⟩ := hf
  rw [hlog] at hl
  exact ⟨l, hl, hfaithful⟩

lemma rets_of_none {e : Event S Op} (he : e.ret? = none) : Log.rets [e] = [] := by
  rw [Log.rets, List.filterMap_cons, he, List.filterMap_nil]

lemma rets_of_some {e : Event S Op} {ret : UInt64} (he : e.ret? = some ret) :
    Log.rets [e] = [ret] := by
  rw [Log.rets, List.filterMap_cons, he, List.filterMap_nil]

/-- A new event without a result of zstd. -/
lemma set_event {w w' : World S Op K} {e : Event S Op} (hlog : w'.log = w.log ++ [e])
    (he : e.ret? = none) : ForwardsAt (set w' : StreamM S Op K Unit) w := by
  refine ⟨[e], hlog, ?_⟩
  rw [rets_of_none he]
  exact Faithful.ok () (by simp)

/-- A result that is checked as soon as it is there. -/
lemma checked {x : StreamM S Op K α} {r : α → UInt64} {f : α → StreamM S Op K β}
    {w w' : World S Op K} {a : α} {e : Event S Op} (hx : x w = .ok a w')
    (hlog : w'.log = w.log ++ [e]) (he : e.ret? = some (r a)) (hf : Forwards (f a)) :
    ForwardsAt (x >>= fun a => checkError (r a) >>= fun _ => f a) w := by
  rw [ForwardsAt, bind_ok hx]
  by_cases herr : isError (r a) = true
  · rw [bind_error (checkError_of_isError herr w')]
    refine ⟨[e], hlog, ?_⟩
    rw [rets_of_some he]
    constructor
    · intro ret hret _
      rw [List.mem_singleton.mp hret]
      refine ⟨.zstd (getErrorName (r a)) (-i32 (r a).toNat), rfl, ?_⟩
      rw [VError.code, code_of_isError herr]
    · intro hall
      rw [hall (r a) List.mem_cons_self] at herr
      cases herr
  · have hok : isError (r a) = false := by simpa using herr
    obtain ⟨l, hl, hfaithful⟩ := hf w'
    rw [bind_ok (checkError_of_not_isError hok w')]
    refine ⟨[e] ++ l, by rw [hl, hlog, List.append_assoc], ?_⟩
    rw [Log.rets_append, rets_of_some he]
    constructor
    · intro ret hret
      rcases List.mem_append.mp hret with hret | hret
      · rw [List.mem_singleton.mp hret, hok]
        intro hfalse
        cases hfalse
      · exact hfaithful.raised ret hret
    · intro hall
      exact hfaithful.genuine fun ret hret => hall ret (List.mem_append_right _ hret)

lemma whileFuel {cond : α → Bool} {body : α → StreamM S Op K α} (hbody : ∀ a, Forwards (body a))
    (n : Nat) (a : α) : Forwards (whileFuel .running cond body n a) := by
  induction n generalizing a with
  | zero =>
    rw [Proc.whileFuel]
    split
    · exact Forwards.throw (by simp)
    · exact Forwards.pure a
  | succ n ih =>
    rw [Proc.whileFuel]
    split
    · exact Forwards.bind (hbody a) ih
    · exact Forwards.pure a

/-! ### Calls of zstd -/

/-- A result that is recorded, and then checked. -/
lemma returned_checked {x : StreamM S Op K β} (ret : UInt64) (hx : Forwards x) :
    Forwards (returned ret >>= fun _ => checkError ret >>= fun _ => x) := by
  intro w
  have hrun : (returned ret : StreamM S Op K Unit) w = .ok () (w.record (.returned ret)) := rfl
  exact checked hrun rfl rfl hx

/-- The context after a call of a function on it. -/
def afterContext (w : World S Op K) (f : S → S × UInt64) : World S Op K :=
  { w with codec := (f w.codec).1 }.record (.returned (f w.codec).2)

lemma onContext_run (f : S → S × UInt64) (w : World S Op K) :
    onContext f w = .ok (f w.codec).2 (afterContext w f) := rfl

/-- A function on the context whose result is checked. -/
lemma onContext_checked (f : S → S × UInt64) :
    Forwards (onContext f >>= fun res => checkError res : StreamM S Op K Unit) := by
  intro w
  have hcheck : (fun res => checkError res : UInt64 → StreamM S Op K Unit) =
      fun res => checkError res >>= fun _ => Pure.pure () := by
    funext res
    exact (bind_pure _).symm
  rw [hcheck]
  exact checked (onContext_run f w) rfl rfl (Forwards.pure ())

lemma filled (dst : List UInt8) (r : Written) : Forwards (filled dst r : StreamM S Op K _) :=
  returned_checked r.ret (Forwards.pure _)

lemma intoNewArr {fill : List UInt8 → StreamM S Op K (Int × List UInt8)}
    (hfill : ∀ dst, Forwards (fill dst)) (maxLen : Int) : Forwards (intoNewArr maxLen fill) := by
  apply Forwards.bind
  · rw [newArr]
    split
    · exact Forwards.pure _
    · exact Forwards.throw (by simp)
  · intro dst
    apply Forwards.bind (hfill dst)
    intro r
    split
    · rw [cut]
      split
      · exact Forwards.pure _
      · exact Forwards.throw (by simp)
    · exact Forwards.pure _

/-! ### The streaming operations -/

lemma drainBuffer (drain : Drain K) : Forwards (drainBuffer drain : StreamM S Op K Unit) := by
  apply Forwards.bind
  · apply get_bind
    intro w
    split
    · split
      · exact set_event (w.log_drained _ _ true) rfl
      · next k e _ =>
        refine ⟨[.drained w.drainBytes false], rfl, ⟨by simp [Log.rets], ?_⟩⟩
        rintro _ v ⟨⟩
        exact id
    · exact Forwards.pure () w
  · intro _
    apply get_bind
    intro w
    split
    · exact set_event w.log_compact rfl
    · exact Forwards.pure () w

lemma callCodec_checked {f : UInt64 → StreamM S Op K β} (codec : Codec S Op) (op : Op)
    (hf : ∀ res, Forwards (f res)) :
    Forwards (callCodec codec op >>= fun res => checkError res >>= fun _ => f res) := by
  intro w
  exact checked (callCodec_run codec op w) (w.log_answer (w.request codec op)) rfl (hf _)

lemma stagePiece (src : Chunk) (pos len : Int) :
    Forwards (stagePiece src pos len : StreamM S Op K Unit) := by
  apply get_bind
  intro w
  split
  · exact set_event (w.log_stage _) rfl
  · exact Forwards.throw (by simp) w

lemma chunkAt (dir : Direction S Op) (fuel : Nat) (src : Chunk) (last : Bool) (drain : Drain K) :
    Forwards (chunkAt dir fuel src last drain) := by
  apply Forwards.bind
  · apply whileFuel
    intro l
    apply get_bind
    intro w
    refine (Forwards.bind (stagePiece _ _ _) fun _ => callCodec_checked _ _ fun res => ?_) w
    exact Forwards.bind (drainBuffer drain) fun _ => Forwards.pure _
  · intro l
    apply get_bind
    intro w
    split
    · refine Forwards.throw ?_ w
      rintro v ⟨⟩
      exact id
    · exact Forwards.pure () w

lemma endWith (codec : Codec S Op) (op : Op) (drain : Drain K) :
    Forwards (endWith codec op drain) := by
  apply callCodec_checked
  intro res
  apply get_bind
  intro w
  split
  · exact drainBuffer drain w
  · exact Forwards.pure () w

end Forwards

/-- A result that is recorded, and not looked at, is forwarded only if it is no error. -/
lemma forwardsAt_unchecked_iff {x : StreamM S Op K α} {w w' : World S Op K} {a : α} {ret : UInt64}
    (hx : x w = .ok a w') (hlog : w'.log = w.log ++ [.returned ret]) :
    ForwardsAt x w ↔ isError ret = false := by
  have hrets : Log.rets [(.returned ret : Event S Op)] = [ret] := rfl
  rw [ForwardsAt, hx]
  constructor
  · rintro ⟨l, hl, hfaithful⟩
    have heq : [.returned ret] = l := List.append_cancel_left (hlog.symm.trans hl)
    apply hfaithful.all_ok
    rw [← heq, hrets]
    exact List.mem_cons_self
  · intro hok
    refine ⟨_, hlog, Faithful.ok a ?_⟩
    rw [hrets]
    simpa using hok

/-! ### The public operations -/

/-- The operations that need no context. -/
inductive SimpleOp where
  | findFrameCompressedSize (src : ByteArr)
  | compressBound (srcSize : Int)
  | compressParamBounds (param : CompressParam)
  | decompressParamBounds (param : DecompressParam)
  | compressAt (dst : List UInt8) (dstLen : Int) (src : Chunk)
  | compressTo (dst : List UInt8) (src : ByteArr)
  | compress (src : ByteArr)
  | compressWithLevelAt (dst : List UInt8) (dstLen : Int) (src : Chunk) (level : Int)
  | compressWithLevelTo (dst : List UInt8) (src : ByteArr) (level : Int)
  | compressWithLevel (src : ByteArr) (level : Int)
  | decompressAt (dst : List UInt8) (dstLen : Int) (src : Chunk)
  | decompressTo (dst : List UInt8) (src : ByteArr)
  | decompress (src : ByteArr)

/-- The operations on a `CompressContext`. -/
inductive CompressOp (K : Type) where
  | reset (reset : ResetDir)
  | free
  | setParam (param : CompressParam) (value : Int)
  | getParam (param : CompressParam)
  | setPledgedSrcSize (size : Int)
  | compressAt (dst : List UInt8) (dstLen : Int) (src : Chunk)
  | compressTo (dst : List UInt8) (src : ByteArr)
  | compress (src : ByteArr)
  | compressChunkAt (fuel : Nat) (src : Chunk) (last : Bool) (drain : Drain K)
  | compressChunk (fuel : Nat) (src : ByteArr) (last : Bool) (drain : Drain K)
  | compressEnd (drain : Drain K)

/-- The operations on a `DecompressContext`. -/
inductive DecompressOp (K : Type) where
  | reset (reset : ResetDir)
  | free
  | setParam (param : DecompressParam) (value : Int)
  | getParam (param : DecompressParam)
  | setMaxWindowSize (size : Int)
  | decompressAt (dst : List UInt8) (dstLen : Int) (src : Chunk)
  | decompressTo (dst : List UInt8) (src : ByteArr)
  | decompress (src : ByteArr)
  | decompressChunkAt (fuel : Nat) (src : Chunk) (last : Bool) (drain : Drain K)
  | decompressChunk (fuel : Nat) (src : ByteArr) (last : Bool) (drain : Drain K)

/-- The operation forwards the results that it gets from zstd, when called in the state `w`. -/
def SimpleOp.ForwardsAt (api : SimpleApi) (op : SimpleOp) (w : World S Op K) : Prop :=
  match op with
  | findFrameCompressedSize src => VZstd.ForwardsAt (VZstd.findFrameCompressedSize api src) w
  | compressBound srcSize => VZstd.ForwardsAt (VZstd.compressBound srcSize) w
  | compressParamBounds param => VZstd.ForwardsAt (VZstd.compressParamBounds api param) w
  | decompressParamBounds param => VZstd.ForwardsAt (VZstd.decompressParamBounds api param) w
  | compressAt dst dstLen src => VZstd.ForwardsAt (VZstd.compressAt api dst dstLen src) w
  | compressTo dst src => VZstd.ForwardsAt (VZstd.compressTo api dst src) w
  | compress src => VZstd.ForwardsAt (VZstd.compress api src) w
  | compressWithLevelAt dst dstLen src level =>
    VZstd.ForwardsAt (VZstd.compressWithLevelAt api dst dstLen src level) w
  | compressWithLevelTo dst src level =>
    VZstd.ForwardsAt (VZstd.compressWithLevelTo api dst src level) w
  | compressWithLevel src level => VZstd.ForwardsAt (VZstd.compressWithLevel api src level) w
  | decompressAt dst dstLen src => VZstd.ForwardsAt (VZstd.decompressAt api dst dstLen src) w
  | decompressTo dst src => VZstd.ForwardsAt (VZstd.decompressTo api dst src) w
  | decompress src => VZstd.ForwardsAt (VZstd.decompress api src) w

def CompressOp.ForwardsAt (api : CompressApi C) (op : CompressOp K)
    (w : World C EndDirective K) : Prop :=
  match op with
  | reset r => VZstd.ForwardsAt (compressReset api r) w
  | free => VZstd.ForwardsAt (compressFree api) w
  | setParam param value => VZstd.ForwardsAt (compressSetParam api param value) w
  | getParam param => VZstd.ForwardsAt (compressGetParam api param) w
  | setPledgedSrcSize size => VZstd.ForwardsAt (VZstd.setPledgedSrcSize api size) w
  | compressAt dst dstLen src => VZstd.ForwardsAt (contextCompressAt api dst dstLen src) w
  | compressTo dst src => VZstd.ForwardsAt (contextCompressTo api dst src) w
  | compress src => VZstd.ForwardsAt (contextCompress api src) w
  | compressChunkAt fuel src last drain =>
    VZstd.ForwardsAt (VZstd.compressChunkAt api fuel src last drain) w
  | compressChunk fuel src last drain =>
    VZstd.ForwardsAt (VZstd.compressChunk api fuel src last drain) w
  | compressEnd drain => VZstd.ForwardsAt (VZstd.compressEnd api drain) w

def DecompressOp.ForwardsAt (simple : SimpleApi) (api : DecompressApi D) (op : DecompressOp K)
    (w : World D Unit K) : Prop :=
  match op with
  | reset r => VZstd.ForwardsAt (decompressReset api r) w
  | free => VZstd.ForwardsAt (decompressFree api) w
  | setParam param value => VZstd.ForwardsAt (decompressSetParam api param value) w
  | getParam param => VZstd.ForwardsAt (decompressGetParam api param) w
  | setMaxWindowSize size => VZstd.ForwardsAt (VZstd.setMaxWindowSize api size) w
  | decompressAt dst dstLen src => VZstd.ForwardsAt (contextDecompressAt api dst dstLen src) w
  | decompressTo dst src => VZstd.ForwardsAt (contextDecompressTo api dst src) w
  | decompress src => VZstd.ForwardsAt (contextDecompress simple api src) w
  | decompressChunkAt fuel src last drain =>
    VZstd.ForwardsAt (VZstd.decompressChunkAt api fuel src last drain) w
  | decompressChunk fuel src last drain =>
    VZstd.ForwardsAt (VZstd.decompressChunk api fuel src last drain) w

/-- The result that the operation gets from zstd and does not check. -/
def SimpleOp.unchecked : SimpleOp → UInt64
  | compressBound srcSize => zstdCompressBound (usize srcSize)
  | _ => 0

def CompressOp.unchecked (api : CompressApi C) (c : C) : CompressOp K → UInt64
  | reset r => (api.reset c r.code).2
  | free => api.free c
  | _ => 0

def DecompressOp.unchecked (api : DecompressApi D) (d : D) : DecompressOp K → UInt64
  | reset r => (api.reset d r.code).2
  | free => api.free d
  | _ => 0

namespace Forwards

/-! ### The operations that check -/

lemma getFrameContentSize (api : SimpleApi) (frame : ByteArr) :
    Forwards (getFrameContentSize api frame : StreamM S Op K Int) := by
  rw [VZstd.getFrameContentSize]
  split
  · exact Forwards.throw (by rintro v ⟨⟩; exact id)
  · split
    · exact Forwards.throw (by rintro v ⟨⟩; exact id)
    · exact Forwards.pure _

/-- The bound for an array is recorded, and is no error. -/
lemma returned_bound {x : StreamM S Op K β} (src : ByteArr) (hx : Forwards x) :
    Forwards (returned (zstdCompressBound (usize src.1.length)) >>= fun _ => x) := by
  apply Forwards.bind
  · intro w
    have hrun : (returned (zstdCompressBound (usize src.1.length)) : StreamM S Op K Unit) w =
      .ok () (w.record (.returned _)) := rfl
    refine (forwardsAt_unchecked_iff hrun rfl).mpr (compressBound_of_lt ?_)
    rw [usize_natCast_toNat src.2]
    exact src.2
  · exact fun _ => hx

lemma compressWithLevel (api : SimpleApi) (src : ByteArr) (level : Int) :
    Forwards (compressWithLevel api src level : StreamM S Op K _) :=
  returned_bound src (intoNewArr (fun dst => filled dst _) _)

lemma decompress (api : SimpleApi) (src : ByteArr) :
    Forwards (decompress api src : StreamM S Op K _) :=
  Forwards.bind (getFrameContentSize api src) fun _ => intoNewArr (fun dst => filled dst _) _

lemma contextCompressAt (api : CompressApi C) (dst : List UInt8) (dstLen : Int) (src : Chunk) :
    Forwards (contextCompressAt api dst dstLen src : StreamM C Op K _) :=
  get_bind fun _ => set_bind rfl (filled dst _ _)

lemma contextCompress (api : CompressApi C) (src : ByteArr) :
    Forwards (contextCompress api src : StreamM C Op K _) :=
  returned_bound src (intoNewArr (fun dst => contextCompressAt api dst _ _) _)

lemma contextDecompressAt (api : DecompressApi D) (dst : List UInt8) (dstLen : Int)
    (src : Chunk) : Forwards (contextDecompressAt api dst dstLen src : StreamM D Op K _) :=
  get_bind fun _ => set_bind rfl (filled dst _ _)

lemma contextDecompress (simple : SimpleApi) (api : DecompressApi D) (src : ByteArr) :
    Forwards (contextDecompress simple api src : StreamM D Op K _) :=
  Forwards.bind (getFrameContentSize simple src) fun _ =>
    intoNewArr (fun dst => contextDecompressAt api dst _ _) _

end Forwards

/-- Every public operation forwards what zstd returns to it, in a given state and for given
arguments, if and only if what it does not check is no error. -/
theorem forwardsAt_iff (simple : SimpleApi) (capi : CompressApi C) (dapi : DecompressApi D) :
    (∀ (op : SimpleOp) (w : World S Op K),
      op.ForwardsAt simple w ↔ isError op.unchecked = false) ∧
    (∀ (op : CompressOp K) (w : World C EndDirective K),
      op.ForwardsAt capi w ↔ isError (op.unchecked capi w.codec) = false) ∧
    (∀ (op : DecompressOp K) (w : World D Unit K),
      op.ForwardsAt simple dapi w ↔ isError (op.unchecked dapi w.codec) = false) := by
  refine ⟨?_, ?_, ?_⟩
  · intro op w
    cases op with
    | compressBound srcSize => exact forwardsAt_unchecked_iff rfl rfl
    | findFrameCompressedSize src =>
      exact iff_of_true (Forwards.returned_checked _ (Forwards.pure _) w) isError_zero
    | compressParamBounds param =>
      exact iff_of_true (Forwards.returned_checked _ (Forwards.pure _) w) isError_zero
    | decompressParamBounds param =>
      exact iff_of_true (Forwards.returned_checked _ (Forwards.pure _) w) isError_zero
    | compressAt dst dstLen src => exact iff_of_true (Forwards.filled dst _ w) isError_zero
    | compressTo dst src => exact iff_of_true (Forwards.filled dst _ w) isError_zero
    | compress src => exact iff_of_true (Forwards.compressWithLevel simple src _ w) isError_zero
    | compressWithLevelAt dst dstLen src level =>
      exact iff_of_true (Forwards.filled dst _ w) isError_zero
    | compressWithLevelTo dst src level =>
      exact iff_of_true (Forwards.filled dst _ w) isError_zero
    | compressWithLevel src level =>
      exact iff_of_true (Forwards.compressWithLevel simple src level w) isError_zero
    | decompressAt dst dstLen src => exact iff_of_true (Forwards.filled dst _ w) isError_zero
    | decompressTo dst src => exact iff_of_true (Forwards.filled dst _ w) isError_zero
    | decompress src => exact iff_of_true (Forwards.decompress simple src w) isError_zero
  · intro op w
    cases op with
    | reset r => exact forwardsAt_unchecked_iff rfl rfl
    | free => exact forwardsAt_unchecked_iff rfl rfl
    | setParam param value =>
      exact iff_of_true (Forwards.onContext_checked _ w) isError_zero
    | getParam param =>
      refine iff_of_true (Forwards.get_bind (fun w => ?_) w) isError_zero
      exact Forwards.returned_checked _ (Forwards.pure _) w
    | setPledgedSrcSize size =>
      exact iff_of_true (Forwards.onContext_checked _ w) isError_zero
    | compressAt dst dstLen src =>
      exact iff_of_true (Forwards.contextCompressAt capi dst dstLen src w) isError_zero
    | compressTo dst src =>
      exact iff_of_true (Forwards.contextCompressAt capi dst _ _ w) isError_zero
    | compress src => exact iff_of_true (Forwards.contextCompress capi src w) isError_zero
    | compressChunkAt fuel src last drain =>
      exact iff_of_true (Forwards.chunkAt _ fuel src last drain w) isError_zero
    | compressChunk fuel src last drain =>
      exact iff_of_true (Forwards.chunkAt _ fuel _ last drain w) isError_zero
    | compressEnd drain => exact iff_of_true (Forwards.endWith _ _ drain w) isError_zero
  · intro op w
    cases op with
    | reset r => exact forwardsAt_unchecked_iff rfl rfl
    | free => exact forwardsAt_unchecked_iff rfl rfl
    | setParam param value =>
      exact iff_of_true (Forwards.onContext_checked _ w) isError_zero
    | getParam param =>
      refine iff_of_true (Forwards.get_bind (fun w => ?_) w) isError_zero
      exact Forwards.returned_checked _ (Forwards.pure _) w
    | setMaxWindowSize size =>
      exact iff_of_true (Forwards.onContext_checked _ w) isError_zero
    | decompressAt dst dstLen src =>
      exact iff_of_true (Forwards.contextDecompressAt dapi dst dstLen src w) isError_zero
    | decompressTo dst src =>
      exact iff_of_true (Forwards.contextDecompressAt dapi dst _ _ w) isError_zero
    | decompress src =>
      exact iff_of_true (Forwards.contextDecompress simple dapi src w) isError_zero
    | decompressChunkAt fuel src last drain =>
      exact iff_of_true (Forwards.chunkAt _ fuel src last drain w) isError_zero
    | decompressChunk fuel src last drain =>
      exact iff_of_true (Forwards.chunkAt _ fuel _ last drain w) isError_zero

/-- A codec that takes its input in; its state says whether a frame is open. -/
def framing : Codec Bool EndDirective where
  call _ op _ input :=
    { state := op != .eEnd, ret := 0, consumed := input.size - input.pos, produced := [] }
  consumed_le _ _ _ _ := Nat.le_refl _
  produced_le _ _ _ _ := Nat.zero_le _

/-- `ZSTD_CCtx_reset`: the parameters can only be reset while no frame is open. -/
def framingReset (isOpen : Bool) (reset : Int) : Bool × UInt64 :=
  let isOpen := isOpen && (reset != 1 && reset != 3)
  if isOpen && (reset == 2 || reset == 3) then (isOpen, 0 - 60) else (isOpen, 0)

def framingApi : CompressApi Bool := { CompressApi.ofCodec framing with reset := framingReset }

/-- With a frame open, `reset(parameters)` gets `stage_wrong` and returns as if all were well. -/
theorem framing_reset_not_forwarded :
    let calls : List (CompressCall Unit) :=
      [.chunkAt 1 (.ofArr ⟨[1], by decide⟩) false fun _ _ => ((), none)]
    let w := (runCompress framingApi calls
      (World.start (compression framingApi) false () fun _ _ => 0)).2
    let op : CompressOp Unit := .reset .parameters
    outcome (compressReset framingApi .parameters w) = .ok () ∧
      op.unchecked framingApi w.codec = 0 - 60 ∧ ¬op.ForwardsAt framingApi w := by
  intro calls w op
  have hret : op.unchecked framingApi w.codec = 0 - 60 := by decide +kernel
  refine ⟨rfl, hret, ?_⟩
  intro hforwards
  have hiff : op.ForwardsAt framingApi w ↔ isError (op.unchecked framingApi w.codec) = false :=
    forwardsAt_unchecked_iff rfl rfl
  rw [hiff, hret] at hforwards
  revert hforwards
  decide

end VZstd
