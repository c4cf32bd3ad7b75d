import VZstd.Stream.Conservation

/-!
# The chunk loop

One pass of the loop stages a piece, makes one codec call and drains. `chunkPass_cases` says what a
pass can do, and `chunkLoop_progress` what holds after any number of passes.
-/

namespace VZstd

open Proc

variable {S Op K : Type}

/-! ### One codec call and the drain behind it -/

namespace World

/-- The state after a drain that took what there was. -/
def emptied (w : World S Op K) (k : K) : World S Op K :=
  if 0 < w.sctx.output.pos then w.drained w.drainBytes k true else w

/-- The state after the second half of `drain_buffer`. -/
def rewound (w : World S Op K) : World S Op K :=
  if 0 < w.sctx.input.size then w.compact else w

/-- The state after a codec call that succeeded and an accepted drain. -/
def served (w : World S Op K) (c : Call S Op) (k : K) : World S Op K :=
  ((w.answer c).emptied k).rewound

variable (w : World S Op K)

@[simp] lemma input_emptied (k : K) : (w.emptied k).sctx.input = w.sctx.input := by
  rw [emptied]
  split <;> rfl

@[simp] lemma output_emptied_pos (k : K) : (w.emptied k).sctx.output.pos = 0 := by
  rw [emptied]
  split
  next => rfl
  next h => exact Nat.eq_zero_of_not_pos h

@[simp] lemma codec_emptied (k : K) : (w.emptied k).codec = w.codec := by
  rw [emptied]
  split <;> rfl

@[simp] lemma staged_emptied (k : K) : (w.emptied k).log.staged = w.log.staged := by
  rw [emptied]
  split <;> simp

@[simp] lemma calls_emptied (k : K) : (w.emptied k).log.calls = w.log.calls := by
  rw [emptied]
  split <;> simp

@[simp] lemma output_rewound : w.rewound.sctx.output = w.sctx.output := by
  rw [rewound]
  split <;> rfl

@[simp] lemma codec_rewound : w.rewound.codec = w.codec := by
  rw [rewound]
  split <;> rfl

@[simp] lemma staged_rewound : w.rewound.log.staged = w.log.staged := by
  rw [rewound]
  split <;> simp

@[simp] lemma calls_rewound : w.rewound.log.calls = w.log.calls := by
  rw [rewound]
  split <;> simp

lemma length_window_rewound :
    w.rewound.sctx.input.window.length = w.sctx.input.window.length := by
  rw [rewound]
  split
  · simp
  · rfl

lemma log_emptied (k : K) : w.log <+: (w.emptied k).log := by
  rw [emptied]
  split
  · exact List.prefix_append _ _
  · exact List.prefix_refl _

lemma log_rewound : w.log <+: w.rewound.log := by
  rw [rewound]
  split
  · exact List.prefix_append _ _
  · exact List.prefix_refl _

/-- The history only grows. -/
lemma log_served (c : Call S Op) (k : K) : (w.answer c).log <+: (w.served c k).log :=
  ((w.answer c).log_emptied k).trans ((w.answer c).emptied k).log_rewound

lemma Bounded.rewound_pos {dir : Direction S Op} {w : World S Op K} (h : w.Bounded dir) :
    w.rewound.sctx.input.pos = 0 := by
  rw [World.rewound]
  split
  · simp
  · have hpos := h.input.pos_le
    omega

@[simp] lemma rewound_size : w.rewound.sctx.input.size = w.sctx.input.size - w.sctx.input.pos := by
  rw [rewound]
  split
  · simp
  · omega

end World

lemma drainBuffer_cases (drain : Drain K) (w : World S Op K) :
    (∃ k, drainBuffer drain w = .ok () (w.emptied k).rewound) ∨
    (∃ k e, drain w.sink w.drainBytes = (k, some e) ∧
      drainBuffer drain w = .error (.raised (.drain e)) (w.drained w.drainBytes k false)) := by
  rw [drainBuffer]
  rcases drainOutput_cases drain w with ⟨hpos, hr⟩ | ⟨k, hpos, _, hr⟩ | ⟨k, e, hpos, hd, hr⟩
  · have hempty : w.emptied w.sink = w := if_neg (by omega)
    refine .inl ⟨w.sink, ?_⟩
    rw [hempty, bind_ok hr, compactInput_run]
    rfl
  · have hempty : w.emptied k = w.drained w.drainBytes k true := if_pos hpos
    refine .inl ⟨k, ?_⟩
    rw [hempty, bind_ok hr, compactInput_run]
    rfl
  · exact .inr ⟨k, e, hd, bind_error hr⟩

/-- `callCodec`, `check_error` and `drain_buffer` one after the other. -/
def serve (codec : Codec S Op) (op : Op) (drain : Drain K) : StreamM S Op K UInt64 := do
  let res ← callCodec codec op
  checkError res
  drainBuffer drain
  pure res

lemma serve_cases (codec : Codec S Op) (op : Op) (drain : Drain K) (w : World S Op K) :
    let c := w.request codec op
    (isError c.reply.ret = true ∧ serve codec op drain w =
      .error (.raised (.zstd (getErrorName c.reply.ret) (-i32 c.reply.ret.toNat))) (w.answer c)) ∨
    (isError c.reply.ret = false ∧ ∃ k, serve codec op drain w = .ok c.reply.ret (w.served c k)) ∨
    (isError c.reply.ret = false ∧ ∃ k e bytes, drain w.sink bytes = (k, some e) ∧
      serve codec op drain w =
        .error (.raised (.drain e)) ((w.answer c).drained bytes k false)) := by
  intro c
  have hcall : callCodec codec op w = .ok c.reply.ret (w.answer c) := rfl
  rw [serve, bind_ok hcall]
  by_cases herr : isError c.reply.ret = true
  · exact .inl ⟨herr, bind_error (checkError_of_isError herr _)⟩
  · have hok : isError c.reply.ret = false := by simpa using herr
    rw [bind_ok (checkError_of_not_isError hok _)]
    rcases drainBuffer_cases drain (w.answer c) with ⟨k, hr⟩ | ⟨k, e, hd, hr⟩
    · exact .inr (.inl ⟨hok, k, by rw [bind_ok hr]; rfl⟩)
    · exact .inr (.inr ⟨hok, k, e, _, hd, bind_error hr⟩)

namespace Invariant

variable {codec : Codec S Op} {I : World S Op K → Prop} {w : World S Op K}

lemma emptied (h : Invariant codec I) (hw : I w) (k : K) : I (w.emptied k) := by
  rw [World.emptied]
  split
  next hpos => exact h.drained w k true hw hpos
  next => exact hw

lemma rewound (h : Invariant codec I) (hw : I w) : I w.rewound := by
  rw [World.rewound]
  split
  next hsize => exact h.compact w hw hsize
  next => exact hw

lemma served (h : Invariant codec I) (hw : I w) (op : Op) (k : K) :
    I (w.served (w.request codec op) k) :=
  h.rewound (h.emptied (h.answer w op hw) k)

end Invariant

/-! ### The local variables -/

namespace Locals

/-- The values before the first pass. -/
def start (src : Chunk) : Locals := { res := 0, pos := 0, restLen := src.len }

/-- `src[pos .. pos + rest_len)`, what is still to be staged. -/
def rest (src : Chunk) (l : Locals) : List UInt8 :=
  (src.bytes.drop l.pos.toNat).take l.restLen.toNat

/-- The values after a pass that found room for `room` bytes, but for `res`. -/
def next (room : Nat) (l : Locals) : Locals :=
  { l with pos := i32 (l.pos + room), restLen := (nextPiece l.restLen room).2 }

/-- `pos` and `rest_len` split the chunk, as long as there is a rest. -/
structure Within (src : Chunk) (l : Locals) : Prop where
  le : l.restLen ≤ src.len
  split : 0 < l.restLen → 0 ≤ l.pos ∧ l.pos + l.restLen = src.len

variable {src : Chunk} {l : Locals}

lemma within_start (src : Chunk) : (start src).Within src :=
  ⟨Int.le_refl _, fun _ => ⟨Int.le_refl 0, Int.zero_add _⟩⟩

lemma rest_start (src : Chunk) : (start src).rest src = src.content := rfl

lemma rest_of_nonpos (h : l.restLen ≤ 0) : l.rest src = [] := by
  rw [rest, Int.toNat_of_nonpos h, List.take_zero]

lemma Within.length_rest (h : l.Within src) : (l.rest src).length = l.restLen.toNat := by
  have hlen := src.len_le
  rw [rest, List.length_take, List.length_drop]
  rcases Int.lt_or_le 0 l.restLen with hpos | hpos
  · have hsplit := h.split hpos
    omega
  · omega

lemma next_of_le {room : Nat} (h : l.restLen ≤ room) : (l.next room).restLen = 0 := by
  simp [next, nextPiece, h]

lemma Within.next_of_lt (h : l.Within src) {room : Nat} (hr : (room : Int) < l.restLen) :
    (l.next room).restLen = l.restLen - room ∧ (l.next room).pos = l.pos + room := by
  have hlen := src.len_lt
  have hsplit := h.split (by omega)
  have hn : ¬l.restLen ≤ room := by omega
  simp only [next, nextPiece, if_neg hn]
  rw [i32_of_inRange (by omega), i32_of_inRange (by omega)]
  exact ⟨rfl, rfl⟩

lemma Within.next (h : l.Within src) (room : Nat) (hc : 0 < l.restLen) :
    (l.next room).Within src := by
  have hsplit := h.split hc
  rcases Int.lt_or_le room l.restLen with hr | hr
  · obtain ⟨hrest, hpos⟩ := h.next_of_lt hr
    constructor
    · omega
    · intro _
      omega
  · have hzero := next_of_le hr
    constructor
    · omega
    · intro hlt
      omega

lemma Within.rest_next (h : l.Within src) (room : Nat) (hc : 0 < l.restLen) :
    (l.next room).rest src = (l.rest src).drop room := by
  rcases Int.lt_or_le room l.restLen with hr | hr
  · obtain ⟨hrest, hpos⟩ := h.next_of_lt hr
    have hsplit := h.split hc
    have htake : l.restLen.toNat = room + (l.restLen - room).toNat := by omega
    have hdrop : (l.pos + room).toNat = l.pos.toNat + room := by omega
    rw [rest, rest, hrest, hpos, hdrop, htake, List.drop_take, List.drop_drop,
      Nat.add_sub_cancel_left]
  · have hlen := h.length_rest
    rw [rest_of_nonpos (next_of_le hr).le, List.drop_eq_nil_of_le (by omega)]

lemma Within.next_nonneg (h : l.Within src) (room : Nat) : 0 ≤ (l.next room).restLen := by
  rcases Int.lt_or_le room l.restLen with hr | hr
  · obtain ⟨hrest, _⟩ := h.next_of_lt hr
    omega
  · exact (next_of_le hr).ge

lemma Within.next_toNat (h : l.Within src) (room : Nat) :
    (l.next room).restLen.toNat = l.restLen.toNat - room := by
  rcases Int.lt_or_le room l.restLen with hr | hr
  · obtain ⟨hrest, _⟩ := h.next_of_lt hr
    omega
  · rw [next_of_le hr]
    omega

end Locals

/-! ### One pass -/

section Pass

variable {dir : Direction S Op} {src : Chunk} {last : Bool} {l : Locals} {w : World S Op K}

/-- The room that the input buffer has for the next piece. -/
def World.free (dir : Direction S Op) (w : World S Op K) : Nat := dir.inSize - w.sctx.input.size

/-- The state with the next piece staged. -/
def World.fed (dir : Direction S Op) (src : Chunk) (l : Locals) (w : World S Op K) :
    World S Op K :=
  w.stage ((l.rest src).take (w.free dir))

/-- The codec call of a pass. -/
def passCall (dir : Direction S Op) (src : Chunk) (last : Bool) (l : Locals) (w : World S Op K) :
    Call S Op :=
  (w.fed dir src l).request dir.codec (dir.op (last && (l.next (w.free dir)).restLen == 0))

lemma World.Bounded.fed (h : w.Bounded dir) (hl : l.Within src) :
    (w.fed dir src l).Bounded dir := by
  apply h.stage
  have hcap := h.cap
  have hsize := h.input.size_le
  rw [List.length_take, hl.length_rest, World.free]
  omega

/-- Staging moves bytes from the chunk to the buffer. -/
lemma World.Bounded.length_window_fed (h : w.Bounded dir) (hl : l.Within src) :
    (w.fed dir src l).sctx.input.window.length =
      w.sctx.input.window.length + min (w.free dir) l.restLen.toNat := by
  rw [World.fed, World.input_stage, InBuffer.window_stage h.input.pos_le, List.length_append,
    List.length_take, hl.length_rest]

/-- Where the piece has room, a pass is the staging of it and a call on it. -/
lemma chunkPass_eq_of_room (hsize : w.sctx.input.size ≤ dir.inSize)
    (hroom : w.sctx.input.size + min (w.free dir) l.restLen.toNat ≤ w.sctx.input.cap)
    (hl : l.Within src) (hc : 0 < l.restLen) (drain : Drain K) :
    chunkPass dir src last drain l w =
      (serve dir.codec (dir.op (last && (l.next (w.free dir)).restLen == 0)) drain >>=
        fun res => pure { l.next (w.free dir) with res := res }) (w.fed dir src l) := by
  have hsplit := hl.split hc
  have hlen := src.len_le
  have hfree : w.free dir = dir.inSize - w.sctx.input.size := rfl
  have hstage : stagePiece src l.pos (nextPiece l.restLen (w.free dir)).1 w =
      .ok () (w.fed dir src l) := by
    have hbounds : 0 ≤ l.pos ∧ 0 ≤ (nextPiece l.restLen (w.free dir)).1 ∧
        l.pos + (nextPiece l.restLen (w.free dir)).1 ≤ src.bytes.length ∧
        w.sctx.input.size + (nextPiece l.restLen (w.free dir)).1 ≤ w.sctx.input.cap := by
      rw [nextPiece]
      split <;> simp only <;> omega
    have htake : (src.bytes.drop l.pos.toNat).take (nextPiece l.restLen (w.free dir)).1.toNat =
        (l.rest src).take (w.free dir) := by
      rw [Locals.rest, List.take_take, nextPiece]
      split
      · rw [min_eq_right (by omega)]
      · rw [min_eq_left (by omega), Int.toNat_natCast]
    rw [stagePiece, get_bind, if_pos hbounds, htake]
    rfl
  rw [chunkPass, get_bind, World.maxLen_eq hsize, ← hfree, bind_ok hstage]
  simp only [serve, bind_assoc, pure_bind]
  rfl

/-- In bounds there is room for every piece. -/
lemma chunkPass_eq (h : w.Bounded dir) (hl : l.Within src) (hc : 0 < l.restLen)
    (drain : Drain K) :
    chunkPass dir src last drain l w =
      (serve dir.codec (dir.op (last && (l.next (w.free dir)).restLen == 0)) drain >>=
        fun res => pure { l.next (w.free dir) with res := res }) (w.fed dir src l) := by
  have hfed := (h.fed hl).input.size_le
  rw [World.fed, World.input_stage, InBuffer.stage_size, List.length_take, hl.length_rest] at hfed
  exact chunkPass_eq_of_room h.size_le hfed hl hc drain

/-- Everything that a pass can do. -/
lemma chunkPass_cases (h : w.Bounded dir) (hl : l.Within src) (hc : 0 < l.restLen)
    (drain : Drain K) :
    let c := passCall dir src last l w
    (isError c.reply.ret = true ∧ chunkPass dir src last drain l w =
      .error (.raised (.zstd (getErrorName c.reply.ret) (-i32 c.reply.ret.toNat)))
        ((w.fed dir src l).answer c)) ∨
    (isError c.reply.ret = false ∧ ∃ k, chunkPass dir src last drain l w =
      .ok { l.next (w.free dir) with res := c.reply.ret } ((w.fed dir src l).served c k)) ∨
    (isError c.reply.ret = false ∧ ∃ k e bytes, drain w.sink bytes = (k, some e) ∧
      chunkPass dir src last drain l w =
        .error (.raised (.drain e)) (((w.fed dir src l).answer c).drained bytes k false)) := by
  intro c
  rw [chunkPass_eq h hl hc]
  rcases serve_cases dir.codec _ drain (w.fed dir src l) with
    ⟨herr, hr⟩ | ⟨hok, k, hr⟩ | ⟨hok, k, e, bytes, hd, hr⟩
  · exact .inl ⟨herr, bind_error hr⟩
  · exact .inr (.inl ⟨hok, k, by rw [bind_ok hr]; rfl⟩)
  · exact .inr (.inr ⟨hok, k, e, bytes, hd, bind_error hr⟩)

end Pass

end VZstd
