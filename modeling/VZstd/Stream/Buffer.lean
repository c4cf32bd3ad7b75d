import VZstd.Lib.Memory

/-!
# The staging buffers

`ZSTD_inBuffer`, `ZSTD_outBuffer`, and the `StreamContext` that owns one of each. The unread bytes
of an input buffer are its `window`, the undelivered bytes of an output buffer its `contents`.
-/

namespace VZstd

open Memory

/-- `ZSTD_inBuffer`; `cap` is the length of the array that `src` points into. -/
structure InBuffer where
  src : Nat → UInt8
  cap : Nat
  size : Nat
  pos : Nat

/-- `ZSTD_outBuffer`. -/
structure OutBuffer where
  dst : Nat → UInt8
  size : Nat
  pos : Nat

structure StreamContext where
  output : OutBuffer
  input : InBuffer

def StreamContext.reset (s : StreamContext) : StreamContext :=
  { output := { s.output with pos := 0 }
    input := { s.input with size := 0, pos := 0 } }

/-- V fills a `[]u8{len: n}` with zeros. -/
def newStreamContext (outLen inLen : Nat) : StreamContext :=
  { output := { dst := fun _ => 0, size := outLen, pos := 0 }
    input := { src := fun _ => 0, cap := inLen, size := 0, pos := 0 } }

/-! ### The input buffer -/

namespace InBuffer

/-- `src[pos .. size)`, the staged bytes that are still unread. -/
def window (b : InBuffer) : List UInt8 := slice b.src b.pos (b.size - b.pos)

/-- Copy `bytes` in behind the staged ones. -/
def stage (b : InBuffer) (bytes : List UInt8) : InBuffer :=
  { b with src := write b.src b.size bytes, size := b.size + bytes.length }

def advance (b : InBuffer) (n : Nat) : InBuffer := { b with pos := b.pos + n }

/-- The byte at `src + i`, which past the end of the array is not the buffer's own. -/
def peek (b : InBuffer) (beyond : Nat → UInt8) (i : Nat) : UInt8 :=
  if i < b.cap then b.src i else beyond i

/-- The second half of `drain_buffer`. The count of the `vmemmove` is `pos`, not `size - pos`. -/
def compact (b : InBuffer) (beyond : Nat → UInt8) : InBuffer :=
  if b.pos = b.size then
    { b with size := 0, pos := 0 }
  else
    { b with
      src := write b.src 0 (slice (b.peek beyond) b.pos b.pos)
      size := b.size - b.pos
      pos := 0 }

/-- The unread bytes repeat with period `pos`. -/
def Harmless (b : InBuffer) : Prop :=
  b.window.drop b.pos = b.window.take (b.window.length - b.pos)

instance (b : InBuffer) : Decidable b.Harmless := inferInstanceAs (Decidable (_ = _))

/-- `0 ≤ pos ≤ size ≤ cap`. -/
structure InBounds (b : InBuffer) : Prop where
  pos_le : b.pos ≤ b.size
  size_le : b.size ≤ b.cap

@[simp] lemma window_length (b : InBuffer) : b.window.length = b.size - b.pos := by
  simp [window]

@[simp] lemma take_window (b : InBuffer) : b.window.take (b.size - b.pos) = b.window :=
  List.take_of_length_le (Nat.le_of_eq b.window_length)

lemma window_eq_nil_iff (b : InBuffer) : b.window = [] ↔ b.size ≤ b.pos := by
  rw [← List.length_eq_zero_iff, window_length]
  omega

@[simp] lemma stage_pos (b : InBuffer) (xs : List UInt8) : (b.stage xs).pos = b.pos := rfl

@[simp] lemma stage_size (b : InBuffer) (xs : List UInt8) :
    (b.stage xs).size = b.size + xs.length := rfl

@[simp] lemma stage_cap (b : InBuffer) (xs : List UInt8) : (b.stage xs).cap = b.cap := rfl

@[simp] lemma advance_pos (b : InBuffer) (n : Nat) : (b.advance n).pos = b.pos + n := rfl

@[simp] lemma advance_size (b : InBuffer) (n : Nat) : (b.advance n).size = b.size := rfl

@[simp] lemma advance_cap (b : InBuffer) (n : Nat) : (b.advance n).cap = b.cap := rfl

@[simp] lemma advance_src (b : InBuffer) (n : Nat) : (b.advance n).src = b.src := rfl

lemma window_stage {b : InBuffer} (h : b.pos ≤ b.size) (xs : List UInt8) :
    (b.stage xs).window = b.window ++ xs := by
  obtain ⟨n, hn⟩ := Nat.exists_eq_add_of_le h
  have hlen : b.pos + n + xs.length - b.pos = n + xs.length := by omega
  simp only [window, stage, hn, hlen, slice_write_append, Nat.add_sub_cancel_left]

lemma window_advance {b : InBuffer} {n : Nat} (h : b.pos + n ≤ b.size) :
    (b.advance n).window = b.window.drop n := by
  rw [window, window, slice_drop _ _ (by omega), Nat.sub_sub]
  rfl

/-- Behind the first `pos` bytes the old ones are still there. -/
lemma window_compact {b : InBuffer} (hb : b.InBounds) (beyond : Nat → UInt8) :
    (b.compact beyond).window =
      b.window.take b.pos ++ b.window.take (b.window.length - b.pos) := by
  obtain ⟨hpos, hsize⟩ := hb
  unfold compact
  split
  next h => simp [window, h]
  next h =>
    apply List.ext_getElem
    · simp [window]
      omega
    · intro i hi _
      have hlt : i < b.size - b.pos := by simpa [window] using hi
      by_cases hip : i < b.pos
      · have hcap : b.pos + i < b.cap := by omega
        have hmin : i < min b.pos (b.size - b.pos) := by omega
        simp [window, write, peek, hip, hmin, hcap]
      · have hmin : min b.pos (b.size - b.pos) = b.pos := by omega
        have hsub : b.pos + (i - b.pos) = i := by omega
        simp [window, List.getElem_append, write, hip, hmin, hsub]

/-- Compaction preserves the unread bytes exactly when they have that period. -/
lemma window_compact_eq_iff {b : InBuffer} (hb : b.InBounds) (beyond : Nat → UInt8) :
    (b.compact beyond).window = b.window ↔ b.Harmless := by
  rw [window_compact hb, Harmless]
  conv_lhs => rhs; rw [← List.take_append_drop b.pos b.window]
  rw [List.append_cancel_left_eq]
  exact eq_comm

lemma harmless_of_pos_eq_zero {b : InBuffer} (h : b.pos = 0) : b.Harmless := by
  rw [Harmless, h, List.drop_zero, Nat.sub_zero, List.take_length]

/-- Having read at least half of the buffer is enough. -/
lemma harmless_of_half {b : InBuffer} (h : b.size ≤ 2 * b.pos) : b.Harmless := by
  have hlen : b.window.length - b.pos = 0 := by rw [window_length]; omega
  rw [Harmless, hlen, List.take_zero, List.drop_eq_nil_iff, window_length]
  omega

@[simp] lemma compact_pos (b : InBuffer) (beyond : Nat → UInt8) : (b.compact beyond).pos = 0 := by
  unfold compact
  split <;> rfl

@[simp] lemma compact_size (b : InBuffer) (beyond : Nat → UInt8) :
    (b.compact beyond).size = b.size - b.pos := by
  unfold compact
  split
  next h => simp [h]
  next => rfl

@[simp] lemma compact_cap (b : InBuffer) (beyond : Nat → UInt8) :
    (b.compact beyond).cap = b.cap := by
  unfold compact
  split <;> rfl

end InBuffer

/-! ### The output buffer -/

namespace OutBuffer

/-- `dst[0 .. pos)`, what the codec put out and nobody took yet. -/
def contents (b : OutBuffer) : List UInt8 := slice b.dst 0 b.pos

/-- `size - pos`. -/
def room (b : OutBuffer) : Nat := b.size - b.pos

def append (b : OutBuffer) (bytes : List UInt8) : OutBuffer :=
  { b with dst := write b.dst b.pos bytes, pos := b.pos + bytes.length }

@[simp] lemma contents_length (b : OutBuffer) : b.contents.length = b.pos := by
  simp [contents]

@[simp] lemma append_size (b : OutBuffer) (xs : List UInt8) : (b.append xs).size = b.size := rfl

@[simp] lemma append_pos (b : OutBuffer) (xs : List UInt8) :
    (b.append xs).pos = b.pos + xs.length := rfl

@[simp] lemma contents_append (b : OutBuffer) (xs : List UInt8) :
    (b.append xs).contents = b.contents ++ xs := by
  have h := slice_write_append b.dst 0 b.pos xs
  rw [Nat.zero_add] at h
  exact h

end OutBuffer

end VZstd
