import Mathlib.Order.Interval.Finset.Nat
import VZstd.Stream.Bounds
import VZstd.Stream.Functions

/-!
# What the compaction touches

`drain_buffer` moves as many bytes as have been read. It leaves the unread bytes, and at worst the
whole array, as soon as more than half of the staged bytes have been read.
-/

namespace VZstd

open Proc Memory

variable {S Op C D K : Type}

/-- `vmemmove(src, src + start, count)`. -/
structure Move where
  start : Nat
  count : Nat

/-- The offsets that the move reads. -/
def Move.reads (m : Move) : Finset Nat := Finset.Ico m.start (m.start + m.count)

/-- The offsets that the move writes. -/
def Move.writes (m : Move) : Finset Nat := Finset.range m.count

namespace InBuffer

/-- The `vmemmove` of `drain_buffer`. -/
def move (b : InBuffer) : Move := { start := b.pos, count := b.pos }

variable {b b' : InBuffer}

lemma compact_eq_move (h : b.pos ≠ b.size) (beyond : Nat → UInt8) :
    b.compact beyond =
      { b with
        src := write b.src 0 (slice (b.peek beyond) b.move.start b.move.count)
        size := b.size - b.pos
        pos := 0 } := by
  rw [compact, if_neg h]
  rfl

/-- Outside `writes` the array stays as it is. -/
lemma compact_src_of_not_mem_writes (beyond : Nat → UInt8) {i : Nat} (hi : i ∉ b.move.writes) :
    (b.compact beyond).src i = b.src i := by
  have hge : b.pos ≤ i := by simpa [Move.writes, move] using hi
  unfold compact
  split
  · rfl
  · simp [write, Nat.not_lt.mpr hge]

/-- What is written comes from `reads`. -/
lemma compact_src_of_mem_writes (h : b.pos ≠ b.size) (beyond : Nat → UInt8) {i : Nat}
    (hi : i ∈ b.move.writes) :
    b.pos + i ∈ b.move.reads ∧ (b.compact beyond).src i = b.peek beyond (b.pos + i) := by
  have hlt : i < b.pos := by simpa [Move.writes, move] using hi
  refine ⟨by simpa [Move.reads, move] using hlt, ?_⟩
  rw [compact, if_neg h]
  simp [write, hlt]

/-- The move touches live bytes only: it reads unread bytes, which lie in the array, and writes
where they go. -/
structure MovesLive (b : InBuffer) : Prop where
  reads : ∀ i ∈ b.move.reads, b.pos ≤ i ∧ i < b.size
  writes : ∀ i ∈ b.move.writes, i < b.size - b.pos
  allocated : ∀ i ∈ b.move.reads, i < b.cap

/-- It does as long as at most half of the staged bytes have been read. -/
lemma InBounds.movesLive_iff (hb : b.InBounds) (h : b.pos < b.size) :
    b.MovesLive ↔ 2 * b.pos ≤ b.size := by
  have hcap := hb.size_le
  constructor
  · rintro ⟨hreads, _, _⟩
    by_contra hhalf
    -- the last byte that is read lies behind the staged ones
    have hlast : 2 * b.pos - 1 ∈ b.move.reads := by
      simp only [Move.reads, move, Finset.mem_Ico]
      omega
    have hlt := (hreads _ hlast).2
    omega
  · intro hhalf
    simp only [Nat.two_mul] at hhalf
    constructor
    · intro i hi
      obtain ⟨hlo, hhi⟩ := Finset.mem_Ico.mp hi
      exact ⟨hlo, Nat.lt_of_lt_of_le hhi hhalf⟩
    · intro i hi
      have hlt : i < b.pos := Finset.mem_range.mp hi
      omega
    · intro i hi
      obtain ⟨_, hhi⟩ := Finset.mem_Ico.mp hi
      exact Nat.lt_of_lt_of_le hhi (hhalf.trans hcap)

/-- The move leaves the array when more than half of the array has been read. -/
lemma reads_lt_cap_iff (h : 0 < b.pos) : (∀ i ∈ b.move.reads, i < b.cap) ↔ 2 * b.pos ≤ b.cap := by
  constructor
  · intro hreads
    have hlast : 2 * b.pos - 1 ∈ b.move.reads := by
      simp only [Move.reads, move, Finset.mem_Ico]
      omega
    have hlt := hreads _ hlast
    omega
  · intro hhalf i hi
    obtain ⟨_, hhi⟩ := Finset.mem_Ico.mp hi
    simp only [move] at hhi
    omega

end InBuffer

/-! ### The moves of a run -/

/-- The input buffer before a move. A buffer that has been read to its end is only rewound. -/
def Event.moved? : Event S Op → Option InBuffer
  | compacted before _ => if before.pos < before.size then some before else none
  | _ => none

def Log.moves (l : Log S Op) : List InBuffer := l.filterMap Event.moved?

@[simp] lemma Log.moves_append (l l' : Log S Op) :
    Log.moves (l ++ l') = Log.moves l ++ Log.moves l' := List.filterMap_append

namespace World

/-- Every move was made in an array of the right length, with the indices in bounds. -/
structure MovesBounded (dir : Direction S Op) (w : World S Op K) : Prop
    extends w.Bounded dir where
  moves : ∀ b ∈ w.log.moves, b.InBounds ∧ b.cap = dir.inSize ∧ b.pos < b.size

variable {dir : Direction S Op} {w : World S Op K}

lemma movesBounded_start (codec : S) (sink : K) (beyond : Nat → Nat → UInt8) :
    (World.start dir codec sink beyond).MovesBounded dir where
  toBounded := bounded_start codec sink beyond
  moves _ hb := nomatch hb

lemma MovesBounded.compact (h : w.MovesBounded dir) : w.compact.MovesBounded dir where
  toBounded := h.toBounded.compact
  moves := by
    intro b hb
    rw [log_compact, Log.moves_append, List.mem_append] at hb
    rcases hb with hb | hb
    · exact h.moves b hb
    · simp only [Log.moves, List.filterMap_cons, List.filterMap_nil, Event.moved?] at hb
      by_cases hlt : w.sctx.input.pos < w.sctx.input.size
      · obtain rfl : b = w.sctx.input := by simpa [hlt] using hb
        exact ⟨h.input, h.cap, hlt⟩
      · simp [hlt] at hb

lemma movesBoundedInvariant (dir : Direction S Op) :
    Invariant dir.codec (World.MovesBounded dir : World S Op K → Prop) where
  stage w xs h hfit := ⟨h.toBounded.stage hfit, by simpa [Log.moves, Event.moved?] using h.moves⟩
  answer w op h := ⟨h.toBounded.answer op, by simpa [Log.moves, Event.moved?] using h.moves⟩
  drained w k b h _ :=
    ⟨h.toBounded.drained _ k b, by simpa [Log.moves, Event.moved?] using h.moves⟩
  compact _ h _ := h.compact

lemma keeps_resetStream_movesBounded :
    Keeps (World.MovesBounded dir) (resetStream : StreamM S Op K Unit) :=
  fun _ h => ⟨h.toBounded.resetBuffers, h.moves⟩

/-- The moves of a run touch live bytes only if and only if none comes after more than half of the
staged bytes have been read. -/
lemma MovesBounded.movesLive_iff (h : w.MovesBounded dir) :
    (∀ b ∈ w.log.moves, b.MovesLive) ↔ ∀ b ∈ w.log.moves, 2 * b.pos ≤ b.size := by
  refine forall₂_congr fun b hb => ?_
  obtain ⟨hbounds, _, hlt⟩ := h.moves b hb
  exact hbounds.movesLive_iff hlt

end World

/-- In every run of either direction, the moves of `drain_buffer` touch live bytes only if and only
if none of them comes after more than half of the staged bytes have been read. -/
theorem movesLive_iff_half (capi : CompressApi C) (dapi : DecompressApi D)
    (cops : List (StreamOp (CompressCall K))) (dops : List (StreamOp (DecompressCall K))) (c : C)
    (d : D) (sink : K) (beyond : Nat → Nat → UInt8) :
    (let w := (runCompressOps capi cops (World.start (compression capi) c sink beyond)).2
     (∀ b ∈ w.log.moves, b.MovesLive) ↔ ∀ b ∈ w.log.moves, 2 * b.pos ≤ b.size) ∧
    (let w := (runDecompressOps dapi dops (World.start (decompression dapi) d sink beyond)).2
     (∀ b ∈ w.log.moves, b.MovesLive) ↔ ∀ b ∈ w.log.moves, 2 * b.pos ≤ b.size) := by
  constructor
  · intro w
    have hw : w.MovesBounded (compression capi) :=
      keeps_runCompressOps (World.movesBoundedInvariant _) World.keeps_resetStream_movesBounded
        cops (World.movesBounded_start c sink beyond)
    exact hw.movesLive_iff
  · intro w
    have hw : w.MovesBounded (decompression dapi) :=
      keeps_runDecompressOps (World.movesBoundedInvariant _) World.keeps_resetStream_movesBounded
        dops (World.movesBounded_start d sink beyond)
    exact hw.movesLive_iff

/-- A codec that leaves the last byte unread. -/
def hesitant : Codec Unit Op where
  call _ _ _ input :=
    { state := (), ret := 1, consumed := input.size - input.pos - 1, produced := [] }
  consumed_le _ _ _ _ := Nat.sub_le _ _
  produced_le := Codec.nil_fits

/-- Of `[1, 2, 3]` the codec has read two bytes, and two bytes from offset 2 on are moved. -/
theorem hesitant_moves_stale_bytes :
    let op : StreamOp (CompressCall Unit) :=
      .call (.chunkAt 1 (.ofArr ⟨[1, 2, 3], by decide⟩) false fun _ _ => ((), none))
    let w := (runCompressOps (.ofCodec hesitant) [op]
      (World.start (compression (.ofCodec hesitant)) () () fun _ _ => 0)).2
    ∃ b ∈ w.log.moves, b.pos = 2 ∧ b.size = 3 ∧ 3 ∈ b.move.reads ∧ ¬b.MovesLive := by
  intro op w
  have hmoves : w.log.moves.map (fun b => (b.pos, b.size)) = [(2, 3)] := by decide +kernel
  obtain ⟨b, hb, hpair⟩ : ∃ b ∈ w.log.moves, (b.pos, b.size) = (2, 3) := by
    rw [← List.mem_map, hmoves]
    exact List.mem_singleton_self _
  obtain ⟨hpos, hsize⟩ := Prod.mk.inj hpair
  have hreads : 3 ∈ b.move.reads := by
    simp [Move.reads, InBuffer.move, hpos]
  refine ⟨b, hb, hpos, hsize, hreads, ?_⟩
  intro hlive
  have hlt := (hlive.reads 3 hreads).2
  omega

end VZstd
