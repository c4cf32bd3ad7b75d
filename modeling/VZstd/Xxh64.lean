import VZstd.Lib.Blocks
import VZstd.Lib.LittleEndian

/-!
# The checksum

XXH64, which hashes the content of a frame. The one-shot function reads the whole content; the
streaming functions keep less than 32 bytes of it, until a block is complete.
-/

namespace VZstd

open LittleEndian Blocks

/-! ### Mixing -/

def xxhPrime64_1 : UInt64 := 0x9E3779B185EBCA87

def xxhPrime64_2 : UInt64 := 0xC2B2AE3D27D4EB4F

def xxhPrime64_3 : UInt64 := 0x165667B19E3779F9

def xxhPrime64_4 : UInt64 := 0x85EBCA77C2B2AE63

def xxhPrime64_5 : UInt64 := 0x27D4EB2F165667C5

/-- `XXH_rotl64`. -/
def xxhRotl64 (x r : UInt64) : UInt64 := (x <<< r) ||| (x >>> (64 - r))

/-- `XXH_readLE64`. -/
def xxhReadLE64 (ptr : List UInt8) : UInt64 := .ofNat (decode (ptr.take 8))

/-- `XXH_readLE32`. -/
def xxhReadLE32 (ptr : List UInt8) : UInt64 := .ofNat (decode (ptr.take 4))

def xxh64Round (acc input : UInt64) : UInt64 :=
  xxhRotl64 (acc + input * xxhPrime64_2) 31 * xxhPrime64_1

def xxh64MergeRound (acc val : UInt64) : UInt64 :=
  (acc ^^^ xxh64Round 0 val) * xxhPrime64_1 + xxhPrime64_4

def xxh64Avalanche (hash : UInt64) : UInt64 :=
  let hash := (hash ^^^ (hash >>> 33)) * xxhPrime64_2
  let hash := (hash ^^^ (hash >>> 29)) * xxhPrime64_3
  hash ^^^ (hash >>> 32)

/-- Eight of the last bytes. -/
def xxh64FinalizeWord (hash : UInt64) (ptr : List UInt8) : UInt64 :=
  xxhRotl64 (hash ^^^ xxh64Round 0 (xxhReadLE64 ptr)) 27 * xxhPrime64_1 + xxhPrime64_4

/-- Four of the last bytes. -/
def xxh64FinalizeHalf (hash : UInt64) (ptr : List UInt8) : UInt64 :=
  xxhRotl64 (hash ^^^ (xxhReadLE32 ptr * xxhPrime64_1)) 23 * xxhPrime64_2 + xxhPrime64_3

/-- One of the last bytes. -/
def xxh64FinalizeByte (hash : UInt64) (b : UInt8) : UInt64 :=
  xxhRotl64 (hash ^^^ (b.toUInt64 * xxhPrime64_5)) 11 * xxhPrime64_1

/-- `XXH64_finalize`. -/
def xxh64Finalize (hash : UInt64) (ptr : List UInt8) (len : Nat) : UInt64 :=
  let words := absorb xxh64FinalizeWord 8 hash (ptr.take (len % 32))
  let half :=
    if 4 ≤ words.2.length then (xxh64FinalizeHalf words.1 words.2, words.2.drop 4) else words
  xxh64Avalanche (half.2.foldl xxh64FinalizeByte half.1)

/-- Only the bytes after the last block count. -/
lemma xxh64Finalize_congr {hash : UInt64} {ptr ptr' : List UInt8} {len : Nat}
    (h : ptr.take (len % 32) = ptr'.take (len % 32)) :
    xxh64Finalize hash ptr len = xxh64Finalize hash ptr' len := by
  rw [xxh64Finalize, h]
  rfl

/-! ### Lanes -/

/-- The four accumulators. -/
structure Lanes where
  v1 : UInt64
  v2 : UInt64
  v3 : UInt64
  v4 : UInt64
  deriving DecidableEq, Repr

def Lanes.start (seed : UInt64) : Lanes where
  v1 := seed + xxhPrime64_1 + xxhPrime64_2
  v2 := seed + xxhPrime64_2
  v3 := seed + 0
  v4 := seed - xxhPrime64_1

/-- One round for each lane, on a block of 32 bytes. -/
def Lanes.round (v : Lanes) (ptr : List UInt8) : Lanes where
  v1 := xxh64Round v.v1 (xxhReadLE64 ptr)
  v2 := xxh64Round v.v2 (xxhReadLE64 (ptr.drop 8))
  v3 := xxh64Round v.v3 (xxhReadLE64 (ptr.drop 16))
  v4 := xxh64Round v.v4 (xxhReadLE64 (ptr.drop 24))

def Lanes.merge (v : Lanes) : UInt64 :=
  let h64 := xxhRotl64 v.v1 1 + xxhRotl64 v.v2 7 + xxhRotl64 v.v3 12 + xxhRotl64 v.v4 18
  xxh64MergeRound (xxh64MergeRound (xxh64MergeRound (xxh64MergeRound h64 v.v1) v.v2) v.v3) v.v4

/-- `XXH64`. -/
def xxh64 (input : List UInt8) (seed : UInt64) : UInt64 :=
  let len := input.length
  if 32 ≤ len then
    let r := absorb Lanes.round 32 (.start seed) input
    xxh64Finalize (r.1.merge + .ofNat len) r.2 len
  else xxh64Finalize (seed + xxhPrime64_5 + .ofNat len) input len

/-- The hash of nothing, and of three bytes. -/
example : xxh64 [] 0 = 0xEF46DB3751D8E999 ∧ xxh64 [97, 98, 99] 0 = 0x44BC2CF5AD770999 := by
  decide +kernel

/-! ### Streaming -/

/-- `XXH64_state_t`. -/
structure XXH64State where
  totalLen : UInt64
  v : Lanes
  mem64 : List UInt8
  memsize : Nat
  deriving DecidableEq, Repr

/-- `XXH64_reset`. -/
def xxh64Reset (seed : UInt64) : XXH64State where
  totalLen := 0
  v := .start seed
  mem64 := List.replicate 32 0
  memsize := 0

/-- `XXH_memcpy` to `mem + pos`. -/
def xxhMemcpy (mem : List UInt8) (pos : Nat) (src : List UInt8) : List UInt8 :=
  mem.take pos ++ (src ++ mem.drop (pos + src.length))

/-- Fill the buffer and take it, if there is anything in it. -/
def XXH64State.complete (state : XXH64State) (input : List UInt8) : XXH64State :=
  if state.memsize ≠ 0 then
    let mem64 := xxhMemcpy state.mem64 state.memsize (input.take (32 - state.memsize))
    { state with v := state.v.round mem64, mem64 := mem64, memsize := 0 }
  else state

/-- `XXH64_update`. -/
def xxh64Update (state : XXH64State) (input : List UInt8) : XXH64State :=
  let len := input.length
  let state := { state with totalLen := state.totalLen + UInt64.ofNat len }
  if state.memsize + len < 32 then
    { state with
      mem64 := xxhMemcpy state.mem64 state.memsize input
      memsize := state.memsize + len }
  else
    let p := if state.memsize ≠ 0 then input.drop (32 - state.memsize) else input
    let state := state.complete input
    let r := absorb Lanes.round 32 state.v p
    if r.2 ≠ [] then
      { state with v := r.1, mem64 := xxhMemcpy state.mem64 0 r.2, memsize := r.2.length }
    else { state with v := r.1 }

/-- `XXH64_digest`. -/
def xxh64Digest (state : XXH64State) : UInt64 :=
  let h64 := if 32 ≤ state.totalLen then state.v.merge else state.v.v3 + xxhPrime64_5
  xxh64Finalize (h64 + state.totalLen) state.mem64 state.totalLen.toNat

/-- The lanes have taken all whole blocks of `x`, and the buffer begins with what is left. -/
structure XXH64State.Buffers (state : XXH64State) (seed : UInt64) (x : List UInt8) : Prop where
  v : state.v = (absorb Lanes.round 32 (.start seed) x).1
  mem64 : state.mem64.take state.memsize = (absorb Lanes.round 32 (.start seed) x).2
  length_mem64 : state.mem64.length = 32
  memsize : state.memsize = x.length % 32

/-- `x` has been hashed so far. -/
structure XXH64State.Hashed (state : XXH64State) (seed : UInt64) (x : List UInt8) : Prop
    extends state.Buffers seed x where
  totalLen : state.totalLen = .ofNat x.length

lemma hashed_reset (seed : UInt64) : (xxh64Reset seed).Hashed seed [] where
  v := rfl
  mem64 := rfl
  length_mem64 := List.length_replicate
  memsize := rfl
  totalLen := rfl

variable {state : XXH64State} {seed : UInt64} {x y : List UInt8}

lemma length_xxhMemcpy {mem src : List UInt8} {pos : Nat} (h : pos + src.length ≤ mem.length) :
    (xxhMemcpy mem pos src).length = mem.length := by
  rw [xxhMemcpy, List.length_append, List.length_append, List.length_take, List.length_drop]
  omega

lemma take_xxhMemcpy {mem src : List UInt8} {pos : Nat} (h : pos ≤ mem.length) :
    (xxhMemcpy mem pos src).take (pos + src.length) = mem.take pos ++ src := by
  have hlen : (mem.take pos ++ src).length = pos + src.length := by
    rw [List.length_append, List.length_take, Nat.min_eq_left h]
  rw [xxhMemcpy, ← List.append_assoc, List.take_left' hlen]

/-- A piece that does not complete a block stays in the buffer. -/
lemma XXH64State.Buffers.append_of_lt (h : state.Buffers seed x)
    (hlt : state.memsize + y.length < 32) :
    ({ state with
        mem64 := xxhMemcpy state.mem64 state.memsize y
        memsize := state.memsize + y.length } : XXH64State).Buffers seed (x ++ y) := by
  have hmem := h.length_mem64
  have hsize := h.memsize
  have hrest : (absorb Lanes.round 32 (.start seed) x).2.length = x.length % 32 :=
    length_absorb (by decide)
  have habsorb : absorb Lanes.round 32 (.start seed) (x ++ y) =
      ((absorb Lanes.round 32 (.start seed) x).1,
        (absorb Lanes.round 32 (.start seed) x).2 ++ y) := by
    rw [absorb_append (by decide), absorb_of_lt]
    rw [List.length_append, hrest]
    omega
  constructor
  · rw [habsorb]
    exact h.v
  · rw [habsorb, ← h.mem64]
    exact take_xxhMemcpy (by omega)
  · exact (length_xxhMemcpy (by omega)).trans hmem
  · show state.memsize + y.length = _
    rw [List.length_append]
    omega

/-- Completing the block that the buffer begins takes the front of `y`. -/
lemma XXH64State.Buffers.complete (h : state.Buffers seed x)
    (hle : 32 ≤ state.memsize + y.length) :
    absorb Lanes.round 32 (.start seed) (x ++ y) =
        absorb Lanes.round 32 (state.complete y).v
          (if state.memsize ≠ 0 then y.drop (32 - state.memsize) else y) ∧
      (state.complete y).mem64.length = 32 ∧ (state.complete y).memsize = 0 := by
  have hmem := h.length_mem64
  have hsize := h.memsize
  rw [absorb_append (by decide), ← h.v, ← h.mem64]
  by_cases hzero : state.memsize = 0
  · have hcomplete : state.complete y = state := if_neg (not_not.mpr hzero)
    rw [if_neg (not_not.mpr hzero), hcomplete, hzero, List.take_zero, List.nil_append]
    exact ⟨rfl, hmem, rfl⟩
  · have hlen : (state.mem64.take state.memsize).length = state.memsize := by
      rw [List.length_take]
      omega
    have hfront : (state.mem64.take state.memsize ++ y).take 32 =
        xxhMemcpy state.mem64 state.memsize (y.take (32 - state.memsize)) := by
      rw [xxhMemcpy, List.take_append, List.take_of_length_le (by omega), hlen,
        List.drop_of_length_le (by rw [List.length_take]; omega), List.append_nil]
    have hback : (state.mem64.take state.memsize ++ y).drop 32 = y.drop (32 - state.memsize) := by
      rw [List.drop_append, List.drop_of_length_le (by omega), hlen, List.nil_append]
    have hcomplete : state.complete y = { state with
        v := state.v.round (xxhMemcpy state.mem64 state.memsize (y.take (32 - state.memsize)))
        mem64 := xxhMemcpy state.mem64 state.memsize (y.take (32 - state.memsize))
        memsize := 0 } := if_pos hzero
    rw [if_pos hzero, hcomplete,
      absorb_of_le (by decide) (by rw [List.length_append, hlen]; omega), hfront, hback]
    refine ⟨rfl, ?_, rfl⟩
    rw [length_xxhMemcpy (by rw [List.length_take]; omega), hmem]

/-- What the last block leaves goes to the start of the buffer. -/
lemma XXH64State.buffers_of_absorb (hmem : state.mem64.length = 32) (hzero : state.memsize = 0)
    {r : Lanes × List UInt8} (hr : absorb Lanes.round 32 (.start seed) x = r) :
    (if r.2 ≠ [] then
      { state with v := r.1, mem64 := xxhMemcpy state.mem64 0 r.2, memsize := r.2.length }
    else { state with v := r.1 } : XXH64State).Buffers seed x := by
  have hlen : r.2.length = x.length % 32 := hr ▸ length_absorb (by decide)
  by_cases hnil : r.2 = []
  · rw [if_neg (not_not.mpr hnil)]
    rw [hnil, List.length_nil] at hlen
    refine ⟨by rw [hr], ?_, hmem, hzero.trans hlen⟩
    show state.mem64.take state.memsize = _
    rw [hr, hnil, hzero, List.take_zero]
  · rw [if_pos hnil]
    refine ⟨by rw [hr], ?_, ?_, hlen⟩
    · have htake : (xxhMemcpy state.mem64 0 r.2).take (0 + r.2.length) = _ :=
        take_xxhMemcpy (Nat.zero_le _)
      rw [Nat.zero_add, List.take_zero, List.nil_append] at htake
      rw [hr]
      exact htake
    · exact (length_xxhMemcpy (by omega)).trans hmem

@[simp]
lemma XXH64State.totalLen_complete (state : XXH64State) (y : List UInt8) :
    (state.complete y).totalLen = state.totalLen := by
  rw [XXH64State.complete]
  split <;> rfl

lemma totalLen_xxh64Update (state : XXH64State) (y : List UInt8) :
    (xxh64Update state y).totalLen = state.totalLen + UInt64.ofNat y.length := by
  rw [xxh64Update]
  split
  next => rfl
  next =>
    -- whether anything was in the buffer, whether the last block leaves anything
    dsimp only
    split <;> split <;> exact XXH64State.totalLen_complete _ y

/-- The step lemma. -/
lemma XXH64State.Hashed.update (h : state.Hashed seed x) (y : List UInt8) :
    (xxh64Update state y).Hashed seed (x ++ y) := by
  have htotal : (xxh64Update state y).totalLen = .ofNat (x ++ y).length := by
    rw [totalLen_xxh64Update, h.totalLen, List.length_append, UInt64.ofNat_add]
  have hbuffers : ({ state with
      totalLen := state.totalLen + UInt64.ofNat y.length } : XXH64State).Buffers seed x :=
    ⟨h.v, h.mem64, h.length_mem64, h.memsize⟩
  refine ⟨?_, htotal⟩
  by_cases hlt : state.memsize + y.length < 32
  · rw [xxh64Update, if_pos hlt]
    exact hbuffers.append_of_lt hlt
  · obtain ⟨habsorb, hmem, hzero⟩ := hbuffers.complete (Nat.le_of_not_lt hlt)
    rw [xxh64Update, if_neg hlt]
    exact XXH64State.buffers_of_absorb hmem hzero habsorb

/-- The run lemma. -/
lemma hashed_updates (seed : UInt64) (pieces : List (List UInt8)) :
    (pieces.foldl xxh64Update (xxh64Reset seed)).Hashed seed pieces.flatten := by
  induction pieces using List.reverseRecOn with
  | nil => exact hashed_reset seed
  | append_singleton pieces y ih =>
    rw [List.foldl_append, List.flatten_append, List.flatten_singleton]
    exact ih.update y

/-- The digest of what has been hashed. -/
lemma XXH64State.Hashed.digest (h : state.Hashed seed x) (hlen : x.length < 2 ^ 64) :
    xxh64Digest state = xxh64 x seed := by
  have htotal : state.totalLen.toNat = x.length := by
    rw [h.totalLen, UInt64.toNat_ofNat_of_lt' hlen]
  have hle : (32 : UInt64) ≤ state.totalLen ↔ 32 ≤ x.length := by
    rw [UInt64.le_iff_toNat_le, htotal]
    rfl
  have hsize := h.memsize
  rw [xxh64Digest, xxh64, htotal]
  by_cases hlong : 32 ≤ x.length
  · rw [if_pos (hle.mpr hlong), if_pos hlong, h.v, h.totalLen]
    refine xxh64Finalize_congr ?_
    rw [← hsize, h.mem64, List.take_of_length_le]
    rw [length_absorb (by decide), hsize]
  · have hmem := h.mem64
    rw [absorb_of_lt (Nat.lt_of_not_le hlong)] at hmem
    rw [if_neg (mt hle.mp hlong), if_neg hlong, h.v, h.totalLen,
      absorb_of_lt (Nat.lt_of_not_le hlong)]
    have hv3 : (Lanes.start seed).v3 = seed := UInt64.add_zero seed
    dsimp only
    rw [hv3]
    refine xxh64Finalize_congr ?_
    rw [← hsize, hmem, List.take_of_length_le (by omega)]

/-- A content hashed in any pieces has the hash of the content. -/
theorem xxh64_updates (seed : UInt64) (pieces : List (List UInt8))
    (h : pieces.flatten.length < 2 ^ 64) :
    xxh64Digest (pieces.foldl xxh64Update (xxh64Reset seed)) = xxh64 pieces.flatten seed :=
  (hashed_updates seed pieces).digest h

/-- A piece within a block, a piece over its end. -/
theorem xxh64_updates_three :
    xxh64Digest ([[1, 2, 3], List.replicate 40 4, [5]].foldl xxh64Update (xxh64Reset 0)) =
      xxh64 [[1, 2, 3], List.replicate 40 4, [5]].flatten 0 :=
  xxh64_updates 0 _ (by decide)

end VZstd
