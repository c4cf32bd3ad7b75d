import VZstd.FrameHeader

/-!
# Blocks

The three bytes before a block, as they are written and read, and the blocks that hold their
content as it is. What a compressed block stands for is left to a `BlockDecoder`.
-/

namespace VZstd

open LittleEndian

/-- `blockType_e`. -/
inductive BlockType where
  | raw
  | rle
  | compressed
  | reserved
  deriving DecidableEq, Repr

def BlockType.code : BlockType → Nat
  | .raw => 0
  | .rle => 1
  | .compressed => 2
  | .reserved => 3

def BlockType.ofCode : Nat → BlockType
  | 0 => .raw
  | 1 => .rle
  | 2 => .compressed
  | _ => .reserved

/-- `blockProperties_t`. -/
structure BlockProperties where
  blockType : BlockType
  lastBlock : Bool
  origSize : Nat
  deriving DecidableEq, Repr

/-- `ZSTD_BLOCKHEADERSIZE`. -/
def blockHeaderLength : Nat := 3

/-- `MIN_CBLOCK_SIZE`. -/
def minCBlockSize : Nat := 2

/-- `ZSTD_getcBlockSize`. -/
def getcBlockSize (src : List UInt8) : Except UInt64 (Nat × BlockProperties) :=
  if src.length < blockHeaderLength then .error (0 - 72)
  else
    let cBlockHeader := readLE src 0 3
    let cSize := cBlockHeader >>> 3
    let bp : BlockProperties :=
      { blockType := .ofCode ((cBlockHeader >>> 1) &&& 3)
        lastBlock := decide (cBlockHeader &&& 1 = 1)
        origSize := cSize }
    match bp.blockType with
    | .rle => .ok (1, bp)
    | .reserved => .error (0 - 20)
    | _ => .ok (cSize, bp)

/-- `MEM_writeLE24(op, lastBlock + (blockType << 1) + (size << 3))`. -/
def writeBlockHeader (lastBlock : Bool) (blockType : BlockType) (size : Nat) : List UInt8 :=
  encode 3 (lastBlock.toNat + (blockType.code <<< 1) + (size <<< 3))

/-- `ZSTD_copyRawBlock`. -/
def copyRawBlock (dstCapacity : Nat) (src : List UInt8) : Except UInt64 (List UInt8) :=
  if dstCapacity < src.length then .error (0 - 70) else .ok src

/-- `ZSTD_setRleBlock`. -/
def setRleBlock (dstCapacity : Nat) (b : UInt8) (regenSize : Nat) : Except UInt64 (List UInt8) :=
  if dstCapacity < regenSize then .error (0 - 70) else .ok (List.replicate regenSize b)

/-- What `ZSTD_decompressBlock_internal` does with a block that has passed its first checks: its
literals and sequences, with the entropy tables and repeat codes `E` that blocks pass on. -/
structure BlockDecoder (E : Type) where
  decompressBegin : E
  decode (entropy : E) (history : List UInt8) (blockSizeMax dstCapacity : Nat)
    (src : List UInt8) : Except UInt64 (E × List UInt8)
  length_le : ∀ ⦃entropy history blockSizeMax dstCapacity src entropy' x⦄,
    decode entropy history blockSizeMax dstCapacity src = .ok (entropy', x) →
      x.length ≤ dstCapacity

variable {E : Type}

/-- `ZSTD_decompressBlock_internal`. -/
def BlockDecoder.decompressBlockInternal (d : BlockDecoder E) (entropy : E)
    (history : List UInt8) (blockSizeMax dstCapacity : Nat) (src : List UInt8) :
    Except UInt64 (E × List UInt8) :=
  if blockSizeMax < src.length then .error (0 - 72)
  else if src.length < minCBlockSize then .error (0 - 20)
  else d.decode entropy history blockSizeMax dstCapacity src

/-- The block that `bp` tells of, whatever its type. -/
def BlockDecoder.decodeBlock (d : BlockDecoder E) (entropy : E) (history : List UInt8)
    (blockSizeMax dstCapacity : Nat) (bp : BlockProperties) (src : List UInt8) :
    Except UInt64 (E × List UInt8) :=
  match bp.blockType with
  | .compressed => d.decompressBlockInternal entropy history blockSizeMax dstCapacity src
  | .raw => (copyRawBlock dstCapacity src).map (entropy, ·)
  | .rle => (setRleBlock dstCapacity (src.headD 0) bp.origSize).map (entropy, ·)
  | .reserved => .error (0 - 20)

/-! ### Headers -/

@[simp] lemma BlockType.ofCode_code (t : BlockType) : BlockType.ofCode t.code = t := by
  cases t <;> rfl

lemma BlockType.code_lt (t : BlockType) : t.code < 4 := by cases t <;> decide

@[simp] lemma length_writeBlockHeader (lastBlock : Bool) (blockType : BlockType) (size : Nat) :
    (writeBlockHeader lastBlock blockType size).length = blockHeaderLength := length_encode 3 _

variable {src : List UInt8} {cBlockSize : Nat} {bp : BlockProperties}

/-- Only the three bytes count. -/
lemma getcBlockSize_append (h : src.length = blockHeaderLength) (r : List UInt8) :
    getcBlockSize (src ++ r) = getcBlockSize src := by
  have hlong : ¬(src ++ r).length < blockHeaderLength := by
    rw [List.length_append]
    omega
  have hread : readLE (src ++ r) 0 3 = readLE src 0 3 := readLE_append h.ge
  rw [getcBlockSize, getcBlockSize, if_neg hlong, if_neg (Nat.not_lt.mpr h.ge), hread]

lemma blockHeaderLength_le (h : getcBlockSize src = .ok (cBlockSize, bp)) :
    blockHeaderLength ≤ src.length := by
  rw [getcBlockSize] at h
  split at h
  next => cases h
  next hle => exact Nat.not_lt.mp hle

/-- What a header says of the size of a block. -/
lemma getcBlockSize_eq (h : getcBlockSize src = .ok (cBlockSize, bp)) :
    cBlockSize = (if bp.blockType = .rle then 1 else bp.origSize) ∧ bp.blockType ≠ .reserved := by
  rw [getcBlockSize] at h
  split at h
  next => cases h
  next =>
    dsimp only at h
    split at h
    next hrle =>
      obtain ⟨rfl, rfl⟩ := Prod.mk.inj (Except.ok.inj h)
      simp [hrle]
    next => cases h
    next hrle hreserved =>
      obtain ⟨rfl, rfl⟩ := Prod.mk.inj (Except.ok.inj h)
      exact ⟨(if_neg hrle).symm, hreserved⟩

/-- A header that has been written is read back. -/
lemma getcBlockSize_writeBlockHeader {blockType : BlockType} {size : Nat}
    (htype : blockType ≠ .reserved) (h : size < 2 ^ 21) (lastBlock : Bool) (r : List UInt8) :
    getcBlockSize (writeBlockHeader lastBlock blockType size ++ r) =
      .ok (if blockType = .rle then 1 else size,
        { blockType := blockType, lastBlock := lastBlock, origSize := size }) := by
  have hlast := lastBlock.toNat_le
  have hcode := blockType.code_lt
  have hvalue : lastBlock.toNat + (blockType.code <<< 1) + (size <<< 3) =
      lastBlock.toNat + 2 * blockType.code + 8 * size := by
    simp [Nat.shiftLeft_eq]
    omega
  have hread : readLE (writeBlockHeader lastBlock blockType size ++ r) 0 3 =
      lastBlock.toNat + 2 * blockType.code + 8 * size := by
    rw [readLE, List.drop_zero, writeBlockHeader, List.take_left' (length_encode 3 _), hvalue,
      decode_encode (by omega)]
  have hlong : ¬(writeBlockHeader lastBlock blockType size ++ r).length < blockHeaderLength := by
    simp
  have hsize : (lastBlock.toNat + 2 * blockType.code + 8 * size) >>> 3 = size := by
    rw [Nat.shiftRight_eq_div_pow]
    omega
  have htypes : ((lastBlock.toNat + 2 * blockType.code + 8 * size) >>> 1) &&& 3 =
      blockType.code := by
    rw [Nat.and_two_pow_sub_one_eq_mod _ 2, Nat.shiftRight_eq_div_pow]
    omega
  have hflag : decide ((lastBlock.toNat + 2 * blockType.code + 8 * size) &&& 1 = 1) =
      lastBlock := by
    rw [Nat.and_one_is_mod]
    cases lastBlock <;> simp <;> omega
  rw [getcBlockSize, if_neg hlong, hread]
  simp only [hsize, htypes, hflag, BlockType.ofCode_code]
  cases blockType <;> simp at htype ⊢

end VZstd
