import VZstd.Lib.LittleEndian
import VZstd.Storing

/-!
# Reading stored frames

The blocks of a stored frame, read back. A frame can be told from its own bytes: none is the
beginning of another.
-/

namespace VZstd

open LittleEndian

/-- Raw blocks up to the last one, at most `n`: their content, and what comes after them. -/
def readBlocks : Nat → List UInt8 → Option (List UInt8 × List UInt8)
  | 0, _ => none
  | n + 1, bytes =>
    let header := decode (bytes.take 3)
    let block := bytes.drop 3
    let size := header / 8
    if bytes.length < 3 ∨ header / 2 % 4 ≠ 0 ∨ block.length < size then none
    else if header % 2 = 1 then some (block.take size, block.drop size)
    else (readBlocks n (block.drop size)).map fun r => (block.take size ++ r.1, r.2)

@[simp] lemma length_blockHeader (last : Bool) (size : Nat) :
    (blockHeader last size).length = 3 := rfl

lemma decode_blockHeader {size : Nat} (h : size ≤ 131072) (last : Bool) :
    decode (blockHeader last size) = 8 * size + last.toNat := by
  have hbytes : blockHeader last size = encode 3 (8 * size + last.toNat) := by
    simp [blockHeader, encode, Nat.div_div_eq_div_mul]
  have hlast := last.toNat_le
  rw [hbytes, decode_encode (by omega)]

/-- One block. -/
lemma readBlocks_succ {x : List UInt8} (h : x.length ≤ 131072) (n : Nat) (last : Bool)
    (r : List UInt8) :
    readBlocks (n + 1) (blockHeader last x.length ++ (x ++ r)) =
      if last then some (x, r) else (readBlocks n r).map fun s => (x ++ s.1, s.2) := by
  have htake : (blockHeader last x.length ++ (x ++ r)).take 3 = blockHeader last x.length :=
    List.take_left' rfl
  have hdrop : (blockHeader last x.length ++ (x ++ r)).drop 3 = x ++ r := List.drop_left' rfl
  have hlast := last.toNat_le
  have hsize : (8 * x.length + last.toNat) / 8 = x.length := by omega
  have htype : (8 * x.length + last.toNat) / 2 % 4 = 0 := by omega
  have hflag : (8 * x.length + last.toNat) % 2 = last.toNat := by omega
  have hok : ¬((blockHeader last x.length ++ (x ++ r)).length < 3 ∨
      (8 * x.length + last.toNat) / 2 % 4 ≠ 0 ∨ (x ++ r).length < x.length) := by
    simp [htype]
  simp only [readBlocks, htake, hdrop, decode_blockHeader h, hsize, hflag]
  rw [if_neg hok, List.take_left, List.drop_left]
  cases last <;> rfl

/-- What `rawBlocks` has written is read back, whatever comes behind it. -/
lemma readBlocks_rawBlocks {k n : Nat} {x : List UInt8} (h : x.length ≤ 131072 * (k + 1))
    (hn : k < n) (r : List UInt8) : readBlocks n (rawBlocks k x ++ r) = some (x, r) := by
  induction k generalizing n x with
  | zero =>
    obtain ⟨n, rfl⟩ := Nat.exists_eq_succ_of_ne_zero hn.ne_bot
    rw [rawBlocks, List.append_assoc, readBlocks_succ (by omega)]
    rfl
  | succ k ih =>
    obtain ⟨n, rfl⟩ := Nat.exists_eq_succ_of_ne_zero hn.ne_bot
    rw [rawBlocks]
    split
    next hsmall =>
      rw [List.append_assoc, readBlocks_succ hsmall]
      rfl
    next hlarge =>
      have hlen : (x.take 131072).length = 131072 := by
        rw [List.length_take]
        omega
      have hrest : (x.drop 131072).length ≤ 131072 * (k + 1) := by
        rw [List.length_drop]
        omega
      have hblock := readBlocks_succ hlen.le n false (rawBlocks k (x.drop 131072) ++ r)
      rw [hlen, ih hrest (Nat.lt_of_succ_lt_succ hn)] at hblock
      rw [List.append_assoc, List.append_assoc, hblock]
      simp

/-- A stored frame is no beginning of another one. -/
lemma storedFrame_append_inj {x y r : List UInt8} (h : storedFrame x ++ r = storedFrame y) :
    x = y ∧ r = [] := by
  have hblocks : rawBlocks (x.length / 131072) x ++ r = rawBlocks (y.length / 131072) y ++ [] := by
    rw [storedFrame, storedFrame, List.append_assoc, List.append_cancel_left_eq] at h
    rw [h, List.append_nil]
  have hx := Nat.lt_mul_div_succ x.length (b := 131072) (by decide)
  have hy := Nat.lt_mul_div_succ y.length (b := 131072) (by decide)
  have hlt : x.length / 131072 < max (x.length / 131072) (y.length / 131072) + 1 := by omega
  have hlt' : y.length / 131072 < max (x.length / 131072) (y.length / 131072) + 1 := by omega
  have hread := readBlocks_rawBlocks hx.le hlt r
  rw [hblocks, readBlocks_rawBlocks hy.le hlt' []] at hread
  obtain ⟨hxy, hr⟩ := Prod.mk.inj (Option.some.inj hread)
  exact ⟨hxy.symm, hr.symm⟩

lemma storedFrame_injective : Function.Injective storedFrame := by
  intro x y h
  exact (storedFrame_append_inj ((List.append_nil _).trans h)).1

namespace Storing

variable {cs : List (Call Storing EndDirective)} {t : Storing}

/-- What is left of a frame that did not fit is not empty. -/
def HasRest : Storing → Prop
  | taking _ => True
  | ending rest => rest ≠ []

lemma hasRest_flush (bytes : List UInt8) (room consumed : Nat) :
    (flush bytes room consumed).state.HasRest := by
  rw [flush]
  split
  next => trivial
  next h => exact fun hnil => h (List.drop_eq_nil_iff.mp hnil)

lemma hasRest_of_session (h : storing.Session (taking []) cs t) : t.HasRest := by
  induction h with
  | start => trivial
  | @call cs t h op output input hout hin ih =>
    cases t with
    | taking content => cases op <;> first | trivial | exact hasRest_flush _ _ _
    | ending rest => cases op <;> first | exact ih | exact hasRest_flush _ _ _

/-- Until the frame is closed, what was written is no frame. -/
lemma not_storedFrame_of_session (h : storing.Session (taking []) cs t)
    (hopen : ∀ d ∈ cs, ¬d.ClosesFrame) (x : List UInt8) : bytesPut cs ≠ storedFrame x := by
  have hwritten := written_of_session h hopen
  have hrest := hasRest_of_session h
  intro hput
  cases t with
  | taking content =>
    obtain ⟨hnone, _⟩ := hwritten
    rw [hnone] at hput
    simp [storedFrame] at hput
  | ending rest =>
    have hwhole : bytesPut cs ++ rest = storedFrame (bytesRead cs) := hwritten
    rw [hput] at hwhole
    exact hrest (storedFrame_append_inj hwhole).2

end Storing

end VZstd
