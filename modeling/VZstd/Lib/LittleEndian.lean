import Mathlib.Data.Nat.Digits.Lemmas

/-!
# Numbers in little-endian order

The number that a list of bytes stands for, the lowest byte first, and the bytes of a number in a
field of a given width.
-/

namespace LittleEndian

/-- The number that the bytes stand for. -/
def decode (bs : List UInt8) : Nat := Nat.ofDigits 256 (bs.map UInt8.toNat)

/-- The `k` lowest bytes of a number. -/
def encode : Nat → Nat → List UInt8
  | 0, _ => []
  | k + 1, n => n.toUInt8 :: encode k (n / 256)

@[simp] lemma length_encode (k n : Nat) : (encode k n).length = k := by
  induction k generalizing n with
  | zero => rfl
  | succ k ih => simp [encode, ih]

@[simp] lemma decode_nil : decode [] = 0 := rfl

@[simp] lemma decode_cons (b : UInt8) (bs : List UInt8) :
    decode (b :: bs) = b.toNat + 256 * decode bs := by
  simp [decode, Nat.ofDigits_cons]

lemma decode_lt (bs : List UInt8) : decode bs < 256 ^ bs.length := by
  induction bs with
  | nil => exact Nat.one_pos
  | cons b bs ih =>
    have hb : b.toNat < 256 := b.toNat_lt
    rw [decode_cons, List.length_cons, Nat.pow_succ]
    omega

lemma decode_encode {k n : Nat} (h : n < 256 ^ k) : decode (encode k n) = n := by
  induction k generalizing n with
  | zero => exact (Nat.lt_one_iff.mp h).symm
  | succ k ih =>
    have hrest : n / 256 < 256 ^ k := by
      rw [Nat.pow_succ] at h
      omega
    have hb : n.toUInt8.toNat = n % 256 := rfl
    rw [encode, decode_cons, ih hrest, hb]
    omega

/-- A field that is too narrow keeps the lowest bytes. -/
lemma decode_encode_mod (k n : Nat) : decode (encode k n) = n % 256 ^ k := by
  induction k generalizing n with
  | zero => exact (Nat.mod_one n).symm
  | succ k ih =>
    have hb : n.toUInt8.toNat = n % 256 := rfl
    rw [encode, decode_cons, ih, hb, Nat.pow_succ', Nat.mod_mul]

lemma encode_decode (bs : List UInt8) : encode bs.length (decode bs) = bs := by
  induction bs with
  | nil => rfl
  | cons b bs ih =>
    have hb : b.toNat < 256 := b.toNat_lt
    have hlow : (b.toNat + 256 * decode bs).toUInt8 = b := by
      apply UInt8.toNat.inj
      show (b.toNat + 256 * decode bs) % 256 = b.toNat
      omega
    have hrest : (b.toNat + 256 * decode bs) / 256 = decode bs := by omega
    rw [List.length_cons, decode_cons, encode, hlow, hrest, ih]

end LittleEndian
