import Mathlib.Data.List.DropRight
import VZstd.Frame.Decode

/-!
# Blocks that keep to the window

A block may refer to what has been decoded before it, but not farther back than the window. So it
decodes in the same way behind each history that ends in the same window.
-/

namespace VZstd

open Reader

variable {E : Type}

/-- The header and the body of a block of at most `k` bytes of content. It decodes to `x` behind
every history that ends in the last `w` bytes of `history`. -/
structure BlockDecoder.IsBlockFor (d : BlockDecoder E) (w k : Nat) (history : List UInt8)
    (entropy : E) (header body x : List UInt8) (entropy' : E) (bp : BlockProperties) : Prop where
  length_header : header.length = blockHeaderLength
  size : getcBlockSize header = .ok (body.length, bp)
  length_body : body.length ≤ k
  length_content : x.length ≤ k
  decodes : ∀ ⦃h blockSizeMax dstCapacity⦄, history.rtake w <:+ h → k ≤ blockSizeMax →
    x.length ≤ dstCapacity →
      d.decodeBlock entropy h blockSizeMax dstCapacity bp body = .ok (entropy', x)

/-- `bytes` are blocks which decode to `x` behind `history`. The flag is that of the last block. -/
inductive BlockDecoder.AreBlocks (d : BlockDecoder E) (w k : Nat) :
    (history : List UInt8) → (entropy : E) → (bytes x : List UInt8) → (entropy' : E) →
      (last : Bool) → Prop
  | nil (history : List UInt8) (entropy : E) : AreBlocks d w k history entropy [] [] entropy false
  | block {history header body x : List UInt8} {entropy entropy' : E} {bp : BlockProperties}
      (h : d.IsBlockFor w k history entropy header body x entropy' bp) :
      AreBlocks d w k history entropy (header ++ body) x entropy' bp.lastBlock
  | cons {history header body x bytes y : List UInt8} {entropy entropy' entropy'' : E}
      {bp : BlockProperties} {last : Bool}
      (h : d.IsBlockFor w k history entropy header body x entropy' bp)
      (hnot : bp.lastBlock = false)
      (h' : AreBlocks d w k (history ++ x) entropy' bytes y entropy'' last) :
      AreBlocks d w k history entropy (header ++ body ++ bytes) (x ++ y) entropy'' last

variable {d : BlockDecoder E} {w w' k l : Nat} {history header body bytes bytes' x y : List UInt8}
  {entropy entropy' entropy'' : E} {bp : BlockProperties} {last : Bool}

lemma rtake_suffix (x : List UInt8) (w : Nat) : x.rtake w <:+ x := List.drop_suffix _ _

lemma rtake_suffix_rtake (x : List UInt8) (h : w ≤ w') : x.rtake w <:+ x.rtake w' :=
  List.drop_suffix_drop_left x (Nat.sub_le_sub_left h x.length)

lemma rtake_of_length_le (h : x.length ≤ w) : x.rtake w = x := by
  rw [List.rtake, Nat.sub_eq_zero_of_le h, List.drop_zero]

lemma BlockDecoder.IsBlockFor.mono
    (h : d.IsBlockFor w k history entropy header body x entropy' bp) (hkl : k ≤ l) :
    d.IsBlockFor w l history entropy header body x entropy' bp where
  length_header := h.length_header
  size := h.size
  length_body := h.length_body.trans hkl
  length_content := h.length_content.trans hkl
  decodes _ _ _ hhistory hl hcap := h.decodes hhistory (hkl.trans hl) hcap

/-- A window that is larger, or that holds all of the history. -/
lemma BlockDecoder.IsBlockFor.widen
    (h : d.IsBlockFor w k history entropy header body x entropy' bp)
    (hw : w ≤ w' ∨ history.length ≤ w') :
    d.IsBlockFor w' k history entropy header body x entropy' bp where
  length_header := h.length_header
  size := h.size
  length_body := h.length_body
  length_content := h.length_content
  decodes _ _ _ hhistory hk hcap := by
    refine h.decodes (List.IsSuffix.trans ?_ hhistory) hk hcap
    rcases hw with hw | hw
    · exact rtake_suffix_rtake history hw
    · rw [rtake_of_length_le hw]
      exact rtake_suffix history w

lemma BlockDecoder.AreBlocks.mono (h : d.AreBlocks w k history entropy bytes x entropy' last)
    (hkl : k ≤ l) : d.AreBlocks w l history entropy bytes x entropy' last := by
  induction h with
  | nil => exact .nil _ _
  | block h => exact .block (h.mono hkl)
  | cons h hnot _ ih => exact .cons (h.mono hkl) hnot ih

lemma BlockDecoder.AreBlocks.widen (h : d.AreBlocks w k history entropy bytes x entropy' last)
    (hw : w ≤ w' ∨ history.length + x.length ≤ w') :
    d.AreBlocks w' k history entropy bytes x entropy' last := by
  induction h with
  | nil => exact .nil _ _
  | block h => exact .block (h.widen (hw.imp_right fun hle => (Nat.le_add_right _ _).trans hle))
  | cons h hnot _ ih =>
    rw [List.length_append, ← Nat.add_assoc] at hw
    refine .cons (h.widen ?_) hnot (ih ?_)
    · exact hw.imp_right fun hle => (Nat.le_add_right _ _).trans ((Nat.le_add_right _ _).trans hle)
    · rw [List.length_append]
      exact hw

lemma BlockDecoder.AreBlocks.append
    (h : d.AreBlocks w k history entropy bytes x entropy' false)
    (h' : d.AreBlocks w k (history ++ x) entropy' bytes' y entropy'' last) :
    d.AreBlocks w k history entropy (bytes ++ bytes') (x ++ y) entropy'' last := by
  generalize hlast : false = before at h
  induction h with
  | nil =>
    rw [List.append_nil] at h'
    exact h'
  | block h => exact .cons h hlast.symm h'
  | cons h hnot _ ih =>
    rw [List.append_assoc (_ ++ _), List.append_assoc _ _ y]
    refine .cons h hnot (ih ?_ hlast)
    rw [List.append_assoc]
    exact h'

/-! ### All in one buffer -/

variable {validate : Bool} {blockSizeMax dstCapacity : Nat} {s : DecodeState E}

/-- Where all that has been decoded is the history, a block is read. -/
lemma BlockDecoder.IsBlockFor.readBlock
    (h : d.IsBlockFor w k s.out s.entropy header body x entropy' bp) (hk : k ≤ blockSizeMax)
    (hcap : s.out.length + x.length ≤ dstCapacity) (r : List UInt8) :
    d.readBlock validate blockSizeMax dstCapacity s (header ++ body ++ r) =
      .ok ((s.next validate entropy' x, bp.lastBlock), r) := by
  refine readBlock_eq_ok.mpr ⟨header ++ body, entropy', x, bp, rfl, ⟨?_, ?_, ?_⟩, rfl, rfl⟩
  · rw [List.length_append, h.length_header]
    exact Nat.le_add_right _ _
  · rw [List.take_left' h.length_header, List.drop_left' h.length_header, h.size]
  · rw [List.drop_left' h.length_header]
    exact h.decodes (rtake_suffix _ _) hk (by omega)

/-- The blocks are read one after the other. -/
lemma BlockDecoder.AreBlocks.passes (h : d.AreBlocks w k history entropy bytes x entropy' last)
    (hk : k ≤ blockSizeMax) (hentropy : s.entropy = entropy) (hout : s.out = history)
    (hcap : history.length + x.length ≤ dstCapacity) :
    ∃ t, Passes (d.readBlock validate blockSizeMax dstCapacity) s bytes t last ∧
      t.entropy = entropy' ∧ t.out = history ++ x := by
  induction h generalizing s with
  | nil => exact ⟨s, .refl s, hentropy, hout.trans (List.append_nil _).symm⟩
  | block h =>
    subst hentropy hout
    exact ⟨_, .single (h.readBlock hk hcap), rfl, rfl⟩
  | @cons history header body x bytes y entropy entropy' entropy'' bp last h hnot _ ih =>
    subst hentropy hout
    rw [List.length_append] at hcap
    have hfirst : s.out.length + x.length ≤ dstCapacity := by omega
    obtain ⟨t, ht, hentropy, hout⟩ := ih (s := s.next validate entropy' x) rfl rfl
      (by rw [List.length_append]; omega)
    have hpass : Passes (d.readBlock validate blockSizeMax dstCapacity) s (header ++ body)
        (s.next validate entropy' x) false := .single fun r => hnot ▸ h.readBlock hk hfirst r
    exact ⟨t, hpass.trans ht, hentropy, hout.trans (List.append_assoc _ _ _)⟩

end VZstd
