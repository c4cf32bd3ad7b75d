import VZstd.Player

/-!
# Frames of raw and RLE blocks

The smallest part of the zstd format that has frames of any content: a fixed frame header, and
blocks that are stored or repeat one byte.
-/

namespace VZstd

/-- How far a frame has been read. -/
inductive BlockState where
  | frameHeader (n : Nat)
  | blockHeader (n value : Nat)
  /-- one byte of a raw block is to come, and `n` more -/
  | raw (n : Nat) (last : Bool)
  | rle (size : Nat) (h : size ≤ 131072) (last : Bool)
  | done
  | corrupt
  deriving DecidableEq

namespace BlockState

/-- The magic number, no flags, and a window of 2 MB. -/
def frameHeaderBytes : List UInt8 := [0x28, 0xB5, 0x2F, 0xFD, 0x00, 0x58]

def readHeader (n : Nat) (b : UInt8) : BlockState :=
  if frameHeaderBytes[n]? = some b then if n = 5 then blockHeader 0 0 else frameHeader (n + 1)
  else corrupt

def afterBlock (last : Bool) : BlockState := if last then done else blockHeader 0 0

/-- `value` is the block header. -/
def startBlock (value : Nat) : BlockState :=
  if h : value / 8 ≤ 131072 then
    match value / 2 % 4, value / 8 with
    | 0, 0 => afterBlock (value % 2 == 1)
    | 0, n + 1 => raw n (value % 2 == 1)
    | 1, _ => rle (value / 8) h (value % 2 == 1)
    | _, _ => corrupt
  else corrupt

def readByte : BlockState → UInt8 → BlockState × List UInt8
  | frameHeader n, b => (readHeader n b, [])
  | blockHeader n value, b =>
    let value := value + b.toNat * 256 ^ n
    (if n = 2 then startBlock value else blockHeader (n + 1) value, [])
  | raw n last, b => (if n = 0 then afterBlock last else raw (n - 1) last, [b])
  | rle size _ last, b => (afterBlock last, List.replicate size b)
  | done, b => (readHeader 0 b, [])
  | corrupt, _ => (corrupt, [])

lemma length_readByte (s : BlockState) (b : UInt8) : (s.readByte b).2.length ≤ 131072 := by
  cases s with
  | rle size h last => simpa [readByte] using h
  | raw n last => simp [readByte]
  | _ => exact Nat.zero_le _

end BlockState

/-- Reads frames one after the other, and writes their contents. -/
def blocks : Transducer BlockState UInt8 UInt8 where
  init := .frameHeader 0
  step := BlockState.readByte

def blockDecoding : Decoding where
  content := blocks.output
  FrameEnd x := blocks.state x = .done
  Corrupt x := blocks.state x = .corrupt
  content_nil := rfl
  frameEnd_nil h := nomatch h
  content_mono := Transducer.output_prefix
  corrupt_mono h hx := Transducer.state_of_absorbing (fun _ => rfl) hx h
  not_corrupt hdone hcorrupt := by
    rw [hdone] at hcorrupt
    cases hcorrupt

instance : DecidablePred blockDecoding.FrameEnd :=
  fun x => inferInstanceAs (Decidable (blocks.state x = .done))

instance : DecidablePred blockDecoding.Corrupt :=
  fun x => inferInstanceAs (Decidable (blocks.state x = .corrupt))

/-- The byte of an RLE block is repeated. -/
lemma output_rle {x : List UInt8} {b : UInt8} {size : Nat} {h : size ≤ 131072} {last : Bool}
    (hx : blocks.state x = .rle size h last) :
    blocks.output (x ++ [b]) = blocks.output x ++ List.replicate size b := by
  rw [Transducer.output_concat, hx]
  rfl

abbrev blockPlayer : Codec (List UInt8) Unit := player blockDecoding

def blockApi : DecompressApi (List UInt8) := .ofCodec blockPlayer

lemma blockApi_decodes (format : Format) (x : List UInt8) :
    Decodes blockDecoding blockApi.decompressStream [] format x := by
  refine player_decodes (fun x b => ?_) format x
  have houtput : blockDecoding.content (x ++ [b]) =
      blockDecoding.content x ++ ((blocks.state x).readByte b).2 := Transducer.output_concat
  rw [houtput, List.length_append, decompressStreamOutSize_eq]
  exact Nat.add_le_add_left (BlockState.length_readByte _ _) _

/-! ### Single frames -/

/-- `x` is one frame with the content `y`. -/
def IsBlockFrame (x y : List UInt8) : Prop :=
  blocks.state x = .done ∧ (∀ a, a <+: x → a ≠ [] → a ≠ x → blocks.state a ≠ .done) ∧
    y = blocks.output x

/-- The bytes `x₀` are complete frames, and the open frame after them goes on. -/
structure InFrame (x₀ : List UInt8) (cs : List (Call (List UInt8) Unit)) : Prop where
  before : x₀ = [] ∨ blocks.state x₀ = .done
  read : bytesRead cs = x₀ ++ bytesRead (openCalls cs)
  put : bytesPut cs = blocks.output x₀ ++ bytesPut (openCalls cs)
  isOpen : ∀ a, a <+: bytesRead (openCalls cs) → a ≠ [] → blocks.state a ≠ .done

namespace InFrame

variable {x₀ x y s t : List UInt8} {cs : List (Call (List UInt8) Unit)}
  {c : Call (List UInt8) Unit}

/-- The frame is read as if nothing had been before it. -/
lemma state_append (h : InFrame x₀ cs) (hx : x ≠ []) :
    blocks.state (x₀ ++ x) = blocks.state x := by
  rcases h.before with rfl | hdone
  · rfl
  · exact Transducer.state_restart (s := .done) (fun _ => rfl) hdone hx

lemma output_append (h : InFrame x₀ cs) :
    blocks.output (x₀ ++ x) = blocks.output x₀ ++ blocks.output x := by
  rcases h.before with rfl | hdone
  · rfl
  · exact Transducer.output_restart (s := .done) (fun _ => rfl) hdone

lemma start : InFrame [] ([] : List (Call (List UInt8) Unit)) where
  before := .inl rfl
  read := rfl
  put := rfl
  isOpen _ ha hne := absurd (List.prefix_nil.mp ha) hne

lemma prefix_append_cases {a : List UInt8} (h : a <+: x ++ y) :
    a <+: x ∨ ∃ b, b ≠ [] ∧ b <+: y ∧ a = x ++ b := by
  rcases List.prefix_or_prefix_of_prefix h (List.prefix_append x y) with ha | ⟨b, rfl⟩
  · exact .inl ha
  · by_cases hb : b = []
    · rw [hb, List.append_nil]
      exact .inl (List.prefix_refl x)
    · exact .inr ⟨b, hb, (List.prefix_append_right_inj x).mp h, rfl⟩

/-- What a call of the player does in a frame: it reads `s`. -/
lemma call (h : InFrame x₀ cs)
    (hc : c.reply = play blockDecoding (bytesRead cs) c.output.room c.input.window)
    (hput : bytesPut cs = blocks.output (bytesRead cs)) (hok : isError c.reply.ret = false) :
    ∃ s, bytesRead (openCalls cs ++ [c]) = bytesRead (openCalls cs) ++ s ∧
      bytesPut (openCalls cs ++ [c]) = blocks.output (bytesRead (openCalls cs) ++ s) ∧
      (c.reply.ret = 0 ↔ s ≠ [] ∧ blocks.state (bytesRead (openCalls cs) ++ s) = .done) ∧
      ∀ a, a <+: bytesRead (openCalls cs) ++ s → a ≠ [] → a ≠ bytesRead (openCalls cs) ++ s →
        blocks.state a ≠ .done := by
  obtain ⟨hread, _, hput'⟩ := bytesRead_concat hc hput hok
  have hconsumed : c.consumed =
      taken blockDecoding (bytesRead cs) c.output.room c.input.window := by
    simpa using hread
  have hstate : ∀ a, a ≠ [] →
      blocks.state (bytesRead cs ++ a) = blocks.state (bytesRead (openCalls cs) ++ a) := by
    intro a ha
    rw [h.read, List.append_assoc]
    exact h.state_append (List.append_ne_nil_of_right_ne_nil _ ha)
  refine ⟨taken blockDecoding (bytesRead cs) c.output.room c.input.window, ?_, ?_, ?_, ?_⟩
  · rw [← hconsumed]
    simp
  · have hall : blocks.output x₀ ++ bytesPut (openCalls cs ++ [c]) =
        blocks.output x₀ ++ blocks.output (bytesRead (openCalls cs) ++ c.consumed) := by
      have houtput : bytesPut (cs ++ [c]) = blocks.output (bytesRead (cs ++ [c])) := hput'
      rw [← h.output_append, ← List.append_assoc, ← h.read]
      rw [bytesPut_append, h.put, List.append_assoc, ← bytesPut_append] at houtput
      simpa using houtput
    rw [← hconsumed]
    exact List.append_cancel_left hall
  · rw [hc] at hok ⊢
    rw [play_of_ok hok]
    have hend : ∀ s, (s ≠ [] ∧ blockDecoding.FrameEnd (bytesRead cs ++ s) ↔
        s ≠ [] ∧ blocks.state (bytesRead (openCalls cs) ++ s) = .done) := by
      intro s
      refine and_congr_right fun hs => ?_
      rw [← hstate s hs]
      rfl
    rw [← hend]
    dsimp only
    split
    next hyes => exact iff_of_true rfl hyes
    next hno => exact iff_of_false (by decide) hno
  · intro a ha hne hlt
    rcases prefix_append_cases ha with ha | ⟨b, hb, hprefix, rfl⟩
    · exact h.isOpen a ha hne
    · rw [← hstate b hb]
      exact scan_first hprefix hb fun heq => hlt (congrArg _ heq)

/-- The step lemma. -/
lemma exists_concat (h : InFrame x₀ cs)
    (hc : c.reply = play blockDecoding (bytesRead cs) c.output.room c.input.window)
    (hput : bytesPut cs = blocks.output (bytesRead cs)) (hok : isError c.reply.ret = false) :
    ∃ x₁, InFrame x₁ (cs ++ [c]) := by
  obtain ⟨s, hread, hout, hret, hfirst⟩ := h.call hc hput hok
  have hreadAll : bytesRead (cs ++ [c]) = x₀ ++ bytesRead (openCalls cs ++ [c]) := by
    rw [bytesRead_append, h.read, List.append_assoc, ← bytesRead_append]
  have hputAll : bytesPut (cs ++ [c]) = blocks.output x₀ ++ bytesPut (openCalls cs ++ [c]) := by
    rw [bytesPut_append, h.put, List.append_assoc, ← bytesPut_append]
  by_cases hzero : c.reply.ret = 0
  · obtain ⟨hs, hdone⟩ := hret.mp hzero
    refine ⟨x₀ ++ (bytesRead (openCalls cs) ++ s), .inr ?_, ?_, ?_, ?_⟩
    · rwa [h.state_append (List.append_ne_nil_of_right_ne_nil _ hs)]
    · rw [openCalls_concat, if_pos hzero, hreadAll, hread, bytesRead_nil, List.append_nil]
    · rw [openCalls_concat, if_pos hzero, hputAll, hout, bytesPut_nil, List.append_nil,
        h.output_append]
    · rw [openCalls_concat, if_pos hzero]
      exact fun a ha hne => absurd (List.prefix_nil.mp ha) hne
  · refine ⟨x₀, h.before, ?_, ?_, ?_⟩
    · rw [openCalls_concat, if_neg hzero, hreadAll]
    · rw [openCalls_concat, if_neg hzero, hputAll]
    · rw [openCalls_concat, if_neg hzero, hread]
      intro a ha hne hdone
      by_cases hall : a = bytesRead (openCalls cs) ++ s
      · subst hall
        refine hzero (hret.mpr ⟨?_, hdone⟩)
        rintro rfl
        rw [List.append_nil] at hdone hne
        exact h.isOpen _ (List.prefix_refl _) hne hdone
      · exact hfirst a ha hne hall hdone

end InFrame

/-- The run lemma. -/
lemma exists_inFrame {cs : List (Call (List UInt8) Unit)} {t : List UInt8}
    (h : blockPlayer.Session [] cs t) (hok : NoErrors cs) : ∃ x₀, InFrame x₀ cs := by
  induction h with
  | start => exact ⟨[], .start⟩
  | @call cs t h op output input hout hin ih =>
    rw [noErrors_append, noErrors_singleton] at hok
    obtain ⟨rfl, hput⟩ := played_of_session h hok.1
    obtain ⟨x₀, hframe⟩ := ih hok.1
    exact hframe.exists_concat (c := blockPlayer.ask (bytesRead cs) op output input) rfl hput hok.2

/-- The player returns 0 exactly at the end of a frame. -/
lemma blockApi_endsFrames (format : Format) (x : List UInt8) :
    EndsFrames blockApi.decompressStream [] format x IsBlockFrame := by
  intro cs c h hok
  rw [noErrors_append, noErrors_singleton] at hok
  obtain ⟨t, hsession⟩ := h.session
  obtain ⟨hbefore, _, _, hc, _⟩ := hsession.last
  obtain ⟨x₀, hframe⟩ := exists_inFrame hbefore hok.1
  obtain ⟨hstate, hput⟩ := played_of_session hbefore hok.1
  have hreply : c.reply = play blockDecoding (bytesRead cs) c.output.room c.input.window := by
    rw [← hstate]
    exact congrArg Call.reply hc
  obtain ⟨s, hread, hout, hret, hfirst⟩ := hframe.call hreply hput hok.2
  rw [hread, hout, hret]
  constructor
  · rintro ⟨_, hdone⟩
    exact ⟨hdone, hfirst, rfl⟩
  · rintro ⟨hdone, _, _⟩
    refine ⟨?_, hdone⟩
    rintro rfl
    rw [List.append_nil] at hdone
    have hne : bytesRead (openCalls cs) ≠ [] := by
      intro hnil
      rw [hnil] at hdone
      cases hdone
    exact hframe.isOpen _ (List.prefix_refl _) hne hdone

lemma isBlockFrame_selfDelimiting : SelfDelimiting IsBlockFrame := by
  have hnil : ∀ y, ¬IsBlockFrame [] y := fun y h => nomatch h.1
  refine ⟨hnil, fun {x y x' y'} h h' hle => ?_⟩
  have hx : x = x' := by
    by_contra hlt
    refine h'.2.1 x hle ?_ hlt h.1
    rintro rfl
    exact hnil y h
  subst hx
  exact ⟨rfl, h.2.2.trans h'.2.2.symm⟩

/-- What the player has read of an open frame does not even begin with a whole one. -/
lemma blockApi_stopsAtFrames (format : Format) (x : List UInt8) :
    StopsAtFrames blockApi.decompressStream [] format x IsBlockFrame := by
  intro cs h hok a y ha hle
  obtain ⟨t, hsession⟩ := h.session
  obtain ⟨x₀, hframe⟩ := exists_inFrame hsession hok
  refine absurd ha.1 (hframe.isOpen a hle ?_)
  rintro rfl
  exact isBlockFrame_selfDelimiting.nonempty y ha

end VZstd
