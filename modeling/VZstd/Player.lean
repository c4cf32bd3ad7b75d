import VZstd.Lib.Transducer
import VZstd.Decoding

/-!
# A codec that decodes

A streaming decompressor made from a `Decoding`, with which results about all codecs are tried. It
reads a byte when what is then decoded fits into the output buffer, and stops at the end of a frame.
-/

namespace VZstd

section Player

variable (dec : Decoding) [DecidablePred dec.FrameEnd]

/-- After the bytes `x`, what is read of a window when no more than `limit` bytes of content may be
decoded. -/
def scan (limit : Nat) : (x window : List UInt8) → List UInt8
  | _, [] => []
  | x, b :: bs =>
    if limit < (dec.content (x ++ [b])).length then []
    else if dec.FrameEnd (x ++ [b]) then [b]
    else b :: scan limit (x ++ [b]) bs

/-- What one call reads. -/
def taken (x : List UInt8) (room : Nat) (window : List UInt8) : List UInt8 :=
  scan dec ((dec.content x).length + room) x window

/-- The state is all that has been read. -/
def play [DecidablePred dec.Corrupt] (x : List UInt8) (room : Nat) (window : List UInt8) :
    Reply (List UInt8) :=
  let s := taken dec x room window
  if dec.Corrupt (x ++ s) then { state := x, ret := 0 - 20, consumed := 0, produced := [] }
  else
    { state := x ++ s
      ret := if s ≠ [] ∧ dec.FrameEnd (x ++ s) then 0 else 1
      consumed := s.length
      produced := (dec.content (x ++ s)).drop (dec.content x).length }

variable {dec} {limit room : Nat} {x a t window : List UInt8}

lemma scan_prefix : scan dec limit x window <+: window := by
  induction window generalizing x with
  | nil => exact List.prefix_refl []
  | cons b bs ih =>
    rw [scan]
    split
    · exact List.nil_prefix
    · split
      · exact ⟨bs, rfl⟩
      · exact (List.prefix_cons_inj b).mpr ih

lemma length_content_scan (h : (dec.content x).length ≤ limit) :
    (dec.content (x ++ scan dec limit x window)).length ≤ limit := by
  induction window generalizing x with
  | nil => simpa [scan] using h
  | cons b bs ih =>
    rw [scan]
    split
    next => simpa using h
    next hfits =>
      split
      next => exact Nat.le_of_not_lt hfits
      next =>
        rw [List.append_cons]
        exact ih (Nat.le_of_not_lt hfits)

/-- Nothing is read behind the end of a frame. -/
lemma scan_first (ha : a <+: scan dec limit x window) (hne : a ≠ [])
    (hlt : a ≠ scan dec limit x window) : ¬dec.FrameEnd (x ++ a) := by
  induction window generalizing x a with
  | nil => exact absurd (List.prefix_nil.mp ha) hne
  | cons b bs ih =>
    rw [scan] at ha hlt
    split at ha
    next => exact absurd (List.prefix_nil.mp ha) hne
    next hfits =>
      rw [if_neg hfits] at hlt
      obtain ⟨b', a, rfl⟩ := List.exists_cons_of_ne_nil hne
      split at ha
      next hend =>
        rw [if_pos hend] at hlt
        obtain ⟨rfl, hnil⟩ := List.cons_prefix_cons.mp ha
        rw [List.prefix_nil.mp hnil] at hlt
        exact absurd rfl hlt
      next hend =>
        rw [if_neg hend] at hlt
        obtain ⟨rfl, htail⟩ := List.cons_prefix_cons.mp ha
        by_cases hnil : a = []
        · rwa [hnil]
        · rw [List.append_cons]
          exact ih htail hnil fun h => hlt (congrArg (b' :: ·) h)

/-- A frame is read to its end when it fits. -/
lemma scan_eq (ht : t <+: window) (hne : t ≠ []) (hend : dec.FrameEnd (x ++ t))
    (hfirst : ∀ a, a <+: t → a ≠ [] → a ≠ t → ¬dec.FrameEnd (x ++ a))
    (hfits : (dec.content (x ++ t)).length ≤ limit) : scan dec limit x window = t := by
  induction window generalizing x t with
  | nil => exact absurd (List.prefix_nil.mp ht) hne
  | cons b bs ih =>
    obtain ⟨b', t, rfl⟩ := List.exists_cons_of_ne_nil hne
    obtain ⟨rfl, htail⟩ := List.cons_prefix_cons.mp ht
    have hbyte : (dec.content (x ++ [b'])).length ≤ limit := by
      refine (dec.content_mono ?_).length_le.trans hfits
      exact (List.prefix_append_right_inj x).mpr ⟨t, rfl⟩
    rw [scan, if_neg (Nat.not_lt.mpr hbyte)]
    by_cases hnil : t = []
    · subst hnil
      exact if_pos hend
    · have hopen : ¬dec.FrameEnd (x ++ [b']) := by
        refine hfirst [b'] ⟨t, rfl⟩ (List.cons_ne_nil _ _) fun h => hnil ?_
        exact (List.cons.inj h).2.symm
      rw [if_neg hopen, List.cons_inj_right]
      rw [List.append_cons] at hend hfits
      refine ih htail hnil hend (fun a ha hane hat => ?_) hfits
      rw [← List.append_cons]
      exact hfirst (b' :: a) ((List.prefix_cons_inj b').mpr ha) (List.cons_ne_nil _ _)
        fun h => hat (List.cons.inj h).2

lemma scan_ne_nil {b : UInt8} {bs : List UInt8} (h : (dec.content (x ++ [b])).length ≤ limit) :
    scan dec limit x (b :: bs) ≠ [] := by
  rw [scan, if_neg (Nat.not_lt.mpr h)]
  split <;> exact List.cons_ne_nil _ _

lemma length_content_taken :
    (dec.content (x ++ taken dec x room window)).length ≤ (dec.content x).length + room :=
  length_content_scan (Nat.le_add_right _ _)

/-- What has been flushed before, followed by what a call flushes. -/
lemma content_taken :
    dec.content x ++ (dec.content (x ++ taken dec x room window)).drop (dec.content x).length =
      dec.content (x ++ taken dec x room window) := by
  have hmono : dec.content x <+: dec.content (x ++ taken dec x room window) :=
    dec.content_mono (List.prefix_append _ _)
  exact List.prefix_iff_eq_append.mp hmono

variable [DecidablePred dec.Corrupt]

lemma play_of_corrupt (h : dec.Corrupt (x ++ taken dec x room window)) :
    play dec x room window = { state := x, ret := 0 - 20, consumed := 0, produced := [] } :=
  if_pos h

lemma play_of_not_corrupt (h : ¬dec.Corrupt (x ++ taken dec x room window)) :
    play dec x room window =
      { state := x ++ taken dec x room window
        ret := if taken dec x room window ≠ [] ∧ dec.FrameEnd (x ++ taken dec x room window) then 0
          else 1
        consumed := (taken dec x room window).length
        produced := (dec.content (x ++ taken dec x room window)).drop (dec.content x).length } :=
  if_neg h

lemma play_consumed_le : (play dec x room window).consumed ≤ window.length := by
  by_cases h : dec.Corrupt (x ++ taken dec x room window)
  · rw [play_of_corrupt h]
    exact Nat.zero_le _
  · rw [play_of_not_corrupt h]
    exact scan_prefix.length_le

lemma play_produced_le : (play dec x room window).produced.length ≤ room := by
  by_cases h : dec.Corrupt (x ++ taken dec x room window)
  · rw [play_of_corrupt h]
    exact Nat.zero_le _
  · rw [play_of_not_corrupt h, List.length_drop]
    exact Nat.sub_le_iff_le_add'.mpr length_content_taken

/-- A call fails exactly when what it would read is corrupt. -/
lemma isError_play :
    isError (play dec x room window).ret = true ↔ dec.Corrupt (x ++ taken dec x room window) := by
  by_cases h : dec.Corrupt (x ++ taken dec x room window)
  · rw [play_of_corrupt h]
    exact iff_of_true (show isError (0 - 20) = true by decide) h
  · rw [play_of_not_corrupt h]
    refine iff_of_false ?_ h
    dsimp only
    split <;> decide

variable (dec) in
/-- A streaming decompressor. -/
def player : Codec (List UInt8) Unit where
  call x _ output input := play dec x output.room input.window
  consumed_le x _ output input := by
    rw [← InBuffer.window_length]
    exact play_consumed_le
  produced_le x _ output input := play_produced_le

/-! ### The player keeps to the contract -/

variable {cs : List (Call (List UInt8) Unit)} {c : Call (List UInt8) Unit}

lemma play_of_ok (h : isError (play dec x room window).ret = false) :
    play dec x room window =
      { state := x ++ taken dec x room window
        ret := if taken dec x room window ≠ [] ∧ dec.FrameEnd (x ++ taken dec x room window) then 0
          else 1
        consumed := (taken dec x room window).length
        produced := (dec.content (x ++ taken dec x room window)).drop (dec.content x).length } := by
  apply play_of_not_corrupt
  rw [← isError_play, h]
  exact Bool.false_ne_true

/-- One call that does not fail. -/
lemma bytesRead_concat {cs : List (Call (List UInt8) Unit)} {c : Call (List UInt8) Unit}
    (hc : c.reply = play dec (bytesRead cs) c.output.room c.input.window)
    (hput : bytesPut cs = dec.content (bytesRead cs)) (hok : isError c.reply.ret = false) :
    bytesRead (cs ++ [c]) = bytesRead cs ++ taken dec (bytesRead cs) c.output.room c.input.window ∧
      c.reply.state = bytesRead (cs ++ [c]) ∧
      bytesPut (cs ++ [c]) = dec.content (bytesRead (cs ++ [c])) := by
  rw [hc] at hok
  have hplay := play_of_ok hok
  have hread : c.consumed = taken dec (bytesRead cs) c.output.room c.input.window := by
    rw [Call.consumed, hc, hplay]
    exact (List.prefix_iff_eq_take.mp scan_prefix).symm
  rw [bytesRead_append, bytesRead_cons, bytesRead_nil, List.append_nil, hread]
  refine ⟨rfl, ?_, ?_⟩
  · rw [hc, hplay]
  · rw [bytesPut_append, bytesPut_cons, bytesPut_nil, List.append_nil, hput, hc, hplay]
    exact content_taken

/-- The run lemma: all that was read is decoded, and all that was decoded is flushed. -/
lemma played_of_session {cs : List (Call (List UInt8) Unit)} (h : (player dec).Session [] cs t)
    (hok : NoErrors cs) : t = bytesRead cs ∧ bytesPut cs = dec.content (bytesRead cs) := by
  induction h with
  | start => exact ⟨rfl, dec.content_nil.symm⟩
  | @call cs t h op output input hout hin ih =>
    rw [noErrors_append, noErrors_singleton] at hok
    obtain ⟨rfl, hput⟩ := ih hok.1
    obtain ⟨_, hstate, hput'⟩ :=
      bytesRead_concat (c := (player dec).ask (bytesRead cs) op output input) rfl hput hok.2
    exact ⟨hstate, hput'⟩

lemma Codec.Reading.played {format : Format} {cs : List (Call (List UInt8) Unit)}
    {c : Call (List UInt8) Unit} (h : (player dec).Reading [] format x cs c) :
    bytesPut cs = dec.content (bytesRead cs) ∧
      c.reply = play dec (bytesRead cs) c.output.room c.input.window := by
  obtain ⟨t, hsession⟩ := h.session
  obtain ⟨hbefore, _, _, hc, _⟩ := hsession.last
  obtain ⟨hstate, hput⟩ := played_of_session hbefore h.noErrors
  refine ⟨hput, ?_⟩
  rw [← hstate]
  exact congrArg Call.reply hc

/-- The player decodes, when no byte gives more than the recommended output buffer can take. -/
lemma player_decodes
    (hbyte : ∀ x b, (dec.content (x ++ [b])).length ≤
      (dec.content x).length + decompressStreamOutSize) (format : Format) (x : List UInt8) :
    Decodes dec (player dec) [] format x where
  fails cs c h _ herr := by
    obtain ⟨_, hc⟩ := h.played
    rw [hc, isError_play] at herr
    exact dec.corrupt_mono ((List.prefix_append_right_inj _).mpr scan_prefix) herr
  flushes cs c h hok := by
    obtain ⟨hput, hc⟩ := h.played
    obtain ⟨hread, _, hput'⟩ := bytesRead_concat hc hput hok
    rw [hput', hread]
    exact dec.content_mono ((List.prefix_append_right_inj _).mpr scan_prefix)
  returnsZero cs c h hzero := by
    obtain ⟨hput, hc⟩ := h.played
    have hok : isError c.reply.ret = false := by rw [hzero]; exact isError_zero
    obtain ⟨hread, _, hput'⟩ := bytesRead_concat hc hput hok
    refine ⟨?_, hput'⟩
    rw [hc] at hok
    rw [hc, play_of_ok hok] at hzero
    dsimp only at hzero
    split at hzero
    next hend => exact hread ▸ hend.2
    next => exact absurd hzero (by decide)
  stops cs c t h hok hends ht := by
    obtain ⟨hput, hc⟩ := h.played
    rw [hc] at hok ⊢
    rw [play_of_ok hok]
    by_contra hlong
    have hlt : t.length < (taken dec (bytesRead cs) c.output.room c.input.window).length :=
      Nat.lt_of_not_le hlong
    have hprefix : t <+: taken dec (bytesRead cs) c.output.room c.input.window :=
      List.prefix_of_prefix_length_le ht scan_prefix hlt.le
    refine scan_first hprefix (fun hnil => hends.isOpen hnil hput) (fun heq => ?_) hends.frameEnd
    exact hlt.ne (congrArg List.length heq)
  finishes cs c t h hok hends ht hfits := by
    obtain ⟨hput, hc⟩ := h.played
    have hne : t ≠ [] := fun hnil => hends.isOpen hnil hput
    have htaken : taken dec (bytesRead cs) c.output.room c.input.window = t := by
      refine scan_eq ht hne hends.frameEnd (fun a ha hane hat hend => ?_) (hput ▸ hfits)
      exact hane (hends.first a ha hat hend).1
    rw [hc] at hok ⊢
    rw [play_of_ok hok, htaken]
    exact ⟨if_pos ⟨hne, hends.frameEnd⟩, rfl⟩
  progress cs c h hserved hok := by
    obtain ⟨_, hc⟩ := h.played
    obtain ⟨b, bs, hwindow⟩ := List.exists_cons_of_ne_nil hserved.unread
    have hfits := (hbyte (bytesRead cs) b).trans (Nat.add_le_add_left hserved.room _)
    rw [hc] at hok ⊢
    rw [play_of_ok hok, hwindow]
    exact Nat.add_pos_left (List.length_pos_iff.mpr (scan_ne_nil hfits)) _

end Player

end VZstd
