import Mathlib.Data.List.Infix
import VZstd.BlockFrames
import VZstd.Stream.Feed

/-!
# Streams that are decompressed in chunks

A decompression that is ended with `last = true` asks whether the last codec call returned 0. When
the final chunk is empty there was no such call, and a frame that is still open is not noticed.
-/

namespace VZstd

open Proc

variable {D K : Type}

/-- `x` is a number of complete frames one after the other, and `y` their contents. -/
def Frames (IsFrame : List UInt8 → List UInt8 → Prop) (x y : List UInt8) : Prop :=
  ∃ frames : List (List UInt8 × List UInt8), (∀ f ∈ frames, IsFrame f.1 f.2) ∧
    x = frames.flatMap Prod.fst ∧ y = frames.flatMap Prod.snd

/-- No byte of an open frame has been read or flushed. -/
def BetweenFrames (cs : List (Call D Unit)) : Prop :=
  bytesRead (openCalls cs) = [] ∧ bytesPut (openCalls cs) = []

variable {codec : Codec D Unit} {d₀ : D} {format : Format} {x : List UInt8}
  {IsFrame : List UInt8 → List UInt8 → Prop} {cs : List (Call D Unit)}

/-- The run lemma: before the open frame there are complete ones. -/
lemma frames_of_session (hends : EndsFrames codec d₀ format x IsFrame)
    (h : codec.Reads d₀ format x cs) (hok : NoErrors cs) :
    ∃ frames : List (List UInt8 × List UInt8), (∀ f ∈ frames, IsFrame f.1 f.2) ∧
      bytesRead cs = frames.flatMap Prod.fst ++ bytesRead (openCalls cs) ∧
      bytesPut cs = frames.flatMap Prod.snd ++ bytesPut (openCalls cs) := by
  induction cs using List.reverseRecOn with
  | nil => exact ⟨[], by simp, rfl, rfl⟩
  | append_singleton cs c ih =>
    obtain ⟨frames, hframes, hread, hput⟩ := ih h.of_snoc (noErrors_append.mp hok).1
    have hzero := hends cs c h hok
    rw [openCalls_concat]
    split
    next hret =>
      refine ⟨frames ++ [(bytesRead (openCalls cs ++ [c]), bytesPut (openCalls cs ++ [c]))],
        ?_, ?_, ?_⟩
      · intro f hf
        rcases List.mem_append.mp hf with hf | hf
        · exact hframes f hf
        · rw [List.mem_singleton.mp hf]
          exact hzero.mp hret
      · simp [hread]
      · simp [hput]
    next hret =>
      refine ⟨frames, hframes, ?_, ?_⟩
      · simp [hread]
      · simp [hput]

lemma SelfDelimiting.eq_nil (h : SelfDelimiting IsFrame)
    {frames : List (List UInt8 × List UInt8)} (hframes : ∀ f ∈ frames, IsFrame f.1 f.2)
    (hnil : frames.flatMap Prod.fst = []) : frames = [] := by
  cases frames with
  | nil => rfl
  | cons f frames =>
    have hf := hframes f List.mem_cons_self
    rw [List.flatMap_cons, List.append_eq_nil_iff] at hnil
    exact absurd (hnil.1 ▸ hf) (h.nonempty _)

/-- A list of frames that begins the same bytes as another begins that list. -/
lemma SelfDelimiting.frames_prefix (h : SelfDelimiting IsFrame)
    {frames frames' : List (List UInt8 × List UInt8)} {rest : List UInt8}
    (hframes : ∀ f ∈ frames, IsFrame f.1 f.2) (hframes' : ∀ f ∈ frames', IsFrame f.1 f.2)
    (heq : frames.flatMap Prod.fst ++ rest = frames'.flatMap Prod.fst) :
    ∃ more, frames' = frames ++ more ∧ rest = more.flatMap Prod.fst := by
  induction frames generalizing frames' with
  | nil => exact ⟨frames', rfl, heq⟩
  | cons f frames ih =>
    have hf := hframes f List.mem_cons_self
    cases frames' with
    | nil =>
      rw [List.flatMap_nil, List.append_eq_nil_iff] at heq
      cases h.eq_nil hframes heq.1
    | cons f' frames' =>
      have hf' := hframes' f' List.mem_cons_self
      rw [List.flatMap_cons, List.flatMap_cons, List.append_assoc] at heq
      obtain ⟨hfst, hsnd, hbehind⟩ := h.eq_of_append hf hf' heq
      obtain rfl : f = f' := Prod.ext hfst hsnd
      obtain ⟨more, rfl, hrest⟩ := ih (fun g hg => hframes g (List.mem_cons_of_mem f hg))
        (fun g hg => hframes' g (List.mem_cons_of_mem f hg)) hbehind
      exact ⟨more, rfl, hrest⟩

/-- When the calls of a session have read complete frames and flushed their contents, no frame is
open. -/
lemma betweenFrames_of_frames (hends : EndsFrames codec d₀ format x IsFrame)
    (hself : SelfDelimiting IsFrame) (hstops : StopsAtFrames codec d₀ format x IsFrame)
    (h : codec.Reads d₀ format x cs) (hok : NoErrors cs)
    (hframes : Frames IsFrame (bytesRead cs) (bytesPut cs)) : BetweenFrames cs := by
  obtain ⟨closed, hclosed, hread, hput⟩ := frames_of_session hends h hok
  obtain ⟨frames, hall, hread', hput'⟩ := hframes
  obtain ⟨more, rfl, hopen⟩ := hself.frames_prefix hclosed hall (hread.symm.trans hread')
  rw [hput', List.flatMap_append, List.append_cancel_left_eq] at hput
  cases more with
  | nil => exact ⟨hopen, hput.symm⟩
  | cons f more =>
    have hf : IsFrame f.1 f.2 := hall f (List.mem_append_right _ List.mem_cons_self)
    have hwhole := hstops cs h hok f.1 f.2 hf ⟨_, hopen.symm⟩
    have hmore : more = [] := by
      apply hself.eq_nil fun g hg => hall g (List.mem_append_right _ (List.mem_cons_of_mem f hg))
      rw [List.flatMap_cons, ← hwhole] at hopen
      exact List.append_cancel_left (hopen.symm.trans (List.append_nil f.1).symm)
    subst hmore
    rw [List.flatMap_singleton] at hput
    rw [hwhole, hput] at hf
    rcases List.eq_nil_or_concat cs with rfl | ⟨cs, c, rfl⟩
    · exact absurd hf (hself.nonempty _)
    · rw [List.concat_eq_append] at h hok hf
      have hzero := hends cs c h hok
      rw [openCalls_concat] at hf
      split at hf
      next => exact absurd hf (hself.nonempty _)
      next hret => exact absurd (hzero.mpr hf) hret

/-- The calls of a feed that succeeds are a session on the chunks. -/
lemma reads_of_feed {api : DecompressApi D} {fuel : Nat} {drain : Drain K} {chunks : List Chunk}
    {sink : K} {beyond : Nat → Nat → UInt8} {w : World D Unit K}
    (hr : feed (decompression api) fuel drain chunks
      (World.start (decompression api) d₀ sink beyond) = .ok () w)
    (hregular : w.log.Regular format) :
    api.decompressStream.Reads d₀ format (contents chunks) w.log.calls := by
  have hsession := (World.inSessionInvariant (decompression api) d₀).feed_ok
    (World.inSession_start sink beyond) hr
  have hpresented := (World.presentedInvariant (decompression api)).feed_ok
    (World.presented_start sink beyond) hr
  refine ⟨⟨_, hsession.session⟩, ?_, hpresented.again hregular.harmless, hregular.unmistaken⟩
  rw [← staged_of_feed hr]
  exact hpresented.presented hregular.harmless

/-! ### An empty final chunk is not enough -/

end VZstd
