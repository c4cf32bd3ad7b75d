import VZstd.Stream.Delivery
import VZstd.Stream.Progress

/-!
# Feeding chunks

What a sequence of chunk calls that all succeed leaves behind: everything is staged, the output
buffer is empty, and the codec was told of the end exactly when the final chunk was not empty.
-/

namespace VZstd

open Proc

variable {S Op K : Type} {dir : Direction S Op}

/-- The bytes of all chunks. -/
def contents (chunks : List Chunk) : List UInt8 := chunks.flatMap Chunk.content

@[simp] lemma contents_nil : contents [] = [] := rfl

@[simp] lemma contents_append (cs ds : List Chunk) :
    contents (cs ++ ds) = contents cs ++ contents ds := List.flatMap_append

@[simp] lemma contents_cons (c : Chunk) (cs : List Chunk) :
    contents (c :: cs) = c.content ++ contents cs := rfl

@[simp] lemma Chunk.content_ofArr (src : ByteArr) : (Chunk.ofArr src).content = src.1 := by
  simp [content, ofArr]

lemma Chunk.length_content (c : Chunk) : c.content.length = c.len.toNat := by
  have hlen := c.len_le
  rw [Chunk.content, List.length_take]
  omega

/-- Between two chunk calls of a feed that has gone well so far. -/
structure World.Ready (dir : Direction S Op) (w : World S Op K) : Prop extends w.Conserved dir where
  outputPos : w.sctx.output.pos = 0
  inputPos : w.sctx.input.pos = 0
  noErrors : NoErrors w.log.calls
  ops : ∀ d ∈ w.log.calls, d.op = dir.op false

lemma World.ready_start (codec : S) (sink : K) (beyond : Nat → Nat → UInt8) :
    (World.start dir codec sink beyond).Ready dir where
  toConserved := conserved_start codec sink beyond
  outputPos := rfl
  inputPos := rfl
  noErrors := by simp [World.start, NoErrors]
  ops := by simp [World.start]

variable {src : Chunk} {last : Bool} {w₀ w₁ w : World S Op K}

/-- A loop that has not come to the last piece of the last chunk. -/
lemma Progress.ready {l : Locals} (h : Progress dir src last w₀ l w) (h₀ : w₀.Ready dir)
    (hmore : (last && l.restLen == 0) = false) : w.Ready dir := by
  rcases h.served with ⟨_, rfl⟩ | ⟨cs, c, hs⟩
  · exact h₀
  · obtain ⟨hok, hops⟩ := hs.earlier
    refine ⟨h.conserved, hs.outputPos, hs.inputPos, ?_, ?_⟩
    · rw [hs.calls, noErrors_append, noErrors_append, noErrors_singleton]
      exact ⟨⟨h₀.noErrors, hok⟩, hs.ok⟩
    · intro d hd
      rw [hs.calls] at hd
      rcases List.mem_append.mp hd with hd | hd
      · rcases List.mem_append.mp hd with hd | hd
        · exact h₀.ops d hd
        · exact hops d hd
      · rw [List.mem_singleton.mp hd, hs.op, hmore]

/-! ### Chunks that are not the last -/

/-- What successful chunk calls with `last = false` lead to. -/
structure Fed (dir : Direction S Op) (w₀ w : World S Op K) (chunks : List Chunk) : Prop where
  ready : w.Ready dir
  staged : w.log.staged = w₀.log.staged ++ contents chunks

lemma Fed.refl (h : w.Ready dir) : Fed dir w w [] where
  ready := h
  staged := (List.append_nil _).symm

lemma Fed.trans {cs ds : List Chunk} (h : Fed dir w₀ w₁ cs) (h' : Fed dir w₁ w ds) :
    Fed dir w₀ w (cs ++ ds) where
  ready := h'.ready
  staged := by rw [h'.staged, h.staged, contents_append, List.append_assoc]

lemma Progress.fed {l : Locals} (h : Progress dir src false w₀ l w) (h₀ : w₀.Ready dir)
    (hrest : l.restLen ≤ 0) : Fed dir w₀ w [src] where
  ready := h.ready h₀ (Bool.false_and _)
  staged := by rw [h.staged_eq hrest, contents_cons, contents_nil, List.append_nil]

/-! ### The final chunk -/

/-- What a successful chunk call with `last = true` leads to. The codec is told of the end exactly
when the chunk is not empty. -/
structure Finished (dir : Direction S Op) (src : Chunk) (w₀ w : World S Op K) : Prop where
  conserved : w.Conserved dir
  staged : w.log.staged = w₀.log.staged ++ src.content
  /-- all that was staged has been read -/
  window : w.sctx.input.window = []
  outputPos : w.sctx.output.pos = 0
  calls : (src.len ≤ 0 ∧ w.log.calls = w₀.log.calls) ∨
    ∃ cs c, 0 < src.len ∧ w.log.calls = w₀.log.calls ++ cs ++ [c] ∧ NoErrors cs ∧
      (∀ d ∈ cs, d.op = dir.op false) ∧ c.op = dir.op true ∧ c.reply.ret = 0

lemma finished_of_chunkAt {fuel : Nat} {drain : Drain K} (h : w₀.Ready dir)
    (hr : chunkAt dir fuel src true drain w₀ = .ok () w) : Finished dir src w₀ w := by
  obtain ⟨l, hprogress, hrest, hfinished⟩ := chunkAt_ok h.toConserved hr
  obtain ⟨hres, hpos⟩ := hfinished rfl
  refine ⟨hprogress.conserved, hprogress.staged_eq hrest, ?_, ?_, ?_⟩
  · rw [InBuffer.window_eq_nil_iff, hpos]
  · rcases hprogress.served with ⟨_, rfl⟩ | ⟨cs, c, hs⟩
    · exact h.outputPos
    · exact hs.outputPos
  · rcases hprogress.served with ⟨rfl, rfl⟩ | ⟨cs, c, hs⟩
    · exact .inl ⟨hrest, rfl⟩
    · obtain ⟨hok, hops⟩ := hs.earlier
      have hzero : (l.restLen == 0) = true := by
        simpa using Int.le_antisymm hrest hs.rest_nonneg
      refine .inr ⟨cs, c, hs.len_pos, hs.calls, hok, hops, ?_, ?_⟩
      · rw [hs.op, hzero, Bool.and_true]
      · rw [← hs.res, hres]

/-- A feed that succeeds has succeeded with all chunks but the final one before. -/
lemma feed_ok {fuel : Nat} {drain : Drain K} {chunks : List Chunk} (h : w₀.Ready dir)
    (hr : feed dir fuel drain chunks w₀ = .ok () w) :
    (chunks = [] ∧ w = w₀) ∨ ∃ init last w₁, chunks = init ++ [last] ∧ Fed dir w₀ w₁ init ∧
      Finished dir last w₁ w := by
  induction chunks using feed.induct generalizing w₀ with
  | case1 =>
    left
    refine ⟨rfl, ?_⟩
    rw [feed] at hr
    simpa using hr.symm
  | case2 c => exact .inr ⟨[], c, w₀, rfl, .refl h, finished_of_chunkAt h hr⟩
  | case3 c cs hne ih =>
    rw [feed_cons dir fuel drain c hne, bind_run] at hr
    cases hc : chunkAt dir fuel c false drain w₀ with
    | error e w' => simp [hc] at hr
    | ok u w' =>
      rw [hc] at hr
      obtain ⟨l, hprogress, hrest, _⟩ := chunkAt_ok h.toConserved hc
      have hfed := hprogress.fed h hrest
      rcases ih hfed.ready hr with ⟨rfl, rfl⟩ | ⟨init, last, w₁, rfl, hinit, hlast⟩
      · exact (hne rfl).elim
      · exact .inr ⟨c :: init, last, w₁, rfl, hfed.trans hinit, hlast⟩

/-- An invariant holds after a feed that succeeds. -/
lemma Invariant.feed_ok {I : World S Op K → Prop} (hI : Invariant dir.codec I) (h : I w₀)
    {fuel : Nat} {drain : Drain K} {chunks : List Chunk}
    (hr : feed dir fuel drain chunks w₀ = .ok () w) : I w := by
  have hfinal := (hI.keeps_feed fuel drain chunks).final h
  rwa [hr] at hfinal

section Start

variable {s : S} {k : K} {beyond : Nat → Nat → UInt8} {fuel : Nat} {drain : Drain K}
  {chunks : List Chunk} (hr : feed dir fuel drain chunks (World.start dir s k beyond) = .ok () w)
include hr

/-- Nothing is left in the output buffer after a feed that succeeds: all has been delivered. -/
lemma delivered_of_feed : w.log.delivered = w.log.produced := by
  have haccounted := (World.accountedInvariant dir).feed_ok (World.accounted_start s k beyond) hr
  have hpos : w.sctx.output.pos = 0 := by
    rcases VZstd.feed_ok (World.ready_start s k beyond) hr with
      ⟨_, rfl⟩ | ⟨_, _, _, _, _, hfinished⟩
    · rfl
    · exact hfinished.outputPos
  exact haccounted.delivered_eq hpos

lemma staged_of_feed : w.log.staged = contents chunks := by
  rcases feed_ok (World.ready_start s k beyond) hr with
    ⟨rfl, rfl⟩ | ⟨init, last, w₁, rfl, hfed, hfinished⟩
  · rfl
  · rw [hfinished.staged, hfed.staged]
    simp [World.start]

/-- All chunks have been read. -/
lemma consumed_of_feed (hharmless : w.log.Harmless) : w.log.consumed = contents chunks := by
  rw [← staged_of_feed hr]
  rcases feed_ok (World.ready_start s k beyond) hr with
    ⟨rfl, rfl⟩ | ⟨init, last, w₁, rfl, hfed, hfinished⟩
  · rfl
  · have hbalance := hfinished.conserved.balance hharmless
    rwa [hfinished.window, List.append_nil] at hbalance

/-- The calls of a feed that succeeds: when the final chunk is not empty, the last of them tells
the codec of the end and returns 0, and otherwise none does. -/
lemma calls_of_feed : NoErrors w.log.calls ∧
    ((¬(∃ last, chunks.getLast? = some last ∧ 0 < last.len) ∧
        ∀ d ∈ w.log.calls, d.op = dir.op false) ∨
      ((∃ last, chunks.getLast? = some last ∧ 0 < last.len) ∧
        ∃ cs c, w.log.calls = cs ++ [c] ∧ (∀ d ∈ cs, d.op = dir.op false) ∧ c.op = dir.op true ∧
          c.reply.ret = 0)) := by
  rcases feed_ok (World.ready_start s k beyond) hr with
    ⟨rfl, rfl⟩ | ⟨init, last, w₁, rfl, hfed, hfinished⟩
  · exact ⟨(World.ready_start s k beyond).noErrors, .inl ⟨by simp, by simp [World.start]⟩⟩
  · have hready := hfed.ready
    rw [List.getLast?_concat]
    rcases hfinished.calls with ⟨hlen, hcalls⟩ | ⟨cs, c, hlen, hcalls, hok, hops, hop, hret⟩
    · rw [hcalls]
      refine ⟨hready.noErrors, .inl ⟨?_, hready.ops⟩⟩
      rintro ⟨z, hz, hlt⟩
      obtain rfl : last = z := by simpa using hz
      omega
    · rw [hcalls]
      refine ⟨?_, .inr ⟨⟨last, rfl, hlen⟩, w₁.log.calls ++ cs, c, rfl, ?_, hop, hret⟩⟩
      · rw [noErrors_append, noErrors_append, noErrors_singleton, hret]
        exact ⟨⟨hready.noErrors, hok⟩, isError_zero⟩
      · intro d hd
        rcases List.mem_append.mp hd with hd | hd
        · exact hready.ops d hd
        · exact hops d hd

end Start

end VZstd
