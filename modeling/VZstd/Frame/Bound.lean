import VZstd.Frame.Compress
import VZstd.Zstd

/-!
# How much compression can expand

A block that cannot be compressed is stored with a header of three bytes. So a chunk never grows by
more than three bytes for each full block, and a frame fits into `ZSTD_compressBound`, which allows
for that many bytes in each KB.
-/

namespace VZstd

open LittleEndian Reader

variable {S : Type} {c : BlockCompressor S}

/-- What is said of the sections of a block: they are only used where they are not longer than the
block, and with room for the block itself nothing fails. Blocks that are cut into parts are left
out: each part that is stored takes a header of its own. -/
structure BlockCompressor.Fits (c : BlockCompressor S) : Prop where
  buildSeqStore : ∀ p s src, ∃ s' compressible, c.buildSeqStore p s src = .ok (s', compressible)
  length_le : ∀ ⦃p s dstCapacity src s' bytes⦄,
    c.entropyCompressSeqStore p s dstCapacity src = .ok (s', bytes) → bytes.length ≤ src.length
  succeeds : ∀ ⦃p s dstCapacity src⦄, src.length ≤ dstCapacity →
    ∃ s' bytes, c.entropyCompressSeqStore p s dstCapacity src = .ok (s', bytes)

variable {p : AppliedParams} {s s' : S} {isFirstBlock last : Bool} {dstCapacity : Nat}
  {src bytes : List UInt8}

/-! ### Blocks -/

lemma BlockCompressor.Fits.length_compressBlockInternal (hc : c.Fits) (hne : src ≠ [])
    (h : c.compressBlockInternal p s isFirstBlock dstCapacity src = .ok (s', bytes)) :
    bytes.length ≤ src.length := by
  have hpos := List.length_pos_iff.mpr hne
  rw [BlockCompressor.compressBlockInternal] at h
  split at h
  next => cases h
  next =>
    obtain ⟨-, rfl⟩ := Prod.mk.inj (Except.ok.inj h)
    exact Nat.zero_le _
  next =>
    split at h
    next => cases h
    next hentropy =>
      obtain ⟨-, rfl⟩ := Prod.mk.inj (Except.ok.inj h)
      split
      next => exact hpos
      next => exact hc.length_le hentropy

/-- A block takes three bytes more than its content at most. -/
lemma BlockCompressor.Fits.length_compressBlock (hc : c.Fits) (hparts : p.inParts = false)
    (hne : src ≠ [])
    (h : c.compressBlock p s isFirstBlock dstCapacity src last = .ok (s', bytes)) :
    bytes.length ≤ src.length + 3 := by
  have hheader : blockHeaderLength = 3 := rfl
  rw [BlockCompressor.compressBlock, if_neg (by simp [hparts])] at h
  split at h
  next => cases h
  next =>
    rw [noCompressBlock] at h
    split at h
    next => cases h
    next =>
      obtain ⟨-, rfl⟩ := Prod.mk.inj (Except.ok.inj h)
      rw [List.length_append, length_writeBlockHeader]
      omega
  next b hinternal =>
    have hle := hc.length_compressBlockInternal hne hinternal
    obtain ⟨-, rfl⟩ := Prod.mk.inj (Except.ok.inj h)
    rw [List.length_append, length_writeBlockHeader]
    omega
  next hinternal =>
    have hle := hc.length_compressBlockInternal hne hinternal
    obtain ⟨-, rfl⟩ := Prod.mk.inj (Except.ok.inj h)
    rw [List.length_append, length_writeBlockHeader]
    omega

/-- With that much room, it is written. -/
lemma BlockCompressor.Fits.compressBlock_succeeds (hc : c.Fits) (hparts : p.inParts = false)
    (s : S) (isFirstBlock last : Bool) (hcap : src.length + 3 ≤ dstCapacity) :
    ∃ s' bytes, c.compressBlock p s isFirstBlock dstCapacity src last = .ok (s', bytes) := by
  have hheader : blockHeaderLength = 3 := rfl
  have hinternal : ∃ s' bytes, c.compressBlockInternal p s isFirstBlock
      (dstCapacity - blockHeaderLength) src = .ok (s', bytes) := by
    obtain ⟨s₁, compressible, hbuild⟩ := hc.buildSeqStore p s src
    rw [BlockCompressor.compressBlockInternal, hbuild]
    cases compressible with
    | false => exact ⟨_, _, rfl⟩
    | true =>
      have hroom : src.length ≤ dstCapacity - blockHeaderLength := by omega
      obtain ⟨s₂, bytes, hentropy⟩ := hc.succeeds (p := p) (s := s₁) hroom
      dsimp only
      rw [hentropy]
      exact ⟨_, _, rfl⟩
  obtain ⟨s₁, bytes, hinternal⟩ := hinternal
  rw [BlockCompressor.compressBlock, if_neg (by simp [hparts]), hinternal]
  rcases bytes with _ | ⟨b, _ | ⟨b', rest⟩⟩
  · dsimp only
    rw [noCompressBlock, if_neg (by omega)]
    exact ⟨_, _, rfl⟩
  · exact ⟨_, _, rfl⟩
  · exact ⟨_, _, rfl⟩

/-! ### Turns of the loop -/

/-- What one turn does to the room and to what has been written. -/
structure ChunkState.Turn (s s' : ChunkState S) (blockSize size : Nat) : Prop where
  size_le : size ≤ blockSize + 3
  savings : s'.savings = s.savings + blockSize - size
  dstCapacity : s'.dstCapacity = s.dstCapacity - size
  length_out : s'.out.length = s.out.length + size

variable {k : Nat} {t t' : ChunkState S} {rest rest' : List UInt8}

lemma BlockCompressor.Fits.turn (hc : c.Fits) (hparts : p.inParts = false) (hk : 0 < k)
    (hne : rest ≠ []) (h : c.compressNextBlock p k last t rest = .ok (t', rest')) :
    ∃ size, t.Turn t' (c.optimalBlockSize p k t.savings rest) size ∧
      rest' = rest.drop (c.optimalBlockSize p k t.savings rest) := by
  have hpos := List.length_pos_iff.mpr hne
  obtain ⟨hsize, hsize'⟩ := c.optimalBlockSize_spec p k t.savings rest
  rw [BlockCompressor.compressNextBlock] at h
  generalize c.optimalBlockSize p k t.savings rest = blockSize at h hsize hsize' ⊢
  have htake : (rest.take blockSize).length = blockSize := by
    rw [List.length_take]
    omega
  have hbody : rest.take blockSize ≠ [] := fun hnil => by
    rw [hnil, List.length_nil] at htake
    omega
  split at h
  next => cases h
  next =>
    split at h
    next => cases h
    next hblock =>
      obtain ⟨rfl, rfl⟩ := Prod.mk.inj (Except.ok.inj h)
      have hle := hc.length_compressBlock hparts hbody hblock
      rw [htake] at hle
      exact ⟨_, ⟨hle, Int.add_sub_assoc _ _ _ |>.symm, rfl, List.length_append⟩, rfl⟩

lemma BlockCompressor.Fits.turn_succeeds (hc : c.Fits) (hparts : p.inParts = false) (last : Bool)
    (hcap : c.optimalBlockSize p k t.savings rest + 3 ≤ t.dstCapacity) (hcap' : 6 ≤ t.dstCapacity) :
    ∃ t' rest', c.compressNextBlock p k last t rest = .ok (t', rest') := by
  have hle := List.length_take_le (c.optimalBlockSize p k t.savings rest) rest
  obtain ⟨s', bytes, hblock⟩ := hc.compressBlock_succeeds (p := p) hparts t.blockState
    t.isFirstBlock (last && decide (c.optimalBlockSize p k t.savings rest = rest.length))
    (show (rest.take (c.optimalBlockSize p k t.savings rest)).length + 3 ≤ t.dstCapacity by omega)
  have hroom : ¬t.dstCapacity < blockHeaderLength + minCBlockSize + 1 := Nat.not_lt.mpr hcap'
  rw [BlockCompressor.compressNextBlock, if_neg hroom, hblock]
  exact ⟨_, _, rfl⟩

/-! ### Chunks -/

variable {cctx cctx' : CCtx S} {lastFrameChunk : Bool}

/-- How much more than its content a chunk of `n` bytes takes, where blocks have 1 KB at least. -/
def blockOverhead (n : Nat) : Nat := if n = 0 then 0 else 3 * (n / 1024 + 1)

lemma blockOverhead_sub {n m : Nat} (hm : min 1024 n ≤ m) (hmn : m ≤ n) (hn : 0 < n) :
    blockOverhead (n - m) + 3 ≤ blockOverhead n := by
  rw [blockOverhead, blockOverhead, if_neg hn.ne']
  split <;> omega

lemma noCompress_fits : noCompress.Fits where
  buildSeqStore := fun _ s _ => ⟨s, false, rfl⟩
  length_le := by
    rintro _ _ _ src _ bytes h
    obtain ⟨-, rfl⟩ := Prod.mk.inj (Except.ok.inj h)
    exact Nat.zero_le _
  succeeds := fun _ _ _ _ _ => ⟨(), [], rfl⟩

/-- In the loop on blocks: unless there were savings, only full blocks have cost anything. -/
def ChunkState.Expands (k : Nat) (savings : Int) (src : List UInt8) (t : ChunkState S)
    (rest : List UInt8) : Prop :=
  ∃ full : Nat, (rest ≠ [] → k * full + rest.length ≤ src.length) ∧
    full ≤ (src.length + k - 1) / k ∧ rest.length ≤ src.length ∧
    min savings 0 - 3 * full ≤ t.savings ∧
    t.savings = savings + ((src.length : Int) - rest.length) - t.out.length

lemma ChunkState.Expands.turn {savings : Int} (hc : c.Fits) (hparts : p.inParts = false)
    (hk : 0 < k) (hk' : k ≤ 131072) (ht : t.Expands k savings src rest) (hle : 1 ≤ rest.length)
    (h : c.compressNextBlock p k last t rest = .ok (t', rest')) :
    t'.Expands k savings src rest' := by
  obtain ⟨full, htaken, hfull, hrest, hmin, hsavings⟩ := ht
  have hne : rest ≠ [] := List.length_pos_iff.mp hle
  have htaken := htaken hne
  obtain ⟨hlow, hhigh⟩ := c.optimalBlockSize_spec p k t.savings rest
  have hunsplit := c.optimalBlockSize_of_savings p k t.savings rest hk'
  obtain ⟨size, hturn, rfl⟩ := hc.turn hparts hk hne h
  have hsize := hturn.size_le
  have hsavings' := hturn.savings
  have hout := hturn.length_out
  generalize c.optimalBlockSize p k t.savings rest = blockSize at *
  have hdrop : (rest.drop blockSize).length = rest.length - blockSize := List.length_drop
  have hsum : t'.savings = savings + ((src.length : Int) - (rest.drop blockSize).length) -
      t'.out.length := by omega
  by_cases hsaved : t.savings < 3
  · have hblock := hunsplit hsaved
    have hmul : k * (full + 1) = k * full + k := Nat.mul_succ k full
    refine ⟨full + 1, fun hrest' => ?_, ?_, by omega, by omega, hsum⟩
    · have hpos := List.length_pos_iff.mpr hrest'
      omega
    · rw [Nat.le_div_iff_mul_le hk, Nat.mul_comm]
      omega
  · refine ⟨full, fun _ => ?_, hfull, by omega, by omega, hsum⟩
    omega

/-- A chunk never takes more than its content, three bytes for each full block, and what has been
saved before: splitting blocks costs nothing that has not been saved. -/
theorem length_compressFrameChunk_le (hc : c.Fits) (hparts : cctx.appliedParams.inParts = false)
    (hk : 0 < cctx.blockSizeMax) (hk' : cctx.blockSizeMax ≤ 131072)
    (h : c.compressFrameChunk cctx dstCapacity src lastFrameChunk = .ok (cctx', bytes)) :
    (bytes.length : Int) ≤ src.length +
      3 * ((src.length + cctx.blockSizeMax - 1) / cctx.blockSizeMax : Nat) +
      max 0 ((cctx.consumedSrcSize.toNat : Int) - cctx.producedCSize.toNat) := by
  obtain ⟨s, rest, hloop, rfl, -⟩ := compressFrameChunk_eq_ok h
  have hstart : ChunkState.Expands cctx.blockSizeMax
      ((cctx.consumedSrcSize.toNat : Int) - cctx.producedCSize.toNat) src
      { blockState := cctx.blockState
        isFirstBlock := cctx.isFirstBlock
        dstCapacity := dstCapacity
        savings := (cctx.consumedSrcSize.toNat : Int) - cctx.producedCSize.toNat
        out := [] } src := by
    refine ⟨0, fun _ => by omega, Nat.zero_le _, Nat.le_refl _, ?_, ?_⟩
    · simp
    · simp
  obtain ⟨⟨full, -, hfull, -, hmin, hsavings⟩, hlt⟩ := readAll_keeps
    (fun _ _ _ _ ht hle hstep => ht.turn hc hparts hk hk' hle hstep) hstart hloop
  omega

/-- The compressor where no block is worth compressing, behind the first call. -/
theorem length_compressFrameChunk_le_three : ∃ cctx' bytes,
    noCompress.compressFrameChunk (noCompress.resetCCtx level3 contentSizeUnknown) 100 [1, 2, 3]
      false = .ok (cctx', bytes) ∧
    (bytes.length : Int) ≤ ([1, 2, 3] : List UInt8).length +
      3 * ((([1, 2, 3] : List UInt8).length +
        (noCompress.resetCCtx level3 contentSizeUnknown).blockSizeMax - 1) /
          (noCompress.resetCCtx level3 contentSizeUnknown).blockSizeMax : Nat) +
      max 0 (((noCompress.resetCCtx level3 contentSizeUnknown).consumedSrcSize.toNat : Int) -
        (noCompress.resetCCtx level3 contentSizeUnknown).producedCSize.toNat) := by
  have hk : (noCompress.resetCCtx level3 contentSizeUnknown).blockSizeMax = 131072 := by decide
  obtain ⟨cctx', bytes, h⟩ : ∃ cctx' bytes, noCompress.compressFrameChunk
      (noCompress.resetCCtx level3 contentSizeUnknown) 100 [1, 2, 3] false =
        .ok (cctx', bytes) := ⟨_, _, rfl⟩
  exact ⟨cctx', bytes, h, length_compressFrameChunk_le noCompress_fits rfl (by omega) (by omega) h⟩

/-- In the loop on blocks, with room enough for all that is left. -/
structure ChunkState.Roomy (src : List UInt8) (t : ChunkState S) (rest : List UInt8) : Prop where
  le : rest.length ≤ src.length
  room : rest.length + blockOverhead rest.length + 2 ≤ t.dstCapacity
  length_out : t.out.length + rest.length + blockOverhead rest.length ≤
    src.length + blockOverhead src.length

/-- Such a loop comes to its end. -/
lemma BlockCompressor.Fits.compressFrameChunk_succeeds (hc : c.Fits)
    (hparts : cctx.appliedParams.inParts = false) (hk : min 1024 src.length ≤ cctx.blockSizeMax)
    (hpos : 0 < cctx.blockSizeMax) (hcap : src.length + blockOverhead src.length + 2 ≤ dstCapacity)
    (lastFrameChunk : Bool) :
    ∃ cctx' bytes, c.compressFrameChunk cctx dstCapacity src lastFrameChunk = .ok (cctx', bytes) ∧
      bytes.length ≤ src.length + blockOverhead src.length := by
  have hstep : ∀ ⦃t : ChunkState S⦄ ⦃rest⦄, t.Roomy src rest → 1 ≤ rest.length →
      ∃ t' rest', c.compressNextBlock cctx.appliedParams cctx.blockSizeMax lastFrameChunk t rest =
        .ok (t', rest') ∧ rest'.length < rest.length ∧ t'.Roomy src rest' := by
    intro t rest ht hle
    have hrest := ht.le
    have hroom := ht.room
    have hout := ht.length_out
    obtain ⟨hlow, hhigh⟩ := c.optimalBlockSize_spec cctx.appliedParams cctx.blockSizeMax t.savings
      rest
    have hoverhead := blockOverhead_sub
      (m := c.optimalBlockSize cctx.appliedParams cctx.blockSizeMax t.savings rest)
      (show min 1024 rest.length ≤ _ by omega) (by omega) hle
    obtain ⟨t', rest', hturn⟩ : ∃ t' rest', c.compressNextBlock cctx.appliedParams
        cctx.blockSizeMax lastFrameChunk t rest = .ok (t', rest') :=
      hc.turn_succeeds hparts lastFrameChunk (by omega) (by omega)
    obtain ⟨size, hspec, rfl⟩ := hc.turn hparts hpos (List.length_pos_iff.mp hle) hturn
    have hsize := hspec.size_le
    have hcap' := hspec.dstCapacity
    have hout' := hspec.length_out
    generalize c.optimalBlockSize cctx.appliedParams cctx.blockSizeMax t.savings rest = blockSize
      at *
    have hdrop : (rest.drop blockSize).length = rest.length - blockSize := List.length_drop
    refine ⟨t', _, hturn, by omega, by omega, ?_, ?_⟩
    · rw [hdrop]
      omega
    · rw [hdrop]
      omega
  have hstart : ChunkState.Roomy src
      { blockState := cctx.blockState
        isFirstBlock := cctx.isFirstBlock
        dstCapacity := dstCapacity
        savings := (cctx.consumedSrcSize.toNat : Int) - cctx.producedCSize.toNat
        out := [] } src := by
    refine ⟨Nat.le_refl _, hcap, ?_⟩
    simp
  obtain ⟨s, rest, hloop, hroomy⟩ : ∃ s rest, readAll (0 - 1 : UInt64) 1 _ _ _ src = .ok (s, rest) ∧
      ChunkState.Roomy src s rest := readAll_succeeds Nat.one_pos hstep hstart (Nat.le_refl _)
  have hout := hroomy.length_out
  rw [BlockCompressor.compressFrameChunk, hloop]
  exact ⟨_, _, rfl, by omega⟩

/-! ### Frames -/

variable {pledgedSrcSize : UInt64} {x : List UInt8}

lemma inParts_applied (p : AppliedParams) (pledgedSrcSize : UInt64) :
    (p.applied pledgedSrcSize).inParts = p.inParts := by
  rw [AppliedParams.applied]
  split <;> rfl

/-- As long as no more has come than has been pledged, a block has room for 1 KB. -/
lemma CCtx.InFrame.le_blockSizeMax (hf : cctx.InFrame p pledgedSrcSize x) {n : Nat}
    (hn : n ≤ pledgedSrcSize.toNat) : min 1024 n ≤ cctx.blockSizeMax := by
  have hmax := p.le_maxBlockSize
  have hwindow : 2 ^ windowLogAbsoluteMin ≤ 2 ^ p.windowLog :=
    Nat.pow_le_pow_right (by decide) p.le_windowLog
  have hmin : 2 ^ windowLogAbsoluteMin = 1024 := rfl
  rw [hf.blockSizeMax]
  omega

/-- The size that has been pledged, with the size so far. -/
lemma lt_consumed_iff (hx : x.length < 2 ^ 64 - 1) :
    (pledgedSrcSize + 1 ≠ 0 ∧ pledgedSrcSize + 1 < UInt64.ofNat x.length + 1) ↔
      pledgedSrcSize.toNat < x.length := by
  have hsum : (UInt64.ofNat x.length + 1).toNat = x.length + 1 := by
    rw [toNat_add_of_lt, UInt64.toNat_ofNat_of_lt' (Nat.lt_of_lt_of_le hx (Nat.sub_le _ _))]
    · rfl
    · rw [UInt64.toNat_ofNat_of_lt' (Nat.lt_of_lt_of_le hx (Nat.sub_le _ _))]
      show _ + 1 < 2 ^ 64
      omega
  by_cases hunknown : pledgedSrcSize = contentSizeUnknown
  · subst hunknown
    refine iff_of_false (fun h => h.1 rfl) ?_
    show ¬2 ^ 64 - 1 < x.length
    omega
  · have hlt : pledgedSrcSize.toNat < 2 ^ 64 - 1 := by
      have hle := pledgedSrcSize.toNat_lt
      have hne : pledgedSrcSize.toNat ≠ contentSizeUnknown.toNat := fun h =>
        hunknown (UInt64.toNat_inj.mp h)
      have hconst : contentSizeUnknown.toNat = 2 ^ 64 - 1 := rfl
      omega
    have hplus : (pledgedSrcSize + 1).toNat = pledgedSrcSize.toNat + 1 := by
      rw [toNat_add_of_lt]
      · rfl
      · show _ + 1 < 2 ^ 64
        omega
    rw [UInt64.lt_iff_toNat_lt, hplus, hsum]
    refine ⟨fun h => Nat.lt_of_succ_lt_succ h.2, fun h => ⟨fun hzero => ?_, Nat.succ_lt_succ h⟩⟩
    rw [hzero] at hplus
    exact Nat.succ_ne_zero _ hplus.symm

/-- The room that is always enough for a call with `n` bytes of content. -/
def chunkRoom (n : Nat) : Nat := n + blockOverhead n + 2 + frameHeaderSizeMax

lemma BlockCompressor.Fits.compressContinueInternal_succeeds (hc : c.Fits)
    (hparts : p.inParts = false) (hf : cctx.InFrame p pledgedSrcSize x)
    (hcap : chunkRoom src.length ≤ dstCapacity) (hlen : (x ++ src).length < 2 ^ 64 - 1)
    (hpledged : (x ++ src).length ≤ pledgedSrcSize.toNat) (lastFrameChunk : Bool) :
    ∃ cctx' bytes,
      c.compressContinueInternal cctx dstCapacity src lastFrameChunk = .ok (cctx', bytes) ∧
      bytes.length ≤ frameHeaderSizeMax + src.length + blockOverhead src.length := by
  have hmax : frameHeaderSizeMax = 18 := rfl
  rw [chunkRoom] at hcap
  obtain ⟨cctx₁, header, hstart, hheader⟩ : ∃ cctx₁ header,
      cctx.startFrame dstCapacity = .ok (cctx₁, header) ∧ header.length ≤ frameHeaderSizeMax := by
    rw [CCtx.startFrame]
    split
    next =>
      rw [writeFrameHeader, if_neg (by omega)]
      exact ⟨_, _, rfl, CCtxParams.length_header_le⟩
    next => exact ⟨_, _, rfl, Nat.zero_le _⟩
  obtain ⟨hf₁, -, -⟩ := hf.startFrame hstart
  rw [BlockCompressor.compressContinueInternal, if_neg hf.stage, hstart]
  dsimp only
  by_cases hnil : src = []
  · rw [if_pos hnil]
    exact ⟨_, _, rfl, by omega⟩
  · have hsrc : src.length ≤ pledgedSrcSize.toNat := by
      rw [List.length_append] at hpledged
      omega
    have hparts₁ : cctx₁.appliedParams.inParts = false := by
      rw [hf₁.appliedParams, inParts_applied, hparts]
    obtain ⟨cctx₂, blocks, hchunk, hblocks⟩ := hc.compressFrameChunk_succeeds hparts₁
      (hf₁.le_blockSizeMax hsrc) hf₁.blockSizeMax_pos
      (show src.length + blockOverhead src.length + 2 ≤ dstCapacity - header.length by omega)
      lastFrameChunk
    rw [if_neg hnil, hchunk]
    dsimp only
    obtain ⟨s, rest, -, -, rfl⟩ := compressFrameChunk_eq_ok hchunk
    rw [if_neg]
    · exact ⟨_, _, rfl, by rw [List.length_append]; omega⟩
    · dsimp only
      rw [hf₁.pledged, hf₁.consumed, ← UInt64.ofNat_add, ← List.length_append,
        lt_consumed_iff hlen]
      omega

lemma BlockCompressor.Fits.compressChunks_succeeds (hc : c.Fits) (hparts : p.inParts = false)
    {chunks : List (Nat × List UInt8)} (hf : cctx.InFrame p pledgedSrcSize x)
    (hstage : cctx.stage ≠ .ending) (hroom : ∀ chunk ∈ chunks, chunkRoom chunk.2.length ≤ chunk.1)
    (hlen : (x ++ (chunks.map Prod.snd).flatten).length < 2 ^ 64 - 1)
    (hpledged : (x ++ (chunks.map Prod.snd).flatten).length ≤ pledgedSrcSize.toNat) :
    ∃ cctx' bytes, c.compressChunks cctx chunks = .ok (cctx', bytes) := by
  induction chunks generalizing cctx x with
  | nil => exact ⟨_, _, rfl⟩
  | cons chunk chunks ih =>
    rw [List.map_cons, List.flatten_cons, ← List.append_assoc] at hlen hpledged
    have hfirst : (x ++ chunk.2).length ≤
        ((x ++ chunk.2) ++ (chunks.map Prod.snd).flatten).length := by
      simp only [List.length_append]
      omega
    obtain ⟨cctx₁, bytes, hcontinue, -⟩ := hc.compressContinueInternal_succeeds hparts hf
      (hroom chunk (List.mem_cons_self ..)) (Nat.lt_of_le_of_lt hfirst hlen)
      (hfirst.trans hpledged) false
    obtain ⟨hf₁, -, hending⟩ := hf.compressContinueInternal hstage hcontinue
    obtain ⟨cctx₂, later, hlater⟩ := ih hf₁ (hending rfl)
      (fun chunk' hmem => hroom chunk' (List.mem_cons_of_mem _ hmem)) hlen hpledged
    rw [BlockCompressor.compressChunks, hcontinue]
    dsimp only
    rw [hlater]
    exact ⟨_, _, rfl⟩

/-- What ends a frame takes seven bytes at most. -/
lemma writeEpilogue_succeeds (hcreated : cctx.stage ≠ .created) (hinit : cctx.stage ≠ .init)
    (hcap : 7 ≤ dstCapacity) :
    ∃ cctx' bytes, cctx.writeEpilogue dstCapacity = .ok (cctx', bytes) ∧ bytes.length ≤ 7 := by
  obtain ⟨block, hblock, hlen⟩ : ∃ block, cctx.endBlocks dstCapacity = .ok block ∧
      block.length ≤ 3 := by
    rw [CCtx.endBlocks]
    split
    next =>
      rw [if_neg (by omega)]
      exact ⟨_, rfl, (length_writeBlockHeader ..).le⟩
    next => exact ⟨[], rfl, Nat.zero_le _⟩
  obtain ⟨checksum, hchecksum, hlen'⟩ : ∃ checksum,
      cctx.writeChecksum (dstCapacity - block.length) = .ok checksum ∧ checksum.length ≤ 4 := by
    rw [CCtx.writeChecksum]
    split
    next =>
      rw [if_neg (by omega)]
      exact ⟨_, rfl, (length_encode ..).le⟩
    next => exact ⟨[], rfl, Nat.zero_le _⟩
  rw [CCtx.writeEpilogue, if_neg hcreated, if_neg hinit]
  dsimp only
  rw [List.length_nil, Nat.sub_zero, hblock]
  dsimp only
  rw [hchecksum]
  refine ⟨_, _, rfl, ?_⟩
  rw [List.nil_append, List.length_append]
  omega

/-- The last call succeeds when exactly what was pledged has come. -/
lemma BlockCompressor.Fits.compressEnd_succeeds (hc : c.Fits) (hparts : p.inParts = false)
    (hf : cctx.InFrame p pledgedSrcSize x) (hstage : cctx.stage ≠ .ending)
    (hcap : chunkRoom src.length + 5 ≤ dstCapacity) (hlen : (x ++ src).length < 2 ^ 64 - 1)
    (hpledged : pledgedSrcSize = contentSizeUnknown ∨
      pledgedSrcSize = .ofNat (x ++ src).length) :
    ∃ cctx' bytes, c.compressEnd cctx dstCapacity src = .ok (cctx', bytes) ∧
      bytes.length ≤ chunkRoom src.length + 5 := by
  have hle : (x ++ src).length ≤ pledgedSrcSize.toNat := by
    rcases hpledged with rfl | rfl
    · exact Nat.le_of_lt hlen
    · rw [UInt64.toNat_ofNat_of_lt' (Nat.lt_of_lt_of_le hlen (Nat.sub_le _ _))]
  obtain ⟨cctx₁, blocks, hcontinue, hblocks⟩ := hc.compressContinueInternal_succeeds hparts hf
    ((Nat.le_add_right _ 5).trans hcap) hlen hle true
  obtain ⟨hf₁, hinit, -⟩ := hf.compressContinueInternal hstage hcontinue
  rw [chunkRoom] at hcap ⊢
  obtain ⟨cctx₂, ending, hepilogue, hending⟩ := writeEpilogue_succeeds hf₁.stage hinit
    (show 7 ≤ dstCapacity - blocks.length by omega)
  obtain ⟨rfl, -⟩ := writeEpilogue_eq_ok hf₁.stage hinit hepilogue
  rw [BlockCompressor.compressEnd, hcontinue]
  dsimp only
  rw [hepilogue]
  dsimp only
  rw [hf₁.pledged, hf₁.consumed, if_neg]
  · refine ⟨_, _, rfl, ?_⟩
    rw [List.length_append]
    omega
  · rintro ⟨hne, hneq⟩
    rcases hpledged with rfl | rfl
    · exact hne rfl
    · exact hneq rfl

/-- With room in each call, a frame is completed if and only if exactly the size that was pledged
has come, or none was pledged, however the content is cut into calls. -/
theorem compressEnd_succeeds_iff (hc : c.Fits) (hparts : p.inParts = false)
    {chunks : List (Nat × List UInt8)}
    (hroom : ∀ chunk ∈ chunks, chunkRoom chunk.2.length ≤ chunk.1)
    (hcap : chunkRoom src.length + 5 ≤ dstCapacity)
    (hlen : ((chunks.map Prod.snd).flatten ++ src).length < 2 ^ 64 - 1) :
    (∃ cctx bytes cctx' bytes',
        c.compressChunks (c.resetCCtx p pledgedSrcSize) chunks = .ok (cctx, bytes) ∧
        c.compressEnd cctx dstCapacity src = .ok (cctx', bytes')) ↔
      pledgedSrcSize = contentSizeUnknown ∨
        pledgedSrcSize = .ofNat ((chunks.map Prod.snd).flatten ++ src).length := by
  have hstart := inFrame_resetCCtx c p pledgedSrcSize
  have hstage : (c.resetCCtx p pledgedSrcSize).stage ≠ .ending := by
    simp [BlockCompressor.resetCCtx]
  constructor
  · rintro ⟨cctx, bytes, cctx', bytes', hchunks, hend⟩
    obtain ⟨hf, hending⟩ := hstart.compressChunks hstage hchunks
    obtain ⟨cctx₁, blocks, ending, hcontinue, hepilogue, -, hpledged⟩ := compressEnd_eq_ok hend
    obtain ⟨hf₁, hinit, -⟩ := hf.compressContinueInternal hending hcontinue
    obtain ⟨rfl, -⟩ := writeEpilogue_eq_ok hf₁.stage hinit hepilogue
    by_cases hknown : pledgedSrcSize = contentSizeUnknown
    · exact .inl hknown
    · right
      have hne : cctx₁.pledgedSrcSizePlusOne ≠ 0 := fun hzero => hknown
        ((UInt64.add_left_inj (a := pledgedSrcSize) (b := contentSizeUnknown) 1).mp
          (hf₁.pledged ▸ hzero))
      have heq : cctx₁.pledgedSrcSizePlusOne = cctx₁.consumedSrcSize + 1 := hpledged hne
      rw [hf₁.consumed, hf₁.pledged, List.nil_append] at heq
      exact (UInt64.add_left_inj 1).mp heq
  · intro hpledged
    have hchunks : ((chunks.map Prod.snd).flatten).length ≤
        ((chunks.map Prod.snd).flatten ++ src).length := by
      rw [List.length_append]
      exact Nat.le_add_right _ _
    have hle : ((chunks.map Prod.snd).flatten ++ src).length ≤ pledgedSrcSize.toNat := by
      rcases hpledged with rfl | rfl
      · exact Nat.le_of_lt hlen
      · rw [UInt64.toNat_ofNat_of_lt' (Nat.lt_of_lt_of_le hlen (Nat.sub_le _ _))]
    obtain ⟨cctx, bytes, hrun⟩ := hc.compressChunks_succeeds hparts hstart hstage hroom
      (by rw [List.nil_append]; omega) (by rw [List.nil_append]; omega)
    obtain ⟨hf, hending⟩ := hstart.compressChunks hstage hrun
    rw [List.nil_append] at hf
    obtain ⟨cctx', bytes', hend, -⟩ := hc.compressEnd_succeeds hparts hf hending hcap hlen hpledged
    exact ⟨cctx, bytes, cctx', bytes', hrun, hend⟩

/-- Two calls, and one that ends the frame, where all five bytes were pledged. -/
theorem compressEnd_succeeds_iff_five :
    (∃ cctx bytes cctx' bytes',
        noCompress.compressChunks (noCompress.resetCCtx level3 5) [(100, [1, 2]), (100, [3])] =
          .ok (cctx, bytes) ∧
        noCompress.compressEnd cctx 100 [4, 5] = .ok (cctx', bytes')) ↔
      (5 : UInt64) = contentSizeUnknown ∨
        (5 : UInt64) = .ofNat ((([(100, [1, 2]), (100, [3])] : List (Nat × List UInt8)).map
          Prod.snd).flatten ++ [4, 5]).length :=
  compressEnd_succeeds_iff noCompress_fits rfl (by decide) (by decide) (by decide)

lemma chunkRoom_le_compressBound {n : Nat} (h : n < maxInputSize.toNat) :
    chunkRoom n + 5 ≤ (zstdCompressBound (.ofNat n)).toNat := by
  have hn : (UInt64.ofNat n).toNat = n := UInt64.toNat_ofNat_of_lt' (h.trans (by decide))
  have hlt : (UInt64.ofNat n).toNat < maxInputSize.toNat := hn.symm ▸ h
  have hbound := toNat_compressBound_of_lt hlt
  have hmax : frameHeaderSizeMax = 18 := rfl
  rw [hn] at hbound
  rw [hbound, chunkRoom, blockOverhead, hmax]
  split <;> split <;> omega

/-- Into `ZSTD_compressBound` bytes, every content is compressed. -/
theorem compress2_succeeds (hc : c.Fits) {params : UInt64 → AppliedParams}
    (hparts : (params (.ofNat src.length)).inParts = false) (hlen : src.length < maxInputSize.toNat)
    (hcap : (zstdCompressBound (.ofNat src.length)).toNat ≤ dstCapacity) :
    ∃ frame, c.compress2 params dstCapacity src = .ok frame ∧
      frame.length ≤ (zstdCompressBound (.ofNat src.length)).toNat := by
  have hroom := chunkRoom_le_compressBound hlen
  have hmax : maxInputSize.toNat = 18374966859414961920 := by decide
  obtain ⟨cctx', bytes, hend, hle⟩ := hc.compressEnd_succeeds hparts
    (inFrame_resetCCtx c _ (.ofNat src.length)) (by simp [BlockCompressor.resetCCtx])
    (hroom.trans hcap)
    (by rw [List.nil_append]; omega) (.inr rfl)
  rw [BlockCompressor.compress2, hend]
  exact ⟨bytes, rfl, hle.trans hroom⟩

/-- Three bytes. -/
theorem compress2_succeeds_three : ∃ frame,
    noCompress.compress2 (fun _ => level3) 100 [1, 2, 3] = .ok frame ∧
      frame.length ≤ (zstdCompressBound (.ofNat [1, 2, 3].length)).toNat :=
  compress2_succeeds noCompress_fits rfl (by decide) (by decide)

end VZstd
