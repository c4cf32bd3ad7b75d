import VZstd.Frame.Compress
import VZstd.Frame.Sizes
import VZstd.Frame.Window

/-!
# What is compressed in chunks is decompressed as a frame

However the content is cut into calls, and the calls into blocks, the frame decodes to the content.
What a compressed block stands for is taken from the contract between the two ends.
-/

namespace VZstd

open LittleEndian Reader

variable {S E : Type}

/-- The contract between the two ends of a block. `R s x e` says that where the compressor, after
the content `x` of a frame, is in the state `s`, the decompressor is in `e`. The compressor refers
to the last `w` bytes at most, and what comes before these does not count. -/
structure BlockCompressor.DecodedBy (c : BlockCompressor S) (d : BlockDecoder E) (w : Nat)
    (R : S → List UInt8 → E → Prop) : Prop where
  begin : ∀ p, R (c.compressBegin p) [] d.decompressBegin
  /-- A block that is not compressed leaves the decompressor as it is. -/
  noCompress : ∀ ⦃p s s' x e src⦄, R s x e → c.buildSeqStore p s src = .ok (s', false) →
    R (c.endBlock s' false) (x ++ src) e
  compress : ∀ ⦃p s s' s'' x e src dstCapacity bytes⦄, R s x e →
    c.buildSeqStore p s src = .ok (s', true) →
    c.entropyCompressSeqStore p s' dstCapacity src = .ok (s'', bytes) →
      R (c.endBlock s'' false) (x ++ src) e ∧ bytes.length ≠ 1 ∧
      (1 < bytes.length → bytes.length ≤ src.length ∧ ∃ e', R (c.endBlock s'' true) (x ++ src) e' ∧
        ∀ ⦃history blockSizeMax dstCapacity⦄, x.rtake w <:+ history → src.length ≤ blockSizeMax →
          src.length ≤ dstCapacity →
            d.decode e history blockSizeMax dstCapacity bytes = .ok (e', src))
  inParts : ∀ ⦃p s s' x e isFirstBlock dstCapacity src lastBlock bytes⦄, R s x e → src ≠ [] →
    c.compressBlockInParts p s isFirstBlock dstCapacity src lastBlock = .ok (s', bytes) →
      bytes ≠ [] ∧ ∃ e', R s' (x ++ src) e' ∧
        d.AreBlocks w src.length x e bytes src e' lastBlock

variable {c : BlockCompressor S} {d : BlockDecoder E} {w : Nat}
  {R : S → List UInt8 → E → Prop} {k : Nat} {x y bytes bytes' : List UInt8} {e e' e'' : E}
  {last : Bool}

/-! ### Blocks -/

/-- One block with its header. -/
lemma areBlocks_block {blockType : BlockType} {size : Nat} {body : List UInt8}
    (htype : blockType ≠ .reserved) (hsize : size < 2 ^ 21)
    (hbody : body.length = if blockType = .rle then 1 else size) (hle : body.length ≤ k)
    (hy : y.length ≤ k)
    (h : ∀ ⦃history blockSizeMax dstCapacity⦄, x.rtake w <:+ history → k ≤ blockSizeMax →
      y.length ≤ dstCapacity →
        d.decodeBlock e history blockSizeMax dstCapacity
          { blockType := blockType, lastBlock := last, origSize := size } body = .ok (e', y)) :
    d.AreBlocks w k x e (writeBlockHeader last blockType size ++ body) y e' last := by
  have hheader := getcBlockSize_writeBlockHeader htype hsize last []
  rw [List.append_nil, ← hbody] at hheader
  have hblock : d.IsBlockFor w k x e (writeBlockHeader last blockType size) body y e'
      { blockType := blockType, lastBlock := last, origSize := size } :=
    ⟨length_writeBlockHeader _ _ _, hheader, hle, hy, h⟩
  exact .block hblock

lemma areBlocks_raw (hsize : y.length < 2 ^ 21) (hy : y.length ≤ k) (last : Bool) :
    d.AreBlocks w k x e (writeBlockHeader last .raw y.length ++ y) y e last := by
  refine areBlocks_block (by decide) hsize rfl hy hy
    fun history blockSizeMax dstCapacity _ _ hcap => ?_
  rw [BlockDecoder.decodeBlock, copyRawBlock, if_neg (Nat.not_lt.mpr hcap)]
  rfl

lemma areBlocks_rle {b : UInt8} (heq : y = List.replicate y.length b) (hsize : y.length < 2 ^ 21)
    (hne : y ≠ []) (hy : y.length ≤ k) (last : Bool) :
    d.AreBlocks w k x e (writeBlockHeader last .rle y.length ++ [b]) y e last := by
  have hpos := List.length_pos_iff.mpr hne
  refine areBlocks_block (by decide) hsize rfl (Nat.le_trans hpos hy) hy
    fun history blockSizeMax dstCapacity _ _ hcap => ?_
  rw [BlockDecoder.decodeBlock, setRleBlock, if_neg (Nat.not_lt.mpr hcap)]
  show Except.ok (e, List.replicate y.length b) = Except.ok (e, y)
  rw [← heq]

lemma eq_replicate_of_isRLE (h : isRLE y = true) : y = List.replicate y.length (y.headD 0) := by
  rw [List.eq_replicate_iff]
  refine ⟨rfl, fun b hb => ?_⟩
  have hall := List.all_eq_true.mp h b hb
  exact eq_of_beq hall

/-- What `ZSTD_compressBlock_internal` gives for a block: nothing, the byte that it repeats, or
a block that decodes to it. -/
lemma BlockCompressor.DecodedBy.compressBlockInternal (hc : c.DecodedBy d w R)
    {p : AppliedParams} {s s' : S} {isFirstBlock : Bool} {dstCapacity : Nat} {src : List UInt8}
    (hR : R s x e)
    (h : c.compressBlockInternal p s isFirstBlock dstCapacity src = .ok (s', bytes)) :
    (bytes = [] ∧ R s' (x ++ src) e) ∨
      (∃ b, bytes = [b] ∧ src = List.replicate src.length b ∧ R s' (x ++ src) e) ∨
      (1 < bytes.length ∧ bytes.length ≤ src.length ∧ ∃ e', R s' (x ++ src) e' ∧
        ∀ ⦃history blockSizeMax dstCapacity⦄, x.rtake w <:+ history → src.length ≤ blockSizeMax →
          src.length ≤ dstCapacity →
            d.decode e history blockSizeMax dstCapacity bytes = .ok (e', src)) := by
  rw [BlockCompressor.compressBlockInternal] at h
  split at h
  next => cases h
  next s₁ hbuild =>
    obtain ⟨rfl, rfl⟩ := Prod.mk.inj (Except.ok.inj h)
    exact .inl ⟨rfl, hc.noCompress hR hbuild⟩
  next s₁ hbuild =>
    split at h
    next => cases h
    next s₂ bytes' hentropy =>
      obtain ⟨hR', hne, hlong⟩ := hc.compress hR hbuild hentropy
      dsimp only at h
      by_cases hrle : (!isFirstBlock && decide (bytes'.length < 25) && isRLE src) = true
      · rw [if_pos hrle] at h
        obtain ⟨rfl, rfl⟩ := Prod.mk.inj (Except.ok.inj h)
        have hisRLE := (Bool.and_eq_true_iff.mp hrle).2
        exact .inr (.inl ⟨_, rfl, eq_replicate_of_isRLE hisRLE, hR'⟩)
      · rw [if_neg hrle] at h
        obtain ⟨rfl, rfl⟩ := Prod.mk.inj (Except.ok.inj h)
        by_cases hlt : 1 < bytes'.length
        · rw [decide_eq_true hlt]
          exact .inr (.inr ⟨hlt, hlong hlt⟩)
        · have hnil : bytes' = [] := List.eq_nil_of_length_eq_zero (by omega)
          rw [decide_eq_false hlt]
          exact .inl ⟨hnil, hR'⟩

/-- What is written for a block stands for it. -/
lemma BlockCompressor.DecodedBy.compressBlock (hc : c.DecodedBy d w R) {p : AppliedParams}
    {s s' : S} {isFirstBlock : Bool} {dstCapacity : Nat} {src : List UInt8} (hR : R s x e)
    (hne : src ≠ []) (hsize : src.length < 2 ^ 21)
    (h : c.compressBlock p s isFirstBlock dstCapacity src last = .ok (s', bytes)) :
    bytes ≠ [] ∧ ∃ e', R s' (x ++ src) e' ∧ d.AreBlocks w src.length x e bytes src e' last := by
  have hheader : ∀ (blockType : BlockType) (size : Nat) (body : List UInt8),
      writeBlockHeader last blockType size ++ body ≠ [] := fun blockType size body hnil => by
    have hlen := congrArg List.length hnil
    rw [List.length_append, length_writeBlockHeader] at hlen
    exact absurd hlen (by simp [blockHeaderLength])
  rw [BlockCompressor.compressBlock] at h
  split at h
  next => exact hc.inParts hR hne h
  next =>
    split at h
    next => cases h
    next s₁ hinternal =>
      obtain ⟨raw, hraw, heq⟩ := map_eq_ok.mp h
      obtain ⟨rfl, rfl⟩ := Prod.mk.inj heq
      rw [noCompressBlock] at hraw
      split at hraw
      next => cases hraw
      next =>
        obtain rfl := Except.ok.inj hraw
        rcases hc.compressBlockInternal hR hinternal with ⟨-, hR'⟩ | ⟨b, hb, -⟩ | ⟨hlt, -⟩
        · exact ⟨hheader _ _ _, e, hR', areBlocks_raw hsize (Nat.le_refl _) last⟩
        · cases hb
        · cases hlt
    next s₁ b hinternal =>
      obtain ⟨rfl, rfl⟩ := Prod.mk.inj (Except.ok.inj h)
      rcases hc.compressBlockInternal hR hinternal with ⟨hb, -⟩ | ⟨b', hb, hsrc, hR'⟩ | ⟨hlt, -⟩
      · cases hb
      · obtain ⟨rfl, -⟩ := List.cons.inj hb
        exact ⟨hheader _ _ _, e, hR', areBlocks_rle hsrc hsize hne (Nat.le_refl _) last⟩
      · exact absurd hlt (Nat.lt_irrefl 1)
    next s₁ bytes' hnil hone hinternal =>
      obtain ⟨rfl, rfl⟩ := Prod.mk.inj (Except.ok.inj h)
      rcases hc.compressBlockInternal hR hinternal with
        ⟨rfl, -⟩ | ⟨b, rfl, -⟩ | ⟨hlt, hle, e', hR', hdecode⟩
      · exact (hnil rfl).elim
      · exact (hone b rfl).elim
      · refine ⟨hheader _ _ _, e', hR', areBlocks_block (by decide) (by omega) rfl hle
          (Nat.le_refl _) ?_⟩
        intro history blockSizeMax dstCapacity hhistory hk hcap
        rw [BlockDecoder.decodeBlock, BlockDecoder.decompressBlockInternal, if_neg (by omega),
          if_neg (by rw [minCBlockSize]; omega)]
        exact hdecode hhistory hk hcap

/-! ### Chunks -/

/-- In the loop on the blocks of `src`, which comes behind `x`: what has been taken of it has been
written. -/
def BlockCompressor.DecodedBy.Chunk (_ : c.DecodedBy d w R) (k : Nat) (x : List UInt8) (e : E)
    (src : List UInt8) (lastFrameChunk : Bool) (s : ChunkState S) (rest : List UInt8) : Prop :=
  ∃ y e', src = y ++ rest ∧ R s.blockState (x ++ y) e' ∧
    d.AreBlocks w (min k src.length) x e s.out y e' (lastFrameChunk && rest.isEmpty) ∧
    (s.out = [] → y = [])

/-- One turn of the loop. -/
lemma BlockCompressor.DecodedBy.compressNextBlock (hc : c.DecodedBy d w R) {p : AppliedParams}
    {lastFrameChunk : Bool} {s s' : ChunkState S} {src rest rest' : List UInt8} (hpos : 0 < k)
    (hk : k ≤ 131072) (hs : hc.Chunk k x e src lastFrameChunk s rest) (hle : 1 ≤ rest.length)
    (h : c.compressNextBlock p k lastFrameChunk s rest = .ok (s', rest')) :
    hc.Chunk k x e src lastFrameChunk s' rest' := by
  obtain ⟨y, e', rfl, hR, hblocks, -⟩ := hs
  have hne : rest ≠ [] := List.length_pos_iff.mp hle
  have hflag : (lastFrameChunk && rest.isEmpty) = false := by simp [hne]
  have hlen := List.length_pos_iff.mpr hne
  obtain ⟨hsize, hsize'⟩ := c.optimalBlockSize_spec p k s.savings rest
  rw [BlockCompressor.compressNextBlock] at h
  generalize c.optimalBlockSize p k s.savings rest = blockSize at h hsize hsize'
  have htake : (rest.take blockSize).length = blockSize := by
    rw [List.length_take]
    omega
  have hempty : decide (blockSize = rest.length) = (rest.drop blockSize).isEmpty := by
    rw [Bool.eq_iff_iff, decide_eq_true_iff, List.isEmpty_iff, List.drop_eq_nil_iff]
    omega
  split at h
  next => cases h
  next =>
    split at h
    next => cases h
    next blockState bytes hblock =>
      obtain ⟨rfl, rfl⟩ := Prod.mk.inj (Except.ok.inj h)
      have hbody : rest.take blockSize ≠ [] := fun hnil => by
        rw [hnil, List.length_nil] at htake
        omega
      obtain ⟨hbytes, e'', hR', hblocks'⟩ := hc.compressBlock hR hbody (by omega) hblock
      rw [hflag] at hblocks
      rw [hempty] at hblocks'
      refine ⟨y ++ rest.take blockSize, e'', ?_, ?_, ?_, ?_⟩
      · rw [List.append_assoc, List.take_append_drop]
      · rw [← List.append_assoc]
        exact hR'
      · refine hblocks.append (hblocks'.mono ?_)
        rw [htake, List.length_append]
        omega
      · intro hnil
        exact absurd (List.append_eq_nil_iff.mp hnil).2 hbytes

/-- What `ZSTD_compress_frameChunk` writes stands for the chunk. -/
lemma BlockCompressor.DecodedBy.compressFrameChunk (hc : c.DecodedBy d w R) {cctx cctx' : CCtx S}
    {dstCapacity : Nat} {src : List UInt8} {lastFrameChunk : Bool} (hpos : 0 < cctx.blockSizeMax)
    (hk : cctx.blockSizeMax ≤ 131072) (hR : R cctx.blockState x e) (hne : src ≠ [])
    (h : c.compressFrameChunk cctx dstCapacity src lastFrameChunk = .ok (cctx', bytes)) :
    ∃ e' blockState isFirstBlock,
      R blockState (x ++ src) e' ∧
      d.AreBlocks w (min cctx.blockSizeMax src.length) x e bytes src e' lastFrameChunk ∧
      cctx' = { cctx with
        xxhState :=
          if cctx.appliedParams.checksumFlag then xxh64Update cctx.xxhState src
          else cctx.xxhState
        blockState := blockState
        isFirstBlock := isFirstBlock
        stage := if lastFrameChunk then .ending else cctx.stage } := by
  obtain ⟨s, rest, hloop, rfl, rfl⟩ := compressFrameChunk_eq_ok h
  have hstart : hc.Chunk cctx.blockSizeMax x e src lastFrameChunk
      { blockState := cctx.blockState
        isFirstBlock := cctx.isFirstBlock
        dstCapacity := dstCapacity
        savings := (cctx.consumedSrcSize.toNat : Int) - cctx.producedCSize.toNat
        out := [] } src := by
    have hflag : (lastFrameChunk && src.isEmpty) = false := by simp [hne]
    refine ⟨[], e, rfl, ?_, ?_, fun _ => rfl⟩
    · rw [List.append_nil]
      exact hR
    · rw [hflag]
      exact BlockDecoder.AreBlocks.nil x e
  obtain ⟨⟨y, e', hsrc, hR', hblocks, hout⟩, hlt⟩ := readAll_keeps
    (fun _ _ _ _ hs hle hstep => hc.compressNextBlock hpos hk hs hle hstep) hstart hloop
  obtain rfl : rest = [] := List.eq_nil_of_length_eq_zero (Nat.lt_one_iff.mp hlt)
  rw [List.append_nil] at hsrc
  subst hsrc
  have hbytes : s.out ≠ [] := fun hnil => hne (hout hnil)
  rw [List.isEmpty_nil, Bool.and_true] at hblocks
  refine ⟨e', s.blockState, s.isFirstBlock, hR', hblocks, ?_⟩
  simp [hne, hbytes]

/-! ### Runs -/

/-- The content `x` has been taken, and `bytes` have been written for it. -/
structure BlockCompressor.DecodedBy.Wrote (_ : c.DecodedBy d w R) (p : AppliedParams)
    (pledgedSrcSize : UInt64) (cctx : CCtx S) (x bytes : List UInt8) : Prop
    extends cctx.InFrame p pledgedSrcSize x where
  hashed : cctx.appliedParams.checksumFlag = true → cctx.xxhState.Hashed 0 x
  init : cctx.stage = .init → x = [] ∧ bytes = []
  blocks : ∃ blocks e, R cctx.blockState x e ∧
    d.AreBlocks w (min cctx.blockSizeMax x.length) [] d.decompressBegin blocks x e
      (decide (cctx.stage = .ending)) ∧
    bytes = (if cctx.stage = .init then [] else
      (p.applied pledgedSrcSize).header pledgedSrcSize 0) ++ blocks

variable {p : AppliedParams} {pledgedSrcSize : UInt64} {cctx cctx' : CCtx S} {dstCapacity : Nat}
  {src : List UInt8} {lastFrameChunk : Bool}

lemma BlockCompressor.DecodedBy.wrote_resetCCtx (hc : c.DecodedBy d w R) (p : AppliedParams)
    (pledgedSrcSize : UInt64) :
    hc.Wrote p pledgedSrcSize (c.resetCCtx p pledgedSrcSize) [] [] where
  toInFrame := inFrame_resetCCtx c p pledgedSrcSize
  hashed := fun _ => hashed_reset 0
  init := fun _ => ⟨rfl, rfl⟩
  blocks := ⟨[], d.decompressBegin, hc.begin _, .nil _ _, rfl⟩

/-- The header comes first. -/
lemma BlockCompressor.DecodedBy.Wrote.startFrame {hc : c.DecodedBy d w R} {header : List UInt8}
    (hw : hc.Wrote p pledgedSrcSize cctx x bytes)
    (h : cctx.startFrame dstCapacity = .ok (cctx', header)) :
    hc.Wrote p pledgedSrcSize cctx' x (bytes ++ header) := by
  obtain ⟨hf, hinit', -⟩ := hw.toInFrame.startFrame h
  have hstart := startFrame_eq_ok h
  split at hstart
  next hinit =>
    obtain ⟨rfl, rfl⟩ := hstart
    obtain ⟨rfl, rfl⟩ := hw.init hinit
    obtain ⟨blocks, e', hR, hblocks, hnil⟩ := hw.blocks
    rw [if_pos hinit, List.nil_append] at hnil
    subst hnil
    refine ⟨hf, hw.hashed, fun hcontra => absurd hcontra hinit', [], e', hR, ?_, ?_⟩
    · simpa [hinit] using hblocks
    · simp [hw.appliedParams, hw.pledged]
  next hinit =>
    obtain ⟨rfl, rfl⟩ := hstart
    rw [List.append_nil]
    exact hw

/-- One call of `ZSTD_compressContinue_internal`. -/
lemma BlockCompressor.DecodedBy.Wrote.compressContinueInternal {hc : c.DecodedBy d w R}
    (hw : hc.Wrote p pledgedSrcSize cctx x bytes) (hstage : cctx.stage ≠ .ending)
    (h : c.compressContinueInternal cctx dstCapacity src lastFrameChunk = .ok (cctx', bytes')) :
    hc.Wrote p pledgedSrcSize cctx' (x ++ src) (bytes ++ bytes') := by
  obtain ⟨hf, hinit', -⟩ := hw.toInFrame.compressContinueInternal hstage h
  obtain ⟨cctx₁, header, hstart, hsrc⟩ := compressContinueInternal_eq_ok hw.stage h
  have hw₁ := hw.startFrame hstart
  obtain ⟨-, hinit, hending⟩ := hw.toInFrame.startFrame hstart
  specialize hending hstage
  rcases hsrc with ⟨rfl, rfl, rfl⟩ | ⟨hne, cctx₂, blocks, hchunk, rfl, rfl, -⟩
  · rw [List.append_nil]
    exact hw₁
  · obtain ⟨old, e', hR, hold, hbytes⟩ := hw₁.blocks
    have hk := hw₁.blockSizeMax_le.trans p.maxBlockSize_le
    obtain ⟨e'', blockState, isFirstBlock, hR', hblocks, rfl⟩ :=
      hc.compressFrameChunk hw₁.blockSizeMax_pos hk hR hne hchunk
    rw [decide_eq_false hending] at hold
    rw [if_neg hinit] at hbytes
    refine ⟨hf, ?_, fun hcontra => absurd hcontra hinit', old ++ blocks, e'', hR', ?_, ?_⟩
    · intro hflag
      show XXH64State.Hashed (if _ then _ else _) _ _
      rw [if_pos hflag]
      exact (hw₁.hashed hflag).update src
    · have hlast : decide ((if lastFrameChunk = true then .ending else cctx₁.stage) =
          CompressionStage.ending) = lastFrameChunk := by
        cases lastFrameChunk <;> simp [hending]
      show d.AreBlocks w (min cctx₁.blockSizeMax _) _ _ _ _ _ _
      rw [hlast]
      refine (hold.mono ?_).append (hblocks.mono ?_)
      · rw [List.length_append]
        omega
      · rw [List.length_append]
        omega
    · rw [if_neg hinit', ← List.append_assoc, hbytes, List.append_assoc]

/-- The run lemma: any calls of `ZSTD_compressContinue_public`. -/
lemma BlockCompressor.DecodedBy.Wrote.compressChunks {hc : c.DecodedBy d w R}
    {chunks : List (Nat × List UInt8)} (hw : hc.Wrote p pledgedSrcSize cctx x bytes)
    (hstage : cctx.stage ≠ .ending) (h : c.compressChunks cctx chunks = .ok (cctx', bytes')) :
    hc.Wrote p pledgedSrcSize cctx' (x ++ (chunks.map Prod.snd).flatten) (bytes ++ bytes') ∧
      cctx'.stage ≠ .ending := by
  induction chunks generalizing cctx x bytes bytes' with
  | nil =>
    obtain ⟨rfl, rfl⟩ := Prod.mk.inj (Except.ok.inj h)
    rw [List.map_nil, List.flatten_nil, List.append_nil, List.append_nil]
    exact ⟨hw, hstage⟩
  | cons chunk chunks ih =>
    rw [BlockCompressor.compressChunks] at h
    split at h
    next => cases h
    next cctx₁ written hcontinue =>
      obtain ⟨⟨cctx₂, later⟩, hlater, heq⟩ := map_eq_ok.mp h
      obtain ⟨rfl, rfl⟩ := Prod.mk.inj heq
      obtain ⟨-, -, hending⟩ := hw.toInFrame.compressContinueInternal hstage hcontinue
      obtain ⟨hw₂, hending'⟩ :=
        ih (hw.compressContinueInternal hstage hcontinue) (hending rfl) hlater
      rw [List.map_cons, List.flatten_cons, ← List.append_assoc, ← List.append_assoc]
      exact ⟨hw₂, hending'⟩

/-- `bytes` are a frame with the content `x`: its header, blocks up to the last one, and the
checksum. -/
structure BlockDecoder.IsFrame (d : BlockDecoder E) (w : Nat) (p : AppliedParams)
    (pledgedSrcSize : UInt64) (x bytes : List UInt8) : Prop where
  /-- The content has the size that has been pledged. -/
  pledged : pledgedSrcSize ≠ contentSizeUnknown → pledgedSrcSize = .ofNat x.length
  parts : ∃ k blocks e digest, k ≤ p.maxBlockSize ∧ k ≤ 2 ^ p.windowLog ∧ k ≤ x.length ∧
    d.AreBlocks w k [] d.decompressBegin blocks x e true ∧
    (p.checksumFlag = true → ∃ state : XXH64State, state.Hashed 0 x ∧ xxh64Digest state = digest) ∧
    bytes = (p.applied pledgedSrcSize).header pledgedSrcSize 0 ++ (blocks ++
      if p.checksumFlag then encode 4 digest.toNat else [])

lemma checksumFlag_applied (p : AppliedParams) (pledgedSrcSize : UInt64) :
    (p.applied pledgedSrcSize).checksumFlag = p.checksumFlag := by
  rw [AppliedParams.applied]
  split <;> rfl

/-- The last call completes the frame. -/
lemma BlockCompressor.DecodedBy.Wrote.compressEnd {hc : c.DecodedBy d w R}
    (hw : hc.Wrote p pledgedSrcSize cctx x bytes) (hstage : cctx.stage ≠ .ending)
    (h : c.compressEnd cctx dstCapacity src = .ok (cctx', bytes')) :
    d.IsFrame w p pledgedSrcSize (x ++ src) (bytes ++ bytes') := by
  obtain ⟨cctx₁, written, ending, hcontinue, hepilogue, rfl, hpledged⟩ := compressEnd_eq_ok h
  have hw₁ := hw.compressContinueInternal hstage hcontinue
  obtain ⟨-, hinit, -⟩ := hw.toInFrame.compressContinueInternal hstage hcontinue
  obtain ⟨rfl, rfl⟩ := writeEpilogue_eq_ok hw₁.stage hinit hepilogue
  obtain ⟨blocks, e', hR, hblocks, hbytes⟩ := hw₁.blocks
  rw [if_neg hinit] at hbytes
  have hall := hw₁.blockSizeMax_le
  have hwindow := hw₁.blockSizeMax_le_window
  have hflag : cctx₁.appliedParams.checksumFlag = p.checksumFlag := by
    rw [hw₁.appliedParams, checksumFlag_applied]
  refine ⟨?_, min cctx₁.blockSizeMax (x ++ src).length,
    blocks ++ (if cctx₁.stage = .ending then [] else writeBlockHeader true .raw 0), e',
    xxh64Digest cctx₁.xxhState, by omega, by omega, by omega, ?_, ?_, ?_⟩
  · intro hknown
    have hne : cctx₁.pledgedSrcSizePlusOne ≠ 0 := fun hzero => hknown
      ((UInt64.add_left_inj (a := pledgedSrcSize) (b := contentSizeUnknown) 1).mp
        (hw₁.pledged ▸ hzero))
    have heq : cctx₁.pledgedSrcSizePlusOne = cctx₁.consumedSrcSize + 1 := hpledged hne
    rw [hw₁.consumed, hw₁.pledged] at heq
    exact (UInt64.add_left_inj 1).mp heq
  · by_cases hlast : cctx₁.stage = .ending
    · rw [decide_eq_true hlast] at hblocks
      rw [if_pos hlast, List.append_nil]
      exact hblocks
    · have hempty : d.AreBlocks w (min cctx₁.blockSizeMax (x ++ src).length) (x ++ src) e'
          (writeBlockHeader true .raw ([] : List UInt8).length ++ []) [] e' true :=
        areBlocks_raw (by decide) (Nat.zero_le _) true
      rw [decide_eq_false hlast] at hblocks
      rw [if_neg hlast]
      have hboth := hblocks.append hempty
      rw [List.append_nil, List.append_nil] at hboth
      exact hboth
  · intro hchecksum
    exact ⟨cctx₁.xxhState, hw₁.hashed (hflag.trans hchecksum), rfl⟩
  · rw [hflag, ← List.append_assoc, hbytes]
    simp only [List.append_assoc]

/-- The decoder hashes what it writes. -/
lemma hashed_of_passes {validate : Bool} {blockSizeMax : Nat} {t : DecodeState E}
    (h : Passes (d.readBlock validate blockSizeMax dstCapacity) d.start bytes t last)
    (hvalidate : validate = true) : t.xxhState.Hashed 0 t.out := by
  refine h.keeps (P := fun s : DecodeState E => s.xxhState.Hashed 0 s.out) ?_ (hashed_reset 0)
  intro s src t last rest hs hread
  obtain ⟨_, _, y, _, -, -, rfl, -⟩ := readBlock_eq_ok.mp hread
  rw [DecodeState.next, updateIf, if_pos hvalidate]
  exact hs.update y

/-! ### Frames -/

lemma format_applied (p : AppliedParams) (pledgedSrcSize : UInt64) :
    (p.applied pledgedSrcSize).format = p.format := by
  rw [AppliedParams.applied]
  split <;> rfl

lemma windowLog_applied (p : AppliedParams) (pledgedSrcSize : UInt64) :
    (p.applied pledgedSrcSize).windowLog = p.windowLog := by
  rw [AppliedParams.applied]
  split <;> rfl

/-- An unknown size is not written. -/
lemma contentSizeFlag_applied (h : (p.applied pledgedSrcSize).contentSizeFlag = true) :
    pledgedSrcSize ≠ contentSizeUnknown := by
  rintro rfl
  rw [AppliedParams.applied, if_pos rfl] at h
  exact Bool.false_ne_true h

lemma toNat_min (a b : UInt64) : (min a b).toNat = min a.toNat b.toNat := by
  show (if a ≤ b then a else b).toNat = _
  split
  next hle => exact (Nat.min_eq_left (UInt64.le_iff_toNat_le.mp hle)).symm
  next hle =>
    rw [UInt64.le_iff_toNat_le] at hle
    exact (Nat.min_eq_right (Nat.le_of_not_le hle)).symm

/-- The header that has been written is the one that is decoded. -/
lemma isHeader_header {dctx : DCtx} (hformat : dctx.format = p.format) :
    dctx.IsHeader ((p.applied pledgedSrcSize).header pledgedSrcSize 0)
      ((p.applied pledgedSrcSize).frameHeader pledgedSrcSize 0
        ((p.applied pledgedSrcSize).header pledgedSrcSize 0).length) := by
  have hle := @CCtxParams.length_header_le (p.applied pledgedSrcSize).toCCtxParams pledgedSrcSize 0
  have hread := @CCtxParams.getFrameHeaderAdvanced_header (p.applied pledgedSrcSize).toCCtxParams
    pledgedSrcSize 0 []
  have hsize := @CCtxParams.frameHeaderSizeInternal_header (p.applied pledgedSrcSize).toCCtxParams
    pledgedSrcSize 0 []
  rw [List.append_nil, format_applied, ← hformat] at hread hsize
  refine ⟨?_, ?_, decodeFrameHeader_eq_ok.mpr ⟨hread, ?_⟩⟩
  · rw [CCtxParams.length_header, format_applied, hformat]
    omega
  · rw [hsize]
    exact UInt64.toNat_ofNat_of_lt' (Nat.lt_of_le_of_lt hle (by decide))
  · show (if (p.applied pledgedSrcSize).noDictIDFlag then 0 else UInt32.toNat 0) = 0
    split <;> rfl

/-- The decoder allows the blocks of the frame. -/
lemma BlockDecoder.IsFrame.le_blockSizeMax {dctx : DCtx} (h : d.IsFrame w p pledgedSrcSize x bytes)
    (hmax : dctx.maxBlockSizeParam = 0 ∨ p.maxBlockSize ≤ dctx.maxBlockSizeParam)
    (hlen : x.length < 2 ^ 64) (hk : k ≤ p.maxBlockSize) (hwindow : k ≤ 2 ^ p.windowLog)
    (hle : k ≤ x.length) {headerSize : Nat} :
    k ≤ dctx.blockSizeMax
      ((p.applied pledgedSrcSize).frameHeader pledgedSrcSize 0 headerSize) := by
  have hfield : k ≤ ((p.applied pledgedSrcSize).frameHeader pledgedSrcSize 0
      headerSize).blockSizeMax.toNat := by
    have hmax' := p.maxBlockSize_le
    have hconst : blockSizeMax.toNat = 131072 := rfl
    have hwindow' : k ≤ (if (p.applied pledgedSrcSize).singleSegment pledgedSrcSize
        then pledgedSrcSize else (p.applied pledgedSrcSize).windowSize).toNat := by
      split
      next hsingle =>
        have hflag := (Bool.and_eq_true_iff.mp hsingle).1
        rw [h.pledged (contentSizeFlag_applied hflag), UInt64.toNat_ofNat_of_lt' hlen]
        exact hle
      next =>
        rw [CCtxParams.toNat_windowSize, windowLog_applied]
        exact hwindow
    rw [CCtxParams.frameHeader, toNat_min, hconst]
    omega
  rw [DCtx.blockSizeMax]
  split
  next hset => omega
  next => exact hfield

lemma checksumFlag_frameHeader (p : AppliedParams) (pledgedSrcSize : UInt64) (headerSize : Nat) :
    ((p.applied pledgedSrcSize).frameHeader pledgedSrcSize 0 headerSize).checksumFlag =
      p.checksumFlag.toNat := by
  rw [CCtxParams.frameHeader, checksumFlag_applied]

/-- The size in the header is that of the content. -/
lemma BlockDecoder.IsFrame.content (h : d.IsFrame w p pledgedSrcSize x bytes)
    (hlen : x.length < 2 ^ 64) (headerSize : Nat) :
    ((p.applied pledgedSrcSize).frameHeader pledgedSrcSize 0 headerSize).frameContentSize ≠
        contentSizeUnknown →
      x.length = ((p.applied pledgedSrcSize).frameHeader pledgedSrcSize 0
        headerSize).frameContentSize.toNat := by
  rw [CCtxParams.frameHeader]
  dsimp only
  split
  next hknown =>
    intro _
    rw [h.pledged (contentSizeFlag_applied hknown), UInt64.toNat_ofNat_of_lt' hlen]
  next => exact fun hne => absurd rfl hne

/-- A frame is decoded to its content, whatever comes behind it. -/
lemma BlockDecoder.IsFrame.decompressFrame {dctx : DCtx} {capacity : Nat}
    (h : d.IsFrame w p pledgedSrcSize x bytes) (hformat : dctx.format = p.format)
    (hmax : dctx.maxBlockSizeParam = 0 ∨ p.maxBlockSize ≤ dctx.maxBlockSizeParam)
    (hlen : x.length < 2 ^ 64) (hcap : x.length ≤ capacity) (r : List UInt8) :
    d.decompressFrame dctx capacity (bytes ++ r) = .ok (x, r) := by
  obtain ⟨k, blocks, e, digest, hk, hwindow, hle, hblocks, hdigest, rfl⟩ := h.parts
  have hheader : dctx.IsHeader ((p.applied pledgedSrcSize).header pledgedSrcSize 0) _ :=
    isHeader_header hformat
  generalize hsize : ((p.applied pledgedSrcSize).header pledgedSrcSize 0).length = headerSize
    at hheader
  have hallowed : k ≤ dctx.blockSizeMax ((p.applied pledgedSrcSize).frameHeader pledgedSrcSize 0
    headerSize) := h.le_blockSizeMax hmax hlen hk hwindow hle
  have hflag : ((p.applied pledgedSrcSize).frameHeader pledgedSrcSize 0 headerSize).checksumFlag =
      p.checksumFlag.toNat := checksumFlag_frameHeader p pledgedSrcSize headerSize
  have hcontent : ((p.applied pledgedSrcSize).frameHeader pledgedSrcSize 0
      headerSize).frameContentSize ≠ contentSizeUnknown →
      x.length = ((p.applied pledgedSrcSize).frameHeader pledgedSrcSize 0
        headerSize).frameContentSize.toNat := h.content hlen headerSize
  generalize (p.applied pledgedSrcSize).frameHeader pledgedSrcSize 0 headerSize = fParams at *
  obtain ⟨t, hpasses, -, hout⟩ : ∃ t, Passes (d.readBlock (dctx.validateChecksum fParams)
      (dctx.blockSizeMax fParams) capacity) d.start blocks t true ∧ t.entropy = e ∧
      t.out = [] ++ x :=
    hblocks.passes hallowed rfl rfl (by simpa using hcap)
  rw [List.nil_append] at hout
  rw [List.append_assoc, List.append_assoc]
  refine decompressFrame_eq_ok.mpr ⟨_, _, fParams, t, _, rfl, hheader,
    hpasses.readLoop_eq_ok (fun s => shrinks_readBlock s) (Nat.lt_succ_self _),
    checkFrame_eq_ok.mpr ⟨hout.symm, hcontent, ?_⟩⟩
  rw [hflag]
  cases hchecksum : p.checksumFlag with
  | false => simp
  | true =>
    rw [if_pos (by simp), if_pos rfl]
    refine ⟨_, rfl, length_encode 4 _, fun hignore => ?_⟩
    have hvalidate : dctx.validateChecksum fParams = true := by
      rw [DCtx.validateChecksum, hflag, hchecksum, hignore]
      rfl
    obtain ⟨state, hstate, rfl⟩ := hdigest hchecksum
    have hdecoder := hashed_of_passes hpasses hvalidate
    rw [hout] at hdecoder
    rw [hstate.digest hlen, hdecoder.digest hlen, decode_encode_mod]
    rfl

/-- However the content is cut into calls, what they write is one frame, which decodes to the
content, in any room that holds it, and with anything behind it. -/
theorem decompressFrame_compressEnd (hc : c.DecodedBy d w R) {chunks : List (Nat × List UInt8)}
    (hchunks : c.compressChunks (c.resetCCtx p pledgedSrcSize) chunks = .ok (cctx, bytes))
    (hend : c.compressEnd cctx dstCapacity src = .ok (cctx', bytes')) {dctx : DCtx}
    (hformat : dctx.format = p.format)
    (hmax : dctx.maxBlockSizeParam = 0 ∨ p.maxBlockSize ≤ dctx.maxBlockSizeParam) {capacity : Nat}
    (hlen : ((chunks.map Prod.snd).flatten ++ src).length < 2 ^ 64)
    (hcap : ((chunks.map Prod.snd).flatten ++ src).length ≤ capacity) (r : List UInt8) :
    d.decompressFrame dctx capacity (bytes ++ bytes' ++ r) =
      .ok ((chunks.map Prod.snd).flatten ++ src, r) := by
  have hstart := hc.wrote_resetCCtx p pledgedSrcSize
  obtain ⟨hw, hstage⟩ := hstart.compressChunks (by simp [BlockCompressor.resetCCtx]) hchunks
  have hframe := hw.compressEnd hstage hend
  rw [List.nil_append, List.nil_append] at hframe
  exact hframe.decompressFrame hformat hmax hlen hcap r

lemma noCompress_decodedBy (w : Nat) : noCompress.DecodedBy noDecode w fun _ _ _ => True where
  begin := fun _ => trivial
  noCompress := fun _ _ _ _ _ _ _ _ => trivial
  compress := by
    rintro _ _ _ _ _ _ _ _ bytes - - hentropy
    obtain ⟨-, rfl⟩ := Prod.mk.inj (Except.ok.inj hentropy)
    exact ⟨trivial, by decide, fun hlt => (nomatch hlt)⟩
  inParts := by
    rintro _ _ _ _ _ _ _ _ _ _ - - h
    cases h

/-- Two calls, and one that ends the frame. -/
theorem decompressFrame_compressEnd_three : ∃ cctx bytes cctx' bytes',
    noCompress.compressChunks (noCompress.resetCCtx level3 contentSizeUnknown)
      [(100, [1, 2]), (100, [3])] = .ok (cctx, bytes) ∧
    noCompress.compressEnd cctx 100 [4, 5] = .ok (cctx', bytes') ∧
    noDecode.decompressFrame .default 5 (bytes ++ bytes' ++ [9]) = .ok ([1, 2, 3, 4, 5], [9]) := by
  have hcap : ((([(100, [1, 2]), (100, [3])] : List (Nat × List UInt8)).map Prod.snd).flatten ++
      [4, 5]).length ≤ 5 := by decide
  obtain ⟨cctx, bytes, cctx', bytes', hchunks, hend⟩ : ∃ cctx bytes cctx' bytes',
      noCompress.compressChunks (noCompress.resetCCtx level3 contentSizeUnknown)
        [(100, [1, 2]), (100, [3])] = .ok (cctx, bytes) ∧
      noCompress.compressEnd cctx 100 [4, 5] = .ok (cctx', bytes') := ⟨_, _, _, _, rfl, rfl⟩
  exact ⟨cctx, bytes, cctx', bytes', hchunks, hend, decompressFrame_compressEnd
    (noCompress_decodedBy 0) hchunks hend rfl (.inl rfl)
    (Nat.lt_of_le_of_lt hcap (by decide)) hcap [9]⟩

end VZstd
