import VZstd.Frame.DecompressSession
import VZstd.Frame.StreamFrames

/-!
# From stream to stream

What a compression stream writes, a decompression stream turns back into what was read, however
either of them is cut into calls.
-/

namespace VZstd

open History LittleEndian Proc

variable {S E : Type} {c : BlockCompressor S} {d : BlockDecoder E} {w : Nat}
  {R : S → List UInt8 → E → Prop} {params : UInt64 → AppliedParams} {p : AppliedParams}
  {pledgedSrcSize : UInt64} {dctx : DCtx} {maxWindowSize : Nat} {x y bytes : List UInt8}

/-- The frames that have been written are ones that a stream accepts. -/
lemma BlockDecoder.AreFrames.areStreamFrames (h : d.AreFrames w params x y)
    (haccepts : dctx.Accepts params) (hparam : dctx.maxBlockSizeParam < 2 ^ 64)
    (hw : ∀ pledgedSrcSize, w ≤ 2 ^ (params pledgedSrcSize).windowLog)
    (hwindow : ∀ pledgedSrcSize, 2 ^ (params pledgedSrcSize).windowLog ≤ maxWindowSize)
    (hlen : x.length < 2 ^ 64) : d.AreStreamFrames dctx maxWindowSize y x := by
  induction h with
  | nil => exact .nil
  | @append x y x' y' pledgedSrcSize _ h' ih =>
    rw [List.length_append] at hlen
    obtain ⟨header, fParams, body, rfl, hframe⟩ := h'.isStreamFrame (haccepts.format _) hparam
      (haccepts.maxBlockSize.imp id fun hmax => hmax pledgedSrcSize) (hw _) (hwindow _) (by omega)
    exact (ih (by omega)).append hframe.areStreamFrames

/-! ### Sessions -/

variable {zcs : CStream S} {zds : DStream E} {ws : List (Call (CStream S) EndDirective)}
  {last : Call (CStream S) EndDirective} {rs : List (Call (DStream E) Unit)}

/-- A compression stream is ended, and a decompression stream is given what has been written: what
it puts is the start of what has been read, and all of that when it has come to the end. -/
theorem decompressStream_of_session (hc : c.DecodedBy d w R)
    (h : (c.streamCodec params).Session (c.createCStream params) (ws ++ [last]) zcs)
    (hok : NoErrors (ws ++ [last])) (hop : last.op = .eEnd) (hret : last.reply.ret = 0)
    (haccepts : dctx.Accepts params) (hparam : dctx.maxBlockSizeParam < 2 ^ 64)
    (hw : ∀ pledgedSrcSize, w ≤ 2 ^ (params pledgedSrcSize).windowLog)
    (hwindow : ∀ pledgedSrcSize, 2 ^ (params pledgedSrcSize).windowLog ≤ maxWindowSize)
    (hmax : maxWindowSize ≤ 2 ^ windowLogMax) (hlen : (bytesRead (ws ++ [last])).length < 2 ^ 64)
    (h' : d.streamCodec.Session (d.createDStream dctx maxWindowSize) rs zds) (hok' : NoErrors rs)
    (hstreams : Streams (bytesPut (ws ++ [last])) rs) :
    bytesPut rs <+: bytesRead (ws ++ [last]) ∧
      (bytesRead rs = bytesPut (ws ++ [last]) → bytesPut rs = bytesRead (ws ++ [last])) := by
  have hframes := (hc.areFrames_of_session h hok hop hret).1.areStreamFrames haccepts hparam hw
    hwindow hlen
  obtain ⟨done, out, bytes, y, hat⟩ := hframes.isAt hmax h' hok' hstreams
  exact ⟨hat.content_eq ▸ List.prefix_append _ _, hframes.put_eq hmax h' hok' hstreams⟩

/-- Two calls of each stream. -/
theorem decompressStream_of_session_three :
    let context := newStreamContext 20 16
    let codec := noCompress.streamCodec fun _ => level3
    let zcs := noCompress.createCStream fun _ => level3
    let first := codec.ask zcs .eContinue context.output (context.input.stage [1, 2])
    let second := codec.ask first.reply.state .eEnd context.output (context.input.stage [3])
    let stream := bytesPut ([first] ++ [second])
    let zds := noDecode.createDStream .default 2097152
    let third := noDecode.streamCodec.ask zds () context.output
      (context.input.stage (stream.take 10))
    let fourth := noDecode.streamCodec.ask third.reply.state () context.output
      (context.input.stage (stream.drop 10))
    bytesPut ([third] ++ [fourth]) = [1, 2, 3] := by
  intro context codec zcs first second stream zds third fourth
  have hout : context.output.pos ≤ context.output.size := by decide
  have hone : (context.input.stage [1, 2]).pos ≤ (context.input.stage [1, 2]).size := by decide
  have htwo : (context.input.stage [3]).pos ≤ (context.input.stage [3]).size := by decide
  have hsession : codec.Session zcs ([first] ++ [second]) second.reply.state :=
    (Codec.Session.start.call EndDirective.eContinue hout hone).call EndDirective.eEnd hout htwo
  have hok : NoErrors ([first] ++ [second]) := by
    have hfirst : isError first.reply.ret = false := by decide +kernel
    have hsecond : isError second.reply.ret = false := by decide +kernel
    simp [NoErrors, hfirst, hsecond]
  have hread : bytesRead ([first] ++ [second]) = [1, 2, 3] := by decide +kernel
  have hret : second.reply.ret = 0 := by decide +kernel
  have hsession' : noDecode.streamCodec.Session zds ([third] ++ [fourth]) fourth.reply.state :=
    (Codec.Session.start.call () hout (by decide +kernel)).call () hout (by decide +kernel)
  have hok' : NoErrors ([third] ++ [fourth]) := by
    have hthird : isError third.reply.ret = false := by decide +kernel
    have hfourth : isError fourth.reply.ret = false := by decide +kernel
    simp [NoErrors, hthird, hfourth]
  have hstreams : Streams stream ([third] ++ [fourth]) := by
    have hpast : bytesRead [third] = third.input.window := by decide +kernel
    have hwindows : third.input.window ++ fourth.input.window = stream := by decide +kernel
    have hthird : third.state.streamStage ≠ .loadHeader := by decide
    have hfourth : fourth.state.streamStage ≠ .loadHeader := by decide +kernel
    exact streams_pair hpast hwindows hthird hfourth
  have hall : bytesRead ([third] ++ [fourth]) = stream := by decide +kernel
  have haccepts : DCtx.default.Accepts fun _ => level3 := ⟨fun _ => rfl, .inl rfl⟩
  rw [← hread]
  exact (decompressStream_of_session (noCompress_decodedBy 0) hsession hok rfl hret haccepts
    (by decide) (fun _ => Nat.zero_le _) (fun _ => by decide) (by decide) (by rw [hread]; decide)
    hsession' hok' hstreams).2 hall

/-- Chunks are fed to a compression stream, the last of which is not empty, and what is drained is
fed to a decompression stream in other chunks: then the first chunks are drained. -/
theorem decompress_feed_of_feed (hc : c.DecodedBy d w R) {K K' : Type} {fuel fuel' : Nat}
    {drain : Drain K} {drain' : Drain K'} {chunks chunks' : List Chunk} {last : Chunk} {sink : K}
    {sink' : K'} {beyond beyond' : Nat → Nat → UInt8}
    {t : World (CStream S) EndDirective K} {api : CompressApi (CStream S)}
    {t' : World (DStream E) Unit K'} {api' : DecompressApi (DStream E)}
    (hapi : api.compressStream2 = c.streamCodec params)
    (hr : feed (compression api) fuel drain chunks
      (World.start (compression api) (c.createCStream params) sink beyond) = .ok () t)
    (hharmless : t.log.Harmless) (hlast : chunks.getLast? = some last) (hne : 0 < last.len)
    (haccepts : dctx.Accepts params) (hparam : dctx.maxBlockSizeParam < 2 ^ 64)
    (hw : ∀ pledgedSrcSize, w ≤ 2 ^ (params pledgedSrcSize).windowLog)
    (hwindow : ∀ pledgedSrcSize, 2 ^ (params pledgedSrcSize).windowLog ≤ maxWindowSize)
    (hmax : maxWindowSize ≤ 2 ^ windowLogMax) (hlen : (contents chunks).length < 2 ^ 64)
    (hapi' : api'.decompressStream = d.streamCodec)
    (hr' : feed (decompression api') fuel' drain' chunks'
      (World.start (decompression api') (d.createDStream dctx maxWindowSize) sink' beyond') =
        .ok () t')
    (hharmless' : t'.log.Harmless) (hchunks : contents chunks' = t.log.delivered)
    (hunmistaken : ∀ c ∈ t'.log.calls, c.state.Unmistaken c.input.window) :
    t'.log.delivered = contents chunks := by
  have hsession := ((World.inSessionInvariant (compression api) _).feed_ok
    (World.inSession_start sink beyond) hr).session
  have hpresented := ((World.presentedInvariant (decompression api')).feed_ok
    (World.presented_start sink' beyond') hr').presented hharmless'
  have hsession' := ((World.inSessionInvariant (decompression api') _).feed_ok
    (World.inSession_start sink' beyond') hr').session
  have hcodec : (compression api).codec = c.streamCodec params := hapi
  have hcodec' : (decompression api').codec = d.streamCodec := hapi'
  rw [hcodec] at hsession
  rw [hcodec'] at hsession'
  rw [staged_of_feed hr', hchunks, delivered_of_feed hr] at hpresented
  have hread : bytesRead t'.log.calls = t.log.produced :=
    (consumed_of_feed hr' hharmless').trans (hchunks.trans (delivered_of_feed hr))
  rw [delivered_of_feed hr', Log.produced]
  rw [← consumed_of_feed hr hharmless] at hlen ⊢
  rw [Log.consumed] at hlen ⊢
  rw [Log.produced] at hpresented hread
  obtain ⟨hok, ⟨hempty, -⟩ | ⟨-, cs, call, hcalls, -, hop, hret⟩⟩ := calls_of_feed hr
  · exact absurd ⟨last, hlast, hne⟩ hempty
  · rw [hcalls] at hsession hok hlen hpresented hread ⊢
    have hframes := (hc.areFrames_of_session hsession hok hop hret).1.areStreamFrames haccepts
      hparam hw hwindow hlen
    exact hframes.put_eq hmax hsession' (calls_of_feed hr').1 ⟨hpresented, hunmistaken⟩ hread

/-- Two chunks, and their frame cut in the first block. -/
theorem decompress_feed_of_feed_three :
    let api := CompressApi.ofCodec (noCompress.streamCodec fun _ => level3)
    let chunks : List Chunk := [.ofArr ⟨[97, 98], by decide⟩, .ofArr ⟨[99], by decide⟩]
    let r := feed (compression api) 2 (fun _ _ => ((), none)) chunks
      (World.start (compression api) (noCompress.createCStream fun _ => level3) () fun _ _ => 0)
    let api' := DecompressApi.ofCodec noDecode.streamCodec
    let chunks' : List Chunk :=
      [.ofArr ⟨[40, 181, 47, 253, 4, 88, 25, 0, 0, 97], by decide⟩,
        .ofArr ⟨[98, 99, 153, 9, 119, 173], by decide⟩]
    let r' := feed (decompression api') 2 (fun _ _ => ((), none)) chunks'
      (World.start (decompression api') (noDecode.createDStream .default 2097152) () fun _ _ => 0)
    outcome r = .ok () ∧ outcome r' = .ok () ∧ (final r').log.delivered = [97, 98, 99] := by
  intro api chunks r api' chunks' r'
  have hok : outcome r = .ok () := by decide +kernel
  have hharmless : (final r).log.Harmless := by decide +kernel
  have hok' : outcome r' = .ok () := by decide +kernel
  have hharmless' : (final r').log.Harmless := by decide +kernel
  have hchunks : contents chunks' = (final r).log.delivered := by decide +kernel
  have hstages : ∀ c ∈ (final r').log.calls, c.state.streamStage ≠ .loadHeader := by
    decide +kernel
  refine ⟨hok, hok', ?_⟩
  exact decompress_feed_of_feed (noCompress_decodedBy 0) rfl (eq_ok_of_outcome hok) hharmless rfl
    (by decide) ⟨fun _ => rfl, .inl rfl⟩ (by decide) (fun _ => Nat.zero_le _)
    (fun _ => by decide) (by decide) (by decide) rfl (eq_ok_of_outcome hok') hharmless' hchunks
    fun c hc hcontra => absurd hcontra (hstages c hc)

end VZstd
