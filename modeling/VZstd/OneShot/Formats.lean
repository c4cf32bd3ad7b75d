import VZstd.OneShot.RoundTrip

/-!
# Contexts with the same parameters

`DecompressContext.decompress` decodes a frame in the format that the context is set to, after it
has asked `ZSTD_getFrameContentSize`, which knows the standard format only, for the size.
-/

namespace VZstd

open Proc

variable {S P Op Op' C D K K' : Type}

/-! ### Histories of `set_param` -/

/-- Set parameters in order, until a call fails. -/
def setParams (setParam : P → Int → StreamM S Op K Unit) : List (P × Int) → StreamM S Op K Unit
  | [] => pure ()
  | (param, value) :: sets => do
    setParam param value
    setParams setParam sets

/-- The context `s` comes from `s₀` by calls of `set` that were accepted. -/
inductive Configured (set : S → P → Int → S × UInt64) (s₀ : S) : S → Prop where
  | new : Configured set s₀ s₀
  | set {s} (h : Configured set s₀ s) (param : P) (value : Int)
      (hok : isError (set s param value).2 = false) : Configured set s₀ (set s param value).1

def CompressApi.Configured (api : CompressApi C) : C → C → Prop :=
  VZstd.Configured fun c (param : CompressParam) value => api.setParameter c param.code value

def DecompressApi.Configured (api : DecompressApi D) : D → D → Prop :=
  VZstd.Configured fun d (param : DecompressParam) value => api.setParameter d param.code value

/-- What `ZSTD_CCtx_getParameter` writes. -/
def CompressApi.value (api : CompressApi C) (c : C) (param : CompressParam) : Int :=
  (api.getParameter c param.code).2

/-- What `ZSTD_DCtx_getParameter` writes. -/
def DecompressApi.value (api : DecompressApi D) (d : D) (param : DecompressParam) : Int :=
  (api.getParameter d param.code).2

/-- A call on the context that is accepted. -/
lemma onContext_checked_ok {f : S → S × UInt64} {w w' : World S Op K}
    (hr : (onContext f >>= fun res => checkError res : StreamM S Op K Unit) w = .ok () w') :
    isError (f w.codec).2 = false ∧ w'.codec = (f w.codec).1 := by
  have hcall : onContext f w = .ok (f w.codec).2
      ({ w with codec := (f w.codec).1 }.record (.returned (f w.codec).2)) := rfl
  rw [bind_ok hcall] at hr
  by_cases herr : isError (f w.codec).2 = true
  · rw [checkError_of_isError herr] at hr
    cases hr
  · have hok : isError (f w.codec).2 = false := by simpa using herr
    rw [checkError_of_not_isError hok] at hr
    obtain rfl := (EStateM.Result.ok.inj hr).2
    exact ⟨hok, rfl⟩

/-- The run lemma: a history that is accepted configures the context. -/
lemma Configured.of_setParams {set : S → P → Int → S × UInt64}
    {setParam : P → Int → StreamM S Op K Unit} {s₀ : S} {sets : List (P × Int)}
    {w w' : World S Op K}
    (hset : ∀ param value, setParam param value =
      onContext (fun s => set s param value) >>= fun res => checkError res)
    (h : Configured set s₀ w.codec) (hr : setParams setParam sets w = .ok () w') :
    Configured set s₀ w'.codec := by
  induction sets generalizing w with
  | nil =>
    obtain rfl : w = w' := by simpa [setParams] using hr
    exact h
  | cons s sets ih =>
    obtain ⟨param, value⟩ := s
    rw [setParams, bind_run] at hr
    cases hs : setParam param value w with
    | error e w₁ => simp [hs] at hr
    | ok u w₁ =>
      rw [hs] at hr
      rw [hset] at hs
      obtain ⟨hok, hcodec⟩ := onContext_checked_ok hs
      exact ih (hcodec ▸ h.set param value hok) hr

/-! ### The round trip -/

/-- With the bound at least, `ZSTD_compress2` writes `f` for `x`. -/
def CompressApi.Writes (api : CompressApi C) (c : C) (x f : List UInt8) : Prop :=
  ∃ dstCapacity, zstdCompressBound (usize x.length) ≤ dstCapacity ∧
    (api.compress2 c dstCapacity x (usize x.length)).2.bytes = f

/-- What is assumed of the contexts that come from `c₀` and `d₀`. -/
structure Inverts (api : SimpleApi) (capi : CompressApi C) (dapi : DecompressApi D) (c₀ : C)
    (d₀ : D) : Prop where
  /-- `ZSTD_format_e` has two values -/
  formats : ∀ c, capi.Configured c₀ c → capi.value c .format = 0 ∨ capi.value c .format = 1
  /-- the bound guarantees that `ZSTD_compress2` has enough space -/
  compresses : ∀ c x dstCapacity, capi.Configured c₀ c → x.length < 2 ^ 31 →
    zstdCompressBound (usize x.length) ≤ dstCapacity →
    let r := (capi.compress2 c dstCapacity x (usize x.length)).2
    isError r.ret = false ∧ r.Within dstCapacity.toNat
  /-- `ZSTD_decompressDCtx` inverts `ZSTD_compress2` in the same format -/
  inverts : ∀ c d x f dstCapacity, capi.Configured c₀ c → dapi.Configured d₀ d →
    capi.value c .format = dapi.value d .format → x.length < 2 ^ 31 → capi.Writes c x f →
    x.length ≤ dstCapacity.toNat → (dapi.decompressDCtx d dstCapacity f (usize f.length)).2 = .all x
  /-- a header in the standard format has the content size, if the flag is set -/
  standard : ∀ c x f, capi.Configured c₀ c → capi.value c .contentSizeFlag = 1 →
    capi.value c .format = 0 → x.length < 2 ^ 31 → capi.Writes c x f →
    api.getFrameContentSize f (usize f.length) = .ofNat x.length
  /-- `ZSTD_getFrameContentSize` parses no other format -/
  magicless : ∀ c x f, capi.Configured c₀ c → capi.value c .format = 1 → x.length < 2 ^ 31 →
    capi.Writes c x f → api.getFrameContentSize f (usize f.length) = contentSizeError

section Contract

variable {api : SimpleApi} {capi : CompressApi C} {dapi : DecompressApi D} {c₀ : C} {d₀ : D}
  {w : World C Op K} {v : World D Op' K'} {src f : ByteArr}

/-- With the bound in an `int`, compression succeeds. -/
lemma Inverts.exists_writes (h : Inverts api capi dapi c₀ d₀) (hc : capi.Configured c₀ w.codec)
    (hlen : src.1.length ≤ 2139127680) :
    ∃ f : ByteArr, outcome (contextCompress capi src w) = .ok f.1 ∧
      capi.Writes w.codec src.1 f.1 := by
  have hnonneg := ((allocatesBound_iff src).mpr hlen).1
  obtain ⟨hroom, hsize, hlt⟩ := usize_compressMaxLen hlen
  obtain ⟨hok, hwithin⟩ := h.compresses w.codec src.1 _ hc src.2 hroom
  rw [hsize] at hwithin
  generalize hr :
    (capi.compress2 w.codec (usize (compressMaxLen src)) src.1 (usize src.1.length)).2 = r
    at hok hwithin
  have hfits : r.bytes.length < 2 ^ 31 := (hwithin hok).2.trans_lt hlt
  refine ⟨⟨r.bytes, hfits⟩, ?_, _, hroom, congrArg Written.bytes hr⟩
  rw [outcome_contextCompress hnonneg (hr ▸ hwithin), hr, Written.result, hok]
  rfl

/-- In the standard format, the frame is decompressed. -/
lemma Inverts.restores (h : Inverts api capi dapi c₀ d₀) (hc : capi.Configured c₀ w.codec)
    (hd : dapi.Configured d₀ v.codec) (hflag : capi.value w.codec .contentSizeFlag = 1)
    (hformat : capi.value w.codec .format = dapi.value v.codec .format)
    (hstandard : capi.value w.codec .format = 0) (hwrites : capi.Writes w.codec src.1 f.1) :
    outcome (contextDecompress api dapi f v) = .ok src.1 := by
  have hx : src.1.length < 2 ^ 32 := src.2.trans (by decide)
  have hdeclared : (declaredSize api f).toNat = src.1.length := by
    rw [declaredSize, h.standard w.codec src.1 f.1 hc hflag hstandard src.2 hwrites,
      toNat_ofNat_length hx]
  have hrun : (dapi.decompressDCtx v.codec (usize src.1.length) f.1 (usize f.1.length)).2 =
      .all src.1 :=
    h.inverts _ _ _ _ _ hc hd hformat src.2 hwrites (usize_natCast_toNat src.2).ge
  rw [outcome_contextDecompress hdeclared src.2
    (by rw [hrun]; exact Written.within_all hx (Nat.le_refl _)), hrun, Written.result_all hx]

/-- In the magicless format, the size of the frame is an error. -/
lemma Inverts.raises (h : Inverts api capi dapi c₀ d₀) (hc : capi.Configured c₀ w.codec)
    (hmagicless : capi.value w.codec .format = 1) (hwrites : capi.Writes w.codec src.1 f.1) :
    ∃ e, outcome (contextDecompress api dapi f v) = .error (.raised e) :=
  contextDecompress_raises (.inr (h.magicless w.codec src.1 f.1 hc hmagicless src.2 hwrites)) dapi v

end Contract

/-- Contexts that accepted any parameters, but have the content size flag set and the same format,
restore every source whose bound is an `int` if and only if the format is the standard one. -/
theorem restores_iff_standard {api : SimpleApi} {capi : CompressApi C} {dapi : DecompressApi D}
    {c₀ : C} {d₀ : D} (hinverts : Inverts api capi dapi c₀ d₀)
    {csets : List (CompressParam × Int)} {dsets : List (DecompressParam × Int)}
    {w₀ w : World C Op K} {v₀ v : World D Op' K'} (hw₀ : w₀.codec = c₀) (hv₀ : v₀.codec = d₀)
    (hcsets : setParams (compressSetParam capi) csets w₀ = .ok () w)
    (hdsets : setParams (decompressSetParam dapi) dsets v₀ = .ok () v)
    (hflag : capi.value w.codec .contentSizeFlag = 1)
    (hformat : capi.value w.codec .format = dapi.value v.codec .format) (src : ByteArr)
    (hbound : (zstdCompressBound (usize src.1.length)).toNat < 2 ^ 31) :
    (∃ f : ByteArr, outcome (contextCompress capi src w) = .ok f.1 ∧
      outcome (contextDecompress api dapi f v) = .ok src.1) ↔ capi.value w.codec .format = 0 := by
  have hc : capi.Configured c₀ w.codec :=
    Configured.of_setParams (fun _ _ => rfl) (hw₀ ▸ .new) hcsets
  have hd : dapi.Configured d₀ v.codec :=
    Configured.of_setParams (fun _ _ => rfl) (hv₀ ▸ .new) hdsets
  have hlen : src.1.length ≤ 2139127680 := by
    have htoNat := toNat_bound src.2
    split at htoNat <;> omega
  obtain ⟨f, hcompress, hwrites⟩ := hinverts.exists_writes hc hlen
  constructor
  · rintro ⟨g, hg, hrestored⟩
    refine (hinverts.formats w.codec hc).resolve_right fun hmagicless => ?_
    obtain rfl : g = f := Subtype.ext (Except.ok.inj (hg.symm.trans hcompress))
    obtain ⟨e, he⟩ := hinverts.raises (v := v) hc hmagicless hwrites
    rw [hrestored] at he
    cases he
  · intro hstandard
    exact ⟨f, hcompress, hinverts.restores hc hd hflag hformat hstandard hwrites⟩

/-! ### The functions that store -/

lemma Format.code_injective : Function.Injective Format.code := by
  intro f g h
  cases f <;> cases g <;> first | rfl | cases h

lemma rawCompressApi_writes {c : FrameParams} {x f : List UInt8} (hx : x.length < 2 ^ 31)
    (h : rawCompressApi.Writes c x f) : f = rawFrame c x := by
  obtain ⟨dstCapacity, hcap, rfl⟩ := h
  exact congrArg Written.bytes (rawCompress_of_bound c hx hcap)

lemma rawCompressApi_flag (c : FrameParams) :
    rawCompressApi.value c .contentSizeFlag = if c.contentSizeFlag then 1 else 0 := rfl

/-- Contexts that store keep to the contract. -/
lemma raw_inverts : Inverts rawApi rawCompressApi rawDecompressApi .default .zstd1 where
  formats c _ := by
    have hvalue : rawCompressApi.value c .format = c.format.code := rfl
    rw [hvalue]
    cases c.format with
    | zstd1 => exact .inl rfl
    | magicless => exact .inr rfl
  compresses c x dstCapacity _ hx hcap := by
    have hrun : (rawCompressApi.compress2 c dstCapacity x (usize x.length)).2 =
        .all (rawFrame c x) := rawCompress_of_bound c hx hcap
    have hlen := length_rawFrame_lt c hx
    rw [hrun]
    refine ⟨Written.isError_all hlen, Written.within_all hlen ?_⟩
    exact (length_rawFrame_le_bound c hx).trans (UInt64.le_iff_toNat_le.mp hcap)
  inverts c d x f dstCapacity _ _ hformat hx hwrites hcap := by
    obtain rfl : c.format = d := Format.code_injective hformat
    rw [rawCompressApi_writes hx hwrites]
    exact rawDecompress_rawFrame c hx hcap
  standard c x f _ hflag hformat hx hwrites := by
    have hstandard : c.format = .zstd1 := Format.code_injective hformat
    have hset : c.contentSizeFlag = true := by
      by_contra hclear
      rw [rawCompressApi_flag, if_neg hclear] at hflag
      cases hflag
    have hdefault : c = .default := by rw [FrameParams.default, ← hstandard, ← hset]
    rw [rawCompressApi_writes hx hwrites, hdefault]
    exact (rawApi_reads hx).contentSize
  magicless c x f _ hformat hx hwrites := by
    have hmagicless : c.format = .magicless := Format.code_injective hformat
    have hsize := zstdGetFrameContentSize_magicless c.contentSizeFlag x
    rw [← hmagicless] at hsize
    rw [rawCompressApi_writes hx hwrites]
    exact (congrArg zstdGetFrameContentSize (take_usize (length_rawFrame_lt c hx))).trans hsize

/-- Three bytes, with a level and a checksum. -/
theorem restores_three_bytes :
    let w₀ : World FrameParams EndDirective Unit :=
      World.start (compression rawCompressApi) .default () fun _ _ => 0
    let v₀ : World Format Unit Unit :=
      World.start (decompression rawDecompressApi) .zstd1 () fun _ _ => 0
    let r := setParams (compressSetParam rawCompressApi)
      [(.compressionLevel, 5), (.checksumFlag, 1)] w₀
    let s := setParams (decompressSetParam rawDecompressApi) [(.windowLogMax, 27)] v₀
    let src : ByteArr := ⟨[97, 98, 99], by decide⟩
    outcome r = .ok () ∧ outcome s = .ok () ∧
      ∃ f : ByteArr, outcome (contextCompress rawCompressApi src (final r)) = .ok f.1 ∧
        outcome (contextDecompress rawApi rawDecompressApi f (final s)) = .ok src.1 := by
  intro w₀ v₀ r s src
  have hr : outcome r = .ok () := by decide +kernel
  have hs : outcome s = .ok () := by decide +kernel
  have hflag : rawCompressApi.value (final r).codec .contentSizeFlag = 1 := by decide +kernel
  have hformat : rawCompressApi.value (final r).codec .format =
      rawDecompressApi.value (final s).codec .format := by
    decide +kernel
  have hbound : (zstdCompressBound (usize src.1.length)).toNat < 2 ^ 31 := by decide +kernel
  have hstandard : rawCompressApi.value (final r).codec .format = 0 := by decide +kernel
  exact ⟨hr, hs, (restores_iff_standard raw_inverts rfl rfl (eq_ok_of_outcome hr)
    (eq_ok_of_outcome hs) hflag hformat src hbound).mpr hstandard⟩

/-- Both contexts are set to the magicless format: what the one compresses, the other does not
decompress. -/
theorem magicless_is_not_restored :
    let w₀ : World FrameParams EndDirective Unit :=
      World.start (compression rawCompressApi) .default () fun _ _ => 0
    let v₀ : World Format Unit Unit :=
      World.start (decompression rawDecompressApi) .zstd1 () fun _ _ => 0
    let r := setParams (compressSetParam rawCompressApi) [(.format, 1)] w₀
    let s := setParams (decompressSetParam rawDecompressApi) [(.format, 1)] v₀
    let src : ByteArr := ⟨[97, 98, 99], by decide⟩
    let f : ByteArr := ⟨rawFrame { format := .magicless, contentSizeFlag := true } src.1, by decide⟩
    Inverts rawApi rawCompressApi rawDecompressApi .default .zstd1 ∧
      outcome r = .ok () ∧ outcome s = .ok () ∧
      rawCompressApi.value (final r).codec .contentSizeFlag = 1 ∧
      rawCompressApi.value (final r).codec .format = 1 ∧
      rawDecompressApi.value (final s).codec .format = 1 ∧
      outcome (contextCompress rawCompressApi src (final r)) = .ok f.1 ∧
      outcome (contextDecompress rawApi rawDecompressApi f (final s)) =
        .error (.raised (.message "invalid content")) := by
  intro w₀ v₀ r s src f
  refine ⟨raw_inverts, ?_, ?_, ?_, ?_, ?_, ?_, ?_⟩ <;> decide +kernel

end VZstd
