import VgiImage.Scalar.RowWise

/-!
# Constant arguments at bind and at process

`thumbnail_fit` and `convert` validate their constants twice: `on_bind` checks
them, `process` reads them.  Both accept the same calls, reject the others with
the same error, and a dimension that was accepted is used unchanged.  A batch
can still fail on an accepted box: what an image is scaled to may be more than
the encoder of the format takes.
-/

namespace VgiImage.Imaging

open Outcome

/-! ## Formats and boxes -/

/-- The spellings `parse` accepts are those whose ASCII-lowercased form is
advertised. -/
theorem OutFormat.exists_parse_iff (s : String) :
    (∃ fmt, OutFormat.parse s = .ok fmt) ↔ s.toLower ∈ OutFormat.ACCEPTED := by
  unfold OutFormat.parse
  split <;> simp_all [OutFormat.ACCEPTED]

/-- The answer of `thumbnail` to an empty box. -/
def zeroDimension : ImgError := ⟨"thumbnail width and height must be positive"⟩

theorem ne_zeroDimension {e : ImgError} (h : e.message.toList.head? = some 'c') :
    e.message ≠ zeroDimension.message := by
  intro he
  rw [he] at h
  simp [zeroDimension] at h

section Crate

variable {crate : ImageCrate} {e : ImgError}

/-- An image that cannot be opened is not answered like an empty box. -/
theorem openImage_ne_zeroDimension {blob : Blob} (h : openImage crate blob = .error e) :
    e.message ≠ zeroDimension.message := by
  rcases bind_eq_error_iff.1 h with hguess | ⟨format, -, hrest⟩
  · obtain ⟨text, -, rfl⟩ := mapError_eq_error_iff.1 hguess
    exact ne_zeroDimension (by simp [toString])
  · rcases bind_eq_error_iff.1 hrest with hdecode | ⟨img, -, hpure⟩
    · obtain ⟨text, -, rfl⟩ := mapError_eq_error_iff.1 hdecode
      exact ne_zeroDimension (by simp [toString])
    · cases hpure

theorem encode_ne_zeroDimension {img : DynamicImage} {format : OutFormat}
    (h : encode crate img format = .error e) : e.message ≠ zeroDimension.message := by
  obtain ⟨text, -, rfl⟩ := mapError_eq_error_iff.1 h
  exact ne_zeroDimension (by simp [toString])

/-- A box that is not empty is not answered like an empty one. -/
theorem callThumbnail_ne_zeroDimension {blob : Blob} {maxW maxH : UInt32} {format : OutFormat}
    (hmaxW : maxW ≠ 0) (hmaxH : maxH ≠ 0) :
    callThumbnail crate blob maxW maxH format ≠
      .error (.error (.valueError zeroDimension.message)) := by
  intro h
  obtain ⟨-, e, hthumb, he⟩ := callThumbnail_eq_error_iff.1 h
  have hmessage : e.message = zeroDimension.message := (RpcError.valueError.inj he).symm
  rw [thumbnail, if_neg (not_or.2 ⟨hmaxW, hmaxH⟩)] at hthumb
  rcases bind_eq_error_iff.1 hthumb with hdecode | ⟨img, -, hencode⟩
  · rcases bind_eq_error_iff.1 hdecode with hopen | ⟨opened, -, hpure⟩
    · exact openImage_ne_zeroDimension hopen hmessage
    · cases hpure
  · exact encode_ne_zeroDimension hencode hmessage

end Crate

end VgiImage.Imaging

namespace VgiImage.Scalar

open Arrow Imaging Outcome RowLoop

/-! ## Accepted and used constants -/

/-- A given dimension lies in `1 .. 2^32 - 1`. -/
def AcceptsDim (args : Arguments) (pos : ℕ) : Prop :=
  ∀ n, args.constI64 pos = some n → 1 ≤ n.toInt ∧ n.toInt ≤ 2 ^ 32 - 1

/-- A format is given, and its ASCII-lowercased form is advertised. -/
def AcceptsFormat (args : Arguments) (pos : ℕ) : Prop :=
  ∃ s, args.constStr pos = some s ∧ s.toLower ∈ OutFormat.ACCEPTED

/-- The dimension of a call: the given one unchanged, or 128. -/
def UsesDim (args : Arguments) (pos : ℕ) (dim : UInt32) : Prop :=
  dim ≠ 0 ∧ (dim.toNat : ℤ) = ((args.constI64 pos).map Int64.toInt).getD 128

/-- The format of a call: the given one. -/
def UsesFormat (args : Arguments) (pos : ℕ) (fmt : OutFormat) : Prop :=
  ∃ s, args.constStr pos = some s ∧ OutFormat.parse s = .ok fmt

/-- The cast to `u32` keeps a number of its range. -/
theorem toNat_toUInt32 {n : Int64} (hpos : 1 ≤ n.toInt) (hle : n.toInt ≤ 2 ^ 32 - 1) :
    (n.toUInt64.toUInt32.toNat : ℤ) = n.toInt := by
  have hn : 0 ≤ n := Int64.le_iff_toInt_le.2 (by simpa using (by omega : 0 ≤ n.toInt))
  have hwide : (n.toUInt64.toNat : ℤ) = n.toInt := by
    rw [Int64.toNat_toUInt64_of_le hn, ← Int64.toNat_toInt]
    omega
  rw [UInt64.toNat_toUInt32]
  omega

theorem parseDim_eq_ok_iff {n : Int64} {name : String} {dim : UInt32} :
    parseDim n name = .ok dim ↔
      (1 ≤ n.toInt ∧ n.toInt ≤ 2 ^ 32 - 1) ∧ (dim.toNat : ℤ) = n.toInt := by
  have hrange : 0 < n ∧ n ≤ 4294967295 ↔ 1 ≤ n.toInt ∧ n.toInt ≤ 2 ^ 32 - 1 := by
    rw [Int64.lt_iff_toInt_lt, Int64.le_iff_toInt_le]
    exact Iff.rfl
  rw [parseDim]
  by_cases h : 0 < n ∧ n ≤ 4294967295
  · have hcast := toNat_toUInt32 (hrange.1 h).1 (hrange.1 h).2
    rw [if_pos h, Except.ok.injEq]
    constructor
    · rintro rfl
      exact ⟨hrange.1 h, hcast⟩
    · rintro ⟨-, hdim⟩
      apply UInt32.toNat_inj.1
      omega
  · rw [if_neg h]
    refine iff_of_false nofun fun hok => h (hrange.2 hok.1)

section Constants

variable {args : Arguments} {pos : ℕ}

theorem exists_dimAt_iff {name : String} :
    (∃ dim, dimAt args pos name = .ok dim) ↔ AcceptsDim args pos := by
  rw [dimAt, AcceptsDim]
  cases args.constI64 pos with
  | none => simp
  | some n =>
      simp only [parseDim_eq_ok_iff, Option.some.injEq, forall_eq']
      constructor
      · rintro ⟨dim, haccepts, -⟩
        exact haccepts
      · intro haccepts
        exact ⟨_, haccepts, toNat_toUInt32 haccepts.1 haccepts.2⟩

/-- The dimension that is read is the one the call uses. -/
theorem dimAt_eq_ok_iff {name : String} {dim : UInt32} :
    dimAt args pos name = .ok dim ↔ UsesDim args pos dim := by
  rw [dimAt, UsesDim]
  cases args.constI64 pos with
  | none =>
      simp only [Except.ok.injEq, Option.map_none, Option.getD_none]
      constructor
      · rintro rfl
        exact ⟨by decide, rfl⟩
      · rintro ⟨-, hdim⟩
        apply UInt32.toNat_inj.1
        change 128 = dim.toNat
        omega
  | some n =>
      simp only [parseDim_eq_ok_iff, Option.map_some, Option.getD_some]
      constructor
      · rintro ⟨⟨hpos, -⟩, hdim⟩
        refine ⟨?_, hdim⟩
        rintro rfl
        exact absurd hdim (by simpa using (by omega : (0 : ℤ) ≠ n.toInt))
      · rintro ⟨hne, hdim⟩
        have hpos : dim.toNat ≠ 0 := fun hzero => hne (UInt32.toNat_inj.1 hzero)
        have hlt := dim.toNat_lt
        refine ⟨⟨?_, ?_⟩, hdim⟩ <;> omega

theorem checkDim_agrees (name : String) :
    Agrees (fun _ => UsesDim args pos) (checkDim args pos name) (dimAt args pos name) := by
  cases hdim : dimAt args pos name with
  | ok dim =>
      rw [checkDim_eq_ok_iff.2 ⟨dim, hdim⟩]
      exact .ok (dimAt_eq_ok_iff.1 hdim)
  | error e =>
      have hcheck : checkDim args pos name = .error e := by
        rw [dimAt] at hdim
        rw [checkDim]
        cases hn : args.constI64 pos with
        | none =>
            rw [hn] at hdim
            cases hdim
        | some n =>
            rw [hn] at hdim
            exact map_eq_error_iff.2 hdim
      rw [hcheck]
      exact .error e

theorem formatAt_eq_ok_iff {missing : String} {fmt : OutFormat} :
    formatAt args pos missing = .ok fmt ↔ UsesFormat args pos fmt := by
  rw [formatAt, UsesFormat]
  cases args.constStr pos with
  | none => simp
  | some s =>
      change liftImg (OutFormat.parse s) = .ok fmt ↔ _
      rw [liftImg_eq_ok_iff]
      simp

theorem exists_formatAt_iff {missing : String} :
    (∃ fmt, formatAt args pos missing = .ok fmt) ↔ AcceptsFormat args pos := by
  simp only [formatAt_eq_ok_iff, UsesFormat, AcceptsFormat, ← OutFormat.exists_parse_iff]
  constructor
  · rintro ⟨fmt, s, hs, hfmt⟩
    exact ⟨s, hs, fmt, hfmt⟩
  · rintro ⟨s, hs, fmt, hfmt⟩
    exact ⟨fmt, s, hs, hfmt⟩

theorem formatAt_agrees (missing : String) :
    Agrees (fun _ => UsesFormat args pos) (formatAt args pos missing)
      (formatAt args pos missing) := by
  cases hfmt : formatAt args pos missing with
  | ok fmt => exact .ok (formatAt_eq_ok_iff.1 hfmt)
  | error e => exact .error e

end Constants

/-! ## Two stages that agree -/

/-- `process` after its argument stage. -/
def ScalarFunction.processRows (f : ScalarFunction) (arrow : ArrowCrate)
    (evalRow : List (Option f.Cell) → Run (Option f.Row)) (outputSchema : Schema)
    (batch : RecordBatch) : Run RecordBatch := do
  let columns ← f.inputs.mapM batch.column
  let builders ← runRows (f.step evalRow columns) f.new batch.numRows
  let out ← f.finish builders
  arrow.lift (RecordBatch.tryNew outputSchema [out])

/-- Binding decides what processing makes of the constant arguments: they are
accepted by both or rejected by both, with one error for every batch, and after
a successful bind the argument stage of every batch goes through and uses the
arguments as `Uses` says. -/
structure BindDecides (f : BlobFunction) (arrow : ArrowCrate) (args : Arguments)
    (accepted : Prop) (Uses : (Blob → Run (Option f.Row)) → Prop) : Prop where
  bind_iff : (∃ bound, f.onBind ⟨args⟩ = .ok bound) ↔ accepted
  stage_iff :
    (∃ imaging, f.prepare args = .ok imaging) ↔ ∃ bound, f.onBind ⟨args⟩ = .ok bound
  rejected {e : Halt} (h : f.onBind ⟨args⟩ = .error e) (outputSchema : Schema)
    (batch : RecordBatch) :
    (f.toScalar arrow).process arrow ⟨outputSchema, args⟩ batch = .error e
  used {imaging : Blob → Run (Option f.Row)} (h : f.prepare args = .ok imaging) :
    Uses imaging ∧ ∀ (outputSchema : Schema) (batch : RecordBatch),
      (f.toScalar arrow).process arrow ⟨outputSchema, args⟩ batch =
        (f.toScalar arrow).processRows arrow (onBlob imaging) outputSchema batch

/-- The two stages of a function agree when they succeed and fail together. -/
theorem bindDecides_of_agrees {f : BlobFunction} {arrow : ArrowCrate} {args : Arguments}
    {accepted : Prop} {Uses : (Blob → Run (Option f.Row)) → Prop}
    (hbind : (∃ bound, f.onBind ⟨args⟩ = .ok bound) ↔ accepted)
    (hagrees : Agrees (fun _ => Uses) (f.onBind ⟨args⟩) (f.prepare args)) :
    BindDecides f arrow args accepted Uses where
  bind_iff := hbind
  stage_iff := hagrees.exists_ok_iff.symm
  rejected h outputSchema batch := process_of_prepare_error (hagrees.right_error h)
  used {imaging} h := by
    obtain ⟨bound, -, huses⟩ := hagrees.exists_of_right_ok h
    exact ⟨huses, fun outputSchema batch => bind_of_ok (toScalar_prepare h) _⟩

/-! ## `thumbnail_fit` and `convert` -/

section Functions

variable (crates : Crates) (args : Arguments)

/-- Thumbnails of the given box in the given format; no blob is answered as if
the box were empty. -/
def UsesBox (imaging : Blob → Run (Option Blob)) : Prop :=
  ∃ w h fmt, UsesDim args 1 w ∧ UsesDim args 2 h ∧ UsesFormat args 3 fmt ∧
    ∀ bytes, imaging bytes = (callThumbnail crates.image bytes w h fmt).map some ∧
      imaging bytes ≠ .error (.error (.valueError zeroDimension.message))

/-- Conversions to the given format. -/
def UsesTarget (imaging : Blob → Run (Option Blob)) : Prop :=
  ∃ fmt, UsesFormat args 1 fmt ∧
    ∀ bytes, imaging bytes = (callConvert crates.image bytes fmt).map some

theorem exists_bind_thumbnailFit_iff :
    (∃ bound, ThumbnailFit.onBind crates ⟨args⟩ = .ok bound) ↔
      AcceptsDim args 1 ∧ AcceptsDim args 2 ∧ AcceptsFormat args 3 := by
  constructor
  · rintro ⟨bound, hbound⟩
    obtain ⟨-, hwidth, hheight, hfmt⟩ := onBind_thumbnailFit hbound
    exact ⟨exists_dimAt_iff.1 hwidth, exists_dimAt_iff.1 hheight, exists_formatAt_iff.1 hfmt⟩
  · rintro ⟨hwidth, hheight, hfmt⟩
    obtain ⟨fmt, hfmt⟩ := exists_formatAt_iff.2 hfmt
    rw [ThumbnailFit.onBind, bind_of_ok (checkDim_eq_ok_iff.2 (exists_dimAt_iff.2 hwidth)),
      bind_of_ok (checkDim_eq_ok_iff.2 (exists_dimAt_iff.2 hheight)), bind_of_ok hfmt]
    exact ⟨_, rfl⟩

theorem exists_bind_convert_iff :
    (∃ bound, Convert.onBind crates ⟨args⟩ = .ok bound) ↔ AcceptsFormat args 1 := by
  constructor
  · rintro ⟨bound, hbound⟩
    exact exists_formatAt_iff.1 (onBind_convert hbound).2
  · intro hfmt
    obtain ⟨fmt, hfmt⟩ := exists_formatAt_iff.2 hfmt
    rw [Convert.onBind, bind_of_ok hfmt]
    exact ⟨_, rfl⟩

/-- Check by check, the bind of `thumbnail_fit` and its argument stage agree. -/
theorem thumbnailFit_agrees :
    Agrees (fun _ => UsesBox crates args) (ThumbnailFit.onBind crates ⟨args⟩)
      ((ThumbnailFit.function crates).prepare args) := by
  refine Agrees.map_right (fun _ imaging => ∃ w h fmt, UsesDim args 1 w ∧
    UsesDim args 2 h ∧ UsesFormat args 3 fmt ∧
      imaging = fun bytes => callThumbnail crates.image bytes w h fmt) ?_ ?_
  · refine (checkDim_agrees "width").bind fun _ w hw => ?_
    refine (checkDim_agrees "height").bind fun _ h hh => ?_
    refine (formatAt_agrees ThumbnailFit.missingFormat).bind fun _ fmt hfmt => ?_
    exact .ok ⟨w, h, fmt, hw, hh, hfmt, rfl⟩
  · rintro _ _ ⟨w, h, fmt, hw, hh, hfmt, rfl⟩
    refine ⟨w, h, fmt, hw, hh, hfmt, fun bytes => ⟨rfl, ?_⟩⟩
    rw [Ne, map_eq_error_iff]
    exact callThumbnail_ne_zeroDimension hw.1 hh.1

theorem convert_agrees :
    Agrees (fun _ => UsesTarget crates args) (Convert.onBind crates ⟨args⟩)
      ((Convert.function crates).prepare args) := by
  refine Agrees.map_right (fun _ imaging => ∃ fmt, UsesFormat args 1 fmt ∧
    imaging = fun bytes => callConvert crates.image bytes fmt) ?_ ?_
  · refine (formatAt_agrees Convert.missingFormat).bind fun _ fmt hfmt => ?_
    exact .ok ⟨fmt, hfmt, rfl⟩
  · rintro _ _ ⟨fmt, hfmt, rfl⟩
    exact ⟨fmt, hfmt, fun bytes => rfl⟩

/-- Bind and process agree on the constant arguments of both functions, and a
format is accepted exactly when it is advertised. -/
theorem arguments_decided_at_bind :
    BindDecides (ThumbnailFit.function crates) crates.arrow args
        (AcceptsDim args 1 ∧ AcceptsDim args 2 ∧ AcceptsFormat args 3)
        (UsesBox crates args) ∧
      BindDecides (Convert.function crates) crates.arrow args (AcceptsFormat args 1)
        (UsesTarget crates args) ∧
      ∀ s, (∃ fmt, OutFormat.parse s = .ok fmt) ↔ s.toLower ∈ OutFormat.ACCEPTED := by
  refine ⟨?_, ?_, OutFormat.exists_parse_iff⟩
  · exact bindDecides_of_agrees (exists_bind_thumbnailFit_iff crates args)
      (thumbnailFit_agrees crates args)
  · exact bindDecides_of_agrees (exists_bind_convert_iff crates args)
      (convert_agrees crates args)

end Functions

/-! ## A box too wide for the format -/

section OneCell

variable {f : BlobFunction} {arrow : ArrowCrate} (spec : BuilderSpec (f.toScalar arrow))
variable {imaging : Blob → Run (Option f.Row)} {args : Arguments} {schema : Schema}
variable {bytes : Blob} (hprepare : f.prepare args = .ok imaging)
include spec hprepare

theorem exists_process_singleton {name : String}
    (hschema : schema = ⟨[⟨name, spec.dataType, true⟩]⟩) {row : Option f.Row}
    (hrow : imaging bytes = .ok row) (hfits : spec.fits [row]) :
    ∃ out, (f.toScalar arrow).process arrow ⟨schema, args⟩ (blobBatch [some bytes]) =
      .ok out := by
  let params : ProcessParams := ⟨schema, args⟩
  have hcol : (blobBatch [some bytes]).columns[0]? = some (.scalar (.binary [some bytes])) := rfl
  have hprepare' : f.prepare params.arguments = .ok imaging := hprepare
  let value (i : ℕ) : Run (Option f.Row) := cellRow imaging ([some bytes][i]?).join
  have happend : appendRow value spec.fits Halt.panic [] 0 = .ok [row] :=
    appendRow_eq_ok_iff.2 ⟨row, hrow, hfits, rfl⟩
  have hemit : emitRows value spec.fits Halt.panic 1 = .ok [row] :=
    (emitRows_succ 0).trans happend
  obtain ⟨column, -, hprocess⟩ :=
    process_of_ok spec hprepare' hcol (.binary [some bytes]) hschema hemit
  exact ⟨_, hprocess⟩

theorem exists_imaging_of_process_singleton {out : RecordBatch}
    (h : (f.toScalar arrow).process arrow ⟨schema, args⟩ (blobBatch [some bytes]) = .ok out) :
    ∃ row, imaging bytes = .ok row := by
  let params : ProcessParams := ⟨schema, args⟩
  have hprepare' : f.prepare params.arguments = .ok imaging := hprepare
  obtain ⟨rows, -, hemit, -⟩ := spec.exists_emit_of_process_ok arrow
    (toScalar_prepare hprepare') (mapM_inputs_of_column rfl) h
  obtain ⟨hlength, hvalues, -⟩ := emitRows_eq_ok_iff.1 hemit
  have hlt : 0 < rows.length := by
    rw [hlength]
    exact Nat.one_pos
  have hrow := hvalues 0 hlt
  rw [rowValue_of_carries f arrow imaging (.binary [some bytes])] at hrow
  exact ⟨rows[0], hrow⟩

end OneCell

section Strip

open ReferenceCodec

/-- The arguments of `thumbnail_fit(blob, side, side, 'jpeg')`. -/
def jpegBox (side : Int64) : Arguments where
  constI64 pos := if pos = 1 ∨ pos = 2 then some side else none
  constStr pos := if pos = 3 then some "jpeg" else none

/-- An all-black RGB strip of 60000×1 pixels. -/
def stripPng : Blob := blackPng 60000 1 2 3

/-- The strip scaled into a square box, as JPEG. -/
def writeStrip (side : UInt32) : Except String Blob :=
  writeImage (encoded codec (resize (black 60000 1 .rgb8) side side) .jpeg) .jpeg

theorem callThumbnail_stripPng_eq_ok_iff {side : UInt32} (hside : 0 < side) {out : Blob} :
    callThumbnail codec stripPng side side .jpeg = .ok out ↔
      resizeOverflows (black 60000 1 .rgb8) side side = false ∧ writeStrip side = .ok out := by
  have hdecode : decode codec stripPng = .ok (black 60000 1 .rgb8) :=
    decode_blackPng 3 rfl (by decide) (by decide) (by decide)
  rw [callThumbnail_eq_ok_iff, thumbnail_of_decode hdecode hside hside, encode_eq_ok_iff,
    thumbnailPanics, if_neg (box_not_empty hside hside), hdecode]
  exact Iff.rfl

/-- 66000 pixels in a row are more than a JPEG has. -/
theorem callThumbnail_stripPng_wide (out : Blob) :
    callThumbnail codec stripPng 66000 66000 .jpeg ≠ .ok out := by
  rw [Ne, callThumbnail_stripPng_eq_ok_iff (by decide)]
  rintro ⟨-, hout⟩
  have hwide : (writeStrip 66000).toBool = false := by decide +kernel
  rw [hout] at hwide
  cases hwide

theorem exists_callThumbnail_stripPng :
    ∃ out, callThumbnail codec stripPng 128 128 .jpeg = .ok out ∧ BlobsFit [some out] := by
  have hwritten : (writeStrip 128).toOption.any (fun out => BlobsFit [some out]) = true := by
    decide +kernel
  have hroom : resizeOverflows (black 60000 1 .rgb8) 128 128 = false := by decide +kernel
  cases hout : writeStrip 128 with
  | error e =>
      rw [hout] at hwritten
      cases hwritten
  | ok out =>
      rw [hout] at hwritten
      exact ⟨out, (callThumbnail_stripPng_eq_ok_iff (by decide)).2 ⟨hroom, hout⟩,
        of_decide_eq_true hwritten⟩

section Box

variable {side : Int64} {dim : UInt32}
variable (hwidth : parseDim side "width" = .ok dim) (hheight : parseDim side "height" = .ok dim)
include hwidth hheight

/-- The argument stage of a call with a square box. -/
theorem prepare_jpegBox :
    (ThumbnailFit.function (referenceCrates noExif)).prepare (jpegBox side) =
      .ok fun bytes => (callThumbnail codec bytes dim dim .jpeg).map some := by
  have hjpeg : formatAt (jpegBox side) 3 ThumbnailFit.missingFormat = .ok .jpeg := by
    have hparse : OutFormat.parse "jpeg" = .ok .jpeg := by decide +kernel
    exact liftImg_eq_ok_iff.2 hparse
  exact reencoder_prepare (ThumbnailFit.prepare_eq (referenceCrates noExif) hwidth hheight hjpeg)

theorem onBind_jpegBox :
    ThumbnailFit.onBind (referenceCrates noExif) ⟨jpegBox side⟩ =
      .ok (singleColumnBind.bindResult (.scalar .binary)) := by
  obtain ⟨bound, hbound⟩ := (thumbnailFit_agrees (referenceCrates noExif)
    (jpegBox side)).exists_ok_iff.2 ⟨_, prepare_jpegBox hwidth hheight⟩
  rw [hbound, (onBind_thumbnailFit hbound).1]
  rfl

end Box

/-- `thumbnail_fit` on the strip, bound to a square box. -/
abbrev stripCall (side : Int64) : Run RecordBatch :=
  ((ThumbnailFit.function (referenceCrates noExif)).toScalar arrowNames).process arrowNames
    ⟨(singleColumnBind.bindResult (.scalar .binary)).outputSchema, jpegBox side⟩
    (blobBatch [some stripPng])

/-- Two boxes accepted at bind, and a batch that goes through under one of them
and fails under the other. -/
theorem thumbnailFit_fails_on_strip :
    ¬ ∀ (crates : Crates) (args args' : Arguments) (bound bound' : BindResponse),
      ThumbnailFit.onBind crates ⟨args⟩ = .ok bound →
        ThumbnailFit.onBind crates ⟨args'⟩ = .ok bound' → ∀ batch : RecordBatch,
          (∃ out, ((ThumbnailFit.function crates).toScalar crates.arrow).process crates.arrow
            ⟨bound'.outputSchema, args'⟩ batch = .ok out) →
              ∃ out, ((ThumbnailFit.function crates).toScalar crates.arrow).process crates.arrow
                ⟨bound.outputSchema, args⟩ batch = .ok out := by
  intro h
  have hwide : parseDim 66000 "width" = .ok 66000 ∧ parseDim 66000 "height" = .ok 66000 := by
    decide +kernel
  have hsmall : parseDim 128 "width" = .ok 128 ∧ parseDim 128 "height" = .ok 128 := by
    decide +kernel
  let spec : BuilderSpec ((ThumbnailFit.function (referenceCrates noExif)).toScalar arrowNames) :=
    reencoderSpec arrowNames _ _ _
  have hthrough : ∃ out, stripCall 128 = .ok out := by
    obtain ⟨small, hsmall_ok, hfits⟩ := exists_callThumbnail_stripPng
    have hrow : (callThumbnail codec stripPng 128 128 .jpeg).map some = .ok (some small) := by
      rw [hsmall_ok]
      rfl
    exact exists_process_singleton spec (prepare_jpegBox hsmall.1 hsmall.2) rfl hrow hfits
  obtain ⟨out, hout⟩ := h (referenceCrates noExif) (jpegBox 66000) (jpegBox 128) _ _
    (onBind_jpegBox hwide.1 hwide.2) (onBind_jpegBox hsmall.1 hsmall.2) _ hthrough
  obtain ⟨row, hrow⟩ :=
    exists_imaging_of_process_singleton spec (prepare_jpegBox hwide.1 hwide.2) hout
  obtain ⟨wide, hwide_ok, -⟩ := map_eq_ok_iff.1 hrow
  exact callThumbnail_stripPng_wide wide hwide_ok

end Strip

end VgiImage.Scalar
