import VgiImage.Imaging.Transforms
import VgiImage.Scalar.Arguments

/-!
# Output that outgrows the offsets of a binary column

`thumbnail`, `thumbnail_fit` and `convert` append every encoded blob to one
binary builder with 32-bit offsets and never look at the total, and they scale
an image into any box.  A call ends with a column or an error exactly when the
files written for the images before the first cell that ends the call fit those
offsets, and the image in that cell is not scaled past the pixel buffer.
-/

namespace VgiImage.Scalar

open Arrow ArrowIo Imaging Outcome RowLoop

/-! ## When a blob function panics -/

/-- What a row of any column computes, type errors included. -/
def columnRow {ρ : Type} (arrow : ArrowCrate) (imaging : Blob → Run (Option ρ))
    (col : ArrayRef) (i : ℕ) : Run (Option ρ) :=
  blobBytes arrow col i >>= cellRow imaging

section Panic

variable {f : BlobFunction} {arrow : ArrowCrate} (spec : BuilderSpec (f.toScalar arrow))
variable {imaging : Blob → Run (Option f.Row)} {params : ProcessParams}
variable {batch : RecordBatch} {col : ArrayRef}

theorem columnRow_eq_panic_iff {ρ : Type} {imaging : Blob → Run (Option ρ)} {i : ℕ} :
    columnRow arrow imaging col i = .error .panic ↔
      ∃ bytes, blobBytes arrow col i = .ok (some bytes) ∧ imaging bytes = .error .panic := by
  rw [columnRow, bind_eq_error_iff, or_iff_right (blobBytes_ne_panic arrow col i)]
  simp only [cellRow_eq_error_iff]
  constructor
  · rintro ⟨_, hcell, bytes, rfl, hpanic⟩
    exact ⟨bytes, hcell, hpanic⟩
  · rintro ⟨bytes, hcell, hpanic⟩
    exact ⟨_, hcell, bytes, rfl, hpanic⟩

/-- A blob function panics exactly when the rows before the first failing one
do not fit its builders, or when that row panics. -/
theorem process_eq_panic_iff_stretch (hprepare : f.prepare params.arguments = .ok imaging)
    (hcol : batch.columns[0]? = some col) :
    (f.toScalar arrow).process arrow params batch = .error .panic ↔
      ¬ spec.fits (stretch (columnRow arrow imaging col) batch.numRows) ∨
        ∃ k < batch.numRows, columnRow arrow imaging col k = .error .panic ∧
          ∀ i < k, ∃ row, columnRow arrow imaging col i = .ok row := by
  have hrows : (f.toScalar arrow).rowValue (onBlob imaging) [col] =
      columnRow arrow imaging col :=
    funext fun i => rowValue_toScalar f arrow imaging col i
  rw [spec.process_eq_panic_iff arrow (toScalar_prepare hprepare)
    (mapM_inputs_of_column hcol), BuilderSpec.emit, hrows]
  exact emitRows_eq_full_iff spec.fits_nil (fun _ _ => spec.fits_of_concat)

end Panic

/-! ## The functions that emit blobs -/

/-- What a function that emits blobs computes under its constant arguments. -/
inductive Reencodes (crates : Crates) (args : Arguments) : BlobName → (Blob → Run Blob) → Prop
  | thumbnail : Reencodes crates args .thumbnail fun bytes =>
      callThumbnail crates.image bytes 128 128 .jpeg
  | thumbnailFit {w h : UInt32} {fmt : OutFormat}
      (hwidth : dimAt args 1 "width" = .ok w) (hheight : dimAt args 2 "height" = .ok h)
      (hfmt : formatAt args 3 ThumbnailFit.missingFormat = .ok fmt) :
      Reencodes crates args .thumbnailFit fun bytes => callThumbnail crates.image bytes w h fmt
  | convert {fmt : OutFormat} (hfmt : formatAt args 1 Convert.missingFormat = .ok fmt) :
      Reencodes crates args .convert fun bytes => callConvert crates.image bytes fmt

/-- What the constant arguments ask of a function that emits blobs. -/
inductive Asks (args : Arguments) : BlobName → Transform → Prop
  | thumbnail : Asks args .thumbnail (.thumbnail 128 128 (by decide) (by decide) .jpeg)
  | thumbnailFit {w h : UInt32} {fmt : OutFormat} (hw : 0 < w) (hh : 0 < h)
      (hwidth : UsesDim args 1 w) (hheight : UsesDim args 2 h) (hfmt : UsesFormat args 3 fmt) :
      Asks args .thumbnailFit (.thumbnail w h hw hh fmt)
  | convert {fmt : OutFormat} (hfmt : UsesFormat args 1 fmt) :
      Asks args .convert (.convert fmt)

def reencoders : List BlobName := [.thumbnail, .thumbnailFit, .convert]

/-- A call that returns: with a batch or with an error. -/
def EndsNormally (result : Run RecordBatch) : Prop :=
  (∃ out, result = .ok out) ∨ ∃ e, result = .error (.error e)

theorem endsNormally_iff {result : Run RecordBatch} :
    EndsNormally result ↔ result ≠ .error .panic := by
  rcases result with (e | _) | out <;> simp [EndsNormally]

theorem UsesDim.pos {args : Arguments} {pos : ℕ} {dim : UInt32} (h : UsesDim args pos dim) :
    0 < dim :=
  UInt32.pos_iff_ne_zero.2 h.1

/-! ## Files and their sizes -/

section Files

variable (crates : Crates) (transform : Transform)

/-- Bytes of the file a decoded image becomes, if it becomes one. -/
def fileBytes (img : DynamicImage) : Option ℕ :=
  if transform.overflows crates.image img then none
  else
    (crates.image.writeTo (encoded crates.image (transform.scaled crates.image img)
      transform.format) transform.format.imageFormat).toOption.map List.length

/-- Bytes a cell adds to the output; none at all if it ends the call. -/
def cellBytes (col : ArrayRef) (i : ℕ) : Option ℕ :=
  match blobBytes crates.arrow col i with
  | .error _ => none
  | .ok none => some 0
  | .ok (some bytes) => (decode crates.image bytes).toOption.bind (fileBytes crates transform)

/-- The image in a cell is scaled past the pixel buffer. -/
def Oversized (col : ArrayRef) (i : ℕ) : Prop :=
  ∃ bytes img, blobBytes crates.arrow col i = .ok (some bytes) ∧
    decode crates.image bytes = .ok img ∧ transform.overflows crates.image img = true

/-- Bytes of the cells before the first that ends the call. -/
def totalBytes (col : ArrayRef) (rows : ℕ) : ℕ :=
  (((List.range rows).map (cellBytes crates transform col)).takeWhile
    Option.isSome).reduceOption.sum

/-- The files of a column fit 32-bit offsets up to the first cell that ends the
call, and the image in that cell is not oversized. -/
structure FilesFit (col : ArrayRef) (rows : ℕ) : Prop where
  total_le : totalBytes crates transform col rows ≤ maxOffset
  not_oversized {k : ℕ} (hk : k < rows)
    (hfirst : ∀ i < k, (cellBytes crates transform col i).isSome = true) :
    ¬ Oversized crates transform col k

variable {crates transform}

theorem apply_eq_panic_iff {bytes : Blob} :
    transform.apply crates.image bytes = .error .panic ↔
      ∃ img, decode crates.image bytes = .ok img ∧
        transform.overflows crates.image img = true := by
  cases hdecode : decode crates.image bytes with
  | error e => simp [transform.apply_of_decode_error hdecode]
  | ok img =>
      rw [transform.apply_of_decode hdecode]
      simp only [Except.ok.injEq, exists_eq_left']
      cases transform.overflows crates.image img <;> simp [liftImg_ne_panic]

/-- A blob becomes a file of the given size. -/
theorem map_length_apply (bytes : Blob) :
    (transform.apply crates.image bytes).toOption.map List.length =
      (decode crates.image bytes).toOption.bind (fileBytes crates transform) := by
  cases hdecode : decode crates.image bytes with
  | error e =>
      rw [transform.apply_of_decode_error hdecode]
      rfl
  | ok img =>
      rw [transform.apply_of_decode hdecode]
      change _ = fileBytes crates transform img
      rw [fileBytes]
      cases transform.overflows crates.image img with
      | true => rfl
      | false =>
          simp only [Bool.false_eq_true, if_false, encode]
          cases crates.image.writeTo _ _ <;> rfl

/-- The rows of a function that emits blobs. -/
abbrev fileRow (crates : Crates) (transform : Transform) (col : ArrayRef) :
    ℕ → Run (Option Blob) :=
  columnRow crates.arrow (fun bytes => (transform.apply crates.image bytes).map some) col

variable {col : ArrayRef}

theorem map_slotBytes_fileRow (i : ℕ) :
    (fileRow crates transform col i).toOption.map slotBytes =
      cellBytes crates transform col i := by
  rw [fileRow, columnRow, cellBytes]
  cases blobBytes crates.arrow col i with
  | error e => rfl
  | ok cell =>
      cases cell with
      | none => rfl
      | some bytes =>
          change ((transform.apply crates.image bytes).map some).toOption.map slotBytes =
            (decode crates.image bytes).toOption.bind (fileBytes crates transform)
          rw [← map_length_apply]
          cases transform.apply crates.image bytes <;> rfl

theorem exists_fileRow_iff (i : ℕ) :
    (∃ row, fileRow crates transform col i = .ok row) ↔
      (cellBytes crates transform col i).isSome = true := by
  rw [← map_slotBytes_fileRow]
  cases fileRow crates transform col i <;> simp [Except.toOption]

theorem fileRow_eq_panic_iff (i : ℕ) :
    fileRow crates transform col i = .error .panic ↔ Oversized crates transform col i := by
  rw [fileRow, columnRow_eq_panic_iff]
  simp only [map_eq_error_iff, apply_eq_panic_iff]
  constructor
  · rintro ⟨bytes, hcell, img, hdecode, hover⟩
    exact ⟨bytes, img, hcell, hdecode, hover⟩
  · rintro ⟨bytes, img, hcell, hdecode, hover⟩
    exact ⟨bytes, hcell, img, hdecode, hover⟩

/-- The output of the rows before the first failing one has the size of their
files. -/
theorem valueBytes_stretch_fileRow (rows : ℕ) :
    valueBytes (stretch (fileRow crates transform col) rows) =
      totalBytes crates transform col rows := by
  rw [valueBytes, stretch, map_oks, List.map_map, totalBytes]
  congr 4
  exact funext map_slotBytes_fileRow

end Files

/-! ## When a call ends normally -/

section Reencoders

variable {crates : Crates} {name : BlobName} {args : Arguments} {params : ProcessParams}
variable {batch : RecordBatch} {col : ArrayRef} {transform : Transform}

theorem Reencodes.exists_asks {imaging : Blob → Run Blob}
    (h : Reencodes crates args name imaging) :
    ∃ transform, Asks args name transform ∧ imaging = transform.apply crates.image := by
  cases h with
  | thumbnail => exact ⟨_, .thumbnail, rfl⟩
  | thumbnailFit hwidth hheight hfmt =>
      have hw := dimAt_eq_ok_iff.1 hwidth
      have hh := dimAt_eq_ok_iff.1 hheight
      exact ⟨_, .thumbnailFit hw.pos hh.pos hw hh (formatAt_eq_ok_iff.1 hfmt), rfl⟩
  | convert hfmt => exact ⟨_, .convert (formatAt_eq_ok_iff.1 hfmt), rfl⟩

/-- The argument stage yields what the arguments ask for. -/
theorem Asks.exists_prepare (h : Asks args name transform) :
    ∃ rowOf : Blob → Run (Option (name.function crates).Row),
      (name.function crates).prepare args = .ok rowOf ∧ ∀ bytes,
        Agrees (fun row _ => row.isSome = true) (rowOf bytes)
          (transform.apply crates.image bytes) := by
  have hagrees : ∀ result : Run Blob,
      Agrees (fun row _ => row.isSome = true) (result.map some) result := by
    intro result
    cases result with
    | error halt => exact .error halt
    | ok out => exact .ok rfl
  cases h with
  | thumbnail =>
      exact ⟨_, reencoder_prepare (Thumbnail.prepare_eq crates _), fun bytes => hagrees _⟩
  | thumbnailFit hw hh hwidth hheight hfmt =>
      exact ⟨_, reencoder_prepare (ThumbnailFit.prepare_eq crates (dimAt_eq_ok_iff.2 hwidth)
        (dimAt_eq_ok_iff.2 hheight) (formatAt_eq_ok_iff.2 hfmt)), fun bytes => hagrees _⟩
  | convert hfmt =>
      exact ⟨_, reencoder_prepare (Convert.prepare_eq crates (formatAt_eq_ok_iff.2 hfmt)),
        fun bytes => hagrees _⟩

theorem Asks.process_eq_panic_iff (h : Asks params.arguments name transform)
    (hcol : batch.columns[0]? = some col) :
    ((name.function crates).toScalar crates.arrow).process crates.arrow params batch =
        .error .panic ↔
      ¬ FilesFit crates transform col batch.numRows := by
  have hpanic : ((name.function crates).toScalar crates.arrow).process crates.arrow params
      batch = .error .panic ↔
        ¬ BlobsFit (stretch (fileRow crates transform col) batch.numRows) ∨
          ∃ k < batch.numRows, fileRow crates transform col k = .error .panic ∧
            ∀ i < k, ∃ row, fileRow crates transform col i = .ok row := by
    cases h with
    | thumbnail =>
        exact process_eq_panic_iff_stretch (reencoderSpec crates.arrow _ _ _)
          (reencoder_prepare (Thumbnail.prepare_eq crates _)) hcol
    | thumbnailFit hw hh hwidth hheight hfmt =>
        exact process_eq_panic_iff_stretch (reencoderSpec crates.arrow _ _ _)
          (reencoder_prepare (ThumbnailFit.prepare_eq crates (dimAt_eq_ok_iff.2 hwidth)
            (dimAt_eq_ok_iff.2 hheight) (formatAt_eq_ok_iff.2 hfmt))) hcol
    | convert hfmt =>
        exact process_eq_panic_iff_stretch (reencoderSpec crates.arrow _ _ _)
          (reencoder_prepare (Convert.prepare_eq crates (formatAt_eq_ok_iff.2 hfmt))) hcol
  simp only [fileRow_eq_panic_iff, exists_fileRow_iff, BlobsFit,
    valueBytes_stretch_fileRow] at hpanic
  rw [hpanic]
  constructor
  · rintro (htotal | ⟨k, hk, hover, hfirst⟩) hfit
    · exact htotal hfit.total_le
    · exact hfit.not_oversized hk hfirst hover
  · intro hfit
    by_contra hnone
    rw [not_or, not_not] at hnone
    exact hfit ⟨hnone.1, fun {k} hk hfirst hover => hnone.2 ⟨k, hk, hover, hfirst⟩⟩

theorem dimAt_ne_panic (args : Arguments) (pos : ℕ) (label : String) :
    dimAt args pos label ≠ .error .panic := by
  rw [dimAt]
  cases args.constI64 pos with
  | none => simp
  | some n =>
      change parseDim n label ≠ _
      rw [parseDim]
      split_ifs <;> simp

theorem formatAt_ne_panic (args : Arguments) (pos : ℕ) (missing : String) :
    formatAt args pos missing ≠ .error .panic := by
  rw [formatAt]
  cases args.constStr pos with
  | none => simp
  | some s => exact liftImg_ne_panic

/-- Rejected arguments are answered with an error. -/
theorem prepare_ne_panic (hname : name ∈ reencoders) (args : Arguments) :
    (name.function crates).prepare args ≠ .error .panic := by
  simp only [reencoders, List.mem_cons, List.not_mem_nil, or_false] at hname
  rcases hname with rfl | rfl | rfl
  · apply mt map_eq_error_iff.1
    rw [Thumbnail.prepare_eq]
    exact nofun
  · apply mt map_eq_error_iff.1
    apply bind_ne_error (dimAt_ne_panic args 1 "width")
    intro w
    apply bind_ne_error (dimAt_ne_panic args 2 "height")
    intro h
    apply bind_ne_error (formatAt_ne_panic args 3 _)
    exact fun _ => nofun
  · apply mt map_eq_error_iff.1
    apply bind_ne_error (formatAt_ne_panic args 1 _)
    exact fun _ => nofun

theorem exists_reencodes (hname : name ∈ reencoders) {args : Arguments}
    {rowOf : Blob → Run (Option (name.function crates).Row)}
    (h : (name.function crates).prepare args = .ok rowOf) :
    ∃ imaging, Reencodes crates args name imaging := by
  simp only [reencoders, List.mem_cons, List.not_mem_nil, or_false] at hname
  rcases hname with rfl | rfl | rfl
  · exact ⟨_, .thumbnail⟩
  · obtain ⟨imaging, himaging, -⟩ := map_eq_ok_iff.1 h
    obtain ⟨w, hwidth, himaging⟩ := bind_eq_ok_iff.1 himaging
    obtain ⟨height, hheight, himaging⟩ := bind_eq_ok_iff.1 himaging
    obtain ⟨fmt, hfmt, -⟩ := bind_eq_ok_iff.1 himaging
    exact ⟨_, .thumbnailFit hwidth hheight hfmt⟩
  · obtain ⟨imaging, himaging, -⟩ := map_eq_ok_iff.1 h
    obtain ⟨fmt, hfmt, -⟩ := bind_eq_ok_iff.1 himaging
    exact ⟨_, .convert hfmt⟩

section Rows

variable {rowOf : Blob → Run (Option (name.function crates).Row)} {bytes : Blob}

/-- What does not emit blobs ends with the error of its imaging function. -/
theorem exists_liftImg_of_prepare (hname : name ∉ reencoders)
    (hprepare : (name.function crates).prepare args = .ok rowOf) {halt : Halt}
    (h : rowOf bytes = .error halt) : ∃ message, halt = .error (.valueError message) := by
  have hlift : ∀ {α β : Type} {result : Except ImgError α} {f : α → β},
      (liftImg result).map f = .error halt → ∃ message, halt = .error (.valueError message) := by
    intro α β result f hfail
    obtain ⟨e, -, he⟩ := liftImg_eq_error_iff.1 (map_eq_error_iff.1 hfail)
    exact ⟨e.message, he⟩
  cases name
  case thumbnail | thumbnailFit | convert => exact absurd (by decide) hname
  case exifGps =>
    cases hprepare
    obtain ⟨e, -, he⟩ := liftImg_eq_error_iff.1 h
    exact ⟨e.message, he⟩
  all_goals
    cases hprepare
    exact hlift h

/-- What emits blobs does what its arguments ask for. -/
theorem exists_asks_of_prepare (hname : name ∈ reencoders)
    (hprepare : (name.function crates).prepare args = .ok rowOf) :
    ∃ transform, Asks args name transform ∧ ∀ bytes,
      Agrees (fun row _ => row.isSome = true) (rowOf bytes)
        (transform.apply crates.image bytes) := by
  obtain ⟨imaging, himaging⟩ := exists_reencodes hname hprepare
  obtain ⟨transform, hasks, -⟩ := himaging.exists_asks
  obtain ⟨rowOf', hprepare', hagrees⟩ := @Asks.exists_prepare crates _ _ _ hasks
  rw [hprepare] at hprepare'
  cases hprepare'
  exact ⟨transform, hasks, hagrees⟩

/-- A blob makes a function panic exactly when its arguments ask for an image
past the pixel buffer. -/
theorem rowOf_eq_panic_iff (hprepare : (name.function crates).prepare args = .ok rowOf) :
    rowOf bytes = .error .panic ↔ ∃ transform, Asks args name transform ∧
      ∃ img, decode crates.image bytes = .ok img ∧
        transform.overflows crates.image img = true := by
  constructor
  · intro hpanic
    by_cases hname : name ∈ reencoders
    · obtain ⟨transform, hasks, hagrees⟩ := exists_asks_of_prepare hname hprepare
      exact ⟨transform, hasks, apply_eq_panic_iff.1 ((hagrees bytes).right_error hpanic)⟩
    · obtain ⟨message, hmessage⟩ := exists_liftImg_of_prepare hname hprepare hpanic
      cases hmessage
  · rintro ⟨transform, hasks, hover⟩
    obtain ⟨rowOf', hprepare', hagrees⟩ := @Asks.exists_prepare crates _ _ _ hasks
    rw [hprepare] at hprepare'
    cases hprepare'
    exact (hagrees bytes).left_error (apply_eq_panic_iff.2 hover)

theorem exists_valueError_of_rowOf (hprepare : (name.function crates).prepare args = .ok rowOf)
    {e : RpcError} (h : rowOf bytes = .error (.error e)) : ∃ message, e = .valueError message := by
  by_cases hname : name ∈ reencoders
  · obtain ⟨transform, -, hagrees⟩ := exists_asks_of_prepare hname hprepare
    exact transform.exists_valueError ((hagrees bytes).right_error h)
  · obtain ⟨message, hmessage⟩ := exists_liftImg_of_prepare hname hprepare h
    cases hmessage
    exact ⟨message, rfl⟩

end Rows

/-- The functions that emit blobs return a batch or an error exactly when their
arguments are rejected or the files asked for fit. -/
theorem reencoder_endsNormally_iff (hname : name ∈ reencoders)
    (hcol : batch.columns[0]? = some col) :
    EndsNormally (((name.function crates).toScalar crates.arrow).process crates.arrow
        params batch) ↔
      ∀ transform, Asks params.arguments name transform →
        FilesFit crates transform col batch.numRows := by
  rw [endsNormally_iff]
  constructor
  · intro h transform hasks
    by_contra hfull
    exact h ((hasks.process_eq_panic_iff hcol).2 hfull)
  · intro h hpanic
    cases hprepare : (name.function crates).prepare params.arguments with
    | error halt =>
        rw [process_of_prepare_error hprepare] at hpanic
        obtain rfl := Except.error.inj hpanic
        exact prepare_ne_panic hname _ hprepare
    | ok rowOf =>
        obtain ⟨transform, hasks, -⟩ := exists_asks_of_prepare hname hprepare
        exact (hasks.process_eq_panic_iff hcol).1 hpanic (h transform hasks)

end Reencoders

/-! ## Five large images in one batch -/

theorem reencodes_convert_bmp (exif : ExifCrate) :
    Reencodes (referenceCrates exif) (formatArguments 1 "bmp") .convert fun bytes =>
      callConvert ReferenceCodec.codec bytes .bmp :=
  .convert formatAt_bmp

/-- The arguments of a bound `convert(blob, 'bmp')`. -/
def convertBmp : ProcessParams where
  outputSchema := (singleColumnBind.bindResult (.scalar .binary)).outputSchema
  arguments := formatArguments 1 "bmp"

/-- The sample PNG and a NULL. -/
theorem convert_endsNormally_samplePng :
    EndsNormally (((BlobName.convert.function (referenceCrates noExif)).toScalar
        arrowNames).process arrowNames convertBmp
        (blobBatch [some ReferenceCodec.samplePng, none])) ↔
      ∀ transform, Asks convertBmp.arguments .convert transform →
        FilesFit (referenceCrates noExif) transform
          (.scalar (.binary [some ReferenceCodec.samplePng, none])) 2 :=
  @reencoder_endsNormally_iff (referenceCrates noExif) .convert convertBmp _ _ (by decide) rfl

/-- A batch of one column with 64-bit offsets. -/
def largeBlobBatch (cells : List (Option Blob)) : RecordBatch :=
  .single ⟨[⟨"blob", .scalar .largeBinary, true⟩]⟩ (.scalar (.largeBinary cells))

/-- Every cell of a column of copies adds the same number of bytes. -/
theorem cellBytes_replicate {crates : Crates} {transform : Transform} {bytes out : Blob}
    (h : transform.apply crates.image bytes = .ok out) {rows i : ℕ} (hi : i < rows) :
    cellBytes crates transform (.scalar (.largeBinary (List.replicate rows (some bytes)))) i =
      some out.length := by
  have hrow : fileRow crates transform
      (.scalar (.largeBinary (List.replicate rows (some bytes)))) i = .ok (some out) := by
    rw [fileRow, columnRow, blobBytes_of_carries crates.arrow (.largeBinary _),
      List.getElem?_replicate, if_pos hi]
    change (transform.apply crates.image bytes).map some = _
    rw [h]
    rfl
  rw [← map_slotBytes_fileRow, hrow]
  rfl

open ReferenceCodec

theorem length_bmpHeader (width height : ℕ) : (bmpHeader width height).length = 54 := by
  simp [bmpHeader, bmpMagic, le4]

/-- A large RGB image as a BMP: 54 bytes of header and the padded rows. -/
theorem convert_blackPng_bmp :
    ∃ out, Imaging.convert codec (blackPng 13000 13000 2 3) .bmp = .ok out ∧
      out.length = 507000054 := by
  have hdecode : decode codec (blackPng 13000 13000 2 3) = .ok (black 13000 13000 .rgb8) :=
    decode_blackPng 3 rfl (by decide) (by decide) (by decide)
  refine ⟨_, (convert_of_decode hdecode .bmp).trans rfl, ?_⟩
  rw [List.length_append, length_bmpHeader, List.length_replicate]
  rfl

/-- Five PNGs of 13000×13000 pixels, each admitted by the decoder, become five
BMPs of 507 million bytes: the append of the fifth panics. -/
theorem convert_panics_on_five_images :
    ¬ ∀ (crates : Crates) (name : BlobName), name ∈ reencoders →
      ∀ (params : ProcessParams) (batch : RecordBatch) (col : ArrayRef),
        batch.columns[0]? = some col →
          EndsNormally (((name.function crates).toScalar crates.arrow).process crates.arrow
            params batch) := by
  intro h
  obtain ⟨out, hout, hlength⟩ := convert_blackPng_bmp
  let cells := List.replicate 5 (some (blackPng 13000 13000 2 3))
  have hends := h (referenceCrates noExif) .convert (by decide) convertBmp
    (largeBlobBatch cells) (.scalar (.largeBinary cells)) rfl
  have hasks : Asks convertBmp.arguments .convert (.convert .bmp) :=
    .convert (formatAt_eq_ok_iff.1 formatAt_bmp)
  refine endsNormally_iff.1 hends ((hasks.process_eq_panic_iff rfl).2 fun hfit => ?_)
  have happly : (Transform.convert .bmp).apply (referenceCrates noExif).image
      (blackPng 13000 13000 2 3) = .ok out := callConvert_eq_ok_iff.2 hout
  have hcell : ∀ {i}, i < 5 → cellBytes (referenceCrates noExif) (.convert .bmp)
      (.scalar (.largeBinary cells)) i = some 507000054 := by
    intro i hi
    rw [← hlength]
    exact cellBytes_replicate happly hi
  have htotal : totalBytes (referenceCrates noExif) (.convert .bmp)
      (.scalar (.largeBinary cells)) 5 = 2535000270 := by
    simp [totalBytes, List.range_succ, hcell]
  have hle : totalBytes (referenceCrates noExif) (.convert .bmp)
      (.scalar (.largeBinary cells)) 5 ≤ maxOffset := hfit.total_le
  rw [htotal] at hle
  exact absurd hle (by decide)

end VgiImage.Scalar
