import VgiImage.Imaging.Reopen
import VgiImage.Scalar.ReferenceCrates

/-!
# Row-wise semantics of the blob functions

A blob function computes each row from its own cell: a batch succeeds exactly
when every cell that is not NULL does, fails with the error of its first
failing row, and otherwise returns one row for each cell.
-/

namespace VgiImage.Scalar

open Arrow ArrowIo Imaging Outcome RowLoop

/-! ## The statement -/

/-- The imaging function has a result on the cell; a NULL cell needs none. -/
def Succeeds (imaging : Blob → Run (Option Arrow.Value)) (cell : Option Blob) : Prop :=
  ∀ bytes, cell = some bytes → ∃ v, imaging bytes = .ok v

/-- The output for a cell: NULL for NULL, and else the imaging result. -/
def cellValue (imaging : Blob → Run (Option Arrow.Value)) :
    Option Blob → Option Arrow.Value
  | none => none
  | some bytes => (imaging bytes).toOption.join

/-- What a call on the blob cells `cells` returns. -/
structure RowWise (imaging : Blob → Run (Option Arrow.Value))
    (cells : List (Option Blob)) (result : Run RecordBatch) : Prop where
  succeeds_iff : (∃ out, result = .ok out) ↔ ∀ cell ∈ cells, Succeeds imaging cell
  /-- A failing call ends as the first failing row does. -/
  fails_iff (halt : Halt) : result = .error halt ↔
    ∃ k bytes, cells[k]? = some (some bytes) ∧ imaging bytes = .error halt ∧
      ∀ cell ∈ cells.take k, Succeeds imaging cell
  output {out : RecordBatch} (hout : result = .ok out) :
    ∃ column, out.columns = [column] ∧ out.numRows = cells.length ∧
      (∀ (i : ℕ) (hi : i < cells.length),
        column.isNull i = (cellValue imaging cells[i]).isNone ∧
          column.value i = cellValue imaging cells[i]) ∧
      ∀ fields children validity, column = .struct fields children validity →
        validity.length = cells.length ∧ ∀ child ∈ children, child.len = cells.length ∧
          ∀ i, (child.value i).isSome = validity.getD i false

/-! ## The loop of a blob function -/

/-- The row of one cell. -/
def cellRow {ρ : Type} (imaging : Blob → Run (Option ρ)) : Option Blob → Run (Option ρ)
  | none => .ok none
  | some bytes => imaging bytes

section CellRow

variable {ρ : Type} {imaging : Blob → Run (Option ρ)}

theorem cellRow_eq_error_iff {cell : Option Blob} {halt : Halt} :
    cellRow imaging cell = .error halt ↔
      ∃ bytes, cell = some bytes ∧ imaging bytes = .error halt := by
  cases cell <;> simp [cellRow]

theorem exists_cellRow_eq_ok_iff {cell : Option Blob} :
    (∃ v, cellRow imaging cell = .ok v) ↔
      ∀ bytes, cell = some bytes → ∃ v, imaging bytes = .ok v := by
  cases cell <;> simp [cellRow]

/-- The single input column of a blob function. -/
theorem mapM_inputs_of_column {batch : RecordBatch} {col : ArrayRef}
    (hcol : batch.columns[0]? = some col) : [0].mapM batch.column = .ok [col] := by
  simp [RecordBatch.column, hcol, bind, Except.bind, pure, Except.pure]

theorem toScalar_prepare {f : BlobFunction} {arrow : ArrowCrate} {args : Arguments}
    {imaging : Blob → Run (Option f.Row)} (h : f.prepare args = .ok imaging) :
    (f.toScalar arrow).prepare args = .ok (onBlob imaging) :=
  map_eq_ok_iff.2 ⟨imaging, h, rfl⟩

/-- Rejected arguments end the call before any row. -/
theorem process_of_prepare_error {f : BlobFunction} {arrow : ArrowCrate}
    {params : ProcessParams} {batch : RecordBatch} {halt : Halt}
    (h : f.prepare params.arguments = .error halt) :
    (f.toScalar arrow).process arrow params batch = .error halt := by
  have hprepare : (f.toScalar arrow).prepare params.arguments = .error halt :=
    map_eq_error_iff.2 h
  exact bind_of_error hprepare _

theorem rowValue_toScalar (f : BlobFunction) (arrow : ArrowCrate)
    (imaging : Blob → Run (Option f.Row)) (col : ArrayRef) (i : ℕ) :
    (f.toScalar arrow).rowValue (onBlob imaging) [col] i =
      (blobBytes arrow col i >>= cellRow imaging) := by
  change ([col].mapM (fun column => blobBytes arrow column i) >>= onBlob imaging) = _
  cases h : blobBytes arrow col i with
  | error e => simp [h, bind, Except.bind]
  | ok cell => cases cell <;> simp [h, bind, Except.bind, pure, Except.pure, onBlob, cellRow]

/-- The row of a cell, whichever of the four column types carries it. -/
theorem rowValue_of_carries (f : BlobFunction) (arrow : ArrowCrate)
    (imaging : Blob → Run (Option f.Row)) {col : ArrayRef}
    {cells : List (Option Blob)} (hcells : Carries col cells) :
    (f.toScalar arrow).rowValue (onBlob imaging) [col] =
      fun i => cellRow imaging (cells[i]?).join := by
  funext i
  rw [rowValue_toScalar, blobBytes_of_carries arrow hcells]
  rfl

end CellRow

/-- The rows before the first failing cell fit the builders, and the offsets of
the result are exact. -/
def OutputFits {f : ScalarFunction} (spec : BuilderSpec f)
    (imaging : Blob → Run (Option f.Row)) (cells : List (Option Blob)) : Prop :=
  let rows := stretch (fun i => cellRow imaging (cells[i]?).join) cells.length
  spec.fits rows ∧ spec.readable rows

section Loop

variable {f : BlobFunction} {arrow : ArrowCrate} (spec : BuilderSpec (f.toScalar arrow))
variable {imaging : Blob → Run (Option f.Row)} {params : ProcessParams}
variable {batch : RecordBatch} {col : ArrayRef} {cells : List (Option Blob)} {name : String}

theorem numRows_eq (hcol : batch.columns[0]? = some col) (hcells : Carries col cells) :
    batch.numRows = cells.length := by
  rw [← hcells.len_eq]
  exact (batch.len_column col (List.mem_of_getElem? hcol)).symm

theorem join_getElem? {i : ℕ} (hi : i < cells.length) : (cells[i]?).join = cells[i] := by
  rw [List.getElem?_eq_getElem hi]
  rfl

/-- A cell succeeds when it has a row. -/
theorem succeeds_iff {ρ : Type} {imaging : Blob → Run (Option ρ)}
    (value : ρ → Arrow.Value) (cell : Option Blob) :
    Succeeds (fun bytes => (imaging bytes).map (Option.map value)) cell ↔
      ∃ v, cellRow imaging cell = .ok v := by
  rw [exists_cellRow_eq_ok_iff]
  refine forall₂_congr fun bytes _ => ?_
  cases h : imaging bytes <;> simp [h, Except.map]

/-- Every one of the first `k` cells succeeds when each of their rows does. -/
theorem forall_take_succeeds_iff {ρ : Type} (imaging : Blob → Run (Option ρ))
    (value : ρ → Arrow.Value) {k : ℕ} (hk : k ≤ cells.length) :
    (∀ cell ∈ cells.take k,
        Succeeds (fun bytes => (imaging bytes).map (Option.map value)) cell) ↔
      ∀ i < k, ∃ v, cellRow imaging (cells[i]?).join = .ok v := by
  simp only [succeeds_iff, List.mem_take_iff_getElem]
  constructor
  · intro h i hi
    rw [join_getElem? (by omega)]
    exact h _ ⟨i, by omega, rfl⟩
  · rintro h _ ⟨i, hi, rfl⟩
    have := h i (by omega)
    rwa [join_getElem? (by omega)] at this

/-- The first failing row, in terms of rows and in terms of cells. -/
theorem first_failing_iff {ρ : Type} {imaging : Blob → Run (Option ρ)}
    (value : ρ → Arrow.Value) {halt : Halt} :
    (∃ k < cells.length, cellRow imaging (cells[k]?).join = .error halt ∧
        ∀ i < k, ∃ v, cellRow imaging (cells[i]?).join = .ok v) ↔
      ∃ k bytes, cells[k]? = some (some bytes) ∧
        (imaging bytes).map (Option.map value) = .error halt ∧ ∀ cell ∈ cells.take k,
          Succeeds (fun bytes => (imaging bytes).map (Option.map value)) cell := by
  simp only [map_eq_error_iff]
  refine exists_congr fun k => ?_
  constructor
  · rintro ⟨hk, hrow, hprior⟩
    rw [join_getElem? hk, cellRow_eq_error_iff] at hrow
    obtain ⟨bytes, hcell, hhalt⟩ := hrow
    refine ⟨bytes, ?_, hhalt, ?_⟩
    · rw [List.getElem?_eq_getElem hk, hcell]
    · exact (forall_take_succeeds_iff imaging value hk.le).2 hprior
  · rintro ⟨bytes, hcell, hhalt, hprior⟩
    have hk : k < cells.length := (List.getElem?_eq_some_iff.1 hcell).1
    refine ⟨hk, ?_, (forall_take_succeeds_iff imaging value hk.le).1 hprior⟩
    rw [hcell, cellRow_eq_error_iff]
    exact ⟨bytes, rfl, hhalt⟩

/-- The output of a row is the imaging result on its cell. -/
theorem map_value_eq_cellValue {ρ : Type} {imaging : Blob → Run (Option ρ)}
    (value : ρ → Arrow.Value) {cell : Option Blob} {row : Option ρ}
    (h : cellRow imaging cell = .ok row) :
    row.map value =
      cellValue (fun bytes => (imaging bytes).map (Option.map value)) cell := by
  cases cell with
  | none =>
      cases h
      rfl
  | some bytes =>
      rw [cellRow] at h
      simp [cellValue, h, Except.map, Except.toOption]

section Process

variable (hprepare : f.prepare params.arguments = .ok imaging)
variable (hcol : batch.columns[0]? = some col) (hcells : Carries col cells)
include hprepare hcol hcells

theorem process_of_error {halt : Halt}
    (h : emitRows (fun i => cellRow imaging (cells[i]?).join) spec.fits .panic
      cells.length = .error halt) :
    (f.toScalar arrow).process arrow params batch = .error halt := by
  apply spec.process_of_emit_error arrow (toScalar_prepare hprepare)
    (mapM_inputs_of_column hcol)
  rw [BuilderSpec.emit, rowValue_of_carries f arrow imaging hcells, numRows_eq hcol hcells]
  exact h

theorem process_of_ok
    (hschema : params.outputSchema = ⟨[⟨name, spec.dataType, true⟩]⟩)
    {rows : List (Option f.Row)}
    (h : emitRows (fun i => cellRow imaging (cells[i]?).join) spec.fits .panic
      cells.length = .ok rows) :
    ∃ column, Column spec.dataType spec.value spec.readable column rows ∧
      (f.toScalar arrow).process arrow params batch =
        .ok (.single params.outputSchema column) := by
  apply spec.process_of_emit_ok_of_schema arrow (toScalar_prepare hprepare)
    (mapM_inputs_of_column hcol) hschema
  rw [BuilderSpec.emit, rowValue_of_carries f arrow imaging hcells, numRows_eq hcol hcells]
  exact h

end Process

section Outcome

variable (hroom : HasRoom (fun i => cellRow imaging (cells[i]?).join) spec.fits cells.length)
include hroom

theorem exists_emit_iff_succeeds :
    (∃ rows, emitRows (fun i => cellRow imaging (cells[i]?).join) spec.fits .panic
        cells.length = .ok rows) ↔
      ∀ cell ∈ cells,
        Succeeds (fun bytes => (imaging bytes).map (Option.map spec.value)) cell := by
  have hall := forall_take_succeeds_iff imaging spec.value (le_refl cells.length)
  rw [List.take_length] at hall
  rw [hall, exists_emitRows_eq_ok_iff Halt.panic hroom]

theorem rowWise_of_emit_error {halt : Halt}
    (hemit : emitRows (fun i => cellRow imaging (cells[i]?).join) spec.fits .panic
      cells.length = .error halt) :
    RowWise (fun bytes => (imaging bytes).map (Option.map spec.value)) cells
      (.error halt) where
  succeeds_iff := by
    rw [← exists_emit_iff_succeeds spec hroom, hemit]
    simp
  fails_iff halt' := by
    rw [← first_failing_iff spec.value, ← emitRows_eq_error_iff_of_hasRoom hroom, hemit,
      Except.error.injEq, Except.error.injEq]
  output := nofun

theorem rowWise_of_emit_ok {schema : Schema} {column : ArrayRef} {rows : List (Option f.Row)}
    (hemit : emitRows (fun i => cellRow imaging (cells[i]?).join) spec.fits .panic
      cells.length = .ok rows)
    (hcolumn : Column spec.dataType spec.value spec.readable column rows)
    (hreadable : spec.readable rows) :
    RowWise (fun bytes => (imaging bytes).map (Option.map spec.value)) cells
      (.ok (.single schema column)) where
  succeeds_iff := by
    rw [← exists_emit_iff_succeeds spec hroom, hemit]
    simp
  fails_iff halt := by
    rw [← first_failing_iff spec.value, ← emitRows_eq_error_iff_of_hasRoom hroom, hemit]
    simp
  output := by
    rintro out ⟨⟩
    obtain ⟨hlength, hvalues⟩ := (emitRows_eq_ok_iff_of_hasRoom hroom).1 hemit
    refine ⟨column, rfl, hcolumn.len_eq.trans hlength, fun i hi => ?_, ?_⟩
    · have hrow : cellRow imaging (cells[i]?).join = .ok rows[i] := hvalues i (by omega)
      rw [join_getElem? hi] at hrow
      have hout : (rows[i]?).join = rows[i] := by
        rw [List.getElem?_eq_getElem]
        rfl
      rw [← map_value_eq_cellValue spec.value hrow, hcolumn.isNull_eq,
        hcolumn.value_eq hreadable, hout, Option.isNone_map]
      exact ⟨rfl, rfl⟩
    · intro fields children validity hstruct
      rw [← hlength]
      exact hcolumn.aligned hstruct

end Outcome

/-- A blob function under its own schema, on cells whose output fits. -/
theorem rowWise_of_outputFits (hprepare : f.prepare params.arguments = .ok imaging)
    (hschema : params.outputSchema = ⟨[⟨name, spec.dataType, true⟩]⟩)
    (hcol : batch.columns[0]? = some col) (hcells : Carries col cells)
    (hfits : OutputFits spec imaging cells) :
    RowWise (fun bytes => (imaging bytes).map (Option.map spec.value)) cells
      ((f.toScalar arrow).process arrow params batch) := by
  have hroom : HasRoom (fun i => cellRow imaging (cells[i]?).join) spec.fits cells.length :=
    (hasRoom_iff fun _ _ => spec.fits_of_concat).2 hfits.1
  cases hemit : emitRows (fun i => cellRow imaging (cells[i]?).join) spec.fits .panic
      cells.length with
  | error halt =>
      rw [process_of_error spec hprepare hcol hcells hemit]
      exact rowWise_of_emit_error spec hroom hemit
  | ok rows =>
      obtain ⟨column, hcolumn, hprocess⟩ :=
        process_of_ok spec hprepare hcol hcells hschema hemit
      obtain ⟨hlength, hvalues⟩ := (emitRows_eq_ok_iff_of_hasRoom hroom).1 hemit
      rw [hprocess]
      exact rowWise_of_emit_ok spec hroom hemit hcolumn
        (stretch_eq_of_isPrefix hvalues hlength ▸ hfits.2)

end Loop

/-! ## What each function computes -/

/-- The struct `image_info` reports, with the size as it was decoded. -/
def infoValue (info : Imaging.ImageInfo) : Arrow.Value :=
  .struct [some (.text info.format), some (.int info.width.toNat),
    some (.int info.height.toNat), some (.text info.color), some (.boolean info.hasAlpha)]

def gpsValue (gps : Gps) : Arrow.Value :=
  .struct [some (.float gps.lat), some (.float gps.lon)]

/-- The imaging result of a function under its constant arguments, as a logical
value. -/
inductive Computes (crates : Crates) (args : Arguments) :
    BlobName → (Blob → Run (Option Arrow.Value)) → Prop
  | imageInfo : Computes crates args .imageInfo fun bytes =>
      (liftImg (imageInfo crates.image bytes)).map fun info => some (infoValue info)
  | exif : Computes crates args .exif fun bytes =>
      (liftImg (exif crates.exif bytes)).map fun pairs => some (mapValue pairs)
  | exifGps : Computes crates args .exifGps fun bytes =>
      (liftImg (exifGps crates.exif bytes)).map (Option.map gpsValue)
  | phash : Computes crates args .phash fun bytes =>
      (liftImg (perceptualHash crates.image crates.hasher bytes .perceptual)).map fun hash =>
        some (PerceptualHash.hashValue hash)
  | dhash : Computes crates args .dhash fun bytes =>
      (liftImg (perceptualHash crates.image crates.hasher bytes .difference)).map fun hash =>
        some (PerceptualHash.hashValue hash)
  | ahash : Computes crates args .ahash fun bytes =>
      (liftImg (perceptualHash crates.image crates.hasher bytes .average)).map fun hash =>
        some (PerceptualHash.hashValue hash)
  | thumbnail : Computes crates args .thumbnail fun bytes =>
      (callThumbnail crates.image bytes 128 128 .jpeg).map fun out => some (blobValue out)
  | thumbnailFit {w h : UInt32} {fmt : OutFormat}
      (hwidth : dimAt args 1 "width" = .ok w) (hheight : dimAt args 2 "height" = .ok h)
      (hfmt : formatAt args 3 ThumbnailFit.missingFormat = .ok fmt) :
      Computes crates args .thumbnailFit fun bytes =>
        (callThumbnail crates.image bytes w h fmt).map fun out => some (blobValue out)
  | convert {fmt : OutFormat} (hfmt : formatAt args 1 Convert.missingFormat = .ok fmt) :
      Computes crates args .convert fun bytes =>
        (callConvert crates.image bytes fmt).map fun out => some (blobValue out)

/-- Neither side of a decoded image wraps in the cast. -/
theorem sides_lt_of_imageInfo {crate : ImageCrate} (laws : DecodeLaws crate) {blob : Blob}
    {info : Imaging.ImageInfo} (h : imageInfo crate blob = .ok info) :
    info.width.toNat < 2 ^ 31 ∧ info.height.toNat < 2 ^ 31 := by
  cases hopen : openImage crate blob with
  | error e =>
      rw [imageInfo_eq_error_iff.2 hopen] at h
      cases h
  | ok opened =>
      rw [imageInfo_of_openImage hopen] at h
      cases h
      obtain ⟨hwidth, hheight, hbytes, hlimit⟩ :=
        laws.admitted (openImage_eq_ok_iff.1 hopen).2
      rw [UInt32.lt_iff_toNat_lt] at hwidth hheight
      change 0 < opened.2.width.toNat at hwidth
      change 0 < opened.2.height.toNat at hheight
      have hlt : decodeLimit < 2 ^ 31 := by decide
      constructor
      · calc
          opened.2.width.toNat ≤ opened.2.width.toNat * opened.2.height.toNat :=
            Nat.le_mul_of_pos_right _ hheight
          _ ≤ pixelBytes opened.2.width opened.2.height opened.2.color :=
            Nat.le_mul_of_pos_right _ hbytes
          _ < 2 ^ 31 := hlimit.trans_lt hlt
      · calc
          opened.2.height.toNat ≤ opened.2.width.toNat * opened.2.height.toNat :=
            Nat.le_mul_of_pos_left _ hwidth
          _ ≤ pixelBytes opened.2.width opened.2.height opened.2.color :=
            Nat.le_mul_of_pos_right _ hbytes
          _ < 2 ^ 31 := hlimit.trans_lt hlt

section Computes

variable {crates : Crates} {args : Arguments}

/-- What a function computes is what its argument stage yields. -/
theorem Computes.exists_prepare (laws : DecodeLaws crates.image) {name : BlobName}
    {imaging : Blob → Run (Option Arrow.Value)}
    (h : Computes crates args name imaging) :
    ∃ rowOf, (name.function crates).prepare args = .ok rowOf ∧
      imaging = fun bytes => (rowOf bytes).map (Option.map (name.spec crates).value) := by
  have hmap : ∀ {α β : Type} (result : Run α) (value : α → β),
      result.map (fun v => some (value v)) = (result.map some).map (Option.map value) := by
    intro α β result value
    cases result <;> rfl
  cases h
  case imageInfo =>
    refine ⟨_, rfl, funext fun bytes => ?_⟩
    cases hinfo : Imaging.imageInfo crates.image bytes with
    | error e => rfl
    | ok info =>
        obtain ⟨hwidth, hheight⟩ := sides_lt_of_imageInfo laws hinfo
        change (Except.ok (some (infoValue info)) : Run _) = .ok (some (Arrow.Value.struct
          (ImageInfo.reads.map fun read => some (read info))))
        simp [infoValue, ImageInfo.reads, toInt_toInt32 hwidth, toInt_toInt32 hheight]
  case exifGps => exact ⟨_, rfl, rfl⟩
  case thumbnailFit w h fmt hwidth hheight hfmt =>
    exact ⟨_, reencoder_prepare (ThumbnailFit.prepare_eq crates hwidth hheight hfmt),
      funext fun bytes => hmap _ _⟩
  case convert fmt hfmt =>
    exact ⟨_, reencoder_prepare (Convert.prepare_eq crates hfmt),
      funext fun bytes => hmap _ _⟩
  case thumbnail =>
    exact ⟨_, reencoder_prepare (Thumbnail.prepare_eq crates args),
      funext fun bytes => hmap _ _⟩
  all_goals exact ⟨_, rfl, funext fun bytes => hmap _ _⟩

/-- Arguments accepted at bind determine what is computed. -/
theorem exists_computes {name : BlobName} {bound : BindResponse}
    (hbind : (name.function crates).onBind ⟨args⟩ = .ok bound) :
    ∃ imaging, Computes crates args name imaging := by
  cases name
  case imageInfo => exact ⟨_, .imageInfo⟩
  case exif => exact ⟨_, .exif⟩
  case exifGps => exact ⟨_, .exifGps⟩
  case phash => exact ⟨_, .phash⟩
  case dhash => exact ⟨_, .dhash⟩
  case ahash => exact ⟨_, .ahash⟩
  case thumbnail => exact ⟨_, .thumbnail⟩
  case thumbnailFit =>
    obtain ⟨-, ⟨w, hwidth⟩, ⟨height, hheight⟩, fmt, hfmt⟩ := onBind_thumbnailFit hbind
    exact ⟨_, .thumbnailFit hwidth hheight hfmt⟩
  case convert =>
    obtain ⟨-, fmt, hfmt⟩ := onBind_convert hbind
    exact ⟨_, .convert hfmt⟩

end Computes

theorem formatAt_bmp : formatAt (formatArguments 1 "bmp") 1 Convert.missingFormat =
    .ok .bmp := by
  decide +kernel

theorem onBind_convert_bmp (exif : ExifCrate) :
    (BlobName.convert.function (referenceCrates exif)).onBind
      ⟨formatArguments 1 "bmp"⟩ = .ok (singleColumnBind.bindResult (.scalar .binary)) :=
  bind_of_ok formatAt_bmp _

end VgiImage.Scalar
