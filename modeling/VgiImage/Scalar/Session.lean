import VgiImage.Core.Batches
import VgiImage.Scalar.ExifKeys
import VgiImage.Scalar.Reading

/-!
# Sessions

A call is bound once and then fed one batch after another.  Under every bound
call a batch ends in one of three ways, decided by its rows alone: the output
column, the error of the first row that has none, or a panic when the rows
before it outgrow the builders or its image the pixel buffer.
-/

namespace VgiImage.Scalar

open Arrow ArrowIo Imaging Outcome RowLoop

/-- One call on one batch: `on_bind` publishes the output schema, `process`
runs under it. -/
def ScalarFunction.call (f : ScalarFunction) (arrow : ArrowCrate) (args : Arguments)
    (batch : RecordBatch) : Run RecordBatch := do
  let bound ← f.onBind ⟨args⟩
  f.process arrow ⟨bound.outputSchema, args⟩ batch

/-- A call bound once and run on a stream of batches, up to the first that
fails. -/
def ScalarFunction.session (f : ScalarFunction) (arrow : ArrowCrate) (args : Arguments)
    (batches : List RecordBatch) : Run (List RecordBatch) := do
  let bound ← f.onBind ⟨args⟩
  batches.mapM (f.process arrow ⟨bound.outputSchema, args⟩)

/-- Batches whose rows compute the same are processed alike. -/
theorem ScalarFunction.process_congr (f : ScalarFunction) (arrow : ArrowCrate)
    {params : ProcessParams} {batch batch' : RecordBatch} {columns columns' : List ArrayRef}
    (hcolumns : f.inputs.mapM batch.column = .ok columns)
    (hcolumns' : f.inputs.mapM batch'.column = .ok columns')
    (hrows : batch.numRows = batch'.numRows)
    (h : ∀ evalRow, f.prepare params.arguments = .ok evalRow → ∀ i < batch'.numRows,
      f.rowValue evalRow columns i = f.rowValue evalRow columns' i) :
    f.process arrow params batch = f.process arrow params batch' := by
  rw [process, process, hrows, hcolumns, hcolumns']
  cases hprepare : f.prepare params.arguments with
  | error halt => rfl
  | ok evalRow =>
      have hloop : runRows (f.step evalRow columns) f.new batch'.numRows =
          runRows (f.step evalRow columns') f.new batch'.numRows := by
        apply runRows_congr
        intro i hi builders
        rw [step, step, h evalRow hprepare i hi]
      change (runRows _ _ _ >>= _) = (runRows _ _ _ >>= _)
      rw [hloop]

/-! ## Arguments accepted at bind -/

section Bind

variable {crates : Crates} {args : Arguments} {bound : BindResponse}

/-- What the bind accepts, the argument stage of a batch accepts. -/
theorem exists_prepare_of_bind (name : FunctionName)
    (hbind : (name.function crates).onBind ⟨args⟩ = .ok bound) :
    ∃ evalRow, (name.function crates).prepare args = .ok evalRow := by
  rcases name with name | _
  · suffices h : ∃ imaging, (name.function crates).prepare args = .ok imaging by
      obtain ⟨imaging, himaging⟩ := h
      exact ⟨_, toScalar_prepare himaging⟩
    cases name
    case thumbnail => exact ⟨_, reencoder_prepare (Thumbnail.prepare_eq crates args)⟩
    case thumbnailFit =>
      obtain ⟨-, ⟨w, hw⟩, ⟨h, hh⟩, fmt, hfmt⟩ := onBind_thumbnailFit hbind
      exact ⟨_, reencoder_prepare (ThumbnailFit.prepare_eq crates hw hh hfmt)⟩
    case convert =>
      obtain ⟨-, fmt, hfmt⟩ := onBind_convert hbind
      exact ⟨_, reencoder_prepare (Convert.prepare_eq crates hfmt)⟩
    all_goals exact ⟨_, rfl⟩
  · exact ⟨_, rfl⟩

/-- The schema published at bind is one nullable column of the type the
function builds. -/
theorem exists_outputSchema (hvgi : VgiLaws crates.vgi) (name : FunctionName)
    (hbind : (name.function crates).onBind ⟨args⟩ = .ok bound) :
    ∃ field, bound.outputSchema = ⟨[⟨field, (name.spec crates).dataType, true⟩]⟩ := by
  rw [onBind_eq name hbind]
  exact hvgi.exists_field _

end Bind

/-- A call that goes row by row through all cells. -/
theorem RowWise.exists_output {imaging : Blob → Run (Option Arrow.Value)}
    {cells : List (Option Blob)} {result : Run RecordBatch} (h : RowWise imaging cells result)
    (hcells : ∀ cell ∈ cells, Succeeds imaging cell) :
    ∃ out column, result = .ok out ∧ out.columns = [column] ∧ out.numRows = cells.length ∧
      ∀ (i : ℕ) (hi : i < cells.length), column.isNull i = (cellValue imaging cells[i]).isNone ∧
        column.value i = cellValue imaging cells[i] := by
  obtain ⟨out, hout⟩ := h.succeeds_iff.2 hcells
  obtain ⟨column, hcolumns, hrows, hvalues, -⟩ := h.output hout
  exact ⟨out, column, hout, hcolumns, hrows, hvalues⟩

/-! ## Errors of a row -/

section Rows

variable {crates : Crates} {name : FunctionName} {args : Arguments} {halt : Halt}
variable {evalRow : List (Option (name.function crates).Cell) →
  Run (Option (name.function crates).Row)}

/-- An error the worker reports as a bad value. -/
def IsValueError (halt : Halt) : Prop := ∃ message, halt = .error (.valueError message)

theorem isValueError_of_readCell {column : ArrayRef} {i : ℕ}
    (h : (name.function crates).readCell column i = .error halt) : IsValueError halt := by
  obtain ⟨hmarked, hvalue, -⟩ := readCell_spec crates name column i
  have hnull : column.isNull i = false := by
    by_contra hnull
    rw [hmarked (by simpa using hnull)] at h
    cases h
  have hreads : ¬ name.Reads column.dataType := by
    intro hreads
    obtain ⟨cell, hcell⟩ := hvalue hnull hreads
    rw [hcell] at h
    cases h
  rcases name with name | _
  · rw [← carries_iff_reads, not_exists] at hreads
    cases (blobBytes_of_not_carries crates.arrow hreads hnull).symm.trans h
    exact ⟨_, rfl⟩
  · cases (hashBits_of_not_reads crates.arrow hreads hnull).symm.trans h
    exact ⟨_, rfl⟩

theorem PhashDistance.evalRow_ne_error (cells : List (Option UInt64)) :
    PhashDistance.evalRow cells ≠ .error halt := by
  unfold PhashDistance.evalRow
  split <;> simp

theorem exists_of_onBlob_eq_error {ρ : Type} {imaging : Blob → Run (Option ρ)}
    {cells : List (Option Blob)} (h : onBlob imaging cells = .error halt) :
    ∃ bytes, imaging bytes = .error halt := by
  unfold onBlob at h
  split at h
  · exact ⟨_, h⟩
  · cases h

/-- What fails on the cells of a row fails on a blob among them. -/
theorem exists_rowOf_of_evalRow (hprepare : (name.function crates).prepare args = .ok evalRow)
    {cells : List (Option (name.function crates).Cell)} (h : evalRow cells = .error halt) :
    ∃ (blobName : BlobName) (rowOf : Blob → Run (Option (blobName.function crates).Row))
      (bytes : Blob), name = .blob blobName ∧
        (blobName.function crates).prepare args = .ok rowOf ∧ rowOf bytes = .error halt := by
  rcases name with name | _
  · obtain ⟨rowOf, hrowOf, rfl⟩ := map_eq_ok_iff.1 hprepare
    obtain ⟨bytes, hfail⟩ := exists_of_onBlob_eq_error h
    exact ⟨name, rowOf, bytes, rfl, hrowOf, hfail⟩
  · cases hprepare
    exact absurd h (PhashDistance.evalRow_ne_error cells)

/-- A row that fails with an error is answered with a value error. -/
theorem exists_valueError_of_rowValue
    (hprepare : (name.function crates).prepare args = .ok evalRow) {columns : List ArrayRef}
    {i : ℕ} {e : RpcError}
    (h : (name.function crates).rowValue evalRow columns i = .error (.error e)) :
    ∃ message, e = .valueError message := by
  rcases bind_eq_error_iff.1 h with hcells | ⟨cells, -, hrow⟩
  · obtain ⟨k, ⟨column, -, hcell⟩, -⟩ := mapM_eq_error_iff.1 hcells
    obtain ⟨message, hmessage⟩ := isValueError_of_readCell hcell
    exact ⟨message, Halt.error.inj hmessage⟩
  · obtain ⟨_, _, _, -, hrowOf, hfail⟩ := exists_rowOf_of_evalRow hprepare hrow
    exact exists_valueError_of_rowOf hrowOf hfail

end Rows

/-! ## Panics of a row -/

/-- The image that row `i` reads is scaled past the pixel buffer. -/
def OversizedRow (crates : Crates) (args : Arguments) (name : FunctionName)
    (columns : List ArrayRef) (i : ℕ) : Prop :=
  ∃ blobName transform col, name = .blob blobName ∧ columns = [col] ∧
    Asks args blobName transform ∧ Oversized crates transform col i

section Panics

variable {crates : Crates} {name : FunctionName} {args : Arguments}
variable {evalRow : List (Option (name.function crates).Cell) →
  Run (Option (name.function crates).Row)}
variable {batch : RecordBatch} {columns : List ArrayRef} {i : ℕ}

theorem columnRow_eq_panic_iff_oversized {blobName : BlobName} {col : ArrayRef}
    {rowOf : Blob → Run (Option (blobName.function crates).Row)}
    (hrowOf : (blobName.function crates).prepare args = .ok rowOf) :
    columnRow crates.arrow rowOf col i = .error .panic ↔
      ∃ transform, Asks args blobName transform ∧ Oversized crates transform col i := by
  rw [columnRow_eq_panic_iff]
  simp only [rowOf_eq_panic_iff hrowOf]
  constructor
  · rintro ⟨bytes, hcell, transform, hasks, img, hdecode, hover⟩
    exact ⟨transform, hasks, bytes, img, hcell, hdecode, hover⟩
  · rintro ⟨transform, hasks, bytes, img, hcell, hdecode, hover⟩
    exact ⟨bytes, hcell, transform, hasks, img, hdecode, hover⟩

theorem rowValue_eq_panic_iff (hprepare : (name.function crates).prepare args = .ok evalRow)
    (hcolumns : (name.function crates).inputs.mapM batch.column = .ok columns) :
    (name.function crates).rowValue evalRow columns i = .error .panic ↔
      OversizedRow crates args name columns i := by
  rcases name with name | _
  · obtain ⟨rowOf, hrowOf, rfl⟩ := map_eq_ok_iff.1 hprepare
    obtain ⟨col, _, -, hrest, rfl⟩ :=
      List.forall₂_cons_left_iff.1 (mapM_eq_ok_iff.1 hcolumns)
    cases hrest
    have hpanic := @columnRow_eq_panic_iff_oversized crates args i name col rowOf hrowOf
    rw [← rowValue_eq_columnRow rowOf] at hpanic
    refine hpanic.trans ?_
    constructor
    · rintro ⟨transform, hasks, hover⟩
      exact ⟨name, transform, col, rfl, rfl, hasks, hover⟩
    · rintro ⟨_, transform, _, ⟨⟩, ⟨⟩, hasks, hover⟩
      exact ⟨transform, hasks, hover⟩
  · constructor
    · intro h
      rcases bind_eq_error_iff.1 h with hcells | ⟨cells, -, hrow⟩
      · obtain ⟨k, ⟨column, -, hcell⟩, -⟩ := mapM_eq_error_iff.1 hcells
        obtain ⟨message, hmessage⟩ := isValueError_of_readCell hcell
        cases hmessage
      · cases hprepare
        exact absurd hrow (PhashDistance.evalRow_ne_error cells)
    · rintro ⟨_, _, _, hname, -⟩
      cases hname

end Panics

/-! ## The outcome of a batch -/

/-- The batch `out` is one column, under the given schema, that holds `rows`. -/
def Emitted {f : ScalarFunction} (spec : BuilderSpec f) (schema : Schema) (out : RecordBatch)
    (rows : List (Option f.Row)) : Prop :=
  ∃ column, Column spec.dataType spec.value spec.readable column rows ∧
    out = .single schema column

/-- What a call makes of a batch of `count` rows that compute `row`, some of them
`oversized`. -/
structure CallOutcome {f : ScalarFunction} (spec : BuilderSpec f) (schema : Schema)
    (row : ℕ → Run (Option f.Row)) (oversized : ℕ → Prop) (count : ℕ)
    (result : Run RecordBatch) : Prop where
  /-- A panic means that the rows before the first failing one do not fit, or that
  it is oversized. -/
  panic_iff : result = .error .panic ↔ ¬ spec.fits (stretch row count) ∨
    ∃ k < count, oversized k ∧ ∀ i < k, ∃ v, row i = .ok v
  /-- An error is that of the first failing row. -/
  error_iff (e : RpcError) : result = .error (.error e) ↔
    spec.fits (stretch row count) ∧
      ∃ k < count, row k = .error (.error e) ∧ ∀ i < k, ∃ v, row i = .ok v
  valueError {e : RpcError} (h : result = .error (.error e)) : ∃ message, e = .valueError message
  ok_iff : (∃ out, result = .ok out) ↔
    spec.fits (stretch row count) ∧ ∀ i < count, ∃ v, row i = .ok v
  /-- The output has the published schema and one row for each row. -/
  output {out : RecordBatch} (h : result = .ok out) :
    out.schema = schema ∧ out.numRows = count ∧
      ∃ column values, out.columns = [column] ∧ values.length = count ∧ IsPrefix row values ∧
        Column spec.dataType spec.value spec.readable column values

/-- Under a schema of one nullable column of the function's type, a call does what
its abstract loop does. -/
theorem BuilderSpec.process_agrees {f : ScalarFunction} (spec : BuilderSpec f)
    (arrow : ArrowCrate) {args : Arguments}
    {evalRow : List (Option f.Cell) → Run (Option f.Row)}
    (hprepare : f.prepare args = .ok evalRow) {schema : Schema} {field : String}
    (hschema : schema = ⟨[⟨field, spec.dataType, true⟩]⟩) {batch : RecordBatch}
    {columns : List ArrayRef} (hcolumns : f.inputs.mapM batch.column = .ok columns) :
    Agrees (Emitted spec schema) (f.process arrow ⟨schema, args⟩ batch)
      (spec.emit evalRow columns batch.numRows) := by
  let params : ProcessParams := ⟨schema, args⟩
  have hprepare' : f.prepare params.arguments = .ok evalRow := hprepare
  have hschema' : params.outputSchema = ⟨[⟨field, spec.dataType, true⟩]⟩ := hschema
  cases hemit : spec.emit evalRow columns batch.numRows with
  | error e =>
      rw [spec.process_of_emit_error arrow hprepare' hcolumns hemit]
      exact .error e
  | ok rows =>
      obtain ⟨column, hcolumn, hprocess⟩ :=
        spec.process_of_emit_ok_of_schema arrow hprepare' hcolumns hschema' hemit
      rw [hprocess]
      exact .ok ⟨column, hcolumn, rfl⟩

/-- A blob function on a column of cells does what the loop over the cells does. -/
theorem BuilderSpec.process_agrees_cells {f : BlobFunction} {arrow : ArrowCrate}
    (spec : BuilderSpec (f.toScalar arrow)) {args : Arguments}
    {imaging : Blob → Run (Option f.Row)} (hprepare : f.prepare args = .ok imaging)
    {schema : Schema} {field : String} (hschema : schema = ⟨[⟨field, spec.dataType, true⟩]⟩)
    {batch : RecordBatch} {col : ArrayRef} {cells : List (Option Blob)}
    (hcol : batch.columns[0]? = some col) (hcells : Carries col cells) :
    Agrees (Emitted spec schema) ((f.toScalar arrow).process arrow ⟨schema, args⟩ batch)
      (emitRows (fun i => cellRow imaging (cells[i]?).join) spec.fits .panic cells.length) := by
  have hagrees := spec.process_agrees arrow (toScalar_prepare hprepare) hschema
    (mapM_inputs_of_column hcol)
  rwa [BuilderSpec.emit, rowValue_of_carries f arrow imaging hcells,
    numRows_eq hcol hcells] at hagrees

section Outcome

variable {crates : Crates} {name : FunctionName} {args : Arguments}
variable {evalRow : List (Option (name.function crates).Cell) →
  Run (Option (name.function crates).Row)}
variable {batch : RecordBatch} {columns : List ArrayRef}

/-- A bound call returns the output column, the error of the first row that has
none, or panics when the rows before it outgrow the builders or its image the
pixel buffer; it never ends with a runtime error. -/
theorem process_outcome (hvgi : VgiLaws crates.vgi) {bound : BindResponse}
    (hbind : (name.function crates).onBind ⟨args⟩ = .ok bound)
    (hprepare : (name.function crates).prepare args = .ok evalRow)
    (hcolumns : (name.function crates).inputs.mapM batch.column = .ok columns) :
    CallOutcome (name.spec crates) bound.outputSchema
      ((name.function crates).rowValue evalRow columns) (OversizedRow crates args name columns)
      batch.numRows
      ((name.function crates).process crates.arrow ⟨bound.outputSchema, args⟩ batch) := by
  obtain ⟨field, hschema⟩ := exists_outputSchema hvgi name hbind
  have hagrees := (name.spec crates).process_agrees crates.arrow hprepare hschema hcolumns
  have hmono : ∀ out row, (name.spec crates).fits (out ++ [row]) → (name.spec crates).fits out :=
    fun _ _ => (name.spec crates).fits_of_concat
  have herror : ∀ e, (name.function crates).process crates.arrow ⟨bound.outputSchema, args⟩
      batch = .error e ↔ (name.spec crates).emit evalRow columns batch.numRows = .error e :=
    fun e => ⟨hagrees.right_error, hagrees.left_error⟩
  have hfirst : ∀ e, (name.function crates).process crates.arrow ⟨bound.outputSchema, args⟩
      batch = .error (.error e) ↔ _ := fun e =>
    (herror (.error e)).trans (emitRows_eq_error_iff_of_ne_full (name.spec crates).fits_nil
      hmono (Halt.noConfusion : Halt.error e ≠ .panic))
  have hpanic := (herror .panic).trans (emitRows_eq_full_iff (name.spec crates).fits_nil hmono)
  simp only [rowValue_eq_panic_iff hprepare hcolumns] at hpanic
  refine ⟨hpanic, hfirst, fun h => ?_, ?_, fun h => ?_⟩
  · obtain ⟨-, k, -, hk, -⟩ := (hfirst _).1 h
    exact exists_valueError_of_rowValue hprepare hk
  · exact hagrees.exists_ok_iff.trans (exists_emitRows_iff (name.spec crates).fits_nil hmono)
  · obtain ⟨rows, hemit, column, hcolumn, rfl⟩ := hagrees.exists_of_left_ok h
    obtain ⟨hlength, hvalues, -⟩ := emitRows_eq_ok_iff.1 hemit
    exact ⟨rfl, hcolumn.len_eq.trans hlength, column, rows, rfl, hlength, hvalues, hcolumn⟩

end Outcome

/-- A column that holds no hashes next to one that does. -/
def textBatch : RecordBatch where
  schema := ⟨[⟨"a", .scalar .utf8, true⟩, ⟨"b", .scalar .uint64, true⟩]⟩
  columns := [.scalar (.utf8 [none, some "5"]), .scalar (.uint64 [some 3, some 5])]
  numRows := 2
  len_column := by decide

theorem process_outcome_textBatch :
    CallOutcome (FunctionName.spec (referenceCrates noExif) .phashDistance)
      (resultParams (.scalar .int32)).outputSchema
      ((FunctionName.function (referenceCrates noExif) .phashDistance).rowValue
        PhashDistance.evalRow textBatch.columns)
      (OversizedRow (referenceCrates noExif) noArguments .phashDistance textBatch.columns) 2
      ((FunctionName.function (referenceCrates noExif) .phashDistance).process arrowNames
        (resultParams (.scalar .int32)) textBatch) :=
  @process_outcome (referenceCrates noExif) .phashDistance noArguments PhashDistance.evalRow
    textBatch textBatch.columns singleColumnBind_laws _ rfl rfl rfl

end VgiImage.Scalar
