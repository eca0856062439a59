import VgiImage.ArrowIo
import VgiImage.Imaging.Exif
import VgiImage.Imaging.Hash

/-!
# Scalar functions and their row loops

Every registered function processes a batch the same way: it reads its constant
arguments, takes its input columns, appends one output row for each input row,
and returns the finished column under the schema published at bind.  What a
function adds is how it reads a cell, what it computes from the cells of a row,
and which builders it appends to.  A `BuilderSpec` says what those builders
hold after some rows; with it the row loop of a function is the abstract loop
`emitRows`.
-/

namespace VgiImage.Scalar

open Arrow ArrowIo Imaging Outcome RowLoop

/-- A `u32` below `2^31` keeps its value in the cast to `i32`. -/
theorem toInt_toInt32 {x : UInt32} (h : x.toNat < 2 ^ 31) : x.toInt32.toInt = x.toNat := by
  change x.toBitVec.toInt = _
  rw [BitVec.toInt_eq_toNat_of_lt]
  · rfl
  · rw [UInt32.toNat_toBitVec]
    omega

/-! ## The function interface -/

/-- The constant arguments of a call, by position. -/
structure Arguments where
  constI64 : ℕ → Option Int64
  constStr : ℕ → Option String

structure BindParams where
  arguments : Arguments

structure BindResponse where
  outputSchema : Schema

structure ProcessParams where
  outputSchema : Schema
  arguments : Arguments

/-- The function of the `vgi` crate the binds call. -/
structure VgiCrate where
  /-- `BindResponse::result(data_type)` -/
  bindResult : DataType → BindResponse

/-- A bind result declares one nullable column of the given type. -/
structure VgiLaws (vgi : VgiCrate) : Prop where
  exists_field (dataType : DataType) :
    ∃ name, (vgi.bindResult dataType).outputSchema = ⟨[⟨name, dataType, true⟩]⟩

/-- The crates the functions rest on. -/
structure Crates where
  image : ImageCrate
  exif : ExifCrate
  hasher : HasherCrate
  arrow : ArrowCrate
  vgi : VgiCrate

structure ScalarFunction where
  name : String
  onBind : BindParams → Run BindResponse
  /-- What is read from one slot of an input column. -/
  Cell : Type
  /-- What an output row that is not NULL is made of. -/
  Row : Type
  Builders : Type
  /-- Positions of the input columns, in the order a row reads them. -/
  inputs : List ℕ
  readCell : ArrayRef → ℕ → Run (Option Cell)
  /-- The argument stage, which yields what is computed from the cells of a
  row. -/
  prepare : Arguments → Run (List (Option Cell) → Run (Option Row))
  new : Builders
  append : Builders → Option Row → Run Builders
  finish : Builders → Run ArrayRef

namespace ScalarFunction

variable (f : ScalarFunction)

/-- What row `i` of the input columns computes. -/
def rowValue (evalRow : List (Option f.Cell) → Run (Option f.Row))
    (columns : List ArrayRef) (i : ℕ) : Run (Option f.Row) := do
  let cells ← columns.mapM fun column => f.readCell column i
  evalRow cells

/-- The body of the row loop. -/
def step (evalRow : List (Option f.Cell) → Run (Option f.Row))
    (columns : List ArrayRef) (builders : f.Builders) (i : ℕ) : Run f.Builders := do
  let row ← f.rowValue evalRow columns i
  f.append builders row

def process (arrow : ArrowCrate) (params : ProcessParams) (batch : RecordBatch) :
    Run RecordBatch := do
  let evalRow ← f.prepare params.arguments
  let columns ← f.inputs.mapM batch.column
  let builders ← runRows (f.step evalRow columns) f.new batch.numRows
  let out ← f.finish builders
  arrow.lift (RecordBatch.tryNew params.outputSchema [out])

end ScalarFunction

/-! ## Blob functions -/

/-- A function of one blob column: `imaging` computes its row from the bytes
of a cell. -/
structure BlobFunction where
  name : String
  onBind : BindParams → Run BindResponse
  Row : Type
  Builders : Type
  prepare : Arguments → Run (Blob → Run (Option Row))
  new : Builders
  append : Builders → Option Row → Run Builders
  finish : Builders → Run ArrayRef

/-- `match blob_bytes(col, i)? { None => NULL, Some(bytes) => imaging(bytes)? }` -/
def onBlob {ρ : Type} (imaging : Blob → Run (Option ρ)) : List (Option Blob) → Run (Option ρ)
  | [some bytes] => imaging bytes
  | _ => .ok none

abbrev BlobFunction.toScalar (f : BlobFunction) (arrow : ArrowCrate) : ScalarFunction where
  name := f.name
  onBind := f.onBind
  Cell := Blob
  Row := f.Row
  Builders := f.Builders
  inputs := [0]
  readCell := blobBytes arrow
  prepare args := (f.prepare args).map onBlob
  new := f.new
  append := f.append
  finish := f.finish

/-! ## What the builders hold -/

/-- A finished column holds the rows `out`. -/
structure Column {ρ : Type} (dataType : DataType) (value : ρ → Arrow.Value)
    (readable : List (Option ρ) → Prop) (column : ArrayRef) (out : List (Option ρ)) :
    Prop where
  dataType_eq : column.dataType = dataType
  len_eq : column.len = out.length
  isNull_eq (i : ℕ) : column.isNull i = (out[i]?).join.isNone
  value_eq (hreadable : readable out) (i : ℕ) :
    column.value i = (out[i]?).join.map value
  /-- The children of a struct go along with its validity. -/
  aligned {fields : List (Arrow.Field ScalarType)} {children : List ScalarArray}
    {validity : List Bool} (hstruct : column = .struct fields children validity) :
    validity.length = out.length ∧ ∀ child ∈ children, child.len = out.length ∧
      ∀ i, (child.value i).isSome = validity.getD i false

section Column

variable {ρ : Type} {out : List (Option ρ)}

/-- A child array that holds what `read` takes from each row. -/
def Child (out : List (Option ρ)) (child : ScalarArray)
    (read : ρ → ScalarArray.Value) : Prop :=
  child.len = out.length ∧ ∀ i, child.value i = (out[i]?).join.map read

theorem exists_read {children : List ScalarArray} {reads : List (ρ → ScalarArray.Value)}
    (hchildren : List.Forall₂ (Child out) children reads) :
    ∀ child ∈ children, ∃ read, Child out child read := by
  induction hchildren with
  | nil => simp
  | cons h _ ih =>
      intro child hchild
      cases hchild with
      | head => exact ⟨_, h⟩
      | tail _ hmem => exact ih child hmem

/-- Child arrays under the validity of the rows are a struct column of the
rows. -/
theorem column_struct {fields : List (Arrow.Field ScalarType)}
    {children : List ScalarArray} {reads : List (ρ → ScalarArray.Value)}
    (hchildren : List.Forall₂ (Child out) children reads) :
    Column (.struct fields) (fun row => .struct (reads.map fun read => some (read row)))
      (fun _ => True) (.struct fields children (out.map Option.isSome)) out where
  dataType_eq := rfl
  len_eq := List.length_map _
  isNull_eq i := by
    rcases hrow : out[i]? with _ | _ | row <;> simp [ArrayRef.isNull, hrow]
  value_eq _ i := by
    rcases hrow : out[i]? with _ | _ | row
    · simp [ArrayRef.value, hrow]
    · simp [ArrayRef.value, hrow]
    · have hread : (children.map fun child => child.value i) =
          reads.map fun read => some (read row) := by
        induction hchildren with
        | nil => rfl
        | cons h _ ih => rw [List.map_cons, List.map_cons, ih, h.2 i, hrow]; rfl
      simp [ArrayRef.value, hrow, hread]
  aligned := by
    rintro _ _ _ ⟨⟩
    refine ⟨List.length_map _, fun child hchild => ?_⟩
    obtain ⟨read, hlen, hvalue⟩ := exists_read hchildren child hchild
    refine ⟨hlen, fun i => ?_⟩
    rcases hrow : out[i]? with _ | _ | row <;> simp [hvalue, hrow]

end Column

/-- What the builders of a function hold after some rows, when a further row
still fits them, and what they finish to. -/
structure BuilderSpec (f : ScalarFunction) where
  dataType : DataType
  value : f.Row → Arrow.Value
  fits : List (Option f.Row) → Prop
  decidableFits : DecidablePred fits
  /-- Whether the offsets of the finished column are exact. -/
  readable : List (Option f.Row) → Prop
  represents : f.Builders → List (Option f.Row) → Prop
  fits_nil : fits []
  fits_of_concat {out : List (Option f.Row)} {row : Option f.Row} :
    fits (out ++ [row]) → fits out
  fits_null {out : List (Option f.Row)} : fits out → fits (out ++ [none])
  represents_new : represents f.new []
  append_agrees {builders : f.Builders} {out : List (Option f.Row)}
    (h : represents builders out) (row : Option f.Row) :
    Agrees represents (f.append builders row)
      (if fits (out ++ [row]) then .ok (out ++ [row]) else .error .panic)
  finish_spec {builders : f.Builders} {out : List (Option f.Row)}
    (h : represents builders out) :
    ∃ column, f.finish builders = .ok column ∧ Column dataType value readable column out

namespace BuilderSpec

variable {f : ScalarFunction} (spec : BuilderSpec f)

instance : DecidablePred spec.fits := spec.decidableFits

/-- The rows a batch emits before its loop stops. -/
def emit (evalRow : List (Option f.Cell) → Run (Option f.Row)) (columns : List ArrayRef)
    (rows : ℕ) : Run (List (Option f.Row)) :=
  emitRows (f.rowValue evalRow columns) spec.fits .panic rows

variable {evalRow : List (Option f.Cell) → Run (Option f.Row)} {columns : List ArrayRef}

/-- One step of the loop on builders that hold `out`. -/
theorem step_agrees {builders : f.Builders} {out : List (Option f.Row)}
    (h : spec.represents builders out) (i : ℕ) :
    Agrees spec.represents (f.step evalRow columns builders i)
      (appendRow (f.rowValue evalRow columns) spec.fits .panic out i) := by
  rw [ScalarFunction.step, appendRow]
  cases f.rowValue evalRow columns i with
  | error e => exact .error e
  | ok row => exact spec.append_agrees h row

/-- The loop over all rows. -/
theorem runRows_agrees (rows : ℕ) :
    Agrees spec.represents (runRows (f.step evalRow columns) f.new rows)
      (spec.emit evalRow columns rows) :=
  RowLoop.runRows_agrees spec.represents_new (fun _ _ h => spec.step_agrees h _) rows

section Process

variable (arrow : ArrowCrate) {params : ProcessParams} {batch : RecordBatch}
variable (hprepare : f.prepare params.arguments = .ok evalRow)
variable (hcolumns : f.inputs.mapM batch.column = .ok columns)
include hprepare hcolumns

theorem process_eq :
    f.process arrow params batch =
      (runRows (f.step evalRow columns) f.new batch.numRows >>= fun builders =>
        f.finish builders >>= fun out =>
          arrow.lift (RecordBatch.tryNew params.outputSchema [out])) := by
  rw [ScalarFunction.process, bind_of_ok hprepare, bind_of_ok hcolumns]

theorem process_of_emit_error {e : Halt}
    (h : spec.emit evalRow columns batch.numRows = .error e) :
    f.process arrow params batch = .error e := by
  rw [process_eq arrow hprepare hcolumns]
  exact bind_of_error ((spec.runRows_agrees batch.numRows).left_error h) _

theorem process_of_emit_ok {out : List (Option f.Row)}
    (h : spec.emit evalRow columns batch.numRows = .ok out) :
    ∃ column, Column spec.dataType spec.value spec.readable column out ∧
      f.process arrow params batch =
        arrow.lift (RecordBatch.tryNew params.outputSchema [column]) := by
  obtain ⟨builders, hbuilders, hrep⟩ :=
    (spec.runRows_agrees batch.numRows).exists_of_right_ok h
  obtain ⟨column, hfinish, hcolumn⟩ := spec.finish_spec hrep
  refine ⟨column, hcolumn, ?_⟩
  rw [process_eq arrow hprepare hcolumns, bind_of_ok hbuilders, bind_of_ok hfinish]

/-- A batch that goes through holds the rows the loop emitted. -/
theorem exists_emit_of_process_ok {out : RecordBatch}
    (h : f.process arrow params batch = .ok out) :
    ∃ rows column, spec.emit evalRow columns batch.numRows = .ok rows ∧
      Column spec.dataType spec.value spec.readable column rows ∧ out.columns = [column] := by
  cases hemit : spec.emit evalRow columns batch.numRows with
  | error e =>
      rw [spec.process_of_emit_error arrow hprepare hcolumns hemit] at h
      cases h
  | ok rows =>
      obtain ⟨column, hcolumn, hprocess⟩ :=
        spec.process_of_emit_ok arrow hprepare hcolumns hemit
      rw [hprocess, ArrowCrate.lift] at h
      cases hbatch : RecordBatch.tryNew params.outputSchema [column] with
      | error e =>
          rw [hbatch] at h
          cases h
      | ok result =>
          rw [hbatch] at h
          cases h
          exact ⟨rows, column, rfl, hcolumn, RecordBatch.columns_of_tryNew hbatch⟩

/-- A call panics exactly when its loop does. -/
theorem process_eq_panic_iff :
    f.process arrow params batch = .error .panic ↔
      spec.emit evalRow columns batch.numRows = .error .panic := by
  cases hemit : spec.emit evalRow columns batch.numRows with
  | error e =>
      rw [spec.process_of_emit_error arrow hprepare hcolumns hemit, Except.error.injEq,
        Except.error.injEq]
  | ok out =>
      obtain ⟨column, -, hprocess⟩ :=
        spec.process_of_emit_ok arrow hprepare hcolumns hemit
      rw [hprocess, ArrowCrate.lift]
      cases RecordBatch.tryNew params.outputSchema [column] <;> simp [Except.mapError]

/-- Under a schema of one nullable column of the function's type, the finished
column is returned. -/
theorem process_of_emit_ok_of_schema {out : List (Option f.Row)} {name : String}
    (hschema : params.outputSchema = ⟨[⟨name, spec.dataType, true⟩]⟩)
    (h : spec.emit evalRow columns batch.numRows = .ok out) :
    ∃ column, Column spec.dataType spec.value spec.readable column out ∧
      f.process arrow params batch = .ok (.single params.outputSchema column) := by
  obtain ⟨column, hcolumn, hprocess⟩ :=
    spec.process_of_emit_ok arrow hprepare hcolumns h
  refine ⟨column, hcolumn, ?_⟩
  rw [hprocess, hschema, ← hcolumn.dataType_eq, RecordBatch.tryNew_singleton]
  rfl

end Process

end BuilderSpec

end VgiImage.Scalar
