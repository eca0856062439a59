import VgiImage.Scalar.ReferenceCrates

/-!
# NULL propagation

A NULL cell makes a NULL row where the null buffer of its column marks it.  An
untyped NULL column has no null buffer, and dictionary, run-end and union arrays
may refer to a null value without marking the slot.  Such a slot is logically
NULL, but the cell readers take it for a value of a type they do not read.
-/

namespace VgiImage.Scalar

open Arrow ArrowIo Imaging Outcome RowLoop

/-! ## The statement -/

/-- The column types a function reads: binary and string columns, or integers
of any width. -/
def FunctionName.readTypes : FunctionName → List ScalarType
  | .blob _ => [.binary, .largeBinary, .utf8, .largeUtf8]
  | .phashDistance => [.uint64, .int64, .uint32, .int32, .uint16, .int16, .uint8, .int8]

def FunctionName.Reads (name : FunctionName) : DataType → Prop
  | .scalar type => type ∈ name.readTypes
  | _ => False

@[simp]
theorem reads_dataType_scalar (name : FunctionName) (array : ScalarArray) :
    name.Reads (ArrayRef.scalar array).dataType ↔ array.dataType ∈ name.readTypes :=
  Iff.rfl

section Statement

variable (f : ScalarFunction) (evalRow : List (Option f.Cell) → Run (Option f.Row))
variable (columns : List ArrayRef)

/-- The builders before row `i`, if the rows before it went through. -/
def Reached (i : ℕ) (builders : f.Builders) : Prop :=
  runRows (f.step evalRow columns) f.new i = .ok builders

/-- With a NULL among its inputs, row `i` appends NULL. -/
def NullRow (builders : f.Builders) (i : ℕ) : Prop :=
  ∀ column ∈ columns, column.isLogicallyNull i = true →
    ∃ next, f.append builders none = .ok next ∧ f.step evalRow columns builders i = .ok next

/-- NULL inputs produce NULL outputs. -/
structure NullsPropagate (batch : RecordBatch) (result : Run RecordBatch) : Prop where
  row : ∀ i < batch.numRows, ∀ builders, Reached f evalRow columns i builders →
    NullRow f evalRow columns builders i
  output {out : RecordBatch} (hout : result = .ok out) : ∀ i < batch.numRows,
    ∀ column ∈ columns, column.isLogicallyNull i = true →
      ∃ outColumn, out.columns = [outColumn] ∧ outColumn.isNull i = true

end Statement

/-- With a NULL among the inputs of row `i`, every input has the slot marked in
its null buffer or is of a supported type. -/
def MarkedNulls (name : FunctionName) (columns : List ArrayRef) (i : ℕ) : Prop :=
  (∃ column ∈ columns, column.isLogicallyNull i = true) →
    ∀ column ∈ columns, column.isNull i = true ∨ name.Reads column.dataType

/-! ## The cell readers -/

section Arrays

variable {column : ArrayRef} {i : ℕ}

/-- A column of a supported type marks all its NULLs. -/
theorem isNull_of_reads {name : FunctionName} (hreads : name.Reads column.dataType)
    (h : column.isLogicallyNull i = true) : column.isNull i = true := by
  cases column
  case null => cases name <;> exact hreads.elim
  case other => cases name <;> exact hreads.elim
  all_goals exact h

theorem not_reads_of_hidden {name : FunctionName} (h : column.isLogicallyNull i = true)
    (hphysical : column.isNull i = false) : ¬ name.Reads column.dataType := by
  intro hreads
  rw [isNull_of_reads hreads h] at hphysical
  cases hphysical

end Arrays

section Readers

variable {crates : Crates} {column : ArrayRef} {i : ℕ}

theorem carries_iff_reads (name : BlobName) :
    (∃ cells, Carries column cells) ↔ (FunctionName.blob name).Reads column.dataType := by
  constructor
  · rintro ⟨cells, hcells⟩
    cases hcells <;> simp [FunctionName.readTypes, ScalarArray.dataType]
  · intro h
    cases column with
    | scalar array =>
        cases array
        case binary cells => exact ⟨_, .binary cells⟩
        case largeBinary cells => exact ⟨_, .largeBinary cells⟩
        case utf8 texts => exact ⟨_, .utf8 texts⟩
        case largeUtf8 texts => exact ⟨_, .largeUtf8 texts⟩
        all_goals simp [FunctionName.readTypes, ScalarArray.dataType] at h
    | null | struct | map | other => exact h.elim

theorem hashBits_of_isNull (arrow : ArrowCrate) (hnull : column.isNull i = true) :
    hashBits arrow column i = .ok none :=
  if_pos hnull

/-- A slot that is not marked null is read as a cell. -/
theorem exists_cell {α β : Type} {slots : List (Option α)} {wrap : α → ScalarArray.Value}
    (read : α → β)
    (hvalue : (((slots.map (Option.map wrap))[i]?).join).isNone = false) :
    ∃ cell, (valueAt slots i).map (fun x => some (read x)) = .ok (some cell) := by
  rw [Option.isNone_eq_false_iff, Option.isSome_iff_exists] at hvalue
  obtain ⟨v, hv⟩ := hvalue
  obtain ⟨x, hx, -⟩ := exists_valueAt hv
  exact ⟨read x, map_eq_ok_iff.2 ⟨x, hx, rfl⟩⟩

theorem exists_hashBits_of_reads (arrow : ArrowCrate)
    (hreads : FunctionName.phashDistance.Reads column.dataType)
    (hnull : column.isNull i = false) :
    ∃ cell, hashBits arrow column i = .ok (some cell) := by
  unfold hashBits
  rw [hnull, if_neg Bool.false_ne_true]
  cases column with
  | scalar array =>
      cases array
      case uint64 slots => exact exists_cell id hnull
      case int64 slots => exact exists_cell Int64.toUInt64 hnull
      case uint32 slots => exact exists_cell UInt32.toUInt64 hnull
      case int32 slots => exact exists_cell (fun x => x.toInt64.toUInt64) hnull
      case uint16 slots => exact exists_cell UInt16.toUInt64 hnull
      case int16 slots => exact exists_cell (fun x => x.toInt64.toUInt64) hnull
      case uint8 slots => exact exists_cell UInt8.toUInt64 hnull
      case int8 slots => exact exists_cell (fun x => x.toInt64.toUInt64) hnull
      all_goals simp [FunctionName.readTypes, ScalarArray.dataType] at hreads
  | null | struct | map | other => exact hreads.elim

theorem exists_hashBits_error (arrow : ArrowCrate)
    (hreads : ¬ FunctionName.phashDistance.Reads column.dataType)
    (hnull : column.isNull i = false) :
    ∃ e, hashBits arrow column i = .error e := by
  unfold hashBits
  rw [hnull, if_neg Bool.false_ne_true]
  cases column with
  | scalar array =>
      cases array
      case boolean | float64 | binary | largeBinary | utf8 | largeUtf8 => exact ⟨_, rfl⟩
      all_goals simp [FunctionName.readTypes, ScalarArray.dataType] at hreads
  | null | struct | map | other => exact ⟨_, rfl⟩

/-- What a cell reader does with a slot: NULL for a marked one, and else a value
exactly in the supported types. -/
theorem readCell_spec (crates : Crates) (name : FunctionName) (column : ArrayRef) (i : ℕ) :
    (column.isNull i = true → (name.function crates).readCell column i = .ok none) ∧
      (column.isNull i = false → name.Reads column.dataType →
        ∃ cell, (name.function crates).readCell column i = .ok (some cell)) ∧
      (column.isNull i = false → ¬ name.Reads column.dataType →
        ∃ e, (name.function crates).readCell column i = .error e) := by
  rcases name with name | _
  · refine ⟨blobBytes_of_isNull crates.arrow, fun hnull hreads => ?_,
      fun hnull hreads => ?_⟩
    · obtain ⟨cells, hcells⟩ := (carries_iff_reads name).2 hreads
      rw [hcells.isNull_eq, Option.isNone_eq_false_iff, Option.isSome_iff_exists] at hnull
      obtain ⟨cell, hcell⟩ := hnull
      exact ⟨cell, (blobBytes_of_carries crates.arrow hcells i).trans (congrArg _ hcell)⟩
    · rw [← carries_iff_reads, not_exists] at hreads
      exact ⟨_, blobBytes_of_not_carries crates.arrow hreads hnull⟩
  · exact ⟨hashBits_of_isNull crates.arrow,
      fun hnull hreads => exists_hashBits_of_reads crates.arrow hreads hnull,
      fun hnull hreads => exists_hashBits_error crates.arrow hreads hnull⟩

theorem exists_readCell_iff {name : FunctionName} :
    (∃ cell, (name.function crates).readCell column i = .ok cell) ↔
      column.isNull i = true ∨ name.Reads column.dataType := by
  obtain ⟨hmarked, hvalue, herror⟩ := readCell_spec crates name column i
  cases hphysical : column.isNull i with
  | true => exact ⟨fun _ => Or.inl rfl, fun _ => ⟨none, hmarked hphysical⟩⟩
  | false =>
      constructor
      · rintro ⟨cell, hcell⟩
        by_contra hreads
        obtain ⟨e, he⟩ := herror hphysical fun h => hreads (Or.inr h)
        rw [he] at hcell
        cases hcell
      · rintro (h | h)
        · cases h
        · obtain ⟨cell, hcell⟩ := hvalue hphysical h
          exact ⟨some cell, hcell⟩

/-- A logically NULL slot that can be read is read as NULL. -/
theorem readCell_of_isLogicallyNull {name : FunctionName}
    {cell : Option (name.function crates).Cell} (hnull : column.isLogicallyNull i = true)
    (hcell : (name.function crates).readCell column i = .ok cell) : cell = none := by
  obtain ⟨hmarked, -, herror⟩ := readCell_spec crates name column i
  cases hphysical : column.isNull i with
  | true =>
      rw [hmarked hphysical] at hcell
      cases hcell
      rfl
  | false =>
      obtain ⟨e, he⟩ := herror hphysical (not_reads_of_hidden hnull hphysical)
      rw [he] at hcell
      cases hcell

theorem onBlob_of_none {ρ : Type} {imaging : Blob → Run (Option ρ)}
    {cells : List (Option Blob)} (hnone : none ∈ cells) : onBlob imaging cells = .ok none := by
  unfold onBlob
  split
  · simp at hnone
  · rfl

theorem PhashDistance.evalRow_of_none {cells : List (Option UInt64)} (hnone : none ∈ cells) :
    PhashDistance.evalRow cells = .ok none := by
  unfold PhashDistance.evalRow
  split
  · simp at hnone
  · rfl

/-- A NULL among the cells makes the row NULL. -/
theorem evalRow_of_none {name : FunctionName} {args : Arguments}
    {evalRow : List (Option (name.function crates).Cell) →
      Run (Option (name.function crates).Row)}
    (hprepare : (name.function crates).prepare args = .ok evalRow)
    {cells : List (Option (name.function crates).Cell)} (hnone : none ∈ cells) :
    evalRow cells = .ok none := by
  rcases name with name | _
  · obtain ⟨rowOf, -, rfl⟩ := map_eq_ok_iff.1 hprepare
    exact onBlob_of_none hnone
  · cases hprepare
    exact PhashDistance.evalRow_of_none hnone

end Readers

/-! ## One row -/

section Row

variable {f : ScalarFunction} {evalRow : List (Option f.Cell) → Run (Option f.Row)}
variable {columns : List ArrayRef} {builders : f.Builders} {i : ℕ}

theorem step_of_rowValue_ok {row : Option f.Row}
    (h : f.rowValue evalRow columns i = .ok row) :
    f.step evalRow columns builders i = f.append builders row :=
  bind_of_ok h _

end Row

section NullRow

variable {crates : Crates} {name : FunctionName} {args : Arguments}
variable {evalRow : List (Option (name.function crates).Cell) →
  Run (Option (name.function crates).Row)}
variable {columns : List ArrayRef} {i : ℕ}

theorem none_mem_cells {cells : List (Option (name.function crates).Cell)}
    (hcells : List.Forall₂
      (fun column cell => (name.function crates).readCell column i = .ok cell) columns cells)
    {column : ArrayRef} (hcolumn : column ∈ columns)
    (hnull : column.isLogicallyNull i = true) : none ∈ cells := by
  induction hcells with
  | nil => cases hcolumn
  | cons hcell _ ih =>
      cases hcolumn with
      | head =>
          rw [readCell_of_isLogicallyNull hnull hcell]
          exact List.mem_cons_self
      | tail _ hmem => exact List.mem_cons_of_mem _ (ih hmem)

/-- A row with a NULL input is NULL, if all its inputs can be read. -/
theorem rowValue_of_isLogicallyNull
    (hprepare : (name.function crates).prepare args = .ok evalRow)
    {column : ArrayRef} (hcolumn : column ∈ columns)
    (hnull : column.isLogicallyNull i = true)
    {cells : List (Option (name.function crates).Cell)}
    (hcells : (columns.mapM fun column => (name.function crates).readCell column i) =
      .ok cells) :
    (name.function crates).rowValue evalRow columns i = .ok none := by
  rw [ScalarFunction.rowValue, bind_of_ok hcells]
  exact evalRow_of_none hprepare (none_mem_cells (mapM_eq_ok_iff.1 hcells) hcolumn hnull)

theorem rowValue_eq_none (hprepare : (name.function crates).prepare args = .ok evalRow)
    {column : ArrayRef} (hcolumn : column ∈ columns)
    (hnull : column.isLogicallyNull i = true) {row : Option (name.function crates).Row}
    (hrow : (name.function crates).rowValue evalRow columns i = .ok row) : row = none := by
  obtain ⟨cells, hcells, -⟩ := bind_eq_ok_iff.1 hrow
  rw [rowValue_of_isLogicallyNull hprepare hcolumn hnull hcells] at hrow
  exact (Except.ok.inj hrow).symm

/-- The cells of a row can be read when every input is marked or supported. -/
theorem exists_cells_iff :
    (∃ cells, (columns.mapM fun column => (name.function crates).readCell column i) =
        .ok cells) ↔
      ∀ column ∈ columns, column.isNull i = true ∨ name.Reads column.dataType := by
  rw [exists_mapM_iff]
  exact forall₂_congr fun column _ => exists_readCell_iff

/-- On builders that can take a NULL, a row with a NULL input appends NULL exactly
when all its inputs are marked or supported. -/
theorem nullRow_iff_markedNulls
    (hprepare : (name.function crates).prepare args = .ok evalRow)
    {builders : (name.function crates).Builders}
    (happend : ∃ next, (name.function crates).append builders none = .ok next) :
    NullRow (name.function crates) evalRow columns builders i ↔
      MarkedNulls name columns i := by
  constructor
  · rintro hrow ⟨column, hcolumn, hnull⟩
    obtain ⟨next, -, hstep⟩ := hrow column hcolumn hnull
    obtain ⟨row, hrow, -⟩ := bind_eq_ok_iff.1 hstep
    obtain ⟨cells, hcells, -⟩ := bind_eq_ok_iff.1 hrow
    exact exists_cells_iff.1 ⟨cells, hcells⟩
  · intro hmarked column hcolumn hnull
    obtain ⟨cells, hcells⟩ := exists_cells_iff.2 (hmarked ⟨column, hcolumn, hnull⟩)
    obtain ⟨next, hnext⟩ := happend
    refine ⟨next, hnext, ?_⟩
    rw [← hnext]
    exact step_of_rowValue_ok (rowValue_of_isLogicallyNull hprepare hcolumn hnull hcells)

end NullRow

/-! ## All rows -/

section Rows

variable {crates : Crates} {name : FunctionName}
variable {evalRow : List (Option (name.function crates).Cell) →
  Run (Option (name.function crates).Row)}
variable {columns : List ArrayRef}

/-- Builders reached by the row loop can take a NULL. -/
theorem exists_append_none {i : ℕ} {builders : (name.function crates).Builders}
    (hreached : Reached (name.function crates) evalRow columns i builders) :
    ∃ next, (name.function crates).append builders none = .ok next := by
  obtain ⟨out, hemit, hrep⟩ :=
    ((name.spec crates).runRows_agrees i).exists_of_left_ok hreached
  have hfits : (name.spec crates).fits (out ++ [none]) :=
    (name.spec crates).fits_null (fits_of_emitRows (name.spec crates).fits_nil hemit)
  have happend := (name.spec crates).append_agrees hrep none
  obtain ⟨next, hnext, -⟩ := happend.exists_of_right_ok (if_pos hfits)
  exact ⟨next, hnext⟩

variable {params : ProcessParams} {batch : RecordBatch}
variable (hprepare : (name.function crates).prepare params.arguments = .ok evalRow)
variable (hcolumns : (name.function crates).inputs.mapM batch.column = .ok columns)
include hprepare hcolumns

/-- In a batch that goes through, every row with a NULL input is NULL. -/
theorem isNull_of_process_ok {out : RecordBatch}
    (hout : (name.function crates).process crates.arrow params batch = .ok out)
    {i : ℕ} (hi : i < batch.numRows) {column : ArrayRef} (hcolumn : column ∈ columns)
    (hnull : column.isLogicallyNull i = true) :
    ∃ outColumn, out.columns = [outColumn] ∧ outColumn.isNull i = true := by
  obtain ⟨rows, outColumn, hemit, hout_column, hout_columns⟩ :=
    (name.spec crates).exists_emit_of_process_ok crates.arrow hprepare hcolumns hout
  obtain ⟨hlength, hvalues, -⟩ := emitRows_eq_ok_iff.1 hemit
  have hlt : i < rows.length := hlength ▸ hi
  have hnone : rows[i] = none := rowValue_eq_none hprepare hcolumn hnull (hvalues i hlt)
  refine ⟨outColumn, hout_columns, ?_⟩
  rw [hout_column.isNull_eq, List.getElem?_eq_getElem hlt, hnone]
  rfl

/-- NULL inputs produce NULL outputs exactly when in every row reached with a NULL
input all inputs are marked or supported. -/
theorem nullsPropagate_iff :
    NullsPropagate (name.function crates) evalRow columns batch
        ((name.function crates).process crates.arrow params batch) ↔
      ∀ i < batch.numRows,
        (∃ builders, Reached (name.function crates) evalRow columns i builders) →
          MarkedNulls name columns i := by
  constructor
  · rintro ⟨hrow, -⟩ i hi ⟨builders, hreached⟩
    exact (nullRow_iff_markedNulls hprepare (exists_append_none hreached)).1
      (hrow i hi builders hreached)
  · intro hmarked
    refine ⟨fun i hi builders hreached => ?_, fun hout i hi column hcolumn hnull => ?_⟩
    · exact (nullRow_iff_markedNulls hprepare (exists_append_none hreached)).2
        (hmarked i hi ⟨builders, hreached⟩)
    · exact isNull_of_process_ok hprepare hcolumns hout hi hcolumn hnull

end Rows

/-! ## Two hash columns, and an untyped NULL -/

/-- A `UBIGINT` and a `BIGINT` column with a NULL each. -/
def hashColumns : List ArrayRef :=
  [.scalar (.uint64 [some 5, none]), .scalar (.int64 [none, some (-1)])]

def hashBatch : RecordBatch where
  schema := ⟨[⟨"a", .scalar .uint64, true⟩, ⟨"b", .scalar .int64, true⟩]⟩
  columns := hashColumns
  numRows := 2
  len_column := by decide

/-- The distances of the two rows are NULL. -/
theorem phashDistance_nullsPropagate :
    NullsPropagate (FunctionName.phashDistance.function (referenceCrates noExif))
      PhashDistance.evalRow hashColumns hashBatch
      ((FunctionName.phashDistance.function (referenceCrates noExif)).process arrowNames
        (resultParams (.scalar .int32)) hashBatch) := by
  refine (@nullsPropagate_iff (referenceCrates noExif) .phashDistance _ _
    (resultParams (.scalar .int32)) hashBatch rfl rfl).2 fun i _ _ _ column hcolumn => ?_
  cases hcolumn with
  | head => exact Or.inr (List.mem_of_elem_eq_true rfl)
  | tail _ hcolumn =>
      obtain rfl := List.mem_singleton.1 hcolumn
      exact Or.inr (List.mem_of_elem_eq_true rfl)

/-- One row of an untyped NULL column, as in `phash(NULL)`. -/
def untypedNullBatch : RecordBatch :=
  .single ⟨[⟨"blob", .null, true⟩]⟩ (.null 1)

/-- The hash of an untyped NULL is a type error. -/
theorem phash_untypedNull_fails :
    let phash := FunctionName.function (referenceCrates noExif) (.blob .phash)
    let result := phash.process arrowNames (resultParams (.scalar .uint64)) untypedNullBatch
    result = .error (.error (.valueError "expected a BLOB (binary) argument, got Null")) ∧
      ∃ evalRow, phash.prepare noArguments = .ok evalRow ∧
        ¬ NullsPropagate phash evalRow [.null 1] untypedNullBatch result := by
  refine ⟨rfl, _, rfl, fun h => ?_⟩
  obtain ⟨_, -, hstep⟩ := h.row 0 (by decide) _ rfl (.null 1) (.head _) rfl
  cases hstep

end VgiImage.Scalar
