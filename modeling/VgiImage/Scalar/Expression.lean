import VgiImage.Scalar.Rebatch

/-!
# Expressions over a table

Queries nest the functions in any way: hashes of thumbnails are compared, tags of
conversions are listed.  The engine evaluates such an expression column by column, one
call on all rows at each node.  Nevertheless every row of the result depends on the same
row of the table alone, NULLs go through, and an expression that binds has a column of
its type unless a function meets a blob it rejects, scales an image past the pixel
buffer or outgrows its builder.
-/

namespace VgiImage.Scalar

open Arrow ArrowIo Imaging Outcome RowLoop

/-! ## Evaluation -/

/-- An expression over the columns of a table. -/
inductive Expr where
  | column (i : ℕ)
  | call (name : BlobName) (args : Arguments) (input : Expr)
  | distance (args : Arguments) (a b : Expr)

/-- The argument columns of a call, side by side. -/
def inputBatch (rows : ℕ) (columns : List ArrayRef) : Run RecordBatch :=
  if h : ∀ column ∈ columns, column.len = rows then
    .ok
      { schema := ⟨columns.map fun column => ⟨"", column.dataType, true⟩⟩
        columns := columns
        numRows := rows
        len_column := h }
  else .error .panic

/-- One call on argument columns of the given length. -/
def callOn (crates : Crates) (name : FunctionName) (args : Arguments) (rows : ℕ)
    (columns : List ArrayRef) : Run ArrayRef := do
  let batch ← inputBatch rows columns
  let out ← (name.function crates).call crates.arrow args batch
  out.column 0

/-- The column an expression has on a table. -/
def Expr.eval (crates : Crates) (table : RecordBatch) : Expr → Run ArrayRef
  | column i => table.column i
  | call name args input => do
      let col ← input.eval crates table
      callOn crates (.blob name) args table.numRows [col]
  | distance args a b => do
      let x ← a.eval crates table
      let y ← b.eval crates table
      callOn crates .phashDistance args table.numRows [x, y]

/-! ## One node -/

section Call

variable {crates : Crates} {name : FunctionName} {args : Arguments} {rows : ℕ}
variable {columns : List ArrayRef}

/-- The column holds what a function emitted. -/
abbrev Holding (crates : Crates) (name : FunctionName) (column : ArrayRef)
    (values : List (Option (name.function crates).Row)) : Prop :=
  Column (name.spec crates).dataType (name.spec crates).value (name.spec crates).readable
    column values

theorem mapM_column_of_range (batch : RecordBatch) :
    (List.range batch.columns.length).mapM batch.column = .ok batch.columns := by
  apply mapM_eq_ok_iff.2
  refine List.forall₂_iff_get.2 ⟨List.length_range, fun i hi hi' => ?_⟩
  rw [List.get_eq_getElem, List.getElem_range]
  exact column_eq_ok_iff.2 (List.getElem?_eq_getElem hi')

/-- A node does what the abstract loop over its argument columns does. -/
theorem callOn_agrees (hvgi : VgiLaws crates.vgi) {bound : BindResponse}
    (hbind : (name.function crates).onBind ⟨args⟩ = .ok bound)
    {evalRow : List (Option (name.function crates).Cell) →
      Run (Option (name.function crates).Row)}
    (hprepare : (name.function crates).prepare args = .ok evalRow)
    (hinputs : (name.function crates).inputs = List.range columns.length)
    (hlen : ∀ column ∈ columns, column.len = rows) :
    Agrees (Holding crates name) (callOn crates name args rows columns)
      ((name.spec crates).emit evalRow columns rows) := by
  have hbatch : inputBatch rows columns = .ok _ := dif_pos hlen
  obtain ⟨field, hschema⟩ := exists_outputSchema hvgi name hbind
  have hcolumns : (name.function crates).inputs.mapM (RecordBatch.mk
      ⟨columns.map fun column => ⟨"", column.dataType, true⟩⟩ columns rows hlen).column =
        .ok columns := by
    rw [hinputs]
    exact mapM_column_of_range _
  have hprocess := (name.spec crates).process_agrees crates.arrow hprepare hschema hcolumns
  rw [callOn, bind_of_ok hbatch, ScalarFunction.call, bind_of_ok hbind]
  cases hemit : (name.spec crates).emit evalRow columns rows with
  | error e =>
      rw [hprocess.left_error hemit]
      exact .error e
  | ok values =>
      obtain ⟨out, hout, column, hcolumn, rfl⟩ := hprocess.exists_of_right_ok hemit
      rw [hout]
      exact .ok hcolumn

/-- A node that has a column was bound and emitted its rows. -/
theorem exists_emit_of_callOn (hvgi : VgiLaws crates.vgi)
    (hinputs : (name.function crates).inputs = List.range columns.length) {column : ArrayRef}
    (h : callOn crates name args rows columns = .ok column) :
    (∀ column ∈ columns, column.len = rows) ∧ ∃ bound evalRow values,
      (name.function crates).onBind ⟨args⟩ = .ok bound ∧
        (name.function crates).prepare args = .ok evalRow ∧
          (name.spec crates).emit evalRow columns rows = .ok values ∧
            Holding crates name column values := by
  obtain ⟨batch, hbatch, hcall⟩ := bind_eq_ok_iff.1 h
  have hlen : ∀ column ∈ columns, column.len = rows := by
    by_contra hlen
    rw [inputBatch, dif_neg hlen] at hbatch
    cases hbatch
  obtain ⟨out, hout, -⟩ := bind_eq_ok_iff.1 hcall
  obtain ⟨bound, hbind, -⟩ := bind_eq_ok_iff.1 hout
  obtain ⟨evalRow, hprepare⟩ := exists_prepare_of_bind name hbind
  obtain ⟨values, hemit, hcolumn⟩ :=
    (callOn_agrees hvgi hbind hprepare hinputs hlen).exists_of_left_ok h
  exact ⟨hlen, bound, evalRow, values, hbind, hprepare, hemit, hcolumn⟩

theorem len_of_callOn (hvgi : VgiLaws crates.vgi)
    (hinputs : (name.function crates).inputs = List.range columns.length) {column : ArrayRef}
    (h : callOn crates name args rows columns = .ok column) : column.len = rows := by
  obtain ⟨-, _, _, values, -, -, hemit, hcolumn⟩ := exists_emit_of_callOn hvgi hinputs h
  obtain ⟨hlength, -⟩ := emitRows_eq_ok_iff.1 hemit
  exact hcolumn.len_eq.trans hlength

end Call

theorem Expr.len_of_eval {crates : Crates} (hvgi : VgiLaws crates.vgi) {table : RecordBatch}
    {e : Expr} {column : ArrayRef} (h : e.eval crates table = .ok column) :
    column.len = table.numRows := by
  cases e with
  | column i =>
      exact table.len_column _ (List.mem_of_getElem? (column_eq_ok_iff.1 h))
  | call name args input =>
      obtain ⟨col, -, hcall⟩ := bind_eq_ok_iff.1 h
      exact len_of_callOn hvgi rfl hcall
  | distance args a b =>
      obtain ⟨x, -, h⟩ := bind_eq_ok_iff.1 h
      obtain ⟨y, -, hcall⟩ := bind_eq_ok_iff.1 h
      exact len_of_callOn hvgi rfl hcall

/-! ## Rows -/

section Rows

variable {crates : Crates} {whole part : RecordBatch} {rows : List ℕ}

/-- A node on selected rows has the selected slots. -/
theorem callOn_of_selects (hvgi : VgiLaws crates.vgi)
    (hnames : ∀ tag, crates.exif.tagToString tag ≠ "") {name : FunctionName} {args : Arguments}
    {columns columns' : List ArrayRef} {count : ℕ}
    (hinputs : (name.function crates).inputs = List.range columns.length)
    (hslots : List.Forall₂ (SelectsSlots rows) columns columns')
    (hlen : ∀ column ∈ columns', column.len = rows.length) (hnodup : rows.Nodup)
    (hlt : ∀ row ∈ rows, row < count) {column : ArrayRef}
    (h : callOn crates name args count columns = .ok column) :
    ∃ column', callOn crates name args rows.length columns' = .ok column' ∧
      SelectsSlots rows column column' := by
  obtain ⟨-, bound, evalRow, values, hbind, hprepare, hemit, hcolumn⟩ :=
    exists_emit_of_callOn hvgi hinputs h
  obtain ⟨values', hemit', hentries, hreadable, hreadable'⟩ :=
    exists_emit_of_selects hnames hprepare hslots hnodup hlt hemit
  rw [hslots.length_eq] at hinputs
  obtain ⟨column', hcall, hcolumn'⟩ :=
    (callOn_agrees hvgi hbind hprepare hinputs hlen).exists_of_right_ok hemit'
  exact ⟨column', hcall, selectsSlots_of_column hcolumn hcolumn' hreadable hreadable' hentries⟩

/-- Filtering, sorting or limiting a table filters, sorts or limits every expression
over it. -/
theorem exists_eval_of_selects (hvgi : VgiLaws crates.vgi)
    (hnames : ∀ tag, crates.exif.tagToString tag ≠ "") (h : Selects whole rows part)
    (hnodup : rows.Nodup) (e : Expr) {column : ArrayRef}
    (heval : e.eval crates whole = .ok column) :
    ∃ column', e.eval crates part = .ok column' ∧ SelectsSlots rows column column' := by
  have hlen : ∀ {e : Expr} {column : ArrayRef}, e.eval crates part = .ok column →
      column.len = rows.length := fun heval => (Expr.len_of_eval hvgi heval).trans h.numRows_eq
  induction e generalizing column with
  | column i => exact h.exists_column heval
  | call name args input ih =>
      obtain ⟨col, hcol, hcall⟩ := bind_eq_ok_iff.1 heval
      obtain ⟨col', hcol', hslots⟩ := ih hcol
      have hlens : ∀ column ∈ [col'], column.len = rows.length := by
        intro column hcolumn
        obtain rfl := List.mem_singleton.1 hcolumn
        exact hlen hcol'
      rw [Expr.eval, bind_of_ok hcol', h.numRows_eq]
      exact callOn_of_selects hvgi hnames rfl (.cons hslots .nil) hlens hnodup h.lt_numRows hcall
  | distance args a b iha ihb =>
      obtain ⟨x, hx, heval⟩ := bind_eq_ok_iff.1 heval
      obtain ⟨y, hy, hcall⟩ := bind_eq_ok_iff.1 heval
      obtain ⟨x', hx', hslots⟩ := iha hx
      obtain ⟨y', hy', hslots'⟩ := ihb hy
      have hlens : ∀ column ∈ [x', y'], column.len = rows.length :=
        List.forall_mem_cons.2 ⟨hlen hx', List.forall_mem_singleton.2 (hlen hy')⟩
      rw [Expr.eval, bind_of_ok hx', bind_of_ok hy', h.numRows_eq]
      exact callOn_of_selects hvgi hnames rfl (.cons hslots (.cons hslots' .nil)) hlens hnodup
        h.lt_numRows hcall

/-- A node computes the same from the same, in whatever columns. -/
theorem sameSlot_callOn (hvgi : VgiLaws crates.vgi)
    (hnames : ∀ tag, crates.exif.tagToString tag ≠ "") {name : FunctionName} {args : Arguments}
    {columns columns' : List ArrayRef} {count count' i j : ℕ}
    (hinputs : (name.function crates).inputs = List.range columns.length)
    (hslots : List.Forall₂ (fun a b => SameSlot a i b j) columns columns') (hi : i < count)
    (hj : j < count') {column column' : ArrayRef}
    (h : callOn crates name args count columns = .ok column)
    (h' : callOn crates name args count' columns' = .ok column') :
    SameSlot column i column' j := by
  have hinputs' := hinputs
  rw [hslots.length_eq] at hinputs'
  obtain ⟨-, _, evalRow, values, -, hprepare, hemit, hcolumn⟩ :=
    exists_emit_of_callOn hvgi hinputs h
  obtain ⟨-, _, evalRow', values', -, hprepare', hemit', hcolumn'⟩ :=
    exists_emit_of_callOn hvgi hinputs' h'
  obtain rfl := Except.ok.inj (hprepare.symm.trans hprepare')
  obtain ⟨hlength, hvalues, -⟩ := emitRows_eq_ok_iff.1 hemit
  obtain ⟨hlength', hvalues', -⟩ := emitRows_eq_ok_iff.1 hemit'
  have hfits := fits_of_emitRows (name.spec crates).fits_nil hemit
  have hfits' := fits_of_emitRows (name.spec crates).fits_nil hemit'
  apply sameSlot_of_column hcolumn hcolumn'
    (readable_of_isPrefix hnames name hprepare hvalues hfits)
    (readable_of_isPrefix hnames name hprepare hvalues' hfits')
  rw [← hlength] at hi
  rw [← hlength'] at hj
  have hrow : (.ok values'[j] : Run _) = .ok values[i] :=
    calc
      .ok values'[j] = (name.function crates).rowValue evalRow columns' j :=
        (hvalues' j hj).symm
      _ = (name.function crates).rowValue evalRow columns i := (rowValue_congr hslots).symm
      _ = .ok values[i] := hvalues i hi
  rw [List.getElem?_eq_getElem hj, List.getElem?_eq_getElem hi, Except.ok.inj hrow]

/-- An expression computes the same from the same row, in whatever tables. -/
theorem sameSlot_eval (hvgi : VgiLaws crates.vgi)
    (hnames : ∀ tag, crates.exif.tagToString tag ≠ "") {table table' : RecordBatch} {i j : ℕ}
    (hrow : List.Forall₂ (fun a b => SameSlot a i b j) table.columns table'.columns)
    (hi : i < table.numRows) (hj : j < table'.numRows) (e : Expr) {column column' : ArrayRef}
    (heval : e.eval crates table = .ok column) (heval' : e.eval crates table' = .ok column') :
    SameSlot column i column' j := by
  induction e generalizing column column' with
  | column k =>
      obtain ⟨hk, rfl⟩ := List.getElem?_eq_some_iff.1 (column_eq_ok_iff.1 heval)
      obtain ⟨hk', rfl⟩ := List.getElem?_eq_some_iff.1 (column_eq_ok_iff.1 heval')
      exact (List.forall₂_iff_get.1 hrow).2 k hk hk'
  | call name args input ih =>
      obtain ⟨col, hcol, hcall⟩ := bind_eq_ok_iff.1 heval
      obtain ⟨col', hcol', hcall'⟩ := bind_eq_ok_iff.1 heval'
      exact sameSlot_callOn hvgi hnames rfl (.cons (ih hcol hcol') .nil) hi hj hcall hcall'
  | distance args a b iha ihb =>
      obtain ⟨x, hx, heval⟩ := bind_eq_ok_iff.1 heval
      obtain ⟨y, hy, hcall⟩ := bind_eq_ok_iff.1 heval
      obtain ⟨x', hx', heval'⟩ := bind_eq_ok_iff.1 heval'
      obtain ⟨y', hy', hcall'⟩ := bind_eq_ok_iff.1 heval'
      exact sameSlot_callOn hvgi hnames rfl (.cons (iha hx hx') (.cons (ihb hy hy') .nil)) hi hj
        hcall hcall'

/-- A row of an expression depends on the same row of the table alone: on two tables, rows
that hold the same have the same slot, and on a selection of the rows the expression
has a column, the selected slots. -/
theorem eval_by_rows (hvgi : VgiLaws crates.vgi)
    (hnames : ∀ tag, crates.exif.tagToString tag ≠ "") (e : Expr) {table : RecordBatch}
    {column : ArrayRef} (heval : e.eval crates table = .ok column) :
    (∀ rows part, Selects table rows part → rows.Nodup →
      ∃ column', e.eval crates part = .ok column' ∧ SelectsSlots rows column column') ∧
      ∀ table' column' i j, e.eval crates table' = .ok column' →
        i < table.numRows → j < table'.numRows →
          List.Forall₂ (fun a b => SameSlot a i b j) table.columns table'.columns →
            SameSlot column i column' j := by
  refine ⟨fun rows part h hnodup => ?_, fun table' column' i j heval' hi hj hrow => ?_⟩
  · exact exists_eval_of_selects hvgi hnames h hnodup e heval
  · exact sameSlot_eval hvgi hnames hrow hi hj e heval heval'

end Rows

/-! ## NULLs -/

/-- The columns an expression reads. -/
def Expr.reads : Expr → List ℕ
  | column i => [i]
  | call _ _ input => input.reads
  | distance _ a b => a.reads ++ b.reads

section Nulls

variable {crates : Crates} {table : RecordBatch} {i : ℕ}

theorem isLogicallyNull_of_isNull {column : ArrayRef} (h : column.isNull i = true) :
    column.isLogicallyNull i = true := by
  cases column with
  | null => rfl
  | other name slots =>
      rw [ArrayRef.isNull, beq_iff_eq] at h
      rw [ArrayRef.isLogicallyNull, h]
      rfl
  | scalar | struct | map => exact h

/-- A node is NULL where one of its arguments is. -/
theorem isLogicallyNull_callOn (hvgi : VgiLaws crates.vgi) {name : FunctionName}
    {args : Arguments} {columns : List ArrayRef} {count : ℕ}
    (hinputs : (name.function crates).inputs = List.range columns.length) {input : ArrayRef}
    (hinput : input ∈ columns) (hnull : input.isLogicallyNull i = true) {column : ArrayRef}
    (h : callOn crates name args count columns = .ok column) :
    column.isLogicallyNull i = true := by
  obtain ⟨-, _, _, values, -, hprepare, hemit, hcolumn⟩ := exists_emit_of_callOn hvgi hinputs h
  obtain ⟨-, hvalues, -⟩ := emitRows_eq_ok_iff.1 hemit
  apply isLogicallyNull_of_isNull
  rw [hcolumn.isNull_eq]
  by_cases hi : i < values.length
  · rw [List.getElem?_eq_getElem hi, rowValue_eq_none hprepare hinput hnull (hvalues i hi)]
    rfl
  · rw [List.getElem?_eq_none (by omega)]
    rfl

/-- An expression is NULL in every row in which a column it reads is, whatever the types
of the columns. -/
theorem isLogicallyNull_eval (hvgi : VgiLaws crates.vgi) (e : Expr) {column : ArrayRef}
    (heval : e.eval crates table = .ok column) {j : ℕ} (hj : j ∈ e.reads) {input : ArrayRef}
    (hinput : table.columns[j]? = some input) (hnull : input.isLogicallyNull i = true) :
    column.isLogicallyNull i = true := by
  induction e generalizing column with
  | column k =>
      obtain rfl := List.mem_singleton.1 hj
      rw [column_eq_ok_iff.1 heval] at hinput
      cases hinput
      exact hnull
  | call name args input ih =>
      obtain ⟨col, hcol, hcall⟩ := bind_eq_ok_iff.1 heval
      exact isLogicallyNull_callOn hvgi rfl (.head _) (ih hcol hj) hcall
  | distance args a b iha ihb =>
      obtain ⟨x, hx, heval⟩ := bind_eq_ok_iff.1 heval
      obtain ⟨y, hy, hcall⟩ := bind_eq_ok_iff.1 heval
      rcases List.mem_append.1 hj with hj | hj
      · exact isLogicallyNull_callOn hvgi rfl (.head _) (iha hx hj) hcall
      · exact isLogicallyNull_callOn hvgi rfl (.tail _ (.head _)) (ihb hy hj) hcall

end Nulls

/-! ## Types -/

/-- The type a function builds. -/
def outputType : FunctionName → DataType
  | .blob .imageInfo => .struct ImageInfo.structFields
  | .blob .exif => mapVarcharVarcharType
  | .blob .exifGps => .struct ExifGps.gpsFields
  | .blob .phash | .blob .dhash | .blob .ahash => .scalar .uint64
  | .blob .thumbnail | .blob .thumbnailFit | .blob .convert => .scalar .binary
  | .phashDistance => .scalar .int32

theorem dataType_spec (crates : Crates) (name : FunctionName) :
    (name.spec crates).dataType = outputType name := by
  rcases name with name | _
  · cases name <;> rfl
  · rfl

/-- The expression binds over columns of the given types: each call accepts its constants
and reads the type of its arguments. -/
inductive Binds (crates : Crates) (types : List DataType) : Expr → DataType → Prop
  | column {i : ℕ} {type : DataType} (h : types[i]? = some type) :
      Binds crates types (.column i) type
  | call {name : BlobName} {args : Arguments} {bound : BindResponse} {input : Expr}
      {type : DataType} (hbind : (name.function crates).onBind ⟨args⟩ = .ok bound)
      (hinput : Binds crates types input type)
      (hreads : (FunctionName.blob name).Reads type) :
      Binds crates types (.call name args input) (outputType (.blob name))
  | distance {args : Arguments} {a b : Expr} {type type' : DataType}
      (ha : Binds crates types a type) (hb : Binds crates types b type')
      (hreads : FunctionName.phashDistance.Reads type)
      (hreads' : FunctionName.phashDistance.Reads type') :
      Binds crates types (.distance args a b) (outputType .phashDistance)

/-- How a call on a column it reads fails: the rows before the first rejected blob fit the
builder and that blob's error is answered, or that blob's image is scaled past the pixel
buffer, or the rows do not fit and the append panics. -/
inductive Rejects (crates : Crates) (name : BlobName) (args : Arguments) (col : ArrayRef)
    (rows : ℕ) : Halt → Prop
  | blob {rowOf : Blob → Run (Option (name.function crates).Row)} {i : ℕ}
      {bytes : Blob} {e : RpcError} (hprepare : (name.function crates).prepare args = .ok rowOf)
      (hfits : (name.spec crates).fits (stretch (columnRow crates.arrow rowOf col) rows))
      (hi : i < rows) (hcell : blobBytes crates.arrow col i = .ok (some bytes))
      (he : rowOf bytes = .error (.error e))
      (hfirst : ∀ j < i, ∃ row, columnRow crates.arrow rowOf col j = .ok row) :
      Rejects crates name args col rows (.error e)
  | oversized {rowOf : Blob → Run (Option (name.function crates).Row)} {i : ℕ}
      {transform : Transform} (hprepare : (name.function crates).prepare args = .ok rowOf)
      (hasks : Asks args name transform) (hi : i < rows)
      (hover : Oversized crates transform col i)
      (hfirst : ∀ j < i, ∃ row, columnRow crates.arrow rowOf col j = .ok row) :
      Rejects crates name args col rows .panic
  | full {rowOf : Blob → Run (Option (name.function crates).Row)}
      (hprepare : (name.function crates).prepare args = .ok rowOf)
      (hfull : ¬ (name.spec crates).fits (stretch (columnRow crates.arrow rowOf col) rows)) :
      Rejects crates name args col rows .panic

/-- How an expression that binds fails: at the first of its calls, in evaluation order,
that fails on the column its argument has.  The distance never fails. -/
inductive Fails (crates : Crates) (table : RecordBatch) : Expr → Halt → Prop
  | call {name : BlobName} {args : Arguments} {input : Expr} {col : ArrayRef} {halt : Halt}
      (hcol : input.eval crates table = .ok col)
      (h : Rejects crates name args col table.numRows halt) :
      Fails crates table (.call name args input) halt
  | input {name : BlobName} {args : Arguments} {input : Expr} {halt : Halt}
      (h : Fails crates table input halt) : Fails crates table (.call name args input) halt
  | left {args : Arguments} {a b : Expr} {halt : Halt} (h : Fails crates table a halt) :
      Fails crates table (.distance args a b) halt
  | right {args : Arguments} {a b : Expr} {x : ArrayRef} {halt : Halt}
      (hleft : a.eval crates table = .ok x) (h : Fails crates table b halt) :
      Fails crates table (.distance args a b) halt

section Types

variable {crates : Crates} {table : RecordBatch} {args : Arguments} {rows : ℕ}

theorem dataType_of_callOn (hvgi : VgiLaws crates.vgi) {name : FunctionName}
    {columns : List ArrayRef} (hinputs : (name.function crates).inputs =
      List.range columns.length) {column : ArrayRef}
    (h : callOn crates name args rows columns = .ok column) :
    column.dataType = outputType name := by
  obtain ⟨-, _, _, _, -, -, -, hcolumn⟩ := exists_emit_of_callOn hvgi hinputs h
  rw [hcolumn.dataType_eq, dataType_spec]

section Blob

variable {name : BlobName} {col : ArrayRef}
variable {rowOf : Blob → Run (Option (name.function crates).Row)}

/-- A row of a column that is read fails only on a blob that is rejected. -/
theorem columnRow_eq_error_iff (hreads : (FunctionName.blob name).Reads col.dataType) {i : ℕ}
    {halt : Halt} : columnRow crates.arrow rowOf col i = .error halt ↔
      ∃ bytes, blobBytes crates.arrow col i = .ok (some bytes) ∧
        rowOf bytes = .error halt := by
  obtain ⟨cells, hcells⟩ := (carries_iff_reads name).2 hreads
  rw [columnRow, blobBytes_of_carries crates.arrow hcells, bind_of_ok rfl, cellRow_eq_error_iff]
  simp only [Except.ok.injEq]

theorem callOn_blob_eq_error_iff (hvgi : VgiLaws crates.vgi) {bound : BindResponse}
    (hbind : (name.function crates).onBind ⟨args⟩ = .ok bound) (hlen : col.len = rows)
    (hreads : (FunctionName.blob name).Reads col.dataType) {halt : Halt} :
    callOn crates (.blob name) args rows [col] = .error halt ↔
      Rejects crates name args col rows halt := by
  obtain ⟨evalRow, hevalRow⟩ := exists_prepare_of_bind (.blob name) hbind
  obtain ⟨rowOf, hprepare, rfl⟩ := map_eq_ok_iff.1 hevalRow
  have hagrees := @callOn_agrees crates (.blob name) args rows [col] hvgi bound hbind _
    hevalRow rfl (List.forall_mem_singleton.2 hlen)
  have hmono : ∀ out row, (name.spec crates).fits (out ++ [row]) → (name.spec crates).fits out :=
    fun _ _ => (name.spec crates).fits_of_concat
  have hfull := @emitRows_eq_full_iff _ _ (columnRow crates.arrow rowOf col)
    (name.spec crates).fits _ Halt.panic rows (name.spec crates).fits_nil hmono
  have herror : callOn crates (.blob name) args rows [col] = .error halt ↔
      emitRows (columnRow crates.arrow rowOf col) (name.spec crates).fits Halt.panic rows =
        .error halt := by
    rw [← rowValue_eq_columnRow rowOf]
    exact ⟨hagrees.right_error, hagrees.left_error⟩
  have hunique : ∀ {rowOf' : Blob → Run (Option (name.function crates).Row)},
      (name.function crates).prepare args = .ok rowOf' → rowOf' = rowOf :=
    fun h => Except.ok.inj (h.symm.trans hprepare)
  rw [herror]
  constructor
  · intro h
    cases halt with
    | panic =>
        rcases hfull.1 h with hroom | ⟨i, hi, hpanic, hfirst⟩
        · exact .full hprepare hroom
        · obtain ⟨transform, hasks, hover⟩ :=
            (columnRow_eq_panic_iff_oversized hprepare).1 hpanic
          exact .oversized hprepare hasks hi hover hfirst
    | error e =>
        obtain ⟨hfits, i, hi, hfail, hfirst⟩ := (emitRows_eq_error_iff_of_ne_full
          (name.spec crates).fits_nil hmono Halt.noConfusion).1 h
        obtain ⟨bytes, hcell, he⟩ := (columnRow_eq_error_iff hreads).1 hfail
        exact .blob hprepare hfits hi hcell he hfirst
  · intro h
    cases h with
    | blob hprepare' hfits hi hcell he hfirst =>
        obtain rfl := hunique hprepare'
        apply (emitRows_eq_error_iff_of_ne_full (name.spec crates).fits_nil hmono
          Halt.noConfusion).2
        exact ⟨hfits, _, hi, (columnRow_eq_error_iff hreads).2 ⟨_, hcell, he⟩, hfirst⟩
    | oversized hprepare' hasks hi hover hfirst =>
        obtain rfl := hunique hprepare'
        have hpanic := (columnRow_eq_panic_iff_oversized hprepare).2 ⟨_, hasks, hover⟩
        exact hfull.2 (.inr ⟨_, hi, hpanic, hfirst⟩)
    | full hprepare' hroom =>
        obtain rfl := hunique hprepare'
        exact hfull.2 (.inl hroom)

end Blob

/-- Two integer columns have a column of distances. -/
theorem exists_callOn_distance (hvgi : VgiLaws crates.vgi) {a b : ArrayRef}
    (ha : a.len = rows) (hb : b.len = rows)
    (hreads : FunctionName.phashDistance.Reads a.dataType)
    (hreads' : FunctionName.phashDistance.Reads b.dataType) :
    ∃ column, callOn crates .phashDistance args rows [a, b] = .ok column ∧
      ∃ out : List (Option Int32), Holding crates .phashDistance column out ∧
        out.length = rows ∧ ∀ (i : ℕ) (hi : i < out.length), DistanceRow a b i out[i] := by
  obtain ⟨out, hemit, hrows⟩ := exists_emit_distanceRows hreads hreads' crates rows
  obtain ⟨column, hcolumn, hholds⟩ := (@callOn_agrees crates .phashDistance args rows [a, b] hvgi
    _ rfl _ rfl rfl (List.forall_mem_cons.2 ⟨ha, List.forall_mem_singleton.2 hb⟩)
      ).exists_of_right_ok hemit
  exact ⟨column, hcolumn, out, hholds, hrows⟩

theorem dataType_eval (hvgi : VgiLaws crates.vgi) {e : Expr} {type : DataType}
    (h : Binds crates (table.columns.map ArrayRef.dataType) e type) {column : ArrayRef}
    (heval : e.eval crates table = .ok column) : column.dataType = type := by
  cases h with
  | column h =>
      rw [List.getElem?_map, column_eq_ok_iff.1 heval] at h
      exact Option.some.inj h
  | call =>
      obtain ⟨col, -, hcall⟩ := bind_eq_ok_iff.1 heval
      exact dataType_of_callOn hvgi rfl hcall
  | distance =>
      obtain ⟨x, -, heval⟩ := bind_eq_ok_iff.1 heval
      obtain ⟨y, -, hcall⟩ := bind_eq_ok_iff.1 heval
      exact dataType_of_callOn hvgi rfl hcall

theorem eval_eq_error_iff (hvgi : VgiLaws crates.vgi) {e : Expr} {type : DataType}
    (h : Binds crates (table.columns.map ArrayRef.dataType) e type) {halt : Halt} :
    e.eval crates table = .error halt ↔ Fails crates table e halt := by
  induction h with
  | @column i type h =>
      rw [List.getElem?_map] at h
      obtain ⟨column, hcolumn, -⟩ := Option.map_eq_some_iff.1 h
      rw [Expr.eval, column_eq_ok_iff.2 hcolumn]
      exact iff_of_false nofun nofun
  | @call name args bound input type hbind hinput hreads ih =>
      rw [Expr.eval, bind_eq_error_iff, ih]
      constructor
      · rintro (hfails | ⟨col, hcol, hcall⟩)
        · exact .input hfails
        · have htype := dataType_eval hvgi hinput hcol
          exact .call hcol ((callOn_blob_eq_error_iff hvgi hbind (Expr.len_of_eval hvgi hcol)
            (htype ▸ hreads)).1 hcall)
      · intro hfails
        cases hfails with
        | input hfails => exact .inl hfails
        | call hcol hrejects =>
            have htype := dataType_eval hvgi hinput hcol
            exact .inr ⟨_, hcol, (callOn_blob_eq_error_iff hvgi hbind
              (Expr.len_of_eval hvgi hcol) (htype ▸ hreads)).2 hrejects⟩
  | @distance args a b type type' ha hb hreads hreads' iha ihb =>
      rw [Expr.eval, bind_eq_error_iff, iha]
      constructor
      · rintro (hfails | ⟨x, hx, heval⟩)
        · exact .left hfails
        · rcases bind_eq_error_iff.1 heval with hb' | ⟨y, hy, hcall⟩
          · exact .right hx (ihb.1 hb')
          · obtain ⟨column, hcolumn, -⟩ := @exists_callOn_distance crates args table.numRows
              hvgi x y (Expr.len_of_eval hvgi hx) (Expr.len_of_eval hvgi hy)
              ((dataType_eval hvgi ha hx).symm ▸ hreads)
              ((dataType_eval hvgi hb hy).symm ▸ hreads')
            rw [hcolumn] at hcall
            cases hcall
      · intro hfails
        cases hfails with
        | left hfails => exact .inl hfails
        | right hx hfails => exact .inr ⟨_, hx, bind_eq_error_iff.2 (.inl (ihb.2 hfails))⟩

/-- An expression that binds never meets a type error: its column has the type it was
bound to and one slot for each row, or it fails on a blob, on an oversized image or on a
full builder. -/
theorem eval_of_binds (hvgi : VgiLaws crates.vgi) {e : Expr} {type : DataType}
    (h : Binds crates (table.columns.map ArrayRef.dataType) e type) :
    (∀ halt, e.eval crates table = .error halt ↔ Fails crates table e halt) ∧
      ∀ column, e.eval crates table = .ok column →
        column.dataType = type ∧ column.len = table.numRows := by
  refine ⟨fun halt => eval_eq_error_iff hvgi h, fun column heval => ?_⟩
  exact ⟨dataType_eval hvgi h heval, Expr.len_of_eval hvgi heval⟩

end Types

/-! ## The distance of an image to its thumbnail -/

def thumbnailDistance : Expr :=
  .distance noArguments (.call .phash noArguments (.call .thumbnail noArguments (.column 0)))
    (.call .phash noArguments (.column 0))

theorem binds_thumbnailDistance (cells : List (Option Blob)) :
    Binds (referenceCrates tiffExif) ((blobBatch cells).columns.map ArrayRef.dataType)
      thumbnailDistance (.scalar .int32) := by
  have hcolumn : Binds (referenceCrates tiffExif)
      ((blobBatch cells).columns.map ArrayRef.dataType) (.column 0) (.scalar .binary) :=
    .column rfl
  apply Binds.distance (.call rfl (.call rfl hcolumn _) _) (.call rfl hcolumn _)
  all_goals exact List.mem_of_elem_eq_true rfl

theorem exists_eval_thumbnailDistance :
    ∃ column, thumbnailDistance.eval (referenceCrates tiffExif)
      (blobBatch [some ReferenceCodec.samplePng, none]) = .ok column := by
  have heval : (thumbnailDistance.eval (referenceCrates tiffExif)
      (blobBatch [some ReferenceCodec.samplePng, none])).toBool := by
    decide +kernel
  exact exists_eq_ok_of_toBool heval

theorem eval_by_rows_thumbnailDistance :
    ∃ column, thumbnailDistance.eval (referenceCrates tiffExif)
        (blobBatch [some ReferenceCodec.samplePng, none]) = .ok column ∧
      (∀ rows part, Selects (blobBatch [some ReferenceCodec.samplePng, none]) rows part →
        rows.Nodup → ∃ column',
          thumbnailDistance.eval (referenceCrates tiffExif) part = .ok column' ∧
            SelectsSlots rows column column') ∧
        ∀ table' column' i j,
          thumbnailDistance.eval (referenceCrates tiffExif) table' = .ok column' →
            i < 2 → j < table'.numRows →
              List.Forall₂ (fun a b => SameSlot a i b j)
                (blobBatch [some ReferenceCodec.samplePng, none]).columns table'.columns →
                  SameSlot column i column' j := by
  obtain ⟨column, heval⟩ := exists_eval_thumbnailDistance
  exact ⟨column, heval, @eval_by_rows (referenceCrates tiffExif) singleColumnBind_laws
    tagToString_tiffExif thumbnailDistance _ column heval⟩

theorem isLogicallyNull_eval_thumbnailDistance :
    ∃ column, thumbnailDistance.eval (referenceCrates tiffExif)
        (blobBatch [some ReferenceCodec.samplePng, none]) = .ok column ∧
      column.isLogicallyNull 1 = true := by
  obtain ⟨column, heval⟩ := exists_eval_thumbnailDistance
  exact ⟨column, heval, @isLogicallyNull_eval (referenceCrates tiffExif) _ 1 singleColumnBind_laws
    thumbnailDistance column heval 0 (by decide) _ rfl rfl⟩

theorem eval_of_binds_thumbnailDistance :
    (∀ halt, thumbnailDistance.eval (referenceCrates tiffExif)
        (blobBatch [some ReferenceCodec.samplePng, none]) = .error halt ↔
      Fails (referenceCrates tiffExif) (blobBatch [some ReferenceCodec.samplePng, none])
        thumbnailDistance halt) ∧
      ∀ column, thumbnailDistance.eval (referenceCrates tiffExif)
          (blobBatch [some ReferenceCodec.samplePng, none]) = .ok column →
        column.dataType = .scalar .int32 ∧ column.len = 2 :=
  eval_of_binds singleColumnBind_laws (binds_thumbnailDistance _)

end VgiImage.Scalar
