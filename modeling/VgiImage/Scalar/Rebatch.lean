import VgiImage.Scalar.Session

/-!
# How a column is cut into batches

DuckDB decides where a column is cut into batches and which rows reach a
function.  Neither can be seen in the results: the batches of a column emit the
rows of the column, cut in the same places, or stop with the error the column
stops with, and a selection of its rows emits the selected output rows.
-/

namespace VgiImage.Scalar

open Arrow ArrowIo Imaging Outcome RowLoop

/-! ## Room for fewer rows -/

section Room

variable {α β : Type} [ByteLen α]

theorem valueBytes_le_of_subperm {slots slots' : List (Option α)} (h : slots.Subperm slots') :
    valueBytes slots ≤ valueBytes slots' := by
  obtain ⟨middle, hperm, hsublist⟩ := h
  calc
    valueBytes slots = valueBytes middle := (hperm.map slotBytes).sum_eq.symm
    _ ≤ valueBytes slots' :=
      (hsublist.map slotBytes).sum_le_sum fun _ _ => Nat.zero_le _

theorem valueBytes_map_le (slot : β → Option α) {rows rows' : List β}
    (h : rows.Subperm rows') : valueBytes (rows.map slot) ≤ valueBytes (rows'.map slot) := by
  obtain ⟨middle, hperm, hsublist⟩ := h
  exact valueBytes_le_of_subperm ⟨_, hperm.map slot, hsublist.map slot⟩

/-- The entries of fewer rows are fewer entries. -/
theorem entries_subperm {rows rows' : List (Option (List (String × String)))}
    (h : rows.Subperm rows') :
    (rowEntries rows).flatten.Subperm (rowEntries rows').flatten := by
  obtain ⟨middle, hperm, hsublist⟩ := h
  exact ⟨(rowEntries middle).flatten, (hperm.map _).flatten, (hsublist.map _).flatten⟩

end Room

/-- Fewer rows fit, in whatever order. -/
theorem fits_of_subperm {crates : Crates} (name : FunctionName)
    {rows rows' : List (Option (name.function crates).Row)} (h : rows.Subperm rows')
    (hfits : (name.spec crates).fits rows') : (name.spec crates).fits rows := by
  rcases name with name | _
  · cases name
    case imageInfo =>
      exact ⟨(valueBytes_map_le _ h).trans hfits.1, (valueBytes_map_le _ h).trans hfits.2⟩
    case exif =>
      have hentries := entries_subperm h
      exact ⟨(valueBytes_map_le _ hentries).trans hfits.1,
        (valueBytes_map_le _ hentries).trans hfits.2⟩
    case thumbnail | thumbnailFit | convert =>
      exact (valueBytes_le_of_subperm (α := Blob) h).trans hfits
    all_goals exact trivial
  · exact trivial

/-! ## Exact offsets -/

section Readable

variable {crates : Crates} {args : Arguments}

theorem exists_exifPairs_of_evalRow {cells : List (Option Blob)} {pairs : List ExifPair}
    (h : onBlob (fun bytes => (liftImg (exif crates.exif bytes)).map some) cells =
      .ok (some pairs)) :
    ∃ bytes, pairs = exifPairs crates.exif bytes := by
  unfold onBlob at h
  split at h
  next bytes =>
    obtain ⟨pairs', hpairs', hsome⟩ := map_eq_ok_iff.1 h
    cases hsome
    exact ⟨bytes, Except.ok.inj ((liftImg_eq_ok_iff.1 hpairs').symm.trans exif_eq)⟩
  next => cases h

theorem readable_exifRows (hnames : ∀ tag, crates.exif.tagToString tag ≠ "")
    {rows : List (Option (List ExifPair))}
    (hrows : ∀ pairs, some pairs ∈ rows → ∃ bytes, pairs = exifPairs crates.exif bytes)
    (hfits : MapFits rows) : Exif.Readable rows := by
  refine (length_le_valueBytes fun pair hpair => ?_).trans hfits.1
  obtain ⟨entries, hentries, hmem⟩ := List.mem_flatten.1 hpair
  obtain ⟨row, hrow, rfl⟩ := List.mem_map.1 hentries
  cases row with
  | none => simp at hmem
  | some pairs =>
      obtain ⟨bytes, rfl⟩ := hrows pairs hrow
      have hname : pair.1 ∈ tagNames crates.exif bytes := by
        rw [← map_fst_exifPairs]
        exact List.mem_map_of_mem hmem
      obtain ⟨field, -, hfield⟩ := List.mem_map.1 hname
      rw [← hfield]
      exact hnames field.tag

/-- Where tags have names, the rows that fit have exact offsets. -/
theorem readable_of_isPrefix (hnames : ∀ tag, crates.exif.tagToString tag ≠ "")
    (name : FunctionName)
    {evalRow : List (Option (name.function crates).Cell) →
      Run (Option (name.function crates).Row)}
    (hprepare : (name.function crates).prepare args = .ok evalRow) {columns : List ArrayRef}
    {rows : List (Option (name.function crates).Row)}
    (hvalues : IsPrefix ((name.function crates).rowValue evalRow columns) rows)
    (hfits : (name.spec crates).fits rows) : (name.spec crates).readable rows := by
  rcases name with name | _
  · cases name
    case exif =>
      cases hprepare
      refine readable_exifRows hnames (fun pairs hpairs => ?_) hfits
      obtain ⟨i, hi, hrow⟩ := List.mem_iff_getElem.1 hpairs
      obtain ⟨cells, -, hcells⟩ := bind_eq_ok_iff.1 (hvalues i hi)
      exact exists_exifPairs_of_evalRow (hcells.trans (congrArg Except.ok hrow))
    all_goals exact trivial
  · exact trivial

/-- Fewer rows have fewer entries. -/
theorem readable_of_subperm (name : FunctionName)
    {rows rows' : List (Option (name.function crates).Row)} (h : rows.Subperm rows')
    (hreadable : (name.spec crates).readable rows') : (name.spec crates).readable rows := by
  rcases name with name | _
  · cases name
    case exif => exact (entries_subperm h).length_le.trans hreadable
    all_goals exact trivial
  · exact trivial

end Readable

/-! ## The rows of a selection -/

section Selection

variable {crates : Crates} {name : FunctionName} {whole part : RecordBatch} {rows : List ℕ}

/-- The input columns of a selection. -/
theorem exists_inputs (h : Selects whole rows part) {inputs : List ℕ} {columns : List ArrayRef}
    (hcolumns : inputs.mapM whole.column = .ok columns) :
    ∃ columns', inputs.mapM part.column = .ok columns' ∧
      List.Forall₂ (SelectsSlots rows) columns columns' := by
  rw [mapM_eq_ok_iff] at hcolumns
  induction hcolumns with
  | nil => exact ⟨[], rfl, .nil⟩
  | cons hcolumn _ ih =>
      obtain ⟨b, hb, hslots⟩ := h.exists_column hcolumn
      obtain ⟨columns', hcolumns', hall⟩ := ih
      refine ⟨b :: columns', ?_, .cons hslots hall⟩
      exact mapM_eq_ok_iff.2 (.cons hb (mapM_eq_ok_iff.1 hcolumns'))

/-- A selection computes the selected rows. -/
theorem emit_of_selects {evalRow : List (Option (name.function crates).Cell) →
      Run (Option (name.function crates).Row)} {columns columns' : List ArrayRef}
    (hslots : List.Forall₂ (SelectsSlots rows) columns columns') :
    (name.spec crates).emit evalRow columns' rows.length =
      emitRows (rowsAt ((name.function crates).rowValue evalRow columns) rows)
        (name.spec crates).fits .panic rows.length := by
  apply emitRows_congr
  intro k hk
  exact (rowValue_congr (hslots.imp fun _ _ h => h k hk)).symm

/-- A range of rows is a selection. -/
theorem emit_of_selects_range {evalRow : List (Option (name.function crates).Cell) →
      Run (Option (name.function crates).Row)} {columns columns' : List ArrayRef}
    {start count : ℕ}
    (hslots : List.Forall₂ (SelectsSlots (List.range' start count)) columns columns') :
    (name.spec crates).emit evalRow columns' count =
      emitRows (rowsFrom ((name.function crates).rowValue evalRow columns) start)
        (name.spec crates).fits .panic count := by
  have hselected := @emit_of_selects crates name _ evalRow columns columns' hslots
  rw [List.length_range'] at hselected
  rw [hselected]
  apply emitRows_congr
  intro k hk
  rw [rowsAt, rowsFrom, getD_range' hk]

/-- Columns hold the same where their entries are the same. -/
theorem sameSlot_of_column {column column' : ArrayRef}
    {values values' : List (Option (name.function crates).Row)}
    (hcolumn : Column (name.spec crates).dataType (name.spec crates).value
      (name.spec crates).readable column values)
    (hcolumn' : Column (name.spec crates).dataType (name.spec crates).value
      (name.spec crates).readable column' values')
    (hreadable : (name.spec crates).readable values)
    (hreadable' : (name.spec crates).readable values') {i j : ℕ}
    (hentry : values'[j]? = values[i]?) : SameSlot column i column' j where
  dataType_eq := hcolumn.dataType_eq.trans hcolumn'.dataType_eq.symm
  isNull_eq := by rw [hcolumn.isNull_eq, hcolumn'.isNull_eq, hentry]
  value_eq := by rw [hcolumn.value_eq hreadable, hcolumn'.value_eq hreadable', hentry]

/-- The column of the selected entries holds the selected slots. -/
theorem selectsSlots_of_column {column column' : ArrayRef}
    {values values' : List (Option (name.function crates).Row)}
    (hcolumn : Column (name.spec crates).dataType (name.spec crates).value
      (name.spec crates).readable column values)
    (hcolumn' : Column (name.spec crates).dataType (name.spec crates).value
      (name.spec crates).readable column' values')
    (hreadable : (name.spec crates).readable values)
    (hreadable' : (name.spec crates).readable values')
    (hvalues : values'.map some = rows.map fun row => values[row]?) :
    SelectsSlots rows column column' := by
  have hlength : values'.length = rows.length := by
    simpa using congrArg List.length hvalues
  intro k hk
  apply sameSlot_of_column hcolumn hcolumn' hreadable hreadable'
  have h := congrArg (fun entries => entries[k]?) hvalues
  have hk' : k < values'.length := hlength ▸ hk
  simp only [List.getElem?_map, List.getElem?_eq_getElem hk, Option.map_some,
    List.getElem?_eq_getElem hk', Option.some.injEq] at h
  rw [List.getD_eq_getElem _ _ hk, List.getElem?_eq_getElem hk', ← h]

/-- Columns that hold the entries of a selection are a selection of the
output. -/
theorem selects_of_emitted {schema : Schema} {out selected : RecordBatch}
    {values values' : List (Option (name.function crates).Row)}
    (hout : Emitted (name.spec crates) schema out values)
    (hselected : Emitted (name.spec crates) schema selected values')
    (hreadable : (name.spec crates).readable values)
    (hreadable' : (name.spec crates).readable values')
    (hlt : ∀ row ∈ rows, row < values.length)
    (hvalues : values'.map some = rows.map fun row => values[row]?) :
    Selects out rows selected := by
  obtain ⟨column, hcolumn, rfl⟩ := hout
  obtain ⟨column', hcolumn', rfl⟩ := hselected
  have hlength : values'.length = rows.length := by
    simpa using congrArg List.length hvalues
  refine ⟨rfl, hcolumn'.len_eq.trans hlength, fun row hrow => ?_, .cons ?_ .nil⟩
  · exact (hlt row hrow).trans_eq hcolumn.len_eq.symm
  · exact selectsSlots_of_column hcolumn hcolumn' hreadable hreadable' hvalues

/-- Where the whole was emitted, a selection emits the selected entries. -/
theorem exists_emit_of_selects (hnames : ∀ tag, crates.exif.tagToString tag ≠ "")
    {args : Arguments} {evalRow : List (Option (name.function crates).Cell) →
      Run (Option (name.function crates).Row)}
    (hprepare : (name.function crates).prepare args = .ok evalRow)
    {columns columns' : List ArrayRef}
    (hslots : List.Forall₂ (SelectsSlots rows) columns columns') (hnodup : rows.Nodup)
    {count : ℕ} (hlt : ∀ row ∈ rows, row < count)
    {values : List (Option (name.function crates).Row)}
    (hemit : (name.spec crates).emit evalRow columns count = .ok values) :
    ∃ values', (name.spec crates).emit evalRow columns' rows.length = .ok values' ∧
      (values'.map some = rows.map fun row => values[row]?) ∧
        (name.spec crates).readable values ∧ (name.spec crates).readable values' := by
  obtain ⟨hlength, hvalues, -⟩ := emitRows_eq_ok_iff.1 hemit
  have hfits := fits_of_emitRows (name.spec crates).fits_nil hemit
  have hreadable := readable_of_isPrefix hnames name hprepare hvalues hfits
  obtain ⟨values', hemit', hentries⟩ := exists_emitRows_rowsAt
    (fun hsubperm => fits_of_subperm name hsubperm) (name.spec crates).fits_nil hemit hnodup hlt
  have hsubperm := subperm_of_entries hentries hnodup fun row hrow =>
    (hlt row hrow).trans_eq hlength.symm
  refine ⟨values', ?_, hentries, hreadable, readable_of_subperm name hsubperm hreadable⟩
  rw [emit_of_selects hslots]
  exact hemit'

end Selection

/-! ## Batches of a column -/

section Batches

variable {crates : Crates} {name : FunctionName} {args : Arguments} {schema : Schema}
variable {evalRow : List (Option (name.function crates).Cell) →
  Run (Option (name.function crates).Row)}

/-- Batch by batch, the worker does what the abstract loop does. -/
theorem mapM_process_agrees (hprepare : (name.function crates).prepare args = .ok evalRow)
    {field : String} (hschema : schema = ⟨[⟨field, (name.spec crates).dataType, true⟩]⟩)
    {whole : RecordBatch} {columns : List ArrayRef}
    (hcolumns : (name.function crates).inputs.mapM whole.column = .ok columns)
    {start : ℕ} {parts : List RecordBatch} (h : Splits whole start parts) :
    Agrees (List.Forall₂ (Emitted (name.spec crates) schema))
      (parts.mapM ((name.function crates).process crates.arrow ⟨schema, args⟩))
      (emitBatches ((name.function crates).rowValue evalRow columns) (name.spec crates).fits
        .panic start (parts.map RecordBatch.numRows)) := by
  induction h with
  | nil => exact .ok .nil
  | cons hpart hparts ih =>
      obtain ⟨columns', hcolumns', hslots⟩ := exists_inputs hpart hcolumns
      have hbatch :=
        (name.spec crates).process_agrees crates.arrow hprepare hschema hcolumns'
      rw [emit_of_selects_range hslots] at hbatch
      rw [List.mapM_cons, List.map_cons, emitBatches]
      refine hbatch.bind fun out rows hout => ?_
      refine ih.bind fun outs batches houts => ?_
      exact .ok (.cons hout houts)

/-- The outputs of the batches are the output of the whole, cut up. -/
theorem splits_of_emitted {out : RecordBatch} {values : List (Option (name.function crates).Row)}
    (hout : Emitted (name.spec crates) schema out values)
    (hreadable : (name.spec crates).readable values) {outs : List RecordBatch}
    {batches : List (List (Option (name.function crates).Row))}
    (houts : List.Forall₂ (Emitted (name.spec crates) schema) outs batches)
    {before : List (Option (name.function crates).Row)}
    (hvalues : values = before ++ batches.flatten) : Splits out before.length outs := by
  induction houts generalizing before with
  | nil =>
      have hrows : before.length = out.numRows := by
        obtain ⟨column, hcolumn, rfl⟩ := hout
        rw [List.flatten_nil, List.append_nil] at hvalues
        exact hvalues ▸ hcolumn.len_eq.symm
      rw [hrows]
      exact .nil
  | @cons part batch parts batches hpart hparts ih =>
      have hcount : part.numRows = batch.length := by
        obtain ⟨column, hcolumn, rfl⟩ := hpart
        exact hcolumn.len_eq
      have hassoc : values = before ++ batch ++ batches.flatten := by
        rw [hvalues, List.flatten_cons, List.append_assoc]
      have hbatch : batch.Subperm values := by
        rw [hassoc]
        exact (List.infix_append before batch _).sublist.subperm
      have hlength : values.length = before.length + batch.length + batches.flatten.length := by
        rw [hassoc, List.length_append, List.length_append]
      refine .cons ?_ ?_
      · refine selects_of_emitted hout hpart hreadable (readable_of_subperm name hbatch hreadable)
          (fun row hrow => ?_) ?_
        · rw [List.mem_range'_1] at hrow
          omega
        · rw [hcount, hassoc]
          exact (map_range'_getElem? before batch _).symm
      · have hnext := ih hassoc
        rwa [List.length_append, ← hcount] at hnext

/-- The column as a whole and its batches, when the whole fits the builders. -/
theorem process_agrees_mapM (hnames : ∀ tag, crates.exif.tagToString tag ≠ "")
    (hprepare : (name.function crates).prepare args = .ok evalRow)
    {field : String} (hschema : schema = ⟨[⟨field, (name.spec crates).dataType, true⟩]⟩)
    {whole : RecordBatch} {columns : List ArrayRef}
    (hcolumns : (name.function crates).inputs.mapM whole.column = .ok columns)
    {parts : List RecordBatch} (h : Splits whole 0 parts)
    (hroom : (name.spec crates).fits
      (stretch ((name.function crates).rowValue evalRow columns) whole.numRows)) :
    Agrees (fun out outs => Splits out 0 outs)
      ((name.function crates).process crates.arrow ⟨schema, args⟩ whole)
      (parts.mapM ((name.function crates).process crates.arrow ⟨schema, args⟩)) := by
  have hwhole := (name.spec crates).process_agrees crates.arrow hprepare hschema hcolumns
  have hparts := mapM_process_agrees hprepare hschema hcolumns h
  have hcut : (name.spec crates).emit evalRow columns whole.numRows =
      (emitBatches ((name.function crates).rowValue evalRow columns) (name.spec crates).fits
        .panic 0 (parts.map RecordBatch.numRows)).map fun batches => [] ++ batches.flatten :=
    emitRows_eq_emitBatches (fun hwindow => fits_of_subperm name hwindow.sublist.subperm)
      (parts.map RecordBatch.numRows) isPrefix_nil hroom h.numRows_eq
  cases hbatches : emitBatches ((name.function crates).rowValue evalRow columns)
      (name.spec crates).fits .panic 0 (parts.map RecordBatch.numRows) with
  | error e =>
      rw [hbatches] at hcut
      rw [hwhole.left_error hcut, hparts.left_error hbatches]
      exact .error e
  | ok batches =>
      rw [hbatches] at hcut
      obtain ⟨outs, houts, hemitted⟩ := hparts.exists_of_right_ok hbatches
      obtain ⟨out, hout, hwhole⟩ := hwhole.exists_of_right_ok hcut
      obtain ⟨-, hvalues, -⟩ := emitRows_eq_ok_iff.1 hcut
      have hfits := fits_of_emitRows (name.spec crates).fits_nil hcut
      have hreadable := readable_of_isPrefix hnames name hprepare hvalues hfits
      rw [hout, houts]
      exact .ok (splits_of_emitted hwhole hreadable hemitted rfl)

/-- A call on a column and a session on its batches agree: they emit the same
rows or stop in the same way, unless the call on the whole column panics. -/
theorem session_agrees_call (hvgi : VgiLaws crates.vgi)
    (hnames : ∀ tag, crates.exif.tagToString tag ≠ "") (name : FunctionName) (args : Arguments)
    {whole : RecordBatch} {parts : List RecordBatch} (h : Splits whole 0 parts) :
    (name.function crates).call crates.arrow args whole = .error .panic ∨
      Agrees (fun out outs => Splits out 0 outs)
        ((name.function crates).call crates.arrow args whole)
        ((name.function crates).session crates.arrow args parts) := by
  rw [ScalarFunction.call, ScalarFunction.session]
  cases hbind : (name.function crates).onBind ⟨args⟩ with
  | error e => exact Or.inr (.error e)
  | ok bound =>
      obtain ⟨evalRow, hprepare⟩ := exists_prepare_of_bind name hbind
      obtain ⟨field, hschema⟩ := exists_outputSchema hvgi name hbind
      change (name.function crates).process crates.arrow _ whole = _ ∨ Agrees _
        ((name.function crates).process crates.arrow _ whole) (parts.mapM _)
      cases hcolumns : (name.function crates).inputs.mapM whole.column with
      | error e =>
          obtain ⟨k, ⟨i, -, hi⟩, -⟩ := mapM_eq_error_iff.1 hcolumns
          obtain rfl := eq_panic_of_column hi
          left
          rw [ScalarFunction.process, bind_of_ok hprepare]
          exact bind_of_error hcolumns _
      | ok columns =>
          have hwhole := (name.spec crates).process_agrees crates.arrow hprepare hschema hcolumns
          by_cases hroom : (name.spec crates).fits
              (stretch ((name.function crates).rowValue evalRow columns) whole.numRows)
          · right
            exact process_agrees_mapM hnames hprepare hschema hcolumns h hroom
          · left
            apply hwhole.left_error
            exact emitRows_of_not_fits (name.spec crates).fits_nil
              (fun _ _ => (name.spec crates).fits_of_concat) hroom

end Batches

/-! ## A selection of rows -/

/-- Filtering, sorting or limiting the rows of a call that goes through filters,
sorts or limits its output. -/
theorem call_of_selects {crates : Crates} (hvgi : VgiLaws crates.vgi)
    (hnames : ∀ tag, crates.exif.tagToString tag ≠ "") (name : FunctionName) (args : Arguments)
    {whole part : RecordBatch} {rows : List ℕ} (h : Selects whole rows part)
    (hnodup : rows.Nodup) {out : RecordBatch}
    (hout : (name.function crates).call crates.arrow args whole = .ok out) :
    ∃ selected, (name.function crates).call crates.arrow args part = .ok selected ∧
      Selects out rows selected := by
  obtain ⟨bound, hbind, hprocess⟩ := bind_eq_ok_iff.1 hout
  obtain ⟨evalRow, hprepare, hrun⟩ := bind_eq_ok_iff.1 hprocess
  obtain ⟨columns, hcolumns, -⟩ := bind_eq_ok_iff.1 hrun
  obtain ⟨field, hschema⟩ := exists_outputSchema hvgi name hbind
  obtain ⟨columns', hcolumns', hslots⟩ := exists_inputs h hcolumns
  have hwhole := (name.spec crates).process_agrees crates.arrow hprepare hschema hcolumns
  have hpart := (name.spec crates).process_agrees crates.arrow hprepare hschema hcolumns'
  obtain ⟨values, hemit, hout⟩ := hwhole.exists_of_left_ok hprocess
  obtain ⟨hlength, -⟩ := emitRows_eq_ok_iff.1 hemit
  obtain ⟨values', hemit', hentries, hreadable, hreadable'⟩ :=
    exists_emit_of_selects hnames hprepare hslots hnodup h.lt_numRows hemit
  rw [h.numRows_eq] at hpart
  obtain ⟨selected, hselected, hemitted⟩ := hpart.exists_of_right_ok hemit'
  have hlt : ∀ row ∈ rows, row < values.length := fun row hrow =>
    (h.lt_numRows row hrow).trans_eq hlength.symm
  refine ⟨selected, ?_, selects_of_emitted hout hemitted hreadable hreadable' hlt hentries⟩
  rw [ScalarFunction.call, bind_of_ok hbind]
  exact hselected

/-! ## Batches of one blob column -/

section BlobBatch

/-- Blob cells are selected as the slots of their column. -/
theorem selects_blobBatch (cells : List (Option Blob)) (rows : List ℕ)
    (hrows : ∀ row ∈ rows, row < cells.length) :
    Selects (blobBatch cells) rows
      (blobBatch (rows.map fun row => (cells[row]?).join)) where
  schema_eq := rfl
  numRows_eq := by simp [blobBatch, RecordBatch.single, ArrayRef.len, ScalarArray.len,
    ScalarArray.slots]
  lt_numRows row hrow := by
    simpa [blobBatch, RecordBatch.single, ArrayRef.len, ScalarArray.len, ScalarArray.slots]
      using hrows row hrow
  columns := by
    refine .cons (fun k hk => ?_) .nil
    have hslot : ((rows.map fun row => (cells[row]?).join)[k]?).join =
        (cells[rows.getD k 0]?).join := by
      simp [hk]
    constructor
    · rfl
    · simp only [ArrayRef.isNull, value_binary, hslot]
    · simp only [ArrayRef.value, value_binary, hslot]

/-- The batches of a cut list of cells. -/
theorem splits_blobBatch (before : List (Option Blob)) (parts : List (List (Option Blob))) :
    Splits (blobBatch (before ++ parts.flatten)) before.length (parts.map blobBatch) := by
  have hcount : ∀ cells, (blobBatch cells).numRows = cells.length := fun cells => by
    simp [blobBatch, RecordBatch.single, ArrayRef.len, ScalarArray.len, ScalarArray.slots]
  induction parts generalizing before with
  | nil =>
      rw [List.flatten_nil, List.append_nil, ← hcount before]
      exact .nil
  | cons part parts ih =>
      have hnext := ih (before ++ part)
      rw [List.append_assoc, List.length_append, ← hcount part] at hnext
      refine .cons ?_ hnext
      have hcells : ((List.range' before.length part.length).map fun row =>
          ((before ++ (part ++ parts.flatten))[row]?).join) = part := by
        have hentries := congrArg (List.map Option.join)
          (map_range'_getElem? before part parts.flatten)
        simpa [Function.comp_def] using hentries
      have hselects := selects_blobBatch (before ++ (part ++ parts.flatten))
        (List.range' before.length part.length) fun row hrow => by
          rw [List.mem_range'_1] at hrow
          simp only [List.length_append]
          omega
      rwa [hcells, ← hcount part] at hselects

/-! ## Two files in two batches -/

theorem tagToString_tiffExif (tag : Tag) : tiffExif.tagToString tag ≠ "" := by
  change (if tag = orientation then "Orientation" else "Tag") ≠ ""
  split <;> decide

def tiffCells : List (List (Option Blob)) := [[some plainTiff], [none, some thumbnailTiff]]

/-- The tags of the two files, in one batch and in two. -/
theorem session_agrees_call_tiffCells :
    (FunctionName.function (referenceCrates tiffExif) (.blob .exif)).call arrowNames
        noArguments (blobBatch tiffCells.flatten) = .error .panic ∨
      Agrees (fun out outs => Splits out 0 outs)
        ((FunctionName.function (referenceCrates tiffExif) (.blob .exif)).call arrowNames
          noArguments (blobBatch tiffCells.flatten))
        ((FunctionName.function (referenceCrates tiffExif) (.blob .exif)).session arrowNames
          noArguments (tiffCells.map blobBatch)) :=
  @session_agrees_call (referenceCrates tiffExif) singleColumnBind_laws tagToString_tiffExif
    (.blob .exif) noArguments _ _ (splits_blobBatch [] tiffCells)

/-- The rows of the two files, the second one first. -/
theorem call_of_selects_tiffCells :
    ∃ out selected,
      (FunctionName.function (referenceCrates tiffExif) (.blob .exif)).call arrowNames
          noArguments (blobBatch tiffCells.flatten) = .ok out ∧
        (FunctionName.function (referenceCrates tiffExif) (.blob .exif)).call arrowNames
          noArguments (blobBatch [some thumbnailTiff, some plainTiff]) = .ok selected ∧
            Selects out [2, 0] selected := by
  obtain ⟨selected, hselected⟩ := @call_of_selects (referenceCrates tiffExif)
    singleColumnBind_laws tagToString_tiffExif (.blob .exif) noArguments _ _ [2, 0]
    (selects_blobBatch tiffCells.flatten [2, 0] (by decide)) (by decide) _ rfl
  exact ⟨_, selected, rfl, hselected⟩

end BlobBatch

end VgiImage.Scalar
