import VgiImage.Scalar.Expression

/-!
# Expressions row by row

What an expression means needs no arrays and no builders: each row is computed on its
own from the logical values of the columns, with NULL for NULL.  The evaluation of the
engine, one call on all rows at each node, computes that meaning.
-/

namespace VgiImage.Scalar

open Arrow ArrowIo Imaging Outcome RowLoop BitDistance

/-! ## The meaning of a row -/

/-- What a blob function makes of a blob under its constants. -/
def BlobName.meaning (crates : Crates) (args : Arguments) :
    BlobName → Run (Blob → Run (Option Arrow.Value))
  | imageInfo => .ok fun bytes =>
      (liftImg (Imaging.imageInfo crates.image bytes)).map fun info => some (infoValue info)
  | exif => .ok fun bytes =>
      (liftImg (Imaging.exif crates.exif bytes)).map fun pairs => some (mapValue pairs)
  | exifGps => .ok fun bytes =>
      (liftImg (Imaging.exifGps crates.exif bytes)).map (Option.map gpsValue)
  | phash => .ok fun bytes =>
      (liftImg (perceptualHash crates.image crates.hasher bytes .perceptual)).map fun hash =>
        some (PerceptualHash.hashValue hash)
  | dhash => .ok fun bytes =>
      (liftImg (perceptualHash crates.image crates.hasher bytes .difference)).map fun hash =>
        some (PerceptualHash.hashValue hash)
  | ahash => .ok fun bytes =>
      (liftImg (perceptualHash crates.image crates.hasher bytes .average)).map fun hash =>
        some (PerceptualHash.hashValue hash)
  | thumbnail => .ok fun bytes =>
      (callThumbnail crates.image bytes 128 128 .jpeg).map fun out => some (blobValue out)
  | thumbnailFit => do
      let width ← dimAt args 1 "width"
      let height ← dimAt args 2 "height"
      let fmt ← formatAt args 3 ThumbnailFit.missingFormat
      .ok fun bytes =>
        (callThumbnail crates.image bytes width height fmt).map fun out =>
          some (blobValue out)
  | convert => do
      let fmt ← formatAt args 1 Convert.missingFormat
      .ok fun bytes => (callConvert crates.image bytes fmt).map fun out =>
        some (blobValue out)

/-- The distance of two numbers, and NULL without two of them. -/
def distanceMeaning : Option Arrow.Value → Option Arrow.Value → Option Arrow.Value
  | some (.scalar (.int m)), some (.scalar (.int n)) =>
      some (.scalar (.int (differingBits 64 m n)))
  | _, _ => none

/-- The value of an expression in a row of logical values. -/
def Expr.denote (crates : Crates) (row : List (Option Arrow.Value)) :
    Expr → Run (Option Arrow.Value)
  | column i => .ok (row[i]?).join
  | call name args input => do
      let value ← input.denote crates row
      let imaging ← name.meaning crates args
      cellRow imaging (value.bind bytesOf)
  | distance _ a b => do
      let x ← a.denote crates row
      let y ← b.denote crates row
      .ok (distanceMeaning x y)

/-- The logical values of a row. -/
def valuesAt (table : RecordBatch) (i : ℕ) : List (Option Arrow.Value) :=
  table.columns.map fun column => column.value i

/-! ## One node -/

section Blob

variable {crates : Crates} {name : BlobName} {args : Arguments} {col : ArrayRef}
variable {rowOf : Blob → Run (Option (name.function crates).Row)}

theorem Computes.meaning_eq {imaging : Blob → Run (Option Arrow.Value)}
    (h : Computes crates args name imaging) : name.meaning crates args = .ok imaging := by
  cases h with
  | thumbnailFit hwidth hheight hfmt =>
      rw [BlobName.meaning, bind_of_ok hwidth, bind_of_ok hheight, bind_of_ok hfmt]
  | convert hfmt => rw [BlobName.meaning, bind_of_ok hfmt]
  | _ => rfl

/-- The meaning of a function is what its argument stage yields. -/
theorem meaning_eq (decodes : DecodeLaws crates.image) {bound : BindResponse}
    (hbind : (name.function crates).onBind ⟨args⟩ = .ok bound)
    (hprepare : (name.function crates).prepare args = .ok rowOf) :
    name.meaning crates args =
      .ok fun bytes => (rowOf bytes).map (Option.map (name.spec crates).value) := by
  obtain ⟨imaging, hcomputes⟩ := exists_computes hbind
  obtain ⟨rowOf', hprepare', himaging⟩ := hcomputes.exists_prepare decodes
  obtain rfl := Except.ok.inj (hprepare.symm.trans hprepare')
  rw [hcomputes.meaning_eq, himaging]

theorem cellRow_map {ρ τ : Type} (imaging : Blob → Run (Option ρ)) (value : ρ → τ)
    (cell : Option Blob) :
    cellRow (fun bytes => (imaging bytes).map (Option.map value)) cell =
      (cellRow imaging cell).map (Option.map value) := by
  cases cell with
  | none => rfl
  | some bytes => rfl

/-- A row of a column that is read depends on its value. -/
theorem columnRow_of_reads (hreads : (FunctionName.blob name).Reads col.dataType) (i : ℕ) :
    columnRow crates.arrow rowOf col i = cellRow rowOf ((col.value i).bind bytesOf) := by
  obtain ⟨cells, hcells⟩ := (carries_iff_reads name).2 hreads
  rw [columnRow, blobBytes_of_carries crates.arrow hcells, bind_of_ok rfl,
    join_of_carries hcells]

/-- A call means in each row what the loop over its column computes there. -/
theorem denote_call (decodes : DecodeLaws crates.image) {bound : BindResponse}
    (hbind : (name.function crates).onBind ⟨args⟩ = .ok bound)
    (hprepare : (name.function crates).prepare args = .ok rowOf)
    (hreads : (FunctionName.blob name).Reads col.dataType) {input : Expr}
    {row : List (Option Arrow.Value)} {i : ℕ}
    (hinput : input.denote crates row = .ok (col.value i)) :
    (Expr.call name args input).denote crates row =
      (columnRow crates.arrow rowOf col i).map (Option.map (name.spec crates).value) :=
  calc
    (Expr.call name args input).denote crates row =
        cellRow (fun bytes => (rowOf bytes).map (Option.map (name.spec crates).value))
          ((col.value i).bind bytesOf) := by
      rw [Expr.denote, bind_of_ok hinput, bind_of_ok (meaning_eq decodes hbind hprepare)]
    _ = (cellRow rowOf ((col.value i).bind bytesOf)).map
          (Option.map (name.spec crates).value) := cellRow_map _ _ _
    _ = _ := by rw [columnRow_of_reads hreads]

end Blob

section Distance

variable {a b : ArrayRef} {i : ℕ}

theorem value_eq_none_of_reads {column : ArrayRef}
    (hreads : FunctionName.phashDistance.Reads column.dataType)
    (hnull : column.isNull i = true) : column.value i = none := by
  cases column with
  | scalar array =>
      rw [ArrayRef.isNull, Option.isNone_iff_eq_none] at hnull
      rw [ArrayRef.value, hnull]
      rfl
  | null | struct | map | other => exact hreads.elim

/-- A row of two integer columns holds the distance of their values. -/
theorem DistanceRow.map_value_eq {row : Option Int32} (h : DistanceRow a b i row)
    (ha : FunctionName.phashDistance.Reads a.dataType)
    (hb : FunctionName.phashDistance.Reads b.dataType) :
    row.map PhashDistance.distanceValue = distanceMeaning (a.value i) (b.value i) := by
  have hnone := h.isNone_eq
  cases hnulla : a.isNull i with
  | true =>
      rw [hnulla, Bool.true_or, Option.isNone_iff_eq_none] at hnone
      rw [hnone, value_eq_none_of_reads ha hnulla]
      rfl
  | false =>
      obtain ⟨m, hm⟩ := exists_int_of_reads ha hnulla
      cases hnullb : b.isNull i with
      | true =>
          rw [hnulla, hnullb, Bool.false_or, Option.isNone_iff_eq_none] at hnone
          rw [hnone, hm, value_eq_none_of_reads hb hnullb]
          rfl
      | false =>
          obtain ⟨n, hn⟩ := exists_int_of_reads hb hnullb
          rw [h.value_eq m n hm hn, hm, hn]
          rfl

/-- The column of distances holds in each row what the distance means there. -/
theorem exists_callOn_distanceMeaning {crates : Crates} (hvgi : VgiLaws crates.vgi)
    (args : Arguments) {rows : ℕ} (hlena : a.len = rows) (hlenb : b.len = rows)
    (ha : FunctionName.phashDistance.Reads a.dataType)
    (hb : FunctionName.phashDistance.Reads b.dataType) :
    ∃ column, callOn crates .phashDistance args rows [a, b] = .ok column ∧
      ∀ i < rows, column.value i = distanceMeaning (a.value i) (b.value i) := by
  obtain ⟨column, hcolumn, out, hholds, hlength, hrows⟩ :=
    @exists_callOn_distance crates args rows hvgi a b hlena hlenb ha hb
  refine ⟨column, hcolumn, fun i hi => ?_⟩
  rw [← hlength] at hi
  have hvalue : column.value i = (out[i]?).join.map PhashDistance.distanceValue :=
    hholds.value_eq trivial i
  rw [hvalue, List.getElem?_eq_getElem hi, ← (hrows i hi).map_value_eq ha hb]
  rfl

end Distance

/-! ## All rows -/

section Rows

variable {crates : Crates} {table : RecordBatch}

/-- An evaluation of the table computes what the expression means in each row, and what it
is answered with is the error of a row. -/
inductive Realises (crates : Crates) (table : RecordBatch) (e : Expr) : Run ArrayRef → Prop
  | column {column : ArrayRef}
      (h : ∀ i < table.numRows, e.denote crates (valuesAt table i) = .ok (column.value i)) :
      Realises crates table e (.ok column)
  | failure {failure : RpcError} {i : ℕ} (hi : i < table.numRows)
      (h : e.denote crates (valuesAt table i) = .error (.error failure)) :
      Realises crates table e (.error (.error failure))

/-- A call on a column that holds what its argument means. -/
theorem realises_call (hvgi : VgiLaws crates.vgi) (decodes : DecodeLaws crates.image)
    (hnames : ∀ tag, crates.exif.tagToString tag ≠ "") {name : BlobName} {args : Arguments}
    {bound : BindResponse} (hbind : (name.function crates).onBind ⟨args⟩ = .ok bound)
    {input : Expr} {col : ArrayRef} (hlen : col.len = table.numRows)
    (hreads : (FunctionName.blob name).Reads col.dataType)
    (hinput : ∀ i < table.numRows, input.denote crates (valuesAt table i) = .ok (col.value i)) :
    callOn crates (.blob name) args table.numRows [col] = .error .panic ∨
      Realises crates table (.call name args input)
        (callOn crates (.blob name) args table.numRows [col]) := by
  have hrow : ∀ {rowOf : Blob → Run (Option (name.function crates).Row)},
      (name.function crates).prepare args = .ok rowOf → ∀ i < table.numRows,
        (Expr.call name args input).denote crates (valuesAt table i) =
          (columnRow crates.arrow rowOf col i).map (Option.map (name.spec crates).value) :=
    fun hprepare i hi => denote_call decodes hbind hprepare hreads (hinput i hi)
  cases hcall : callOn crates (.blob name) args table.numRows [col] with
  | ok column =>
      right
      obtain ⟨-, -, evalRow, values, -, hevalRow, hemit, hcolumn⟩ :=
        @exists_emit_of_callOn crates (.blob name) args _ [col] hvgi rfl column hcall
      obtain ⟨hlength, hvalues, -⟩ := emitRows_eq_ok_iff.1 hemit
      have hfits := fits_of_emitRows (name.spec crates).fits_nil hemit
      have hreadable := readable_of_isPrefix hnames (.blob name) hevalRow hvalues hfits
      obtain ⟨rowOf, hprepare, rfl⟩ := map_eq_ok_iff.1 hevalRow
      refine .column fun i hi => ?_
      have hi' : i < values.length := hlength.symm ▸ hi
      have hvalue : column.value i = (values[i]?).join.map (name.spec crates).value :=
        hcolumn.value_eq hreadable i
      have hcolumnRow : columnRow crates.arrow rowOf col i = .ok values[i] :=
        (congrFun (rowValue_eq_columnRow rowOf) i).symm.trans (hvalues i hi')
      rw [hrow hprepare i hi, hcolumnRow, hvalue, List.getElem?_eq_getElem hi']
      rfl
  | error halt =>
      cases (callOn_blob_eq_error_iff hvgi hbind hlen hreads).1 hcall with
      | full => exact Or.inl rfl
      | oversized => exact Or.inl rfl
      | blob hprepare hfits hi hcell he hfirst =>
          right
          refine .failure hi ?_
          rw [hrow hprepare _ hi,
            (columnRow_eq_error_iff hreads).2 ⟨_, hcell, he⟩]
          rfl

/-- Column by column, an expression that binds computes what it means, unless a call
panics. -/
theorem realises_eval (hvgi : VgiLaws crates.vgi) (decodes : DecodeLaws crates.image)
    (hnames : ∀ tag, crates.exif.tagToString tag ≠ "") {e : Expr} {type : DataType}
    (h : Binds crates (table.columns.map ArrayRef.dataType) e type) :
    e.eval crates table = .error .panic ∨ Realises crates table e (e.eval crates table) := by
  induction h with
  | @column k type htype =>
      rw [List.getElem?_map] at htype
      obtain ⟨column, hcolumn, -⟩ := Option.map_eq_some_iff.1 htype
      right
      rw [Expr.eval, column_eq_ok_iff.2 hcolumn]
      refine .column fun i _ => ?_
      rw [Expr.denote, valuesAt, List.getElem?_map, hcolumn]
      rfl
  | @call name args bound input type hbind hinput hreads ih =>
      rw [Expr.eval]
      rcases ih with hpanic | hrealises
      · exact Or.inl (bind_of_error hpanic _)
      · generalize heval : input.eval crates table = result at hrealises
        cases hrealises with
        | @column col hcol =>
            rw [bind_of_ok rfl]
            have htype := dataType_eval hvgi hinput heval
            exact realises_call hvgi decodes hnames hbind (Expr.len_of_eval hvgi heval)
              (htype ▸ hreads) hcol
        | @failure failure i hi hrow =>
            right
            rw [bind_of_error rfl]
            exact .failure hi (bind_of_error hrow _)
  | @distance args a b type type' ha hb hreads hreads' iha ihb =>
      rw [Expr.eval]
      rcases iha with hpanic | hrealises
      · exact Or.inl (bind_of_error hpanic _)
      · generalize hevala : a.eval crates table = result at hrealises
        cases hrealises with
        | @failure failure i hi hrow =>
            right
            rw [bind_of_error rfl]
            exact .failure hi (bind_of_error hrow _)
        | @column x hx =>
            rw [bind_of_ok rfl]
            rcases ihb with hpanic | hrealises'
            · exact Or.inl (bind_of_error hpanic _)
            · generalize hevalb : b.eval crates table = result' at hrealises'
              right
              cases hrealises' with
              | @failure failure i hi hrow =>
                  rw [bind_of_error rfl]
                  refine .failure hi ?_
                  rw [Expr.denote, bind_of_ok (hx i hi), bind_of_error hrow]
              | @column y hy =>
                  obtain ⟨column, hcolumn, hvalue⟩ := exists_callOn_distanceMeaning hvgi args
                    (Expr.len_of_eval hvgi hevala) (Expr.len_of_eval hvgi hevalb)
                    ((dataType_eval hvgi ha hevala).symm ▸ hreads)
                    ((dataType_eval hvgi hb hevalb).symm ▸ hreads')
                  rw [bind_of_ok rfl, hcolumn]
                  refine .column fun i hi => ?_
                  rw [Expr.denote, bind_of_ok (hx i hi), bind_of_ok (hy i hi), hvalue i hi]

/-- What an evaluation of the table makes of its rows. -/
structure RowByRow (crates : Crates) (table : RecordBatch) (e : Expr) (result : Run ArrayRef) :
    Prop where
  exists_iff : (∃ column, result = .ok column) ↔
    ∀ i < table.numRows, ∃ value, e.denote crates (valuesAt table i) = .ok value
  /-- The column holds the value of each row. -/
  column {column : ArrayRef} (h : result = .ok column) : column.len = table.numRows ∧
    ∀ i < table.numRows, e.denote crates (valuesAt table i) = .ok (column.value i)
  /-- What is answered is the error of a row. -/
  failure {failure : RpcError} (h : result = .error (.error failure)) :
    ∃ i < table.numRows, e.denote crates (valuesAt table i) = .error (.error failure)

/-- Evaluating an expression that binds column by column is evaluating it row by row, unless
a call panics: there is a column exactly when every row has a value, it holds
these values, and a failure is the error of one of the rows. -/
theorem eval_rowByRow (hvgi : VgiLaws crates.vgi) (decodes : DecodeLaws crates.image)
    (hnames : ∀ tag, crates.exif.tagToString tag ≠ "") {e : Expr} {type : DataType}
    (h : Binds crates (table.columns.map ArrayRef.dataType) e type) :
    e.eval crates table = .error .panic ∨ RowByRow crates table e (e.eval crates table) := by
  rcases realises_eval hvgi decodes hnames h with hpanic | hrealises
  · exact Or.inl hpanic
  · right
    generalize heval : e.eval crates table = result at hrealises
    cases hrealises with
    | @column column hvalues =>
        refine ⟨iff_of_true ⟨column, rfl⟩ fun i hi => ⟨_, hvalues i hi⟩, fun hresult => ?_, nofun⟩
        cases hresult
        exact ⟨Expr.len_of_eval hvgi heval, hvalues⟩
    | @failure failure i hi hrow =>
        refine ⟨iff_of_false nofun fun hall => ?_, nofun, fun hresult => ?_⟩
        · obtain ⟨value, hvalue⟩ := hall i hi
          rw [hrow] at hvalue
          cases hvalue
        · cases hresult
          exact ⟨i, hi, hrow⟩

end Rows

theorem eval_rowByRow_thumbnailDistance :
    thumbnailDistance.eval (referenceCrates tiffExif)
        (blobBatch [some ReferenceCodec.samplePng, none]) = .error .panic ∨
      RowByRow (referenceCrates tiffExif) (blobBatch [some ReferenceCodec.samplePng, none])
        thumbnailDistance (thumbnailDistance.eval (referenceCrates tiffExif)
          (blobBatch [some ReferenceCodec.samplePng, none])) :=
  @eval_rowByRow (referenceCrates tiffExif) _ singleColumnBind_laws codec_decodeLaws
    tagToString_tiffExif thumbnailDistance _ (binds_thumbnailDistance _)

end VgiImage.Scalar
