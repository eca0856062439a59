import VgiImage.Scalar.Expression

/-!
# Expressions over a stream

The engine hands a table to the worker in vectors and evaluates the whole expression
on one vector before it takes the next.  The inner calls then no longer run on all rows
before the outer ones start, so the error answered may be another one; whether the
expression has a column, and which slots it has, stays the same.
-/

namespace VgiImage.Scalar

open Arrow ArrowIo Imaging Outcome RowLoop

/-! ## One node -/

section Call

variable {crates : Crates} {name : FunctionName} {args : Arguments} {count : ℕ}
variable {columns : List ArrayRef}

/-- Every row is in a vector on which the node has a column. -/
def CoveredBy (crates : Crates) (name : FunctionName) (args : Arguments) (count : ℕ)
    (columns : List ArrayRef) : Prop :=
  ∀ k < count, ∃ rows columns' column', k ∈ rows ∧
    List.Forall₂ (SelectsSlots rows) columns columns' ∧
      callOn crates name args rows.length columns' = .ok column'

/-- On all rows together a node that has a column on every vector can only outgrow its
builder. -/
theorem callOn_of_coveredBy (hvgi : VgiLaws crates.vgi) {bound : BindResponse}
    (hbind : (name.function crates).onBind ⟨args⟩ = .ok bound)
    (hinputs : (name.function crates).inputs = List.range columns.length)
    (hlen : ∀ column ∈ columns, column.len = count)
    (h : CoveredBy crates name args count columns) :
    callOn crates name args count columns = .error .panic ∨
      ∃ column, callOn crates name args count columns = .ok column := by
  obtain ⟨evalRow, hprepare⟩ := exists_prepare_of_bind name hbind
  have hagrees := callOn_agrees hvgi hbind hprepare hinputs hlen
  cases hcall : callOn crates name args count columns with
  | ok column => exact Or.inr ⟨column, rfl⟩
  | error halt =>
      left
      congr 1
      by_contra hne
      -- The first failing row fails in its vector too.
      obtain ⟨-, k, hk, hfail, -⟩ := (emitRows_eq_error_iff_of_ne_full
        (name.spec crates).fits_nil (fun _ _ => (name.spec crates).fits_of_concat)
        hne).1 (hagrees.right_error hcall)
      obtain ⟨rows, columns', column', hmem, hslots, hok⟩ := h k hk
      obtain ⟨j, hj, rfl⟩ := List.mem_iff_getElem.1 hmem
      rw [hslots.length_eq] at hinputs
      obtain ⟨-, _, evalRow', values, -, hprepare', hemit, -⟩ :=
        exists_emit_of_callOn hvgi hinputs hok
      obtain rfl := Except.ok.inj (hprepare'.symm.trans hprepare)
      obtain ⟨hlength, hvalues, -⟩ := emitRows_eq_ok_iff.1 hemit
      have hrow := @rowValue_congr crates name _ j evalRow' columns columns'
        (hslots.imp fun _ _ hslot => hslot j hj)
      rw [List.getD_eq_getElem _ _ hj, hfail, hvalues j (hlength.symm ▸ hj)] at hrow
      cases hrow

end Call

/-! ## Vector by vector -/

section Splits

variable {crates : Crates} {table : RecordBatch} {parts : List RecordBatch}

/-- The vectors of an expression that has a column hold the slots of the column. -/
theorem exists_mapM_eval (hvgi : VgiLaws crates.vgi)
    (hnames : ∀ tag, crates.exif.tagToString tag ≠ "") {start : ℕ}
    (h : Splits table start parts) {e : Expr} {column : ArrayRef}
    (heval : e.eval crates table = .ok column) :
    ∃ columns, parts.mapM (e.eval crates) = .ok columns ∧ SplitsSlots column start columns := by
  induction h with
  | nil =>
      rw [← Expr.len_of_eval hvgi heval]
      exact ⟨[], rfl, .nil⟩
  | @cons start part parts hpart hparts ih =>
      obtain ⟨columns, hcolumns, hsplits⟩ := ih
      obtain ⟨first, hfirst, hslots⟩ :=
        exists_eval_of_selects hvgi hnames hpart List.nodup_range' e heval
      rw [← Expr.len_of_eval hvgi hfirst] at hslots hsplits
      exact ⟨first :: columns, mapM_eq_ok_iff.2 (.cons hfirst (mapM_eq_ok_iff.1 hcolumns)),
        .cons hslots hsplits⟩

/-- An expression that has a column on every vector can only outgrow a builder on the
whole table. -/
theorem eval_of_parts (hvgi : VgiLaws crates.vgi)
    (hnames : ∀ tag, crates.exif.tagToString tag ≠ "") (h : Splits table 0 parts) {e : Expr}
    {type : DataType} (hbinds : Binds crates (table.columns.map ArrayRef.dataType) e type)
    (hparts : ∀ part ∈ parts, ∃ column, e.eval crates part = .ok column) :
    e.eval crates table = .error .panic ∨ ∃ column, e.eval crates table = .ok column := by
  induction hbinds with
  | @column i type htype =>
      rw [List.getElem?_map] at htype
      obtain ⟨column, hcolumn, -⟩ := Option.map_eq_some_iff.1 htype
      exact Or.inr ⟨column, column_eq_ok_iff.2 hcolumn⟩
  | @call name args bound input type hbind hinput hreads ih =>
      have hinputs : ∀ part ∈ parts, ∃ column, input.eval crates part = .ok column := by
        intro part hpart
        obtain ⟨column, hcolumn⟩ := hparts part hpart
        obtain ⟨col, hcol, -⟩ := bind_eq_ok_iff.1 hcolumn
        exact ⟨col, hcol⟩
      rw [Expr.eval]
      rcases ih hinputs with hpanic | ⟨col, hcol⟩
      · exact Or.inl (bind_of_error hpanic _)
      · rw [bind_of_ok hcol]
        apply @callOn_of_coveredBy crates (.blob name) args _ [col] hvgi bound hbind rfl
          (List.forall_mem_singleton.2 (Expr.len_of_eval hvgi hcol))
        intro k hk
        obtain ⟨part, hpart, rows, hselects, hnodup, hmem⟩ := h.exists_part (Nat.zero_le k) hk
        obtain ⟨col', hcol', hslots⟩ :=
          exists_eval_of_selects hvgi hnames hselects hnodup input hcol
        obtain ⟨column', hcolumn'⟩ := hparts part hpart
        rw [Expr.eval, bind_of_ok hcol', hselects.numRows_eq] at hcolumn'
        exact ⟨rows, [col'], column', hmem, .cons hslots .nil, hcolumn'⟩
  | @distance args a b type type' ha hb hreads hreads' iha ihb =>
      have hinputs : ∀ part ∈ parts, (∃ x, a.eval crates part = .ok x) ∧
          ∃ y, b.eval crates part = .ok y := by
        intro part hpart
        obtain ⟨column, hcolumn⟩ := hparts part hpart
        obtain ⟨x, hx, hcolumn⟩ := bind_eq_ok_iff.1 hcolumn
        obtain ⟨y, hy, -⟩ := bind_eq_ok_iff.1 hcolumn
        exact ⟨⟨x, hx⟩, y, hy⟩
      rw [Expr.eval]
      rcases iha fun part hpart => (hinputs part hpart).1 with hpanic | ⟨x, hx⟩
      · exact Or.inl (bind_of_error hpanic _)
      · rw [bind_of_ok hx]
        rcases ihb fun part hpart => (hinputs part hpart).2 with hpanic | ⟨y, hy⟩
        · exact Or.inl (bind_of_error hpanic _)
        · rw [bind_of_ok hy]
          obtain ⟨column, hcolumn, -⟩ := @exists_callOn_distance crates args table.numRows hvgi x y
            (Expr.len_of_eval hvgi hx) (Expr.len_of_eval hvgi hy)
            ((dataType_eval hvgi ha hx).symm ▸ hreads) ((dataType_eval hvgi hb hy).symm ▸ hreads')
          exact Or.inr ⟨column, hcolumn⟩

/-- Vector by vector, an expression has the column it has on the whole table, cut in the
same places, or it fails on both, unless a call on the whole table panics. -/
theorem eval_of_splits (hvgi : VgiLaws crates.vgi)
    (hnames : ∀ tag, crates.exif.tagToString tag ≠ "") (h : Splits table 0 parts) {e : Expr}
    {type : DataType} (hbinds : Binds crates (table.columns.map ArrayRef.dataType) e type) :
    e.eval crates table = .error .panic ∨
      (∃ column columns, e.eval crates table = .ok column ∧
        parts.mapM (e.eval crates) = .ok columns ∧ SplitsSlots column 0 columns) ∨
      (∃ failure halt, e.eval crates table = .error (.error failure) ∧
        parts.mapM (e.eval crates) = .error halt) := by
  cases heval : e.eval crates table with
  | ok column =>
      obtain ⟨columns, hcolumns, hsplits⟩ := exists_mapM_eval hvgi hnames h heval
      exact Or.inr (Or.inl ⟨column, columns, rfl, hcolumns, hsplits⟩)
  | error halt =>
      cases halt with
      | panic => exact Or.inl rfl
      | error failure =>
          cases hparts : parts.mapM (e.eval crates) with
          | error halt => exact Or.inr (Or.inr ⟨failure, halt, rfl, rfl⟩)
          | ok columns =>
              -- Columns on all vectors leave the panic only.
              have hall : ∀ part ∈ parts, ∃ column, e.eval crates part = .ok column := by
                intro part hpart
                obtain ⟨i, hi, rfl⟩ := List.mem_iff_getElem.1 hpart
                obtain ⟨hlength, hcolumns⟩ := List.forall₂_iff_get.1 (mapM_eq_ok_iff.1 hparts)
                exact ⟨_, hcolumns i hi (hlength ▸ hi)⟩
              rcases eval_of_parts hvgi hnames h hbinds hall with hpanic | ⟨column, hcolumn⟩
              · rw [heval] at hpanic
                cases hpanic
              · rw [heval] at hcolumn
                cases hcolumn

end Splits

/-- The sample and a NULL, in two vectors. -/
theorem eval_of_splits_thumbnailDistance :
    thumbnailDistance.eval (referenceCrates tiffExif)
        (blobBatch [some ReferenceCodec.samplePng, none]) = .error .panic ∨
      (∃ column columns, thumbnailDistance.eval (referenceCrates tiffExif)
          (blobBatch [some ReferenceCodec.samplePng, none]) = .ok column ∧
        [blobBatch [some ReferenceCodec.samplePng], blobBatch [none]].mapM
          (thumbnailDistance.eval (referenceCrates tiffExif)) = .ok columns ∧
            SplitsSlots column 0 columns) ∨
      (∃ failure halt, thumbnailDistance.eval (referenceCrates tiffExif)
          (blobBatch [some ReferenceCodec.samplePng, none]) = .error (.error failure) ∧
        [blobBatch [some ReferenceCodec.samplePng], blobBatch [none]].mapM
          (thumbnailDistance.eval (referenceCrates tiffExif)) = .error halt) :=
  @eval_of_splits (referenceCrates tiffExif) _ _ singleColumnBind_laws tagToString_tiffExif
    (splits_blobBatch [] [[some ReferenceCodec.samplePng], [none]]) thumbnailDistance _
    (binds_thumbnailDistance _)

end VgiImage.Scalar
