import VgiImage.Arrow.Array
import Mathlib.Data.List.Forall2

/-!
# Cutting and selecting batches

The same rows can reach a worker in many ways: a stream of rows is cut into
batches, and a filter, a sort or a limit hands over a selection.  What the rows
hold is stated slot by slot, by the data type, the null marker and the logical
value, whatever offsets and buffers the arrays are made of.
-/

namespace VgiImage.Arrow

/-- Slot `i` of `a` holds what slot `j` of `b` holds. -/
structure SameSlot (a : ArrayRef) (i : ℕ) (b : ArrayRef) (j : ℕ) : Prop where
  dataType_eq : a.dataType = b.dataType
  isNull_eq : a.isNull i = b.isNull j
  value_eq : a.value i = b.value j

/-- The slots of `b` hold what the given slots of `a` hold. -/
def SelectsSlots (rows : List ℕ) (a b : ArrayRef) : Prop :=
  ∀ k < rows.length, SameSlot a (rows.getD k 0) b k

/-- `part` holds the given rows of `whole`, in the order given. -/
structure Selects (whole : RecordBatch) (rows : List ℕ) (part : RecordBatch) : Prop where
  schema_eq : part.schema = whole.schema
  numRows_eq : part.numRows = rows.length
  lt_numRows : ∀ row ∈ rows, row < whole.numRows
  columns : List.Forall₂ (SelectsSlots rows) whole.columns part.columns

/-- The batches `parts` hold the rows of `whole` from `start` on, one range
after another. -/
inductive Splits (whole : RecordBatch) : ℕ → List RecordBatch → Prop
  | nil : Splits whole whole.numRows []
  | cons {start : ℕ} {part : RecordBatch} {parts : List RecordBatch}
      (hpart : Selects whole (List.range' start part.numRows) part)
      (hparts : Splits whole (start + part.numRows) parts) :
      Splits whole start (part :: parts)

/-- The batches of a split together have the rows of the whole. -/
theorem Splits.numRows_eq {whole : RecordBatch} {start : ℕ} {parts : List RecordBatch}
    (h : Splits whole start parts) :
    whole.numRows = start + (parts.map RecordBatch.numRows).sum := by
  induction h with
  | nil => simp
  | cons hpart hparts ih =>
      rw [ih, List.map_cons, List.sum_cons]
      omega

/-- A row of the whole is in one of the batches. -/
theorem Splits.exists_part {whole : RecordBatch} {start : ℕ} {parts : List RecordBatch}
    (h : Splits whole start parts) {k : ℕ} (hstart : start ≤ k) (hk : k < whole.numRows) :
    ∃ part ∈ parts, ∃ rows, Selects whole rows part ∧ rows.Nodup ∧ k ∈ rows := by
  induction h with
  | nil => omega
  | @cons start part parts hpart hparts ih =>
      by_cases hlt : k < start + part.numRows
      · exact ⟨part, .head _, _, hpart, List.nodup_range', List.mem_range'_1.2 ⟨hstart, hlt⟩⟩
      · obtain ⟨other, hother, hrows⟩ := ih (by omega)
        exact ⟨other, .tail _ hother, hrows⟩

/-- The columns `parts` hold the slots of `whole` from `start` on, one range after
another. -/
inductive SplitsSlots (whole : ArrayRef) : ℕ → List ArrayRef → Prop
  | nil : SplitsSlots whole whole.len []
  | cons {start : ℕ} {part : ArrayRef} {parts : List ArrayRef}
      (hpart : SelectsSlots (List.range' start part.len) whole part)
      (hparts : SplitsSlots whole (start + part.len) parts) :
      SplitsSlots whole start (part :: parts)

/-- A missing column is what a batch panics on. -/
theorem eq_panic_of_column {batch : RecordBatch} {i : ℕ} {halt : Halt}
    (h : batch.column i = .error halt) : halt = .panic := by
  rw [RecordBatch.column] at h
  cases hcolumn : batch.columns[i]? with
  | some column =>
      rw [hcolumn] at h
      cases h
  | none =>
      rw [hcolumn] at h
      exact (Except.error.inj h).symm

theorem column_eq_ok_iff {batch : RecordBatch} {i : ℕ} {column : ArrayRef} :
    batch.column i = .ok column ↔ batch.columns[i]? = some column := by
  rw [RecordBatch.column]
  cases batch.columns[i]? <;> simp

/-- A selection has the columns of the whole, slot by slot. -/
theorem Selects.exists_column {whole part : RecordBatch} {rows : List ℕ}
    (h : Selects whole rows part) {i : ℕ} {a : ArrayRef} (ha : whole.column i = .ok a) :
    ∃ b, part.column i = .ok b ∧ SelectsSlots rows a b := by
  rw [column_eq_ok_iff] at ha
  obtain ⟨hi, rfl⟩ := List.getElem?_eq_some_iff.1 ha
  have hi' : i < part.columns.length := h.columns.length_eq ▸ hi
  exact ⟨part.columns[i], column_eq_ok_iff.2 (List.getElem?_eq_getElem hi'),
    List.forall₂_iff_get.1 h.columns |>.2 i hi hi'⟩

theorem getD_range' {start count k : ℕ} (hk : k < count) :
    (List.range' start count).getD k 0 = start + k := by
  simp [List.getD, hk]

end VgiImage.Arrow
