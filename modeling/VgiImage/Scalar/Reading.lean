import VgiImage.Arrow.Rebatch
import VgiImage.Scalar.Distance
import VgiImage.Scalar.Overflow

/-!
# What the functions read of a slot

A cell reader looks at the data type, the null marker and the value of a slot
and at nothing else, so slots that hold the same are read alike, and rows whose
slots hold the same compute the same.
-/

namespace VgiImage.Scalar

open Arrow ArrowIo Imaging Outcome RowLoop

/-! ## Blob cells -/

/-- The bytes of a binary or string value. -/
def bytesOf : Arrow.Value → Option Blob
  | .scalar (.bytes bytes) => some bytes
  | .scalar (.text text) => some (utf8Bytes text)
  | _ => none

theorem join_of_carries {col : ArrayRef} {cells : List (Option Blob)} (h : Carries col cells)
    (i : ℕ) : (cells[i]?).join = (col.value i).bind bytesOf := by
  cases h
  case binary =>
    rcases hcell : cells[i]? with _ | _ | bytes <;>
      simp [ArrayRef.value, ScalarArray.value, ScalarArray.slots, hcell, bytesOf]
  case largeBinary =>
    rcases hcell : cells[i]? with _ | _ | bytes <;>
      simp [ArrayRef.value, ScalarArray.value, ScalarArray.slots, hcell, bytesOf]
  case utf8 texts =>
    rcases hcell : texts[i]? with _ | _ | text <;>
      simp [ArrayRef.value, ScalarArray.value, ScalarArray.slots, hcell, bytesOf]
  case largeUtf8 texts =>
    rcases hcell : texts[i]? with _ | _ | text <;>
      simp [ArrayRef.value, ScalarArray.value, ScalarArray.slots, hcell, bytesOf]

section SameSlot

variable {a b : ArrayRef} {i j : ℕ}

theorem blobBytes_congr (arrow : ArrowCrate) (h : SameSlot a i b j) :
    blobBytes arrow a i = blobBytes arrow b j := by
  have hreads : (∃ cells, Carries a cells) ↔ ∃ cells, Carries b cells := by
    rw [carries_iff_reads .imageInfo, carries_iff_reads .imageInfo, h.dataType_eq]
  by_cases hcarries : ∃ cells, Carries a cells
  · obtain ⟨cells, hcells⟩ := hcarries
    obtain ⟨cells', hcells'⟩ := hreads.1 ⟨cells, hcells⟩
    rw [blobBytes_of_carries arrow hcells, blobBytes_of_carries arrow hcells',
      join_of_carries hcells, join_of_carries hcells', h.value_eq]
  · cases hnull : a.isNull i with
    | true =>
        rw [blobBytes_of_isNull arrow hnull,
          blobBytes_of_isNull arrow (h.isNull_eq ▸ hnull)]
    | false =>
        rw [blobBytes_of_not_carries arrow (not_exists.1 hcarries) hnull,
          blobBytes_of_not_carries arrow (not_exists.1 (mt hreads.2 hcarries))
            (h.isNull_eq ▸ hnull), notBlob, notBlob, h.dataType_eq]

/-! ## Hash cells -/

/-- The type error an argument that is no integer is answered with. -/
def notHash (arrow : ArrowCrate) (type : DataType) : Halt :=
  let typeName := arrow.debugType type
  .error (.valueError s!"phash_distance: arguments must be integer hashes, got {typeName}")

theorem hashBits_of_not_reads (arrow : ArrowCrate) {column : ArrayRef}
    (hreads : ¬ FunctionName.phashDistance.Reads column.dataType)
    (hnull : column.isNull i = false) :
    hashBits arrow column i = .error (notHash arrow column.dataType) := by
  unfold hashBits
  rw [hnull, if_neg Bool.false_ne_true]
  cases column with
  | scalar array =>
      cases array
      case boolean | float64 | binary | largeBinary | utf8 | largeUtf8 => rfl
      all_goals simp [FunctionName.readTypes, ScalarArray.dataType] at hreads
  | null | struct | map | other => rfl

/-- A slot of an integer column that is not NULL holds a number. -/
theorem exists_int_of_reads {column : ArrayRef}
    (hreads : FunctionName.phashDistance.Reads column.dataType)
    (hnull : column.isNull i = false) :
    ∃ m, column.value i = some (.scalar (.int m)) := by
  cases column with
  | scalar array =>
      have hvalue : (array.value i).isSome := by simpa [ArrayRef.isNull] using hnull
      obtain ⟨v, hv⟩ := Option.isSome_iff_exists.1 hvalue
      have hint : ∃ m, v = .int m := by
        cases array
        case boolean | float64 | binary | largeBinary | utf8 | largeUtf8 =>
          simp [FunctionName.readTypes, ScalarArray.dataType] at hreads
        all_goals
          obtain ⟨x, -, rfl⟩ := exists_valueAt hv
          exact ⟨_, rfl⟩
      obtain ⟨m, rfl⟩ := hint
      exact ⟨m, by rw [ArrayRef.value, hv]; rfl⟩
  | null | struct | map | other => exact hreads.elim

theorem isWordOf_unique {x y : UInt64} {m : ℤ} (hx : IsWordOf x m) (hy : IsWordOf y m) :
    x = y := by
  apply UInt64.toNat_inj.1
  exact_mod_cast hx.trans hy.symm

theorem hashBits_congr (arrow : ArrowCrate) (h : SameSlot a i b j) :
    hashBits arrow a i = hashBits arrow b j := by
  cases hnull : a.isNull i with
  | true =>
      rw [hashBits_of_isNull arrow hnull, hashBits_of_isNull arrow (h.isNull_eq ▸ hnull)]
  | false =>
      by_cases hreads : FunctionName.phashDistance.Reads a.dataType
      · obtain ⟨m, hm⟩ := exists_int_of_reads hreads hnull
        obtain ⟨x, hx, hword⟩ := hashBits_of_value arrow hm
        obtain ⟨y, hy, hword'⟩ := hashBits_of_value arrow (h.value_eq ▸ hm)
        rw [hx, hy, isWordOf_unique hword hword']
      · rw [hashBits_of_not_reads arrow hreads hnull,
          hashBits_of_not_reads arrow (h.dataType_eq ▸ hreads) (h.isNull_eq ▸ hnull),
          h.dataType_eq]

end SameSlot

/-! ## Rows -/

theorem rowValue_eq_columnRow {crates : Crates} {name : BlobName} {col : ArrayRef}
    (rowOf : Blob → Run (Option (name.function crates).Row)) :
    ((name.function crates).toScalar crates.arrow).rowValue (onBlob rowOf) [col] =
      columnRow crates.arrow rowOf col :=
  funext fun i => rowValue_toScalar (name.function crates) crates.arrow rowOf col i

section Rows

variable {crates : Crates} {name : FunctionName} {i j : ℕ}

theorem readCell_congr {a b : ArrayRef} (h : SameSlot a i b j) :
    (name.function crates).readCell a i = (name.function crates).readCell b j := by
  cases name with
  | blob name => exact blobBytes_congr crates.arrow h
  | phashDistance => exact hashBits_congr crates.arrow h

/-- Rows that hold the same compute the same. -/
theorem rowValue_congr {evalRow : List (Option (name.function crates).Cell) →
      Run (Option (name.function crates).Row)} {columns columns' : List ArrayRef}
    (h : List.Forall₂ (fun a b => SameSlot a i b j) columns columns') :
    (name.function crates).rowValue evalRow columns i =
      (name.function crates).rowValue evalRow columns' j := by
  have hcells : (columns.mapM fun column => (name.function crates).readCell column i) =
      columns'.mapM fun column => (name.function crates).readCell column j := by
    induction h with
    | nil => rfl
    | cons hslot _ ih => rw [List.mapM_cons, List.mapM_cons, readCell_congr hslot, ih]
  rw [ScalarFunction.rowValue, ScalarFunction.rowValue, hcells]

end Rows

end VgiImage.Scalar
