import VgiImage.Core.ExactFloat
import VgiImage.Imaging.Call

/-!
# Arrow arrays and record batches

The part of the Arrow data model the worker touches.  An array slot is `none`
when the physical null buffer marks it null.  Arrays of every other layout are
kept by name, with what their null buffer and their values say about each slot.
-/

namespace VgiImage.Arrow

/-! ## Data types -/

inductive ScalarType where
  | boolean | int8 | int16 | int32 | int64 | uint8 | uint16 | uint32 | uint64
  | float64 | binary | largeBinary | utf8 | largeUtf8
  deriving DecidableEq

structure Field (τ : Type) where
  name : String
  dataType : τ
  nullable : Bool
  deriving DecidableEq

/-- Child field names of a map. -/
structure MapFieldNames where
  entry : String
  key : String
  value : String
  deriving DecidableEq

inductive DataType where
  /-- The type of an untyped NULL column. -/
  | null
  | scalar (type : ScalarType)
  | struct (fields : List (Field ScalarType))
  /-- A map from strings to strings. -/
  | map (names : MapFieldNames)
  /-- Any further data type, by its name. -/
  | other (name : String)
  deriving DecidableEq

structure Schema where
  fields : List (Field DataType)
  deriving DecidableEq

/-! ## Arrays -/

inductive ScalarArray where
  | boolean (slots : List (Option Bool))
  | int8 (slots : List (Option Int8))
  | int16 (slots : List (Option Int16))
  | int32 (slots : List (Option Int32))
  | int64 (slots : List (Option Int64))
  | uint8 (slots : List (Option UInt8))
  | uint16 (slots : List (Option UInt16))
  | uint32 (slots : List (Option UInt32))
  | uint64 (slots : List (Option UInt64))
  | float64 (slots : List (Option ExactFloat))
  | binary (slots : List (Option Blob))
  | largeBinary (slots : List (Option Blob))
  | utf8 (slots : List (Option String))
  | largeUtf8 (slots : List (Option String))

/-- What an array of another layout says about a slot.  Dictionary, run-end
and union arrays can refer to a null value without marking the slot in a null
buffer of their own. -/
inductive SlotState where
  | valid | markedNull | refersToNull
  deriving DecidableEq

inductive ArrayRef where
  | null (len : ℕ)
  | scalar (array : ScalarArray)
  | struct (fields : List (Field ScalarType)) (columns : List ScalarArray)
      (validity : List Bool)
  | map (names : MapFieldNames) (offsets : List Int32)
      (keys values : List (Option String)) (validity : List Bool)
  | other (name : String) (slots : List SlotState)

namespace ScalarArray

def dataType : ScalarArray → ScalarType
  | boolean _ => .boolean
  | int8 _ => .int8
  | int16 _ => .int16
  | int32 _ => .int32
  | int64 _ => .int64
  | uint8 _ => .uint8
  | uint16 _ => .uint16
  | uint32 _ => .uint32
  | uint64 _ => .uint64
  | float64 _ => .float64
  | binary _ => .binary
  | largeBinary _ => .largeBinary
  | utf8 _ => .utf8
  | largeUtf8 _ => .largeUtf8

/-- A logical value.  All integer types share one, so that a value can be
compared across column types. -/
inductive Value where
  | boolean (value : Bool)
  | int (value : ℤ)
  | float (value : ExactFloat)
  | bytes (value : Blob)
  | text (value : String)
  deriving DecidableEq

/-- The slots of an array as logical values. -/
def slots : ScalarArray → List (Option Value)
  | boolean slots => slots.map (Option.map .boolean)
  | int8 slots => slots.map (Option.map fun x => .int x.toInt)
  | int16 slots => slots.map (Option.map fun x => .int x.toInt)
  | int32 slots => slots.map (Option.map fun x => .int x.toInt)
  | int64 slots => slots.map (Option.map fun x => .int x.toInt)
  | uint8 slots => slots.map (Option.map fun x => .int x.toNat)
  | uint16 slots => slots.map (Option.map fun x => .int x.toNat)
  | uint32 slots => slots.map (Option.map fun x => .int x.toNat)
  | uint64 slots => slots.map (Option.map fun x => .int x.toNat)
  | float64 slots => slots.map (Option.map .float)
  | binary slots => slots.map (Option.map .bytes)
  | largeBinary slots => slots.map (Option.map .bytes)
  | utf8 slots => slots.map (Option.map .text)
  | largeUtf8 slots => slots.map (Option.map .text)

def len (array : ScalarArray) : ℕ := array.slots.length

/-- The value at `row`, or `none` when the slot is null. -/
def value (array : ScalarArray) (row : ℕ) : Option Value :=
  (array.slots[row]?).join

end ScalarArray

/-- A logical value of any array: a scalar, the fields of a struct, or the
entries of a map. -/
inductive Value where
  | scalar (value : ScalarArray.Value)
  | struct (fields : List (Option ScalarArray.Value))
  | map (entries : List (Option String × Option String))
  deriving DecidableEq

namespace ArrayRef

def dataType : ArrayRef → DataType
  | null _ => .null
  | scalar array => .scalar array.dataType
  | struct fields _ _ => .struct fields
  | map names _ _ _ _ => .map names
  | other name _ => .other name

def len : ArrayRef → ℕ
  | null len => len
  | scalar array => array.len
  | struct _ _ validity => validity.length
  | map _ _ _ _ validity => validity.length
  | other _ slots => slots.length

/-- `Array::is_null`: what the physical null buffer says.  A null array has no
null buffer, so none of its slots is marked. -/
def isNull : ArrayRef → ℕ → Bool
  | null _, _ => false
  | scalar array, row => (array.value row).isNone
  | struct _ _ validity, row => validity[row]? != some true
  | map _ _ _ _ validity, row => validity[row]? != some true
  | other _ slots, row => slots[row]? == some .markedNull

/-- Whether the slot is NULL, by whatever means the layout records it. -/
def isLogicallyNull : ArrayRef → ℕ → Bool
  | null _, _ => true
  | other _ slots, row => slots[row]? != some .valid
  | array, row => array.isNull row

/-- Entries `offsets[row] .. offsets[row + 1]` of the children of a map. -/
def mapEntries (offsets : List Int32) (keys values : List (Option String))
    (row : ℕ) : List (Option String × Option String) :=
  let start := (offsets.getD row 0).toInt.toNat
  let stop := (offsets.getD (row + 1) 0).toInt.toNat
  ((keys.zip values).drop start).take (stop - start)

/-- The logical value at `row`, or `none` when the row is NULL.  Layouts the
worker never emits are not read back. -/
def value : ArrayRef → ℕ → Option Value
  | null _, _ => none
  | scalar array, row => (array.value row).map .scalar
  | struct _ columns validity, row =>
      if validity[row]? = some true then
        some (.struct (columns.map fun column => column.value row))
      else none
  | map _ offsets keys values validity, row =>
      if validity[row]? = some true then some (.map (mapEntries offsets keys values row))
      else none
  | other _ _, _ => none

end ArrayRef

/-! ## Errors -/

inductive ArrowError where
  | columnCount (found expected : ℕ)
  | nullInNonNullable (column : String)
  | unequalLengths
  | typeMismatch (column : ℕ)
  | unequalMapChildren (keys values : ℕ)
  deriving DecidableEq

/-- How Arrow renders types and errors. -/
structure ArrowCrate where
  /-- `{other:?}` of a data type. -/
  debugType : DataType → String
  /-- `e.to_string()` of an Arrow error. -/
  displayError : ArrowError → String

/-- `.map_err(|e| RpcError::runtime_error(e.to_string()))` -/
def ArrowCrate.lift {α : Type} (arrow : ArrowCrate) (result : Except ArrowError α) :
    Run α :=
  result.mapError fun e => .error (.runtimeError (arrow.displayError e))

/-! ## Record batches -/

structure RecordBatch where
  schema : Schema
  columns : List ArrayRef
  numRows : ℕ
  len_column : ∀ column ∈ columns, column.len = numRows

namespace RecordBatch

/-- `batch.column(i)`, which panics on a missing column. -/
def column (batch : RecordBatch) (i : ℕ) : Run ArrayRef :=
  match batch.columns[i]? with
  | some column => .ok column
  | none => .error .panic

/-- Whether a column satisfies the nullability and the type of its field. -/
def columnError (schema : Schema) (columns : List ArrayRef) : Option ArrowError :=
  ((schema.fields.zip columns).zipIdx.findSome? fun ((field, column), index) =>
    if !field.nullable && (List.range column.len).any column.isNull then
      some (.nullInNonNullable field.name)
    else if field.dataType ≠ column.dataType then some (.typeMismatch index)
    else none)

/-- `RecordBatch::try_new`: one column for each field, all of one length, each
of its field's type and without nulls where the field forbids them. -/
def tryNew (schema : Schema) (columns : List ArrayRef) :
    Except ArrowError RecordBatch :=
  let numRows := (columns.head?.map ArrayRef.len).getD 0
  if schema.fields.length ≠ columns.length then
    .error (.columnCount columns.length schema.fields.length)
  else
    match columnError schema columns with
    | some e => .error e
    | none =>
        if h : ∀ column ∈ columns, column.len = numRows then
          .ok ⟨schema, columns, numRows, h⟩
        else .error .unequalLengths

def single (schema : Schema) (column : ArrayRef) : RecordBatch :=
  ⟨schema, [column], column.len, by simp⟩

/-- A single column of the declared type under a nullable field makes a
batch. -/
theorem tryNew_singleton (name : String) (column : ArrayRef) :
    tryNew ⟨[⟨name, column.dataType, true⟩]⟩ [column] =
      .ok (single ⟨[⟨name, column.dataType, true⟩]⟩ column) := by
  simp [tryNew, columnError, single]

theorem columns_of_tryNew {schema : Schema} {columns : List ArrayRef} {out : RecordBatch}
    (h : tryNew schema columns = .ok out) : out.columns = columns := by
  unfold tryNew at h
  split_ifs at h
  split at h
  · cases h
  · dsimp only at h
    split_ifs at h
    cases h
    rfl

end RecordBatch

end VgiImage.Arrow
