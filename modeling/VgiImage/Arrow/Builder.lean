import VgiImage.Arrow.Array
import Mathlib.Algebra.BigOperators.Group.List.Basic

/-!
# Array builders

The builders the row loops append to.  A byte builder addresses its values by
32-bit offsets: its total length stays within them, and an append that would
leave them panics.  A map builder records the length of its children as the
next offset.
-/

namespace VgiImage.Arrow

/-- The largest total length a 32-bit offset addresses. -/
def maxOffset : ℕ := 2 ^ 31 - 1

class ByteLen (α : Type) where
  byteLen : α → ℕ

instance : ByteLen Blob := ⟨List.length⟩
instance : ByteLen String := ⟨String.utf8ByteSize⟩

section ValueBytes

variable {α : Type} [ByteLen α]

def slotBytes (slot : Option α) : ℕ := (slot.map ByteLen.byteLen).getD 0

/-- Bytes of all values of a column together. -/
def valueBytes (slots : List (Option α)) : ℕ := (slots.map slotBytes).sum

@[simp]
theorem valueBytes_nil : valueBytes ([] : List (Option α)) = 0 := rfl

@[simp]
theorem valueBytes_append (left right : List (Option α)) :
    valueBytes (left ++ right) = valueBytes left + valueBytes right := by
  simp [valueBytes]

@[simp]
theorem valueBytes_singleton (slot : Option α) : valueBytes [slot] = slotBytes slot := by
  simp [valueBytes]

@[simp]
theorem slotBytes_none : slotBytes (none : Option α) = 0 := rfl

@[simp]
theorem slotBytes_some (v : α) : slotBytes (some v) = ByteLen.byteLen v := rfl

end ValueBytes

/-! ## Byte and primitive builders -/

/-- `BinaryBuilder` and `StringBuilder`. -/
structure ByteBuilder (α : Type) [ByteLen α] where
  slots : List (Option α)
  fits : valueBytes slots ≤ maxOffset

namespace ByteBuilder

variable {α : Type} [ByteLen α]

def new : ByteBuilder α := ⟨[], Nat.zero_le _⟩

/-- `append_value(v)`, which panics when the offset after `v` does not fit. -/
def appendValue (b : ByteBuilder α) (v : α) : Run (ByteBuilder α) :=
  if h : valueBytes (b.slots ++ [some v]) ≤ maxOffset then .ok ⟨b.slots ++ [some v], h⟩
  else .error .panic

def appendNull (b : ByteBuilder α) : ByteBuilder α :=
  ⟨b.slots ++ [none], by simpa using b.fits⟩

@[simp]
theorem slots_new : (new : ByteBuilder α).slots = [] := rfl

@[simp]
theorem slots_appendNull (b : ByteBuilder α) : b.appendNull.slots = b.slots ++ [none] := rfl

theorem ext_slots {b b' : ByteBuilder α} (h : b.slots = b'.slots) : b = b' := by
  cases b
  cases b'
  cases h
  rfl

/-- A value is appended exactly when there is a builder with room for it. -/
theorem appendValue_eq_ok_iff {b b' : ByteBuilder α} {v : α} :
    b.appendValue v = .ok b' ↔ b'.slots = b.slots ++ [some v] := by
  unfold appendValue
  split
  · constructor
    · intro h
      cases h
      rfl
    · intro h
      exact congrArg Except.ok (ext_slots h.symm)
  next hfull =>
    constructor
    · intro h
      cases h
    · intro h
      exact absurd (h ▸ b'.fits) hfull

theorem exists_appendValue {b : ByteBuilder α} {v : α}
    (h : valueBytes (b.slots ++ [some v]) ≤ maxOffset) :
    ∃ b', b.appendValue v = .ok b' ∧ b'.slots = b.slots ++ [some v] :=
  ⟨⟨_, h⟩, appendValue_eq_ok_iff.2 rfl, rfl⟩

theorem appendValue_eq_panic {b : ByteBuilder α} {v : α}
    (h : ¬ valueBytes (b.slots ++ [some v]) ≤ maxOffset) :
    b.appendValue v = .error .panic :=
  dif_neg h

end ByteBuilder

/-- `Int32Builder`, `UInt64Builder`, `Float64Builder` and `BooleanBuilder`. -/
structure PrimitiveBuilder (α : Type) where
  slots : List (Option α)

namespace PrimitiveBuilder

variable {α : Type}

def new : PrimitiveBuilder α := ⟨[]⟩

def appendValue (b : PrimitiveBuilder α) (v : α) : PrimitiveBuilder α :=
  ⟨b.slots ++ [some v]⟩

def appendNull (b : PrimitiveBuilder α) : PrimitiveBuilder α := ⟨b.slots ++ [none]⟩

@[simp]
theorem slots_new : (new : PrimitiveBuilder α).slots = [] := rfl

@[simp]
theorem slots_appendValue (b : PrimitiveBuilder α) (v : α) :
    (b.appendValue v).slots = b.slots ++ [some v] := rfl

@[simp]
theorem slots_appendNull (b : PrimitiveBuilder α) :
    b.appendNull.slots = b.slots ++ [none] := rfl

end PrimitiveBuilder

/-! ## The map builder -/

/-- `MapBuilder<StringBuilder, StringBuilder>` -/
structure MapBuilder where
  names : MapFieldNames
  keys : ByteBuilder String
  values : ByteBuilder String
  offsets : List Int32
  validity : List Bool

namespace MapBuilder

def new (names : MapFieldNames) : MapBuilder := ⟨names, .new, .new, [0], []⟩

/-- `append(is_valid)`: the children must have one length, which becomes the
next offset. -/
def append (b : MapBuilder) (isValid : Bool) : Except ArrowError MapBuilder :=
  if b.keys.slots.length ≠ b.values.slots.length then
    .error (.unequalMapChildren b.keys.slots.length b.values.slots.length)
  else
    .ok { b with
      offsets := b.offsets ++ [.ofNat b.keys.slots.length]
      validity := b.validity ++ [isValid] }

def finish (b : MapBuilder) : ArrayRef :=
  .map b.names b.offsets b.keys.slots b.values.slots b.validity

theorem append_of_length_eq {b : MapBuilder}
    (h : b.keys.slots.length = b.values.slots.length) (isValid : Bool) :
    b.append isValid = .ok { b with
      offsets := b.offsets ++ [.ofNat b.keys.slots.length]
      validity := b.validity ++ [isValid] } :=
  if_neg (not_not.2 h)

end MapBuilder

/-! ## Struct arrays -/

/-- Whether a child array goes with its field under a validity vector. -/
def ChildMatches (validity : List Bool) (field : Field ScalarType)
    (column : ScalarArray) : Prop :=
  field.dataType = column.dataType ∧ column.len = validity.length ∧
    (field.nullable = true ∨
      ∀ row < validity.length, validity[row]? = some true → (column.value row).isSome = true)

instance (validity : List Bool) (field : Field ScalarType) (column : ScalarArray) :
    Decidable (ChildMatches validity field column) :=
  inferInstanceAs (Decidable (_ ∧ _ ∧ (_ ∨ _)))

/-- `StructArray::new(fields, arrays, Some(nulls))`, which panics unless there
is one child of matching type and length for each field. -/
def structArrayNew (fields : List (Field ScalarType)) (columns : List ScalarArray)
    (validity : List Bool) : Run ArrayRef :=
  if List.Forall₂ (ChildMatches validity) fields columns then
    .ok (.struct fields columns validity)
  else .error .panic

theorem structArrayNew_of_forall₂ {fields : List (Field ScalarType)}
    {columns : List ScalarArray} {validity : List Bool}
    (h : List.Forall₂ (ChildMatches validity) fields columns) :
    structArrayNew fields columns validity = .ok (.struct fields columns validity) :=
  if_pos h

/-! ## Reading finished columns -/

section Reading

variable (row : ℕ)

theorem value_utf8 (slots : List (Option String)) :
    (ScalarArray.utf8 slots).value row = (slots[row]?).join.map .text := by
  cases h : slots[row]? <;> simp [ScalarArray.value, ScalarArray.slots, h]

theorem value_binary (slots : List (Option Blob)) :
    (ScalarArray.binary slots).value row = (slots[row]?).join.map .bytes := by
  cases h : slots[row]? <;> simp [ScalarArray.value, ScalarArray.slots, h]

theorem value_boolean (slots : List (Option Bool)) :
    (ScalarArray.boolean slots).value row = (slots[row]?).join.map .boolean := by
  cases h : slots[row]? <;> simp [ScalarArray.value, ScalarArray.slots, h]

theorem value_float64 (slots : List (Option ExactFloat)) :
    (ScalarArray.float64 slots).value row = (slots[row]?).join.map .float := by
  cases h : slots[row]? <;> simp [ScalarArray.value, ScalarArray.slots, h]

theorem value_int32 (slots : List (Option Int32)) :
    (ScalarArray.int32 slots).value row =
      (slots[row]?).join.map fun x => .int x.toInt := by
  cases h : slots[row]? <;> simp [ScalarArray.value, ScalarArray.slots, h]

theorem value_uint64 (slots : List (Option UInt64)) :
    (ScalarArray.uint64 slots).value row =
      (slots[row]?).join.map fun x => .int x.toNat := by
  cases h : slots[row]? <;> simp [ScalarArray.value, ScalarArray.slots, h]

end Reading

end VgiImage.Arrow
