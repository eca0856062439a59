import VgiImage.Scalar.Function

/-!
# `phash`, `dhash`, `ahash` and `phash_distance`

The three hash functions append the packed hash of each blob.
`phash_distance` reads two integer columns of any width and signedness as raw
64-bit words and appends their Hamming distance.
-/

namespace VgiImage.Scalar

open Arrow ArrowIo Imaging RowLoop

section Primitive

variable {α : Type}

/-- `append_value` or `append_null` of a primitive builder. -/
def appendPrimitive (b : PrimitiveBuilder α) : Option α → Run (PrimitiveBuilder α)
  | some v => .ok (b.appendValue v)
  | none => .ok b.appendNull

/-- Fixed-width builders always have room. -/
theorem appendPrimitive_agrees {b : PrimitiveBuilder α} {out : List (Option α)}
    (h : b.slots = out) (row : Option α) :
    Agrees (fun b out => PrimitiveBuilder.slots b = out) (appendPrimitive b row)
      (if True then .ok (out ++ [row]) else .error Halt.panic) := by
  rw [if_pos trivial]
  cases row with
  | none => exact .ok (by simp [h])
  | some v => exact .ok (by simp [h])

end Primitive

/-! ## The hash functions -/

/-- The same struct backs all three functions; name and kind differ. -/
structure PerceptualHash where
  name : String
  kind : HashKind

namespace PerceptualHash

def phash : PerceptualHash := ⟨"phash", .perceptual⟩
def dhash : PerceptualHash := ⟨"dhash", .difference⟩
def ahash : PerceptualHash := ⟨"ahash", .average⟩

def finish (b : PrimitiveBuilder UInt64) : Run ArrayRef := .ok (.scalar (.uint64 b.slots))

def function (crates : Crates) (self : PerceptualHash) : BlobFunction where
  name := self.name
  onBind _ := .ok (crates.vgi.bindResult (.scalar .uint64))
  Row := UInt64
  Builders := PrimitiveBuilder UInt64
  prepare _ := .ok fun bytes =>
    (liftImg (perceptualHash crates.image crates.hasher bytes self.kind)).map some
  new := .new
  append := appendPrimitive
  finish := finish

def hashValue (hash : UInt64) : Arrow.Value := .scalar (.int hash.toNat)

theorem column_uint64 (out : List (Option UInt64)) :
    Column (.scalar .uint64) hashValue (fun _ => True) (.scalar (.uint64 out)) out where
  dataType_eq := rfl
  len_eq := List.length_map _
  isNull_eq i := by
    simp [ArrayRef.isNull, value_uint64]
  value_eq _ i := by
    rw [ArrayRef.value, value_uint64, Option.map_map]
    rfl
  aligned hstruct := by cases hstruct

def spec (crates : Crates) (self : PerceptualHash) :
    BuilderSpec ((function crates self).toScalar crates.arrow) where
  dataType := .scalar .uint64
  value := hashValue
  fits _ := True
  decidableFits _ := instDecidableTrue
  readable _ := True
  represents := fun b out => PrimitiveBuilder.slots b = out
  fits_nil := trivial
  fits_of_concat := id
  fits_null := id
  represents_new := rfl
  append_agrees := appendPrimitive_agrees
  finish_spec := by
    rintro b _ rfl
    exact ⟨_, rfl, column_uint64 _⟩

end PerceptualHash

/-! ## `phash_distance` -/

/-- Read element `row` of an integer array as the raw `u64` hash bits. -/
def hashBits (arrow : ArrowCrate) (col : ArrayRef) (row : ℕ) : Run (Option UInt64) :=
  if col.isNull row then .ok none
  else
    match col with
    | .scalar (.uint64 slots) => (valueAt slots row).map some
    | .scalar (.int64 slots) => (valueAt slots row).map fun x => some x.toUInt64
    | .scalar (.uint32 slots) => (valueAt slots row).map fun x => some x.toUInt64
    | .scalar (.int32 slots) => (valueAt slots row).map fun x => some x.toInt64.toUInt64
    | .scalar (.uint16 slots) => (valueAt slots row).map fun x => some x.toUInt64
    | .scalar (.int16 slots) => (valueAt slots row).map fun x => some x.toInt64.toUInt64
    | .scalar (.uint8 slots) => (valueAt slots row).map fun x => some x.toUInt64
    | .scalar (.int8 slots) => (valueAt slots row).map fun x => some x.toInt64.toUInt64
    | other =>
        let typeName := arrow.debugType other.dataType
        .error (.error (.valueError
          s!"phash_distance: arguments must be integer hashes, got {typeName}"))

namespace PhashDistance

/-- `hamming_distance(x, y) as i32` when both hashes are there. -/
def evalRow : List (Option UInt64) → Run (Option Int32)
  | [some x, some y] => .ok (some (hammingDistance x y).toInt32)
  | _ => .ok none

def finish (b : PrimitiveBuilder Int32) : Run ArrayRef := .ok (.scalar (.int32 b.slots))

def function (crates : Crates) : ScalarFunction where
  name := "phash_distance"
  onBind _ := .ok (crates.vgi.bindResult (.scalar .int32))
  Cell := UInt64
  Row := Int32
  Builders := PrimitiveBuilder Int32
  inputs := [0, 1]
  readCell := hashBits crates.arrow
  prepare _ := .ok evalRow
  new := .new
  append := appendPrimitive
  finish := finish

def distanceValue (distance : Int32) : Arrow.Value := .scalar (.int distance.toInt)

theorem column_int32 (out : List (Option Int32)) :
    Column (.scalar .int32) distanceValue (fun _ => True) (.scalar (.int32 out)) out where
  dataType_eq := rfl
  len_eq := List.length_map _
  isNull_eq i := by
    simp [ArrayRef.isNull, value_int32]
  value_eq _ i := by
    rw [ArrayRef.value, value_int32, Option.map_map]
    rfl
  aligned hstruct := by cases hstruct

def spec (crates : Crates) : BuilderSpec (function crates) where
  dataType := .scalar .int32
  value := distanceValue
  fits _ := True
  decidableFits _ := instDecidableTrue
  readable _ := True
  represents := fun b out => PrimitiveBuilder.slots b = out
  fits_nil := trivial
  fits_of_concat := id
  fits_null := id
  represents_new := rfl
  append_agrees := appendPrimitive_agrees
  finish_spec := by
    rintro b _ rfl
    exact ⟨_, rfl, column_int32 _⟩

end PhashDistance

end VgiImage.Scalar
