import VgiImage.Scalar.Function

/-!
# `exif(blob)` and `exif_gps(blob)`

`exif` appends the flattened tags of each blob to a map column; `exif_gps`
appends a struct of two floats, NULL also where no position was found.
-/

namespace VgiImage.Scalar

open Arrow ArrowIo Imaging RowLoop

namespace Exif

def append (arrow : ArrowCrate) (builder : MapBuilder) :
    Option (List ExifPair) → Run MapBuilder
  | none => appendMapNull arrow builder
  | some pairs => appendMapRow arrow builder pairs

def function (crates : Crates) : BlobFunction where
  name := "exif"
  onBind _ := .ok (crates.vgi.bindResult mapVarcharVarcharType)
  Row := List ExifPair
  Builders := MapBuilder
  prepare _ := .ok fun bytes => (liftImg (exif crates.exif bytes)).map some
  new := mapBuilder
  append := append crates.arrow
  finish builder := .ok (finishMap builder)

/-- The entry count of the rows is a 32-bit offset. -/
def Readable (rows : List (Option (List ExifPair))) : Prop :=
  (rowEntries rows).flatten.length ≤ maxOffset

theorem fits_null {rows : List (Option (List ExifPair))} (h : MapFits rows) :
    MapFits (rows ++ [none]) := by
  rw [mapFits_concat]
  exact (List.append_nil _).symm ▸ h

theorem column_finishMap {builder : MapBuilder} {rows : List (Option (List ExifPair))}
    (h : MapRows builder rows) :
    Column mapVarcharVarcharType mapValue Readable (finishMap builder) rows where
  dataType_eq := h.dataType_eq
  len_eq := h.len_eq
  isNull_eq := h.isNull_eq
  value_eq := h.value_eq
  aligned hstruct := by cases hstruct

def spec (crates : Crates) : BuilderSpec ((function crates).toScalar crates.arrow) where
  dataType := mapVarcharVarcharType
  value := mapValue
  fits := MapFits
  decidableFits := decidableMapFits
  readable := Readable
  represents := MapRows
  fits_nil := ⟨Nat.zero_le _, Nat.zero_le _⟩
  fits_of_concat := MapFits.of_concat
  fits_null := fits_null
  represents_new := mapRows_nil
  append_agrees h
    | none => appendMapNull_agrees crates.arrow h
    | some pairs => appendMapRow_agrees crates.arrow h pairs
  finish_spec h := ⟨_, rfl, column_finishMap h⟩

end Exif

namespace ExifGps

def gpsFields : List (Arrow.Field ScalarType) :=
  [⟨"lat", .float64, true⟩, ⟨"lon", .float64, true⟩]

structure Builders where
  lat : PrimitiveBuilder ExactFloat
  lon : PrimitiveBuilder ExactFloat
  valid : List Bool

def new : Builders := ⟨.new, .new, []⟩

def append (b : Builders) : Option Gps → Run Builders
  | some g =>
      .ok
        { lat := b.lat.appendValue g.lat
          lon := b.lon.appendValue g.lon
          valid := b.valid ++ [true] }
  | none =>
      .ok
        { lat := b.lat.appendNull
          lon := b.lon.appendNull
          valid := b.valid ++ [false] }

def finish (b : Builders) : Run ArrayRef :=
  structArrayNew gpsFields [.float64 b.lat.slots, .float64 b.lon.slots] b.valid

def function (crates : Crates) : BlobFunction where
  name := "exif_gps"
  onBind _ := .ok (crates.vgi.bindResult (.struct gpsFields))
  Row := Gps
  Builders := Builders
  prepare _ := .ok fun bytes => liftImg (exifGps crates.exif bytes)
  new := new
  append := append
  finish := finish

/-! ### What the builders hold -/

structure Holds (b : Builders) (out : List (Option Gps)) : Prop where
  lat_eq : b.lat.slots = out.map (Option.map (·.lat))
  lon_eq : b.lon.slots = out.map (Option.map (·.lon))
  valid_eq : b.valid = out.map Option.isSome

/-- What is read from each row, child by child. -/
def reads : List (Gps → ScalarArray.Value) :=
  [fun gps => .float gps.lat, fun gps => .float gps.lon]

section Append

variable {b : Builders} {out : List (Option Gps)}

/-- Fixed-width builders always have room. -/
theorem append_agrees (h : Holds b out) (row : Option Gps) :
    Agrees Holds (append b row)
      (if True then .ok (out ++ [row]) else .error Halt.panic) := by
  rw [if_pos trivial]
  cases row with
  | none =>
      apply Agrees.ok
      constructor <;> simp [h.lat_eq, h.lon_eq, h.valid_eq]
  | some gps =>
      apply Agrees.ok
      constructor <;> simp [h.lat_eq, h.lon_eq, h.valid_eq]

theorem finish_eq (h : Holds b out) :
    ∃ column, finish b = .ok column ∧
      Column (.struct gpsFields) (fun gps => .struct (reads.map fun read => some (read gps)))
        (fun _ => True) column out := by
  rw [finish, h.lat_eq, h.lon_eq, h.valid_eq]
  refine ⟨_, structArrayNew_of_forall₂ ?_, column_struct ?_⟩
  · simp [gpsFields, ChildMatches, ScalarArray.dataType, ScalarArray.len, ScalarArray.slots]
  · simp [reads, Child, ScalarArray.len, ScalarArray.slots, value_float64,
      Option.join_map_eq_map_join, Function.comp_def]

end Append

def spec (crates : Crates) : BuilderSpec ((function crates).toScalar crates.arrow) where
  dataType := .struct gpsFields
  value := fun gps => .struct (reads.map fun read => some (read gps))
  fits _ := True
  decidableFits _ := instDecidableTrue
  readable _ := True
  represents := Holds
  fits_nil := trivial
  fits_of_concat := id
  fits_null := id
  represents_new := ⟨rfl, rfl, rfl⟩
  append_agrees := append_agrees
  finish_spec := finish_eq

end ExifGps

end VgiImage.Scalar
