import VgiImage.Core.ExactFloat
import VgiImage.Imaging.Image

/-!
# EXIF tags and GPS coordinates

`exif` and `exif_gps` of `imaging.rs`.  Parsing is left to the `exif` crate; a
parsed block is given by the fields it iterates over and by its field lookup,
together with what connects the two.  Coordinates are computed in exact
arithmetic with the special values of a division by zero.
-/

namespace VgiImage.Imaging

/-! ## Parsed blocks -/

inductive Context where
  | tiff | exif | gps | interop
  deriving DecidableEq

structure Tag where
  context : Context
  number : UInt16
  deriving DecidableEq

namespace Tag

def gpsLatitudeRef : Tag := ⟨.gps, 1⟩
def gpsLatitude : Tag := ⟨.gps, 2⟩
def gpsLongitudeRef : Tag := ⟨.gps, 3⟩
def gpsLongitude : Tag := ⟨.gps, 4⟩

end Tag

/-- The number of an image file directory. -/
structure In where
  index : UInt16
  deriving DecidableEq

def In.primary : In := ⟨0⟩
def In.thumbnail : In := ⟨1⟩

/-- An unsigned rational as the file stores it; the denominator may be zero. -/
structure Rational where
  num : UInt32
  denom : UInt32
  deriving DecidableEq

/-- `num as f64 / denom as f64` -/
def Rational.toF64 (r : Rational) : ExactFloat :=
  .finite r.num.toNat / .finite r.denom.toNat

inductive Value where
  | byte (values : List UInt8)
  | ascii (strings : List (List UInt8))
  | short (values : List UInt16)
  | long (values : List UInt32)
  | rational (values : List Rational)
  | sbyte (values : List Int8)
  | undefined (bytes : List UInt8)
  | sshort (values : List Int16)
  | slong (values : List Int32)
  /-- Signed rationals, floats and unknown types, by their raw bytes. -/
  | other (type : UInt16) (bytes : List UInt8)
  deriving DecidableEq

structure Field where
  tag : Tag
  ifdNum : In
  value : Value
  deriving DecidableEq

/-- A parsed block: `fields()` iterates over every field of every directory,
and `get_field` returns one of them that carries the tag and the directory
asked for whenever there is one. -/
structure Exif where
  fields : List Field
  getField : Tag → In → Option Field
  mem_of_getField {tag : Tag} {ifd : In} {field : Field}
    (h : getField tag ifd = some field) :
    field ∈ fields ∧ field.tag = tag ∧ field.ifdNum = ifd
  forall_of_getField_eq_none {tag : Tag} {ifd : In} (h : getField tag ifd = none) :
    ∀ field ∈ fields, ¬ (field.tag = tag ∧ field.ifdNum = ifd)

/-- The block of a list of fields, looked up first match first. -/
def Exif.ofFields (fields : List Field) : Exif where
  fields := fields
  getField tag ifd := fields.find? fun field => field.tag = tag ∧ field.ifdNum = ifd
  mem_of_getField h :=
    ⟨List.mem_of_find?_eq_some h, by simpa using List.find?_some h⟩
  forall_of_getField_eq_none h := by
    simpa only [decide_eq_true_eq] using List.find?_eq_none.1 h

/-- The functions of the `exif` crate the worker calls. -/
structure ExifCrate where
  /-- `Reader::new().read_from_container(&mut cursor).ok()` -/
  readFromContainer : Blob → Option Exif
  /-- `tag.to_string()` -/
  tagToString : Tag → String
  /-- `field.display_value().with_unit(&exifdata).to_string()` -/
  displayValueWithUnit : Exif → Field → String

/-! ## `exif` -/

/-- One flattened EXIF tag: name and display value. -/
abbrev ExifPair := String × String

section Crate

variable (crate : ExifCrate)

def parseExif (blob : Blob) : Option Exif := crate.readFromContainer blob

/-- Parse all EXIF tags into flat pairs; none when the blob carries no EXIF. -/
def exif (blob : Blob) : Except ImgError (List ExifPair) :=
  match parseExif crate blob with
  | none => .ok []
  | some exifdata =>
      .ok (exifdata.fields.foldl
        (fun out field =>
          let name := crate.tagToString field.tag
          let value := crate.displayValueWithUnit exifdata field
          out ++ [(name, value)]) [])

/-! ## `exif_gps` -/

/-- Decoded GPS coordinate, the payload of `exif_gps`. -/
structure Gps where
  lat : ExactFloat
  lon : ExactFloat
  deriving DecidableEq

/-- The first three rationals of a primary field, when its value is a list of
at least three rationals. -/
def dmsComponents (exifdata : Exif) (tag : Tag) :
    Option (Rational × Rational × Rational) := do
  let field ← exifdata.getField tag .primary
  match field.value with
  | .rational (d :: m :: s :: _) => some (d, m, s)
  | _ => none

/-- The sign the reference tag decides: `-1` when its first string starts with
`negRef`, and `1` in every other case, a missing reference included. -/
def refSign (exifdata : Exif) (refTag : Tag) (negRef : UInt8) : ExactFloat :=
  match exifdata.getField refTag .primary with
  | some rf =>
      match rf.value with
      | .ascii v =>
          if (v.head?.bind List.head?) = some negRef then .finite (-1) else .finite 1
      | _ => .finite 1
  | none => .finite 1

/-- Read a single GPS coordinate (degrees/minutes/seconds to decimal), applying
the hemisphere reference tag. -/
def gpsCoord (exifdata : Exif) (tag refTag : Tag) (negRef : UInt8) :
    Option ExactFloat := do
  let (d, m, s) ← dmsComponents exifdata tag
  let dms := d.toF64 + m.toF64 / .finite 60 + s.toF64 / .finite 3600
  let sign := refSign exifdata refTag negRef
  some (sign * dms)

/-- Extract decimal lat/lon from EXIF GPS tags. -/
def exifGps (blob : Blob) : Except ImgError (Option Gps) :=
  match parseExif crate blob with
  | none => .ok none
  | some exifdata =>
      let lat := gpsCoord exifdata .gpsLatitude .gpsLatitudeRef 0x53
      let lon := gpsCoord exifdata .gpsLongitude .gpsLongitudeRef 0x57
      match lat, lon with
      | some lat, some lon => .ok (some { lat, lon })
      | _, _ => .ok none

variable {crate}

theorem exif_of_parseExif {blob : Blob} {exifdata : Exif}
    (h : parseExif crate blob = some exifdata) :
    exif crate blob = .ok (exifdata.fields.map fun field =>
      (crate.tagToString field.tag, crate.displayValueWithUnit exifdata field)) := by
  have hpush : ∀ (fields : List Field) (out : List ExifPair),
      fields.foldl (fun out field => out ++ [(crate.tagToString field.tag,
          crate.displayValueWithUnit exifdata field)]) out =
        out ++ fields.map fun field =>
          (crate.tagToString field.tag, crate.displayValueWithUnit exifdata field) := by
    intro fields
    induction fields with
    | nil => simp
    | cons field fields ih => simp [ih]
  simp only [exif, h, hpush, List.nil_append]

/-- EXIF is best effort: a blob without a readable block has no tags, and no
blob is rejected. -/
theorem exists_exif_eq_ok (blob : Blob) : ∃ pairs, exif crate blob = .ok pairs := by
  cases h : parseExif crate blob with
  | none => exact ⟨[], by simp [exif, h]⟩
  | some exifdata => exact ⟨_, exif_of_parseExif h⟩

theorem exists_exifGps_eq_ok (blob : Blob) : ∃ gps, exifGps crate blob = .ok gps := by
  cases h : parseExif crate blob with
  | none => exact ⟨none, by simp [exifGps, h]⟩
  | some exifdata =>
      simp only [exifGps, h]
      split
      · exact ⟨_, rfl⟩
      · exact ⟨none, rfl⟩

/-- `exif_gps` never fails, so a blob without a position gives none. -/
theorem exifGps_eq_ok_none {blob : Blob} (h : ∀ gps, exifGps crate blob ≠ .ok (some gps)) :
    exifGps crate blob = .ok none := by
  have hexists : ∃ result, exifGps crate blob = .ok result := exists_exifGps_eq_ok blob
  obtain ⟨result, hresult⟩ := hexists
  cases result with
  | none => exact hresult
  | some gps => exact absurd hresult (h gps)

theorem exifGps_eq_ok_some_iff {blob : Blob} {exifdata : Exif} {gps : Gps}
    (h : parseExif crate blob = some exifdata) :
    exifGps crate blob = .ok (some gps) ↔
      gpsCoord exifdata .gpsLatitude .gpsLatitudeRef 0x53 = some gps.lat ∧
        gpsCoord exifdata .gpsLongitude .gpsLongitudeRef 0x57 = some gps.lon := by
  obtain ⟨lat, lon⟩ := gps
  cases hlat : gpsCoord exifdata .gpsLatitude .gpsLatitudeRef 0x53 <;>
    cases hlon : gpsCoord exifdata .gpsLongitude .gpsLongitudeRef 0x57 <;>
      simp [exifGps, h, hlat, hlon]

end Crate

/-! ## When a coordinate is a number -/

theorem refSign_eq (exifdata : Exif) (refTag : Tag) (negRef : UInt8) :
    refSign exifdata refTag negRef = .finite (-1) ∨
      refSign exifdata refTag negRef = .finite 1 := by
  unfold refSign
  split
  · split
    · split
      · exact Or.inl rfl
      · exact Or.inr rfl
    · exact Or.inr rfl
  · exact Or.inr rfl

theorem isFinite_toF64 (r : Rational) : r.toF64.IsFinite ↔ r.denom ≠ 0 := by
  rw [Rational.toF64, ExactFloat.isFinite_finite_div, Nat.cast_ne_zero]
  exact not_congr (UInt32.toNat_inj (b := 0))

/-- None of the three rationals of a coordinate has denominator zero. -/
def DefinedComponents (components : Rational × Rational × Rational) : Prop :=
  components.1.denom ≠ 0 ∧ components.2.1.denom ≠ 0 ∧ components.2.2.denom ≠ 0

instance (components : Rational × Rational × Rational) :
    Decidable (DefinedComponents components) :=
  inferInstanceAs (Decidable (_ ∧ _ ∧ _))

theorem gpsCoord_eq_some_iff {exifdata : Exif} {tag refTag : Tag} {negRef : UInt8}
    {coord : ExactFloat} :
    gpsCoord exifdata tag refTag negRef = some coord ↔
      ∃ d m s, dmsComponents exifdata tag = some (d, m, s) ∧
        coord = refSign exifdata refTag negRef *
          (d.toF64 + m.toF64 / .finite 60 + s.toF64 / .finite 3600) := by
  cases h : dmsComponents exifdata tag with
  | none => simp [gpsCoord, h]
  | some components =>
      obtain ⟨d, m, s⟩ := components
      simp only [gpsCoord, h, Option.bind_eq_bind, Option.bind_some,
        Option.some.injEq, Prod.mk.injEq]
      constructor
      · rintro rfl
        exact ⟨d, m, s, ⟨rfl, rfl, rfl⟩, rfl⟩
      · rintro ⟨d', m', s', ⟨rfl, rfl, rfl⟩, rfl⟩
        rfl

/-- A coordinate is a number exactly when all three components it was computed
from have a non-zero denominator. -/
theorem isFinite_gpsCoord_iff {exifdata : Exif} {tag refTag : Tag} {negRef : UInt8}
    {coord : ExactFloat} {components : Rational × Rational × Rational}
    (hcomponents : dmsComponents exifdata tag = some components)
    (h : gpsCoord exifdata tag refTag negRef = some coord) :
    coord.IsFinite ↔ DefinedComponents components := by
  obtain ⟨d, m, s, hdms, rfl⟩ := gpsCoord_eq_some_iff.1 h
  rw [hcomponents] at hdms
  cases hdms
  have hsign : ∀ x : ExactFloat,
      (refSign exifdata refTag negRef * x).IsFinite ↔ x.IsFinite := by
    intro x
    rcases refSign_eq exifdata refTag negRef with hs | hs
    · rw [hs, ExactFloat.isFinite_finite_mul (by norm_num)]
    · rw [hs, ExactFloat.isFinite_finite_mul (by norm_num)]
  rw [hsign, ExactFloat.isFinite_add, ExactFloat.isFinite_add,
    ExactFloat.isFinite_div_finite (by norm_num),
    ExactFloat.isFinite_div_finite (by norm_num), isFinite_toF64, isFinite_toF64,
    isFinite_toF64, and_assoc]
  rfl

end VgiImage.Imaging
