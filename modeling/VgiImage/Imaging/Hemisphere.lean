import VgiImage.Imaging.Gps

/-!
# Hemispheres

The sign of a coordinate is decided by a reference tag of its own.  `gps_coord`
looks for one letter only and takes every other case, a missing reference
included, for the other hemisphere.  The sign is known exactly when the
reference names one of the two.
-/

namespace VgiImage.Imaging

/-! ## Reference letters -/

/-- The first byte of the first string of a primary reference tag, when there
is one and its value is ASCII. -/
def refLetter (exifdata : Exif) (refTag : Tag) : Option UInt8 := do
  let field ← exifdata.getField refTag .primary
  match field.value with
  | .ascii v => v.head?.bind List.head?
  | _ => none

theorem refSign_eq_ite (exifdata : Exif) (refTag : Tag) (negRef : UInt8) :
    refSign exifdata refTag negRef =
      if refLetter exifdata refTag = some negRef then .finite (-1) else .finite 1 := by
  unfold refSign refLetter
  cases exifdata.getField refTag .primary with
  | none => rfl
  | some field =>
      obtain ⟨_, _, value⟩ := field
      rw [Option.bind_eq_bind, Option.bind_some]
      cases value <;> rfl

/-- The reference tag names one of the two hemispheres of its coordinate. -/
def NamesHemisphere (exifdata : Exif) (refTag : Tag) (posRef negRef : UInt8) : Prop :=
  refLetter exifdata refTag = some posRef ∨ refLetter exifdata refTag = some negRef

instance (exifdata : Exif) (refTag : Tag) (posRef negRef : UInt8) :
    Decidable (NamesHemisphere exifdata refTag posRef negRef) :=
  inferInstanceAs (Decidable (_ ∨ _))

/-- The tag occurs in the primary directory. -/
def HasPrimary (exifdata : Exif) (tag : Tag) : Prop :=
  ∃ field ∈ exifdata.fields, field.tag = tag ∧ field.ifdNum = .primary

section Block

variable {exifdata : Exif} {tag refTag : Tag}

theorem hasPrimary_of_getField {field : Field}
    (h : exifdata.getField tag .primary = some field) : HasPrimary exifdata tag :=
  ⟨field, exifdata.mem_of_getField h⟩

theorem hasPrimary_of_dmsComponents {components : Dms}
    (h : dmsComponents exifdata tag = some components) : HasPrimary exifdata tag := by
  obtain ⟨field, hfield, -⟩ := Option.bind_eq_some_iff.1 h
  exact hasPrimary_of_getField hfield

theorem NamesHemisphere.hasPrimary {posRef negRef : UInt8}
    (h : NamesHemisphere exifdata refTag posRef negRef) : HasPrimary exifdata refTag := by
  obtain ⟨letter, hletter⟩ : ∃ letter, refLetter exifdata refTag = some letter := by
    rcases h with h | h
    · exact ⟨posRef, h⟩
    · exact ⟨negRef, h⟩
  obtain ⟨field, hfield, -⟩ := Option.bind_eq_some_iff.1 hletter
  exact hasPrimary_of_getField hfield

/-! ## The sign of a coordinate -/

theorem not_isNegative_toF64 (r : Rational) : ¬ r.toF64.IsNegative :=
  ExactFloat.not_isNegative_finite_div (Nat.cast_nonneg _) (Nat.cast_nonneg _)

/-- Degrees, minutes and seconds are unsigned, so the sign of a coordinate is
the one its reference decides. -/
theorem isNegative_gpsCoord_iff {negRef : UInt8} {coord : ExactFloat}
    (h : gpsCoord exifdata tag refTag negRef = some coord) (hnonzero : coord.IsNonzero) :
    coord.IsNegative ↔ refLetter exifdata refTag = some negRef := by
  obtain ⟨d, m, s, -, rfl⟩ := gpsCoord_eq_some_iff.1 h
  have hmagnitude :
      ¬ (d.toF64 + m.toF64 / .finite 60 + s.toF64 / .finite 3600).IsNegative := by
    apply ExactFloat.not_isNegative_add
    · apply ExactFloat.not_isNegative_add (not_isNegative_toF64 d)
      exact ExactFloat.not_isNegative_div_finite (not_isNegative_toF64 m) (by norm_num)
    · exact ExactFloat.not_isNegative_div_finite (not_isNegative_toF64 s) (by norm_num)
  rw [refSign_eq_ite] at hnonzero ⊢
  by_cases hneg : refLetter exifdata refTag = some negRef
  · rw [if_pos hneg] at hnonzero ⊢
    exact iff_of_true (ExactFloat.isNegative_neg_one_mul hmagnitude hnonzero) hneg
  · rw [if_neg hneg]
    exact iff_of_false (ExactFloat.not_isNegative_one_mul hmagnitude) hneg

end Block

/-! ## Guessed hemispheres -/

/-- A position is returned only from four primary tags whose references name
hemispheres, with the signs of these; a block whose reference does not is
incomplete. -/
structure NeverGuesses (crate : ExifCrate) (blob : Blob) (exifdata : Exif) : Prop where
  hasPrimary {gps : Gps} (h : exifGps crate blob = .ok (some gps)) :
    HasPrimary exifdata .gpsLatitude ∧ HasPrimary exifdata .gpsLatitudeRef ∧
      HasPrimary exifdata .gpsLongitude ∧ HasPrimary exifdata .gpsLongitudeRef
  /-- North or south, and east or west. -/
  named {gps : Gps} (h : exifGps crate blob = .ok (some gps)) :
    NamesHemisphere exifdata .gpsLatitudeRef 0x4E 0x53 ∧
      NamesHemisphere exifdata .gpsLongitudeRef 0x45 0x57
  latSign {gps : Gps} (h : exifGps crate blob = .ok (some gps)) (hnonzero : gps.lat.IsNonzero) :
    gps.lat.IsNegative ↔ refLetter exifdata .gpsLatitudeRef = some 0x53
  lonSign {gps : Gps} (h : exifGps crate blob = .ok (some gps)) (hnonzero : gps.lon.IsNonzero) :
    gps.lon.IsNegative ↔ refLetter exifdata .gpsLongitudeRef = some 0x57
  incomplete
    (h : ¬ NamesHemisphere exifdata .gpsLatitudeRef 0x4E 0x53 ∨
      ¬ NamesHemisphere exifdata .gpsLongitudeRef 0x45 0x57) :
    exifGps crate blob = .ok none

/-- When both coordinates are complete, both references name a hemisphere. -/
def KnownHemispheres (exifdata : Exif) : Prop :=
  ∀ lat lon, dmsComponents exifdata .gpsLatitude = some lat →
    dmsComponents exifdata .gpsLongitude = some lon →
      NamesHemisphere exifdata .gpsLatitudeRef 0x4E 0x53 ∧
        NamesHemisphere exifdata .gpsLongitudeRef 0x45 0x57

section Crate

variable {crate : ExifCrate} {blob : Blob} {exifdata : Exif}

theorem KnownHemispheres.of_exifGps_some (hknown : KnownHemispheres exifdata)
    (hparse : parseExif crate blob = some exifdata) {gps : Gps}
    (h : exifGps crate blob = .ok (some gps)) :
    NamesHemisphere exifdata .gpsLatitudeRef 0x4E 0x53 ∧
      NamesHemisphere exifdata .gpsLongitudeRef 0x45 0x57 := by
  obtain ⟨lat, lon, hlat, hlon, -⟩ := components_of_exifGps_some hparse h
  exact hknown lat lon hlat hlon

/-- `exif_gps` does not guess the hemisphere of a block exactly when the block
does not hold two complete coordinates with a reference that names none. -/
theorem exifGps_neverGuesses_iff (hparse : parseExif crate blob = some exifdata) :
    NeverGuesses crate blob exifdata ↔ KnownHemispheres exifdata := by
  constructor
  · intro h lat lon hlat hlon
    obtain ⟨gps, hgps⟩ := exists_exifGps_some hparse hlat hlon
    exact h.named hgps
  · intro hknown
    refine
      { hasPrimary := fun hgps => ?_
        named := hknown.of_exifGps_some hparse
        latSign := fun hgps =>
          isNegative_gpsCoord_iff ((exifGps_eq_ok_some_iff hparse).1 hgps).1
        lonSign := fun hgps =>
          isNegative_gpsCoord_iff ((exifGps_eq_ok_some_iff hparse).1 hgps).2
        incomplete := fun hunnamed => ?_ }
    · obtain ⟨lat, lon, hlat, hlon, -⟩ := components_of_exifGps_some hparse hgps
      obtain ⟨hlatRef, hlonRef⟩ := hknown lat lon hlat hlon
      exact ⟨hasPrimary_of_dmsComponents hlat, hlatRef.hasPrimary,
        hasPrimary_of_dmsComponents hlon, hlonRef.hasPrimary⟩
    · apply exifGps_eq_ok_none
      intro gps hgps
      obtain ⟨hlatRef, hlonRef⟩ := hknown.of_exifGps_some hparse hgps
      rcases hunnamed with hlat | hlon
      · exact hlat hlatRef
      · exact hlon hlonRef

end Crate

theorem exifGps_neverGuesses_fixture :
    NeverGuesses (.ofBlob fixtureJpeg fixtureBlock) fixtureJpeg fixtureBlock ↔
      KnownHemispheres fixtureBlock :=
  exifGps_neverGuesses_iff (ExifCrate.parseExif_ofBlob fixtureJpeg fixtureBlock)

/-- The same coordinates without their references. -/
def unreferencedBlock : Exif :=
  Exif.ofFields
    [⟨.gpsLatitude, .primary, .rational [fixtureLat.1, fixtureLat.2.1, fixtureLat.2.2]⟩,
      ⟨.gpsLongitude, .primary, .rational [fixtureLon.1, fixtureLon.2.1, fixtureLon.2.2]⟩]

/-- The JPEG of a GPS directory with the two coordinates only. -/
def unreferencedJpeg : Blob :=
  let le4 := ReferenceCodec.le4
  [0xFF, 0xD8, 0xFF, 0xE1, 0x00, 0x70, 0x45, 0x78, 0x69, 0x66, 0x00, 0x00] ++
    [0x49, 0x49, 0x2A, 0x00] ++ le4 8 ++
    [0x01, 0x00, 0x25, 0x88, 0x04, 0x00] ++ le4 1 ++ le4 26 ++ le4 0 ++
    [0x02, 0x00] ++
    [0x02, 0x00, 0x05, 0x00] ++ le4 3 ++ le4 56 ++
    [0x04, 0x00, 0x05, 0x00] ++ le4 3 ++ le4 80 ++ le4 0 ++
    [37, 1, 48, 1, 30, 1].flatMap le4 ++ [122, 1, 25, 1, 9, 1].flatMap le4 ++ [0xFF, 0xD9]

/-- Without references a position in the north-east is returned, wherever the
photograph was taken. -/
theorem exifGps_guesses_northEast :
    ¬ ∀ (crate : ExifCrate) (blob : Blob) (exifdata : Exif),
      parseExif crate blob = some exifdata → NeverGuesses crate blob exifdata := by
  intro h
  have hparse := ExifCrate.parseExif_ofBlob unreferencedJpeg unreferencedBlock
  have hlat : dmsComponents unreferencedBlock .gpsLatitude = some fixtureLat := rfl
  have hlon : dmsComponents unreferencedBlock .gpsLongitude = some fixtureLon := rfl
  obtain ⟨gps, hgps⟩ := exists_exifGps_some hparse hlat hlon
  obtain ⟨-, ⟨field, hfield, htag, -⟩, -, -⟩ := (h _ _ _ hparse).hasPrimary hgps
  have hfields : field.tag = .gpsLatitude ∨ field.tag = .gpsLongitude := by
    rcases List.mem_pair.1 hfield with rfl | rfl
    · exact .inl rfl
    · exact .inr rfl
  rw [htag] at hfields
  exact absurd hfields (by decide)

end VgiImage.Imaging
