import VgiImage.Imaging.Exif
import VgiImage.Imaging.ReferenceCodec

/-!
# Which coordinates `exif_gps` returns

`gps_coord` checks that a coordinate has three rational components and never
looks at a denominator, while cameras write `0/0` for a component they do not
know.  The coordinate is a number exactly when the three denominators are not
zero; otherwise an infinity or a NaN is returned as a position.
-/

namespace VgiImage.Imaging

/-! ## The hand-built fixture -/

/-- Degrees, minutes and seconds. -/
abbrev Dms := Rational × Rational × Rational

/-- The primary directory with the four GPS tags. -/
def gpsBlock (latRef : UInt8) (lat : Dms) (lonRef : UInt8) (lon : Dms) : Exif :=
  Exif.ofFields
    [⟨.gpsLatitudeRef, .primary, .ascii [[latRef]]⟩,
      ⟨.gpsLatitude, .primary, .rational [lat.1, lat.2.1, lat.2.2]⟩,
      ⟨.gpsLongitudeRef, .primary, .ascii [[lonRef]]⟩,
      ⟨.gpsLongitude, .primary, .rational [lon.1, lon.2.1, lon.2.2]⟩]

/-- The JPEG of the integration test: one APP1 segment with a little-endian
TIFF block whose GPS directory holds the four tags. -/
def gpsJpeg (latRef : UInt8) (lat : Dms) (lonRef : UInt8) (lon : Dms) : Blob :=
  let le4 := ReferenceCodec.le4
  let rational (r : Rational) : Blob := le4 r.num.toNat ++ le4 r.denom.toNat
  let dms (value : Dms) : Blob :=
    rational value.1 ++ rational value.2.1 ++ rational value.2.2
  [0xFF, 0xD8, 0xFF, 0xE1, 0x00, 0x88, 0x45, 0x78, 0x69, 0x66, 0x00, 0x00] ++
    [0x49, 0x49, 0x2A, 0x00] ++ le4 8 ++
    [0x01, 0x00, 0x25, 0x88, 0x04, 0x00] ++ le4 1 ++ le4 26 ++ le4 0 ++
    [0x04, 0x00] ++
    [0x01, 0x00, 0x02, 0x00] ++ le4 2 ++ [latRef, 0x00, 0x00, 0x00] ++
    [0x02, 0x00, 0x05, 0x00] ++ le4 3 ++ le4 80 ++
    [0x03, 0x00, 0x02, 0x00] ++ le4 2 ++ [lonRef, 0x00, 0x00, 0x00] ++
    [0x04, 0x00, 0x05, 0x00] ++ le4 3 ++ le4 104 ++ le4 0 ++
    dms lat ++ dms lon ++ [0xFF, 0xD9]

/-- A parser that knows one blob. -/
def ExifCrate.ofBlob (blob : Blob) (exifdata : Exif) : ExifCrate where
  readFromContainer other := if other = blob then some exifdata else none
  tagToString _ := ""
  displayValueWithUnit _ _ := ""

theorem ExifCrate.parseExif_ofBlob (blob : Blob) (exifdata : Exif) :
    parseExif (ExifCrate.ofBlob blob exifdata) blob = some exifdata :=
  if_pos rfl

/-! ## Defined coordinates -/

/-- Every coordinate returned was divided by six non-zero denominators and is
a number, and an incomplete value is not returned at all. -/
structure ReturnsDefined (crate : ExifCrate) (blob : Blob) (exifdata : Exif) :
    Prop where
  defined {gps : Gps} (h : exifGps crate blob = .ok (some gps)) :
    ∃ lat lon, dmsComponents exifdata .gpsLatitude = some lat ∧
      dmsComponents exifdata .gpsLongitude = some lon ∧
        DefinedComponents lat ∧ DefinedComponents lon
  isFinite {gps : Gps} (h : exifGps crate blob = .ok (some gps)) :
    gps.lat.IsFinite ∧ gps.lon.IsFinite
  incomplete
    (h : dmsComponents exifdata .gpsLatitude = none ∨
      dmsComponents exifdata .gpsLongitude = none) :
    exifGps crate blob = .ok none

/-- When both coordinates are complete, none of their six denominators is
zero. -/
def NoZeroDenominator (exifdata : Exif) : Prop :=
  ∀ lat lon, dmsComponents exifdata .gpsLatitude = some lat →
    dmsComponents exifdata .gpsLongitude = some lon →
      DefinedComponents lat ∧ DefinedComponents lon

section Crate

variable {crate : ExifCrate} {blob : Blob} {exifdata : Exif}

/-- Both coordinates complete is what makes `exif_gps` return a position. -/
theorem exists_exifGps_some (hparse : parseExif crate blob = some exifdata) {lat lon : Dms}
    (hlat : dmsComponents exifdata .gpsLatitude = some lat)
    (hlon : dmsComponents exifdata .gpsLongitude = some lon) :
    ∃ gps, exifGps crate blob = .ok (some gps) := by
  have hcoord : ∀ {tag : Tag} {components : Dms} (refTag : Tag) (negRef : UInt8),
      dmsComponents exifdata tag = some components →
        ∃ coord, gpsCoord exifdata tag refTag negRef = some coord := by
    intro tag components refTag negRef h
    obtain ⟨d, m, s⟩ := components
    exact ⟨_, gpsCoord_eq_some_iff.2 ⟨d, m, s, h, rfl⟩⟩
  obtain ⟨latCoord, hlatCoord⟩ := hcoord .gpsLatitudeRef 0x53 hlat
  obtain ⟨lonCoord, hlonCoord⟩ := hcoord .gpsLongitudeRef 0x57 hlon
  exact ⟨⟨latCoord, lonCoord⟩, (exifGps_eq_ok_some_iff hparse).2 ⟨hlatCoord, hlonCoord⟩⟩

/-- The components behind a returned position, with its finiteness. -/
theorem components_of_exifGps_some (hparse : parseExif crate blob = some exifdata)
    {gps : Gps} (h : exifGps crate blob = .ok (some gps)) :
    ∃ lat lon, dmsComponents exifdata .gpsLatitude = some lat ∧
      dmsComponents exifdata .gpsLongitude = some lon ∧
        (gps.lat.IsFinite ↔ DefinedComponents lat) ∧
          (gps.lon.IsFinite ↔ DefinedComponents lon) := by
  obtain ⟨hlat, hlon⟩ := (exifGps_eq_ok_some_iff hparse).1 h
  obtain ⟨d, m, s, hd, -⟩ := gpsCoord_eq_some_iff.1 hlat
  obtain ⟨d', m', s', hd', -⟩ := gpsCoord_eq_some_iff.1 hlon
  exact ⟨_, _, hd, hd', isFinite_gpsCoord_iff hd hlat, isFinite_gpsCoord_iff hd' hlon⟩

theorem exifGps_eq_none_of_incomplete (hparse : parseExif crate blob = some exifdata)
    (h : dmsComponents exifdata .gpsLatitude = none ∨
      dmsComponents exifdata .gpsLongitude = none) :
    exifGps crate blob = .ok none := by
  apply exifGps_eq_ok_none
  intro gps hgps
  obtain ⟨lat, lon, hlat, hlon, -⟩ := components_of_exifGps_some hparse hgps
  rw [hlat, hlon] at h
  simp at h

/-- `exif_gps` returns only defined coordinates from a block exactly when the
block does not hold two complete coordinates with a zero denominator. -/
theorem exifGps_defined_iff (hparse : parseExif crate blob = some exifdata) :
    ReturnsDefined crate blob exifdata ↔ NoZeroDenominator exifdata := by
  constructor
  · intro h lat lon hlat hlon
    obtain ⟨gps, hgps⟩ := exists_exifGps_some hparse hlat hlon
    obtain ⟨lat', lon', hlat', hlon', hdefined⟩ := h.defined hgps
    rw [hlat] at hlat'
    rw [hlon] at hlon'
    cases hlat'
    cases hlon'
    exact hdefined
  · intro h
    refine ⟨fun hgps => ?_, fun hgps => ?_, exifGps_eq_none_of_incomplete hparse⟩
    · obtain ⟨lat, lon, hlat, hlon, -⟩ := components_of_exifGps_some hparse hgps
      exact ⟨lat, lon, hlat, hlon, h lat lon hlat hlon⟩
    · obtain ⟨lat, lon, hlat, hlon, hfinite⟩ := components_of_exifGps_some hparse hgps
      obtain ⟨hdlat, hdlon⟩ := h lat lon hlat hlon
      exact ⟨hfinite.1.2 hdlat, hfinite.2.2 hdlon⟩

end Crate

/-- 37° 48' 30" N, 122° 25' 9" W, as in the integration test. -/
def fixtureLat : Dms := (⟨37, 1⟩, ⟨48, 1⟩, ⟨30, 1⟩)
def fixtureLon : Dms := (⟨122, 1⟩, ⟨25, 1⟩, ⟨9, 1⟩)

def fixtureJpeg : Blob := gpsJpeg 0x4E fixtureLat 0x57 fixtureLon
def fixtureBlock : Exif := gpsBlock 0x4E fixtureLat 0x57 fixtureLon

theorem exifGps_defined_fixture :
    ReturnsDefined (.ofBlob fixtureJpeg fixtureBlock) fixtureJpeg fixtureBlock ↔
      NoZeroDenominator fixtureBlock :=
  exifGps_defined_iff (ExifCrate.parseExif_ofBlob fixtureJpeg fixtureBlock)

/-- The same block with an unknown latitude, `0/0` three times: the latitude
returned is a NaN. -/
theorem exifGps_returns_undefined :
    ¬ ∀ (crate : ExifCrate) (blob : Blob) (exifdata : Exif),
      parseExif crate blob = some exifdata → ReturnsDefined crate blob exifdata := by
  intro h
  let unknown : Dms := (⟨0, 0⟩, ⟨0, 0⟩, ⟨0, 0⟩)
  let blob := gpsJpeg 0x4E unknown 0x57 fixtureLon
  let block := gpsBlock 0x4E unknown 0x57 fixtureLon
  have hparse := ExifCrate.parseExif_ofBlob blob block
  have hlat : dmsComponents block .gpsLatitude = some unknown := rfl
  have hlon : dmsComponents block .gpsLongitude = some fixtureLon := rfl
  obtain ⟨gps, hgps⟩ := exists_exifGps_some hparse hlat hlon
  obtain ⟨lat, lon, hlat', -, hdefined, -⟩ := (h _ _ _ hparse).defined hgps
  rw [hlat] at hlat'
  cases hlat'
  exact absurd hdefined (by decide)

end VgiImage.Imaging
