import VgiImage.Core.Sexagesimal
import VgiImage.Imaging.Hemisphere

/-!
# Reading back encoded positions

A coordinate is stored as the degrees, minutes and seconds of its absolute
value, with its sign in the reference.  `exif_gps` returns every position so
stored, whatever else the block holds: a coordinate is read from its own two
primary tags and from nothing else.
-/

namespace VgiImage.Imaging

/-! ## What a coordinate is read from -/

/-- The value of the primary field of a tag. -/
def primaryValue (exifdata : Exif) (tag : Tag) : Option Value :=
  (exifdata.getField tag .primary).map Field.value

/-- Two blocks agree on some primary tags. -/
def SamePrimary (exifdata other : Exif) (tags : List Tag) : Prop :=
  ∀ tag ∈ tags, primaryValue exifdata tag = primaryValue other tag

/-- The three components in a value. -/
def valueComponents : Value → Option Dms
  | .rational (d :: m :: s :: _) => some (d, m, s)
  | _ => none

/-- The first byte of an ASCII value. -/
def valueLetter : Value → Option UInt8
  | .ascii v => v.head?.bind List.head?
  | _ => none

section Block

variable (exifdata : Exif) (tag refTag : Tag) (negRef : UInt8)

theorem dmsComponents_eq :
    dmsComponents exifdata tag = (primaryValue exifdata tag).bind valueComponents := by
  rw [dmsComponents, primaryValue]
  cases exifdata.getField tag .primary <;> rfl

theorem refLetter_eq :
    refLetter exifdata refTag = (primaryValue exifdata refTag).bind valueLetter := by
  rw [refLetter, primaryValue]
  cases exifdata.getField refTag .primary <;> rfl

/-- A coordinate depends on its own two tags only. -/
theorem gpsCoord_of_samePrimary {other : Exif}
    (h : SamePrimary exifdata other [tag, refTag]) :
    gpsCoord exifdata tag refTag negRef = gpsCoord other tag refTag negRef := by
  have htag := h tag (by simp)
  have hrefTag := h refTag (by simp)
  rw [gpsCoord, gpsCoord, refSign_eq_ite, refSign_eq_ite, dmsComponents_eq,
    dmsComponents_eq, refLetter_eq, refLetter_eq, htag, hrefTag]

end Block

/-! ## Encoded coordinates -/

/-- A rational with a positive denominator and the given value. -/
def Rational.Denotes (r : Rational) (x : ℚ) : Prop :=
  0 < r.denom ∧ (r.num.toNat : ℚ) / r.denom.toNat = x

instance (r : Rational) (x : ℚ) : Decidable (r.Denotes x) :=
  inferInstanceAs (Decidable (_ ∧ _))

theorem Rational.Denotes.toF64_eq {r : Rational} {x : ℚ} (h : r.Denotes x) :
    r.toF64 = .finite x := by
  have hdenom : (r.denom.toNat : ℚ) ≠ 0 :=
    Nat.cast_ne_zero.2 (UInt32.lt_iff_toNat_lt.1 h.1).ne'
  rw [Rational.toF64, ExactFloat.finite_div_finite hdenom, h.2]

/-- The two primary tags of a coordinate hold its standard encoding: degrees,
minutes and seconds of the absolute value, possibly with more components after
them, and a reference that starts with `negRef` exactly when it is negative. -/
structure EncodesCoord (exifdata : Exif) (tag refTag : Tag) (posRef negRef : UInt8)
    (angle : ℚ) : Prop where
  components : ∃ d m s more,
    primaryValue exifdata tag = some (.rational (d :: m :: s :: more)) ∧
      d.Denotes (Sexagesimal.ofAngle |angle|).degrees ∧
        m.Denotes (Sexagesimal.ofAngle |angle|).minutes ∧
          s.Denotes (Sexagesimal.ofAngle |angle|).seconds
  reference : ∃ letters more,
    primaryValue exifdata refTag =
      some (.ascii (((if angle < 0 then negRef else posRef) :: letters) :: more))

section Encoded

variable {exifdata : Exif} {tag refTag : Tag} {posRef negRef : UInt8} {angle : ℚ}

theorem EncodesCoord.refSign_eq
    (h : EncodesCoord exifdata tag refTag posRef negRef angle) (hrefs : posRef ≠ negRef) :
    refSign exifdata refTag negRef = .finite (if angle < 0 then -1 else 1) := by
  obtain ⟨letters, more, hvalue⟩ := h.reference
  have hletter : refLetter exifdata refTag =
      some (if angle < 0 then negRef else posRef) := by
    rw [refLetter_eq, hvalue]
    rfl
  rw [refSign_eq_ite, hletter]
  by_cases hneg : angle < 0
  · simp [hneg]
  · simp [hneg, hrefs]

/-- A coordinate is read back from its standard encoding. -/
theorem EncodesCoord.gpsCoord_eq
    (h : EncodesCoord exifdata tag refTag posRef negRef angle) (hrefs : posRef ≠ negRef) :
    gpsCoord exifdata tag refTag negRef = some (.finite angle) := by
  obtain ⟨d, m, s, more, hvalue, hd, hm, hs⟩ := h.components
  have hcomponents : dmsComponents exifdata tag = some (d, m, s) := by
    rw [dmsComponents_eq, hvalue]
    rfl
  have hmagnitude : d.toF64 + m.toF64 / .finite 60 + s.toF64 / .finite 3600 =
      .finite |angle| := by
    rw [hd.toF64_eq, hm.toF64_eq, hs.toF64_eq,
      ExactFloat.finite_div_finite (by norm_num), ExactFloat.finite_div_finite (by norm_num),
      ExactFloat.finite_add_finite, ExactFloat.finite_add_finite]
    exact congrArg ExactFloat.finite (Sexagesimal.toAngle_ofAngle |angle|)
  rw [gpsCoord_eq_some_iff]
  refine ⟨d, m, s, hcomponents, ?_⟩
  rw [h.refSign_eq hrefs, hmagnitude, ExactFloat.finite_mul_finite]
  by_cases hneg : angle < 0
  · rw [if_pos hneg, abs_of_neg hneg, neg_one_mul, neg_neg]
  · rw [if_neg hneg, abs_of_nonneg (not_lt.1 hneg), one_mul]

end Encoded

/-- `exif_gps` returns exactly the position the primary GPS tags encode, and
every block with the same two tags for a coordinate has the same coordinate. -/
theorem exifGps_inverts_encoding {crate : ExifCrate} {blob : Blob} {exifdata : Exif}
    (hparse : parseExif crate blob = some exifdata) {lat lon : ℚ}
    (hlat : EncodesCoord exifdata .gpsLatitude .gpsLatitudeRef 0x4E 0x53 lat)
    (hlon : EncodesCoord exifdata .gpsLongitude .gpsLongitudeRef 0x45 0x57 lon) :
    exifGps crate blob = .ok (some ⟨.finite lat, .finite lon⟩) ∧
      ∀ (crate' : ExifCrate) (blob' : Blob) (other : Exif) (gps : Gps),
        parseExif crate' blob' = some other → exifGps crate' blob' = .ok (some gps) →
          (SamePrimary exifdata other [.gpsLatitude, .gpsLatitudeRef] →
              gps.lat = .finite lat) ∧
            (SamePrimary exifdata other [.gpsLongitude, .gpsLongitudeRef] →
              gps.lon = .finite lon) := by
  have hlatCoord := hlat.gpsCoord_eq (by decide)
  have hlonCoord := hlon.gpsCoord_eq (by decide)
  refine ⟨(exifGps_eq_ok_some_iff hparse).2 ⟨hlatCoord, hlonCoord⟩, ?_⟩
  intro crate' blob' other gps hparse' hgps
  obtain ⟨hlat', hlon'⟩ := (exifGps_eq_ok_some_iff hparse').1 hgps
  constructor
  · intro hsame
    rw [← gpsCoord_of_samePrimary _ _ _ _ hsame, hlatCoord] at hlat'
    exact (Option.some.inj hlat').symm
  · intro hsame
    rw [← gpsCoord_of_samePrimary _ _ _ _ hsame, hlonCoord] at hlon'
    exact (Option.some.inj hlon').symm

/-- The position of the integration test. -/
theorem exifGps_inverts_fixture :
    exifGps (.ofBlob fixtureJpeg fixtureBlock) fixtureJpeg =
      .ok (some ⟨.finite (4537 / 120), .finite (-146903 / 1200)⟩) := by
  have hlat : EncodesCoord fixtureBlock .gpsLatitude .gpsLatitudeRef 0x4E 0x53 (4537 / 120) :=
    { components := ⟨⟨37, 1⟩, ⟨48, 1⟩, ⟨30, 1⟩, [], rfl, by decide +kernel⟩
      reference := ⟨[], [], by rw [if_neg (by norm_num)]; rfl⟩ }
  have hlon : EncodesCoord fixtureBlock .gpsLongitude .gpsLongitudeRef 0x45 0x57
      (-146903 / 1200) :=
    { components := ⟨⟨122, 1⟩, ⟨25, 1⟩, ⟨9, 1⟩, [], rfl, by decide +kernel⟩
      reference := ⟨[], [], by rw [if_pos (by norm_num)]; rfl⟩ }
  exact (exifGps_inverts_encoding
    (ExifCrate.parseExif_ofBlob fixtureJpeg fixtureBlock) hlat hlon).1

end VgiImage.Imaging
