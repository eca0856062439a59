import VgiImage.Imaging.ReferenceCodec

/-!
# The size of a thumbnail

`thumbnail` passes its box straight to the crate's resizing function and is
documented never to upscale.  The crate scales by the smaller side ratio
whether or not that ratio exceeds one, so the box is respected always and the
source size exactly when the box does not exceed it in both dimensions.
-/

namespace VgiImage.Imaging

open AspectRatio

/-- What `thumbnail` relies on: the resizing rule of the crate, in exact
arithmetic. -/
structure ThumbnailLaws (crate : ImageCrate) : Prop extends Rgb8Laws crate where
  width_thumbnail {img : DynamicImage} {nwidth nheight : UInt32}
    (hwidth : 0 < img.width) (hheight : 0 < img.height)
    (hnwidth : 0 < nwidth) (hnheight : 0 < nheight) :
    (crate.thumbnail img nwidth nheight).width.toNat =
      scaledSide img.width.toNat
        (fitRatio img.width.toNat img.height.toNat nwidth.toNat nheight.toNat)
  height_thumbnail {img : DynamicImage} {nwidth nheight : UInt32}
    (hwidth : 0 < img.width) (hheight : 0 < img.height)
    (hnwidth : 0 < nwidth) (hnheight : 0 < nheight) :
    (crate.thumbnail img nwidth nheight).height.toNat =
      scaledSide img.height.toNat
        (fitRatio img.width.toNat img.height.toNat nwidth.toNat nheight.toNat)

/-- `thumb` fits the box `maxW × maxH` and is nowhere larger than `img`. -/
structure FitsShrunk (img : DynamicImage) (maxW maxH : UInt32)
    (thumb : DynamicImage) : Prop where
  width_pos : 1 ≤ thumb.width.toNat
  height_pos : 1 ≤ thumb.height.toNat
  width_le : thumb.width.toNat ≤ min img.width.toNat maxW.toNat
  height_le : thumb.height.toNat ≤ min img.height.toNat maxH.toNat

variable {crate : ImageCrate}

/-- The resized image is inside the source exactly when the box does not exceed
the source in both dimensions. -/
theorem fitsShrunk_thumbnail_iff (laws : ThumbnailLaws crate) {img : DynamicImage}
    {maxW maxH : UInt32} (hwidth : 0 < img.width) (hheight : 0 < img.height)
    (hmaxW : 0 < maxW) (hmaxH : 0 < maxH) :
    FitsShrunk img maxW maxH (crate.thumbnail img maxW maxH) ↔
      maxW ≤ img.width ∨ maxH ≤ img.height := by
  have hw := laws.width_thumbnail hwidth hheight hmaxW hmaxH
  have hh := laws.height_thumbnail hwidth hheight hmaxW hmaxH
  rw [UInt32.lt_iff_toNat_lt] at hwidth hheight hmaxW hmaxH
  rw [UInt32.le_iff_toNat_le, UInt32.le_iff_toNat_le,
    ← scaledSide_le_source_iff hwidth hheight hmaxW hmaxH]
  have hbox := scaledSide_le_box hwidth hheight hmaxW hmaxH
  constructor
  · intro h
    rw [← hw, ← hh]
    exact ⟨h.width_le.trans (min_le_left _ _), h.height_le.trans (min_le_left _ _)⟩
  · intro hsource
    rw [← hw, ← hh] at hsource hbox
    exact
      { width_pos := hw ▸ one_le_scaledSide _ _
        height_pos := hh ▸ one_le_scaledSide _ _
        width_le := le_min hsource.1 hbox.1
        height_le := le_min hsource.2 hbox.2 }

/-- Conversion to the output's color model keeps the size. -/
theorem fitsShrunk_encoded_iff (laws : Rgb8Laws crate) {img thumb : DynamicImage}
    {maxW maxH : UInt32} (format : OutFormat) :
    FitsShrunk img maxW maxH (encoded crate thumb format) ↔
      FitsShrunk img maxW maxH thumb := by
  have hw := width_encoded laws thumb format
  have hh := height_encoded laws thumb format
  constructor
  · rintro ⟨hw1, hh1, hw2, hh2⟩
    rw [hw] at hw1 hw2
    rw [hh] at hh1 hh2
    exact ⟨hw1, hh1, hw2, hh2⟩
  · rintro ⟨hw1, hh1, hw2, hh2⟩
    rw [← hw] at hw1 hw2
    rw [← hh] at hh1 hh2
    exact ⟨hw1, hh1, hw2, hh2⟩

/-- The image `thumbnail` encodes fits the box and is not enlarged exactly when
`maxW` does not exceed the source width or `maxH` the source height. -/
theorem thumbnail_never_enlarges_iff (laws : ThumbnailLaws crate) {blob : Blob}
    {img : DynamicImage} (hdecode : decode crate blob = .ok img)
    (hwidth : 0 < img.width) (hheight : 0 < img.height)
    {maxW maxH : UInt32} (hmaxW : 0 < maxW) (hmaxH : 0 < maxH) (format : OutFormat) :
    thumbnail crate blob maxW maxH format =
        encode crate (crate.thumbnail img maxW maxH) format ∧
      (FitsShrunk img maxW maxH
          (encoded crate (crate.thumbnail img maxW maxH) format) ↔
        maxW ≤ img.width ∨ maxH ≤ img.height) := by
  constructor
  · exact thumbnail_of_decode hdecode hmaxW hmaxH format
  · rw [fitsShrunk_encoded_iff laws.toRgb8Laws]
    exact fitsShrunk_thumbnail_iff laws hwidth hheight hmaxW hmaxH

/-! ## The law on the header-level codec -/

theorem ReferenceCodec.thumbnailLaws : ThumbnailLaws ReferenceCodec.codec where
  toRgb8Laws := ReferenceCodec.rgb8Laws
  width_thumbnail {img nwidth nheight} hwidth hheight hnwidth hnheight := by
    rw [UInt32.lt_iff_toNat_lt] at hwidth hheight hnwidth hnheight
    apply UInt32.toNat_ofNat_of_lt'
    exact (scaledSide_le_box hwidth hheight hnwidth hnheight).1.trans_lt
      nwidth.toNat_lt
  height_thumbnail {img nwidth nheight} hwidth hheight hnwidth hnheight := by
    rw [UInt32.lt_iff_toNat_lt] at hwidth hheight hnwidth hnheight
    apply UInt32.toNat_ofNat_of_lt'
    exact (scaledSide_le_box hwidth hheight hnwidth hnheight).2.trans_lt
      nheight.toNat_lt

/-- A 2×2 source in a 1×128 box. -/
theorem thumbnail_never_enlarges_samplePng :
    thumbnail ReferenceCodec.codec ReferenceCodec.samplePng 1 128 .jpeg =
        encode ReferenceCodec.codec
          (ReferenceCodec.codec.thumbnail (ReferenceCodec.black 2 2 .rgb8) 1 128) .jpeg ∧
      (FitsShrunk (ReferenceCodec.black 2 2 .rgb8) 1 128
          (encoded ReferenceCodec.codec
            (ReferenceCodec.codec.thumbnail (ReferenceCodec.black 2 2 .rgb8) 1 128) .jpeg) ↔
        (1 : UInt32) ≤ 2 ∨ (128 : UInt32) ≤ 2) :=
  thumbnail_never_enlarges_iff ReferenceCodec.thumbnailLaws
    ReferenceCodec.decode_samplePng (by decide) (by decide) (by decide) (by decide) .jpeg

/-- The default box enlarges the 2×2 sample image. -/
theorem thumbnail_enlarges_samplePng :
    ¬ ∀ (crate : ImageCrate), ThumbnailLaws crate →
      ∀ (blob : Blob) (img : DynamicImage), decode crate blob = .ok img →
        0 < img.width → 0 < img.height →
          ∀ (maxW maxH : UInt32), 0 < maxW → 0 < maxH → ∀ format,
            FitsShrunk img maxW maxH
              (encoded crate (crate.thumbnail img maxW maxH) format) := by
  intro h
  have hfits := h ReferenceCodec.codec ReferenceCodec.thumbnailLaws
    ReferenceCodec.samplePng (ReferenceCodec.black 2 2 .rgb8)
    ReferenceCodec.decode_samplePng (by decide) (by decide) 128 128 (by decide)
    (by decide) .jpeg
  rw [fitsShrunk_encoded_iff ReferenceCodec.rgb8Laws,
    fitsShrunk_thumbnail_iff ReferenceCodec.thumbnailLaws (by decide) (by decide)
      (by decide) (by decide)] at hfits
  exact absurd hfits (by decide)

end VgiImage.Imaging
