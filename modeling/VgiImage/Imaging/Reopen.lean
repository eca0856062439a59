import VgiImage.Imaging.ReferenceCodec

/-!
# Feeding `convert`'s output back to `image_info`

The blob `convert` writes carries the requested format and the source's size,
but the decoder may hold its pixels in a wider color type than the source had:
a JPEG always comes back as RGB8 and a GIF as RGBA8.  Since the decoder admits
an image by its decoded size, the output reopens exactly when the wider image
still fits the limit.
-/

namespace VgiImage.Imaging

namespace OutFormat

/-- The token `image_info` reports for a format is one `parse` maps back. -/
theorem parse_formatName (format : OutFormat) :
    parse (formatName format.imageFormat) = .ok format := by
  cases format <;> decide +kernel

end OutFormat

/-- The color type a written image has when it is decoded again. -/
def reopenedColor : OutFormat → ColorType → ColorType
  | .gif, _ => .rgba8
  | _, color => color

/-- What `convert` and `image_info` rely on for one output format: its encoder
writes the requested format and the size of its input, and the decoder admits an
image exactly up to `decodeLimit`. -/
structure ReopenLaws (crate : ImageCrate) (format : OutFormat) : Prop
    extends Rgb8Laws crate where
  pixelBytes_le_of_decode {guessed : Option ImageFormat} {blob : Blob}
    {img : DynamicImage} (h : crate.decode guessed blob = .ok img) :
    pixelBytes img.width img.height img.color ≤ decodeLimit
  guessed_of_writeTo {img : DynamicImage} {out : Blob}
    (h : crate.writeTo img format.imageFormat = .ok out) :
    crate.withGuessedFormat out = .ok (some format.imageFormat)
  decode_of_writeTo {img : DynamicImage} {out : Blob}
    (h : crate.writeTo img format.imageFormat = .ok out)
    (hjpeg : format = .jpeg → img.color = .rgb8)
    (hlimit : pixelBytes img.width img.height (reopenedColor format img.color) ≤
      decodeLimit) :
    ∃ reopened, crate.decode (some format.imageFormat) out = .ok reopened ∧
      reopened.width = img.width ∧ reopened.height = img.height
  decode_error_of_writeTo {img : DynamicImage} {out : Blob}
    (h : crate.writeTo img format.imageFormat = .ok out)
    (hjpeg : format = .jpeg → img.color = .rgb8)
    (hlimit : decodeLimit <
      pixelBytes img.width img.height (reopenedColor format img.color)) :
    ∃ e, crate.decode (some format.imageFormat) out = .error e

/-- What holds of the blobs of an output format whatever the decoder admits: they
are recognised, and one that is decoded again has the size it was written with. -/
structure WriteLaws (crate : ImageCrate) (format : OutFormat) : Prop
    extends Rgb8Laws crate where
  guessed_of_writeTo {img : DynamicImage} {out : Blob}
    (h : crate.writeTo img format.imageFormat = .ok out) :
    crate.withGuessedFormat out = .ok (some format.imageFormat)
  size_of_decode {img reopened : DynamicImage} {out : Blob}
    (h : crate.writeTo img format.imageFormat = .ok out)
    (hjpeg : format = .jpeg → img.color = .rgb8)
    (hdecode : crate.decode (some format.imageFormat) out = .ok reopened) :
    reopened.width = img.width ∧ reopened.height = img.height

theorem ReopenLaws.writeLaws {crate : ImageCrate} {format : OutFormat}
    (laws : ReopenLaws crate format) : WriteLaws crate format where
  toRgb8Laws := laws.toRgb8Laws
  guessed_of_writeTo := laws.guessed_of_writeTo
  size_of_decode {img reopened out} h hjpeg hdecode := by
    by_cases hlimit : pixelBytes img.width img.height (reopenedColor format img.color) ≤
        decodeLimit
    · obtain ⟨other, hother, hsize⟩ := laws.decode_of_writeTo h hjpeg hlimit
      obtain rfl : other = reopened := Except.ok.inj (hother.symm.trans hdecode)
      exact hsize
    · -- Beyond the limit the blob would not have been decoded.
      obtain ⟨e, he⟩ := laws.decode_error_of_writeTo h hjpeg (not_le.1 hlimit)
      rw [hdecode] at he
      cases he

/-- `image_info` accepts `out`, reports the format asked for and the size of
`blob`. -/
def Reopens (crate : ImageCrate) (blob : Blob) (format : OutFormat)
    (out : Blob) : Prop :=
  ∃ info source, imageInfo crate out = .ok info ∧ imageInfo crate blob = .ok source ∧
    OutFormat.parse info.format = .ok format ∧
      info.width = source.width ∧ info.height = source.height

/-- The source is small enough in the color type its output is decoded to:
three bytes per pixel for JPEG, four for GIF. -/
def FitsReopened (format : OutFormat) (img : DynamicImage) : Prop :=
  (format = .jpeg → pixelBytes img.width img.height .rgb8 ≤ decodeLimit) ∧
    (format = .gif → pixelBytes img.width img.height .rgba8 ≤ decodeLimit)

instance (format : OutFormat) (img : DynamicImage) :
    Decidable (FitsReopened format img) :=
  inferInstanceAs (Decidable (_ ∧ _))

section Laws

variable {crate : ImageCrate} {format : OutFormat}

theorem color_encoded_jpeg (laws : Rgb8Laws crate) (img : DynamicImage)
    (h : format = .jpeg) : (encoded crate img format).color = .rgb8 := by
  simp [encoded, h, laws.color_toRgb8]

variable (laws : ReopenLaws crate format)
include laws

/-- For an image the decoder admitted, the encoded image fits the limit when
reopened exactly under `FitsReopened`. -/
theorem pixelBytes_reopened_le_iff {img : DynamicImage}
    (hsource : pixelBytes img.width img.height img.color ≤ decodeLimit) :
    pixelBytes (encoded crate img format).width (encoded crate img format).height
        (reopenedColor format (encoded crate img format).color) ≤ decodeLimit ↔
      FitsReopened format img := by
  rw [width_encoded laws.toRgb8Laws, height_encoded laws.toRgb8Laws]
  cases format
  case jpeg =>
    simp [reopenedColor, FitsReopened, color_encoded_jpeg laws.toRgb8Laws img rfl]
  case gif => simp [reopenedColor, FitsReopened]
  all_goals simpa [reopenedColor, FitsReopened, encoded] using hsource

/-- Where the limit admits the output, `image_info` reports the requested
format and the source's size. -/
theorem imageInfo_of_writeTo {img : DynamicImage} {out : Blob}
    (hout : encode crate img format = .ok out)
    (hlimit : pixelBytes (encoded crate img format).width
      (encoded crate img format).height
      (reopenedColor format (encoded crate img format).color) ≤ decodeLimit) :
    ∃ info, imageInfo crate out = .ok info ∧
      OutFormat.parse info.format = .ok format ∧
        info.width = img.width ∧ info.height = img.height := by
  have hwrite := encode_eq_ok_iff.1 hout
  obtain ⟨reopened, hdecode, hwidth, hheight⟩ :=
    laws.decode_of_writeTo hwrite (color_encoded_jpeg laws.toRgb8Laws img) hlimit
  have hopen : openImage crate out = .ok (some format.imageFormat, reopened) :=
    openImage_eq_ok_iff.2 ⟨laws.guessed_of_writeTo hwrite, hdecode⟩
  refine ⟨_, imageInfo_of_openImage hopen, ?_, ?_, ?_⟩
  · exact OutFormat.parse_formatName format
  · exact hwidth.trans (width_encoded laws.toRgb8Laws img format)
  · exact hheight.trans (height_encoded laws.toRgb8Laws img format)

/-- Beyond the limit, `image_info` rejects the output. -/
theorem imageInfo_ne_ok_of_writeTo {img : DynamicImage} {out : Blob}
    (hout : encode crate img format = .ok out)
    (hlimit : decodeLimit < pixelBytes (encoded crate img format).width
      (encoded crate img format).height
      (reopenedColor format (encoded crate img format).color))
    (info : ImageInfo) : imageInfo crate out ≠ .ok info := by
  have hwrite := encode_eq_ok_iff.1 hout
  obtain ⟨e, hdecode⟩ :=
    laws.decode_error_of_writeTo hwrite (color_encoded_jpeg laws.toRgb8Laws img) hlimit
  have hopen : ∃ e, openImage crate out = .error e := by
    rw [openImage, laws.guessed_of_writeTo hwrite]
    simp [Except.mapError, hdecode, bind, Except.bind]
  obtain ⟨e', he'⟩ := hopen
  rw [imageInfo_eq_error_iff.2 he']
  simp

/-- `convert`'s output reopens as the same image in the requested format exactly
when the source fits the limit in the output's color type. -/
theorem convert_reopens_iff {blob out : Blob} {img : DynamicImage}
    (hdecode : decode crate blob = .ok img)
    (hconvert : convert crate blob format = .ok out) :
    Reopens crate blob format out ↔ FitsReopened format img := by
  obtain ⟨guessed, hopen⟩ := decode_eq_ok_iff.1 hdecode
  have hsource := laws.pixelBytes_le_of_decode (openImage_eq_ok_iff.1 hopen).2
  have hout : encode crate img format = .ok out := by
    rw [← convert_of_decode hdecode]
    exact hconvert
  rw [← pixelBytes_reopened_le_iff laws hsource]
  constructor
  · rintro ⟨info, source, hinfo, -⟩
    by_contra hlimit
    exact imageInfo_ne_ok_of_writeTo laws hout (not_le.1 hlimit) info hinfo
  · intro hlimit
    obtain ⟨info, hinfo, hformat, hwidth, hheight⟩ :=
      imageInfo_of_writeTo laws hout hlimit
    exact ⟨info, _, hinfo, imageInfo_of_openImage hopen, hformat, hwidth, hheight⟩

end Laws

/-! ## The laws on the header-level codec -/

namespace ReferenceCodec

/-- Decoding a blob the codec wrote: its header announces the size and RGB8. -/
theorem decode_of_writeImage {img : DynamicImage} {format : ImageFormat} {out : Blob}
    (h : writeImage img format = .ok out) :
    guessFormat out = some format ∧
      decodeImage (some format) out =
        if pixelBytes img.width img.height .rgb8 ≤ decodeLimit then
          .ok (black img.width img.height .rgb8)
        else .error "Memory limit exceeded" := by
  obtain ⟨⟨hwidth, hheight, -⟩, hout⟩ := writeImage_eq_ok h
  have hw : 0 < img.width.toNat ∧ img.width.toNat < 2 ^ 32 :=
    ⟨UInt32.lt_iff_toNat_lt.1 hwidth, img.width.toNat_lt⟩
  have hh : 0 < img.height.toNat ∧ img.height.toNat < 2 ^ 32 :=
    ⟨UInt32.lt_iff_toNat_lt.1 hheight, img.height.toNat_lt⟩
  rcases hout with ⟨rfl, rfl⟩ | ⟨rfl, hwidth', hheight', rfl⟩
  · refine ⟨guessFormat_bmpHeader _ _ _, ?_⟩
    rw [decodeImage_of_readHeader (readHeader_bmpHeader hw.2 hh.2 _) hw hh,
      UInt32.ofNat_toNat, UInt32.ofNat_toNat]
    rfl
  · refine ⟨guessFormat_jpegHeader _ _ _, ?_⟩
    rw [decodeImage_of_readHeader (readHeader_jpegHeader hwidth' hheight' _) hw hh,
      UInt32.ofNat_toNat, UInt32.ofNat_toNat]
    rfl

theorem reopenedColor_of_writeImage {img : DynamicImage} {format : OutFormat}
    {out : Blob} (h : writeImage img format.imageFormat = .ok out) :
    reopenedColor format img.color = .rgb8 := by
  obtain ⟨⟨-, -, hcolor⟩, hformat⟩ := writeImage_eq_ok h
  cases format
  case gif => simp [OutFormat.imageFormat] at hformat
  all_goals exact hcolor

theorem pixelBytes_le_of_decodeImage {format : Option ImageFormat} {blob : Blob}
    {img : DynamicImage} (h : decodeImage format blob = .ok img) :
    pixelBytes img.width img.height img.color ≤ decodeLimit := by
  cases hheader : format.bind (readHeader blob) with
  | none => simp [decodeImage, hheader] at h
  | some header =>
      obtain ⟨width, height, color⟩ := header
      simp only [decodeImage, hheader] at h
      split_ifs at h with hpos hlimit
      cases h
      exact hlimit

theorem reopenLaws (format : OutFormat) : ReopenLaws codec format where
  toRgb8Laws := rgb8Laws
  pixelBytes_le_of_decode h := pixelBytes_le_of_decodeImage h
  guessed_of_writeTo h := congrArg Except.ok (decode_of_writeImage h).1
  decode_of_writeTo {img out} h _ hlimit := by
    rw [reopenedColor_of_writeImage h] at hlimit
    have hdecode := (decode_of_writeImage h).2
    rw [if_pos hlimit] at hdecode
    exact ⟨_, hdecode, rfl, rfl⟩
  decode_error_of_writeTo {img out} h _ hlimit := by
    rw [reopenedColor_of_writeImage h] at hlimit
    have hdecode := (decode_of_writeImage h).2
    rw [if_neg (not_le.2 hlimit)] at hdecode
    exact ⟨_, hdecode⟩

theorem convert_samplePng :
    convert codec samplePng .bmp = .ok (bmpHeader 2 2 ++ List.replicate 16 0) := by
  rw [convert_of_decode decode_samplePng]
  rfl

end ReferenceCodec

open ReferenceCodec

/-- The sample PNG converted to BMP. -/
theorem convert_reopens_samplePng :
    Reopens codec samplePng .bmp (bmpHeader 2 2 ++ List.replicate 16 0) ↔
      FitsReopened .bmp (black 2 2 .rgb8) :=
  convert_reopens_iff (reopenLaws .bmp) decode_samplePng convert_samplePng

/-- A gray PNG of 20000×20000 pixels is admitted at one byte per pixel, and its
JPEG is rejected at three. -/
theorem convert_rejected_by_imageInfo :
    ¬ ∀ (crate : ImageCrate), (∀ format, ReopenLaws crate format) →
      ∀ (blob : Blob) (format : OutFormat) (out : Blob),
        convert crate blob format = .ok out → Reopens crate blob format out := by
  intro h
  have hdecode : decode codec (blackPng 20000 20000 0 1) = .ok (black 20000 20000 .l8) :=
    decode_blackPng 1 rfl (by decide) (by decide) (by decide)
  have hconvert : convert codec (blackPng 20000 20000 0 1) .jpeg =
      .ok (jpegHeader 20000 20000 ++ [0xFF, 0xD9]) := by
    rw [convert_of_decode hdecode]
    rfl
  have hreopens := h codec reopenLaws _ _ _ hconvert
  obtain ⟨info, source, hinfo, -⟩ := hreopens
  have hout : encode codec (black 20000 20000 .l8) .jpeg = .ok _ :=
    (convert_of_decode hdecode .jpeg).symm.trans hconvert
  exact imageInfo_ne_ok_of_writeTo (reopenLaws .jpeg) hout (by decide) info hinfo

end VgiImage.Imaging
