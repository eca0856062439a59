import VgiImage.Core.Stages
import VgiImage.Imaging.Call
import VgiImage.Imaging.Hash
import VgiImage.Imaging.Reopen

/-!
# Lossless conversions

Everything but `image_info` and the EXIF functions looks at a blob through the image it
decodes to.  A format that keeps every sample of that image can therefore be converted
to, any number of times, without a trace in what is computed later.
-/

namespace VgiImage.Imaging

open Outcome Stages

/-- Pixel bytes up to which every decoder can be relied on, 128 MiB. -/
def keepLimit : ℕ := 128 * 1024 * 1024

/-- The longest side of a BMP that is decoded. -/
def bmpSide : UInt32 := 65535

/-- The images a format keeps, sample for sample and in their color type. -/
def OutFormat.keeps (format : OutFormat) (img : DynamicImage) : Bool :=
  pixelBytes img.width img.height img.color ≤ keepLimit &&
    match format with
    | .png => img.color ∈ [.l8, .la8, .rgb8, .rgba8, .l16, .la16, .rgb16, .rgba16]
    | .tiff => img.color ∈ [.l8, .rgb8, .rgba8, .l16, .rgb16, .rgba16]
    | .bmp => img.color = .rgb8 && img.width ≤ bmpSide && img.height ≤ bmpSide
    | _ => false

/-- What a lossless conversion relies on: a blob is recognised as what it was written as,
and the decoder gets back an image that the format keeps, sample for sample. -/
structure LosslessLaws (crate : ImageCrate) : Prop where
  guessed_of_writeTo {img : DynamicImage} {format : OutFormat} {out : Blob}
    (hkeeps : format.keeps img) (hwrite : crate.writeTo img format.imageFormat = .ok out) :
    crate.withGuessedFormat out = .ok (some format.imageFormat)
  decode_of_keeps {source : Option ImageFormat} {blob out : Blob} {img : DynamicImage}
    {format : OutFormat} (hsource : crate.decode source blob = .ok img)
    (hkeeps : format.keeps img) (hwrite : crate.writeTo img format.imageFormat = .ok out) :
    crate.decode (some format.imageFormat) out = .ok img

/-- One `convert` after another. -/
def conversions (crate : ImageCrate) (formats : List OutFormat) : List (Blob → Run Blob) :=
  formats.map fun format bytes => callConvert crate bytes format

section Decode

variable {crate : ImageCrate} {blob blob' out : Blob}

theorem decode_convert (laws : LosslessLaws crate) {format : OutFormat} {img : DynamicImage}
    (hdecode : decode crate blob = .ok img) (hkeeps : format.keeps img)
    (hout : convert crate blob format = .ok out) : decode crate out = .ok img := by
  obtain ⟨guessed, hopen⟩ := decode_eq_ok_iff.1 hdecode
  obtain ⟨-, hsource⟩ := openImage_eq_ok_iff.1 hopen
  rw [convert_of_decode hdecode, encode_eq_ok_iff] at hout
  have hjpeg : format ≠ .jpeg := by
    rintro rfl
    simp [OutFormat.keeps] at hkeeps
  rw [encoded, if_neg hjpeg] at hout
  apply decode_eq_ok_iff.2
  exact ⟨some format.imageFormat, openImage_eq_ok_iff.2
    ⟨laws.guessed_of_writeTo hkeeps hout, laws.decode_of_keeps hsource hkeeps hout⟩⟩

/-- A chain of conversions that keep the samples leaves the decoded image alone. -/
theorem decode_through (laws : LosslessLaws crate) {formats : List OutFormat}
    (hkeeps : ∀ img, decode crate blob = .ok img → ∀ format ∈ formats, format.keeps img)
    (hout : through (conversions crate formats) blob = .ok out) :
    decode crate out = decode crate blob := by
  induction formats generalizing blob with
  | nil =>
      cases hout
      rfl
  | cons format formats ih =>
      obtain ⟨middle, hmiddle, hlater⟩ := through_cons_eq_ok_iff.1 hout
      have hconvert := callConvert_eq_ok_iff.1 hmiddle
      obtain ⟨img, himg, -⟩ := bind_eq_ok_iff.1 hconvert
      have hsame : decode crate middle = .ok img :=
        decode_convert laws himg (hkeeps img himg format (.head _)) hconvert
      rw [himg, ← hsame]
      apply ih _ hlater
      intro img' himg' other hother
      obtain rfl := Except.ok.inj (hsame.symm.trans himg')
      exact hkeeps img himg other (.tail _ hother)

/-! ## What looks at the decoded image alone -/

theorem perceptualHash_congr (hasher : HasherCrate) (kind : HashKind)
    (h : decode crate blob = decode crate blob') :
    perceptualHash crate hasher blob kind = perceptualHash crate hasher blob' kind := by
  rw [perceptualHash, perceptualHash, h]

theorem callThumbnail_congr (maxW maxH : UInt32) (format : OutFormat)
    (h : decode crate blob = decode crate blob') :
    callThumbnail crate blob maxW maxH format = callThumbnail crate blob' maxW maxH format := by
  rw [callThumbnail, callThumbnail, thumbnailPanics, thumbnailPanics, thumbnail, thumbnail, h]

theorem callConvert_congr (format : OutFormat) (h : decode crate blob = decode crate blob') :
    callConvert crate blob format = callConvert crate blob' format := by
  rw [callConvert, callConvert, convert, convert, h]

end Decode

/-! ## The header-level codec -/

namespace ReferenceCodec

theorem eq_black_of_decodeImage {format : Option ImageFormat} {blob : Blob} {img : DynamicImage}
    (h : decodeImage format blob = .ok img) : img = black img.width img.height img.color := by
  cases hheader : format.bind (readHeader blob) with
  | none => simp [decodeImage, hheader] at h
  | some header =>
      obtain ⟨width, height, color⟩ := header
      simp only [decodeImage, hheader] at h
      split_ifs at h
      cases h
      rfl

theorem losslessLaws : LosslessLaws codec where
  guessed_of_writeTo _ hwrite := congrArg Except.ok (decode_of_writeImage hwrite).1
  decode_of_keeps {source blob out img format} hsource _ hwrite := by
    obtain ⟨⟨-, -, hcolor⟩, -⟩ := writeImage_eq_ok hwrite
    have hlimit := pixelBytes_le_of_decodeImage hsource
    have himg := eq_black_of_decodeImage hsource
    rw [hcolor] at hlimit himg
    have hdecode := (decode_of_writeImage hwrite).2
    rw [if_pos hlimit, ← himg] at hdecode
    exact hdecode

end ReferenceCodec

end VgiImage.Imaging
