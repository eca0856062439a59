import VgiImage.Core.AspectRatio

/-!
# Decoding, re-encoding and resizing

The part of `imaging.rs` that rests on the `image` crate: `image_info`,
`decode`, `encode`, `thumbnail` and `convert`.  The crate itself is a parameter
(`ImageCrate`); what the worker relies on is stated as named laws next to it.
-/

namespace VgiImage

abbrev Blob := List UInt8

/-- A processing error, rendered to a string for the worker to surface. -/
structure ImgError where
  message : String
  deriving DecidableEq

namespace Imaging

inductive ImageFormat where
  | png | jpeg | gif | webP | tiff | bmp | ico | hdr | openExr | pnm | tga | dds
  | farbfeld | avif | qoi
  /-- The enumeration is open: any format added to the crate later. -/
  | other (index : ℕ)
  deriving DecidableEq

inductive ColorType where
  | l8 | la8 | rgb8 | rgba8 | l16 | la16 | rgb16 | rgba16 | rgb32F | rgba32F
  /-- The enumeration is open: any color type added to the crate later. -/
  | other (bytesPerPixel : ℕ) (hasAlpha : Bool)
  deriving DecidableEq

namespace ColorType

def bytesPerPixel : ColorType → ℕ
  | l8 => 1
  | la8 => 2
  | rgb8 => 3
  | rgba8 => 4
  | l16 => 2
  | la16 => 4
  | rgb16 => 6
  | rgba16 => 8
  | rgb32F => 12
  | rgba32F => 16
  | other bytes _ => bytes

def hasAlpha : ColorType → Bool
  | la8 | rgba8 | la16 | rgba16 | rgba32F => true
  | other _ alpha => alpha
  | _ => false

end ColorType

/-- A decoded image: its color model, its size and the raw sample bytes. -/
structure DynamicImage where
  color : ColorType
  width : UInt32
  height : UInt32
  samples : List UInt8

/-- Bytes the decoder allocates for the pixels of a `width × height` image. -/
def pixelBytes (width height : UInt32) (color : ColorType) : ℕ :=
  width.toNat * height.toNat * color.bytesPerPixel

/-- The functions of the `image` crate the worker calls; their errors are kept
as the text `{e}` renders. -/
structure ImageCrate where
  /-- `ImageReader::new(Cursor::new(blob)).with_guessed_format()`, then
  `reader.format()`. -/
  withGuessedFormat : Blob → Except String (Option ImageFormat)
  /-- `reader.decode()` under the reader's default limits. -/
  decode : Option ImageFormat → Blob → Except String DynamicImage
  /-- `DynamicImage::ImageRgb8(img.to_rgb8())` -/
  toRgb8 : DynamicImage → DynamicImage
  /-- `img.thumbnail(nwidth, nheight)`, where it returns. -/
  thumbnail : DynamicImage → UInt32 → UInt32 → DynamicImage
  /-- Whether `img.thumbnail(nwidth, nheight)` panics instead: the pixel buffer
  of the scaled image overflows `usize`. -/
  thumbnailOverflows : DynamicImage → UInt32 → UInt32 → Bool
  /-- `img.write_to(&mut out, format)`, returning the bytes of `out`. -/
  writeTo : DynamicImage → ImageFormat → Except String Blob

/-- `to_rgb8` changes the color model only. -/
structure Rgb8Laws (crate : ImageCrate) : Prop where
  width_toRgb8 (img : DynamicImage) : (crate.toRgb8 img).width = img.width
  height_toRgb8 (img : DynamicImage) : (crate.toRgb8 img).height = img.height
  color_toRgb8 (img : DynamicImage) : (crate.toRgb8 img).color = .rgb8

/-! ## `image_info` -/

/-- Decoded structural facts about an image, the payload of `image_info`. -/
structure ImageInfo where
  format : String
  width : UInt32
  height : UInt32
  color : String
  hasAlpha : Bool
  deriving DecidableEq

/-- Canonical lowercase format token for an `ImageFormat`. -/
def formatName : ImageFormat → String
  | .png => "png"
  | .jpeg => "jpeg"
  | .gif => "gif"
  | .webP => "webp"
  | .tiff => "tiff"
  | .bmp => "bmp"
  | .ico => "ico"
  | .hdr => "hdr"
  | .openExr => "exr"
  | .pnm => "pnm"
  | .tga => "tga"
  | .dds => "dds"
  | .farbfeld => "farbfeld"
  | .avif => "avif"
  | .qoi => "qoi"
  | .other _ => "unknown"

/-- Human-readable color-model name. -/
def colorName : ColorType → String
  | .l8 => "l8"
  | .la8 => "la8"
  | .rgb8 => "rgb8"
  | .rgba8 => "rgba8"
  | .l16 => "l16"
  | .la16 => "la16"
  | .rgb16 => "rgb16"
  | .rgba16 => "rgba16"
  | .rgb32F => "rgb32f"
  | .rgba32F => "rgba32f"
  | .other _ _ => "other"

section Crate

variable (crate : ImageCrate)

/-- The two fallible steps `image_info` and `decode` share: guess the format,
then decode with it. -/
def openImage (blob : Blob) :
    Except ImgError (Option ImageFormat × DynamicImage) := do
  let format ← (crate.withGuessedFormat blob).mapError
    fun e => ⟨s!"could not read image header: {e}"⟩
  let img ← (crate.decode format blob).mapError
    fun e => ⟨s!"could not decode image: {e}"⟩
  pure (format, img)

variable {crate} in
theorem openImage_eq_ok_iff {blob : Blob} {format : Option ImageFormat}
    {img : DynamicImage} :
    openImage crate blob = .ok (format, img) ↔
      crate.withGuessedFormat blob = .ok format ∧
        crate.decode format blob = .ok img := by
  cases hguess : crate.withGuessedFormat blob with
  | error e => simp [openImage, hguess, Except.mapError, bind, Except.bind]
  | ok guessed =>
      cases hdecode : crate.decode guessed blob with
      | error e =>
          simp only [openImage, hguess, hdecode, Except.mapError, bind, Except.bind,
            reduceCtorEq, Except.ok.injEq, false_iff, not_and]
          rintro rfl
          simp [hdecode]
      | ok decoded =>
          simp only [openImage, hguess, hdecode, Except.mapError, bind, Except.bind,
            pure, Except.pure, Except.ok.injEq, Prod.mk.injEq]
          constructor
          · rintro ⟨rfl, rfl⟩
            exact ⟨rfl, hdecode⟩
          · rintro ⟨rfl, h⟩
            rw [hdecode] at h
            exact ⟨rfl, Except.ok.inj h⟩

/-- Guess the format and read dimensions and color. -/
def imageInfo (blob : Blob) : Except ImgError ImageInfo := do
  let (format, img) ← openImage crate blob
  pure
    { format := (format.map formatName).getD "unknown"
      width := img.width
      height := img.height
      color := colorName img.color
      hasAlpha := img.color.hasAlpha }

def decode (blob : Blob) : Except ImgError DynamicImage := do
  let (_, img) ← openImage crate blob
  pure img

variable {crate}

theorem decode_eq_ok_iff {blob : Blob} {img : DynamicImage} :
    decode crate blob = .ok img ↔
      ∃ format, openImage crate blob = .ok (format, img) := by
  cases hopen : openImage crate blob with
  | error e => simp [decode, hopen, bind, Except.bind]
  | ok opened => simp [decode, hopen, bind, Except.bind, pure, Except.pure, Prod.ext_iff]

/-- The facts `image_info` reports about an opened image. -/
theorem imageInfo_of_openImage {blob : Blob} {format : Option ImageFormat}
    {img : DynamicImage} (h : openImage crate blob = .ok (format, img)) :
    imageInfo crate blob = .ok
      { format := (format.map formatName).getD "unknown"
        width := img.width
        height := img.height
        color := colorName img.color
        hasAlpha := img.color.hasAlpha } := by
  simp [imageInfo, h, bind, Except.bind, pure, Except.pure]

theorem imageInfo_eq_error_iff {blob : Blob} {e : ImgError} :
    imageInfo crate blob = .error e ↔ openImage crate blob = .error e := by
  cases hopen : openImage crate blob <;>
    simp [imageInfo, hopen, bind, Except.bind, pure, Except.pure]

end Crate

/-! ## Output formats -/

/-- An output image format for `thumbnail` / `convert`. -/
inductive OutFormat where
  | jpeg | png | webP | gif | bmp | tiff
  deriving DecidableEq

namespace OutFormat

/-- Every format spelling `parse` is advertised to accept, in recognition
order. -/
def ACCEPTED : List String :=
  ["jpeg", "jpg", "png", "webp", "gif", "bmp", "tiff", "tif"]

/-- Parse a case-insensitive format name. -/
def parse (s : String) : Except ImgError OutFormat :=
  match s.toLower with
  | "jpeg" | "jpg" => .ok jpeg
  | "png" => .ok png
  | "webp" => .ok webP
  | "gif" => .ok gif
  | "bmp" => .ok bmp
  | "tiff" | "tif" => .ok tiff
  | other => .error ⟨s!"unsupported output format '{other}'"⟩

def imageFormat : OutFormat → ImageFormat
  | jpeg => .jpeg
  | png => .png
  | webP => .webP
  | gif => .gif
  | bmp => .bmp
  | tiff => .tiff

end OutFormat

/-! ## `thumbnail` and `convert` -/

section Crate

variable (crate : ImageCrate)

/-- The image `encode` hands to the encoder.  JPEG has no alpha, so the source
converts every image to RGB8 first. -/
def encoded (img : DynamicImage) (format : OutFormat) : DynamicImage :=
  if format = .jpeg then crate.toRgb8 img else img

def encode (img : DynamicImage) (format : OutFormat) : Except ImgError Blob :=
  (crate.writeTo (encoded crate img format) format.imageFormat).mapError
    fun e => ⟨s!"could not encode image: {e}"⟩

/-- Resize `blob` into `maxW × maxH` preserving aspect ratio, then re-encode it
to `format`.  The result of a call that returns. -/
def thumbnail (blob : Blob) (maxW maxH : UInt32) (format : OutFormat) :
    Except ImgError Blob :=
  if maxW = 0 ∨ maxH = 0 then
    .error ⟨"thumbnail width and height must be positive"⟩
  else do
    let img ← decode crate blob
    let thumb := crate.thumbnail img maxW maxH
    encode crate thumb format

/-- Whether the call of `thumbnail` panics: it gets to the resize, and the
scaled image overflows. -/
def thumbnailPanics (blob : Blob) (maxW maxH : UInt32) : Bool :=
  if maxW = 0 ∨ maxH = 0 then false
  else
    match decode crate blob with
    | .error _ => false
    | .ok img => crate.thumbnailOverflows img maxW maxH

/-- Decode `blob` and re-encode it to `format` (full resolution, no resize). -/
def convert (blob : Blob) (format : OutFormat) : Except ImgError Blob := do
  let img ← decode crate blob
  encode crate img format

variable {crate}

theorem encode_eq_ok_iff {img : DynamicImage} {format : OutFormat} {out : Blob} :
    encode crate img format = .ok out ↔
      crate.writeTo (encoded crate img format) format.imageFormat = .ok out := by
  cases h : crate.writeTo (encoded crate img format) format.imageFormat <;>
    simp [encode, h, Except.mapError]

theorem convert_of_decode {blob : Blob} {img : DynamicImage}
    (h : decode crate blob = .ok img) (format : OutFormat) :
    convert crate blob format = encode crate img format := by
  simp [convert, h, bind, Except.bind]

theorem box_not_empty {maxW maxH : UInt32} (hmaxW : 0 < maxW) (hmaxH : 0 < maxH) :
    ¬ (maxW = 0 ∨ maxH = 0) := by
  rintro (rfl | rfl)
  · exact absurd hmaxW (by decide)
  · exact absurd hmaxH (by decide)

theorem thumbnail_of_decode {blob : Blob} {img : DynamicImage} {maxW maxH : UInt32}
    (h : decode crate blob = .ok img) (hmaxW : 0 < maxW) (hmaxH : 0 < maxH)
    (format : OutFormat) :
    thumbnail crate blob maxW maxH format =
      encode crate (crate.thumbnail img maxW maxH) format := by
  rw [thumbnail, if_neg (box_not_empty hmaxW hmaxH), h]
  rfl

section Encoded

variable (laws : Rgb8Laws crate)
include laws

theorem width_encoded (img : DynamicImage) (format : OutFormat) :
    (encoded crate img format).width = img.width := by
  by_cases h : format = .jpeg
  · simp [encoded, h, laws.width_toRgb8]
  · simp [encoded, h]

theorem height_encoded (img : DynamicImage) (format : OutFormat) :
    (encoded crate img format).height = img.height := by
  by_cases h : format = .jpeg
  · simp [encoded, h, laws.height_toRgb8]
  · simp [encoded, h]

end Encoded

end Crate

end Imaging

end VgiImage
