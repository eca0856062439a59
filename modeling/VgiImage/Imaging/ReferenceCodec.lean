import VgiImage.Imaging.Image

/-!
# A header-level codec

A concrete `ImageCrate`: it reads the size and color type from PNG, BMP and
JPEG headers at the offsets these formats define, writes BMP and JPEG headers,
and paints every pixel black.  Its decoder has the memory limit of the default
reader.  It shows that the laws assumed of the crate can hold together, and it
evaluates the model on concrete blobs.
-/

namespace VgiImage.Imaging

/-- The default allocation limit of `ImageReader::decode`, 512 MiB. -/
def decodeLimit : ℕ := 512 * 1024 * 1024

namespace ReferenceCodec

/-! ## Header fields -/

def leValue (bytes : List UInt8) : ℕ :=
  bytes.foldr (fun byte value => byte.toNat + 256 * value) 0

def le4 (value : ℕ) : List UInt8 :=
  [.ofNat value, .ofNat (value / 256), .ofNat (value / 256 ^ 2), .ofNat (value / 256 ^ 3)]

def be2 (value : ℕ) : List UInt8 :=
  [.ofNat (value / 256), .ofNat value]

/-- The little-endian field of `width` bytes at `offset`. -/
def leField (blob : Blob) (offset width : ℕ) : ℕ :=
  leValue ((blob.drop offset).take width)

/-- The big-endian field of `width` bytes at `offset`. -/
def beField (blob : Blob) (offset width : ℕ) : ℕ :=
  leValue ((blob.drop offset).take width).reverse

theorem leValue_le4 {value : ℕ} (h : value < 256 ^ 4) : leValue (le4 value) = value := by
  simp only [leValue, le4, List.foldr_cons, List.foldr_nil, UInt8.toNat_ofNat']
  omega

theorem leValue_be2_reverse {value : ℕ} (h : value < 256 ^ 2) :
    leValue (be2 value).reverse = value := by
  simp only [leValue, be2, List.reverse_cons, List.reverse_nil, List.nil_append,
    List.cons_append, List.foldr_cons, List.foldr_nil, UInt8.toNat_ofNat']
  omega

/-! ## Decoding -/

def pngMagic : List UInt8 := [0x89, 0x50, 0x4E, 0x47, 0x0D, 0x0A, 0x1A, 0x0A]
def bmpMagic : List UInt8 := [0x42, 0x4D]
def jpegMagic : List UInt8 := [0xFF, 0xD8, 0xFF]

def guessFormat (blob : Blob) : Option ImageFormat :=
  if pngMagic.isPrefixOf blob then some .png
  else if bmpMagic.isPrefixOf blob then some .bmp
  else if jpegMagic.isPrefixOf blob then some .jpeg
  else none

/-- Bit depth and color type of a PNG `IHDR` chunk. -/
def pngColor : ℕ → ℕ → Option ColorType
  | 8, 0 => some .l8
  | 8, 2 => some .rgb8
  | 8, 4 => some .la8
  | 8, 6 => some .rgba8
  | 16, 0 => some .l16
  | 16, 2 => some .rgb16
  | 16, 4 => some .la16
  | 16, 6 => some .rgba16
  | _, _ => none

/-- Size and color type a header announces: `IHDR` at offset 8 of a PNG, the
info header at offset 14 of a BMP, a frame header at offset 2 of a JPEG. -/
def readHeader (blob : Blob) : ImageFormat → Option (ℕ × ℕ × ColorType)
  | .png => do
      let color ← pngColor (beField blob 24 1) (beField blob 25 1)
      pure (beField blob 16 4, beField blob 20 4, color)
  | .bmp =>
      if leField blob 28 2 = 24 then
        some (leField blob 18 4, leField blob 22 4, .rgb8)
      else none
  | .jpeg =>
      if beField blob 11 1 = 3 then
        some (beField blob 9 2, beField blob 7 2, .rgb8)
      else none
  | _ => none

/-- An all-black image. -/
def black (width height : UInt32) (color : ColorType) : DynamicImage where
  color := color
  width := width
  height := height
  samples := List.replicate (pixelBytes width height color) 0

def decodeImage (format : Option ImageFormat) (blob : Blob) :
    Except String DynamicImage :=
  match format.bind (readHeader blob) with
  | none => .error "The image format could not be determined"
  | some (width, height, color) =>
      let img := black (.ofNat width) (.ofNat height) color
      if 0 < img.width ∧ 0 < img.height then
        if pixelBytes img.width img.height color ≤ decodeLimit then .ok img
        else .error "Memory limit exceeded"
      else .error "Invalid dimensions"

/-! ## Encoding -/

/-- Bytes of one BMP row: three per pixel, padded to a multiple of four. -/
def bmpRowBytes (width : ℕ) : ℕ := (3 * width + 3) / 4 * 4

def bmpHeader (width height : ℕ) : Blob :=
  bmpMagic ++ le4 (54 + height * bmpRowBytes width) ++ le4 0 ++ le4 54 ++ le4 40 ++
    le4 width ++ le4 height ++ [1, 0, 24, 0] ++ le4 0 ++
    le4 (height * bmpRowBytes width) ++ le4 0 ++ le4 0 ++ le4 0 ++ le4 0

def jpegHeader (width height : ℕ) : Blob :=
  jpegMagic ++ [0xC0, 0, 17, 8] ++ be2 height ++ be2 width ++
    [3, 1, 0x11, 0, 2, 0x11, 0, 3, 0x11, 0]

def writeImage (img : DynamicImage) (format : ImageFormat) : Except String Blob :=
  let width := img.width.toNat
  let height := img.height.toNat
  if 0 < img.width ∧ 0 < img.height ∧ img.color = .rgb8 then
    match format with
    | .bmp => .ok (bmpHeader width height ++
        List.replicate (height * bmpRowBytes width) 0)
    | .jpeg =>
        if width < 256 ^ 2 ∧ height < 256 ^ 2 then
          .ok (jpegHeader width height ++ [0xFF, 0xD9])
        else .error "Image dimensions exceed 65535"
    | _ => .error "The encoder does not support this format"
  else .error "The encoder does not support this color type"

/-- Resizing as the crate documents it: fit the box, keep the aspect ratio. -/
def resize (img : DynamicImage) (nwidth nheight : UInt32) : DynamicImage :=
  let ratio := AspectRatio.fitRatio img.width.toNat img.height.toNat
    nwidth.toNat nheight.toNat
  black (.ofNat (AspectRatio.scaledSide img.width.toNat ratio))
    (.ofNat (AspectRatio.scaledSide img.height.toNat ratio)) img.color

/-- Whether the scaled image has more bytes than a vector may have. -/
def resizeOverflows (img : DynamicImage) (nwidth nheight : UInt32) : Bool :=
  let scaled := resize img nwidth nheight
  decide (2 ^ 63 ≤ pixelBytes scaled.width scaled.height scaled.color)

def codec : ImageCrate where
  withGuessedFormat blob := .ok (guessFormat blob)
  decode := decodeImage
  toRgb8 img := black img.width img.height .rgb8
  thumbnail := resize
  thumbnailOverflows := resizeOverflows
  writeTo := writeImage

theorem codec_decode : codec.decode = decodeImage := rfl

/-! ## All-black PNG files -/

def be4 (value : ℕ) : List UInt8 := (le4 value).reverse
def le2 (value : ℕ) : List UInt8 := (be2 value).reverse

/-- One bit of the CRC-32 register. -/
def crcStep (crc : UInt32) : UInt32 :=
  if crc &&& 1 = 1 then crc >>> 1 ^^^ 0xEDB88320 else crc >>> 1

def crc32 (bytes : List UInt8) : UInt32 :=
  let step (crc : UInt32) (byte : UInt8) : UInt32 := crcStep^[8] (crc ^^^ byte.toUInt32)
  bytes.foldl step 0xFFFFFFFF ^^^ 0xFFFFFFFF

def chunk (kind data : List UInt8) : List UInt8 :=
  be4 data.length ++ kind ++ data ++ be4 (crc32 (kind ++ data)).toNat

/-- A stored deflate block of `count ≤ 65535` zeros. -/
def storedZeros (last : UInt8) (count : ℕ) : List UInt8 :=
  [last] ++ le2 count ++ le2 (65535 - count) ++ List.replicate count 0

/-- A zlib stream of `count` zeros, with its Adler-32 checksum. -/
def zlibZeros (count : ℕ) : List UInt8 :=
  [0x78, 0x01] ++ (List.replicate (count / 65535) (storedZeros 0 65535)).flatten ++
    storedZeros 1 (count % 65535) ++ be4 (count % 65521 * 65536 + 1)

/-- Signature and `IHDR` chunk, up to its checksum, of an 8-bit PNG.  Color
type 0 is gray, 2 is RGB. -/
def pngHeader (width height : ℕ) (colorType : UInt8) : Blob :=
  pngMagic ++ [0, 0, 0, 13] ++ [0x49, 0x48, 0x44, 0x52] ++ be4 width ++ be4 height ++
    [8, colorType, 0, 0, 0]

/-- An 8-bit PNG whose rows are unfiltered zeros. -/
def blackPng (width height : ℕ) (colorType : UInt8) (channels : ℕ) : Blob :=
  pngHeader width height colorType ++
    (be4 (crc32 ((pngHeader width height colorType).drop 12)).toNat ++
      chunk [0x49, 0x44, 0x41, 0x54] (zlibZeros (height * (1 + channels * width))) ++
        chunk [0x49, 0x45, 0x4E, 0x44] [])

/-- An all-black 2×2 RGB image. -/
def samplePng : Blob :=
  [ 0x89, 0x50, 0x4E, 0x47, 0x0D, 0x0A, 0x1A, 0x0A, 0x00, 0x00, 0x00, 0x0D, 0x49, 0x48,
    0x44, 0x52, 0x00, 0x00, 0x00, 0x02, 0x00, 0x00, 0x00, 0x02, 0x08, 0x02, 0x00, 0x00,
    0x00, 0xFD, 0xD4, 0x9A, 0x73, 0x00, 0x00, 0x00, 0x19, 0x49, 0x44, 0x41, 0x54, 0x78,
    0x01, 0x01, 0x0E, 0x00, 0xF1, 0xFF, 0x00, 0x00, 0x00, 0x00, 0x00, 0x00, 0x00, 0x00,
    0x00, 0x00, 0x00, 0x00, 0x00, 0x00, 0x00, 0x0E, 0x00, 0x01, 0xE0, 0xD3, 0x0E, 0x7B,
    0x00, 0x00, 0x00, 0x00, 0x49, 0x45, 0x4E, 0x44, 0xAE, 0x42, 0x60, 0x82]

theorem samplePng_eq_blackPng : samplePng = blackPng 2 2 2 3 := by
  decide +kernel

/-! ## What the codec computes -/

theorem rgb8Laws : Rgb8Laws codec where
  width_toRgb8 _ := rfl
  height_toRgb8 _ := rfl
  color_toRgb8 _ := rfl

theorem decodeImage_of_readHeader {format : ImageFormat} {blob : Blob}
    {width height : ℕ} {color : ColorType}
    (hheader : readHeader blob format = some (width, height, color))
    (hwidth : 0 < width ∧ width < 2 ^ 32) (hheight : 0 < height ∧ height < 2 ^ 32) :
    decodeImage (some format) blob =
      if width * height * color.bytesPerPixel ≤ decodeLimit then
        .ok (black (.ofNat width) (.ofNat height) color)
      else .error "Memory limit exceeded" := by
  have hw : (UInt32.ofNat width).toNat = width := UInt32.toNat_ofNat_of_lt' hwidth.2
  have hh : (UInt32.ofNat height).toNat = height := UInt32.toNat_ofNat_of_lt' hheight.2
  have hpos : 0 < UInt32.ofNat width ∧ 0 < UInt32.ofNat height := by
    simp only [UInt32.lt_iff_toNat_lt, hw, hh]
    exact ⟨hwidth.1, hheight.1⟩
  simp [decodeImage, hheader, black, pixelBytes, hw, hh, hpos]

theorem leValue_be4_reverse {value : ℕ} (h : value < 256 ^ 4) :
    leValue (be4 value).reverse = value := by
  rw [be4, List.reverse_reverse]
  exact leValue_le4 h

theorem guessFormat_pngHeader (width height : ℕ) (colorType : UInt8) (rest : Blob) :
    guessFormat (pngHeader width height colorType ++ rest) = some .png := by
  simp [guessFormat, pngHeader, pngMagic, List.isPrefixOf]

theorem readHeader_pngHeader {width height : ℕ} (hwidth : width < 2 ^ 32)
    (hheight : height < 2 ^ 32) (colorType : UInt8) (rest : Blob) :
    readHeader (pngHeader width height colorType ++ rest) .png =
      (pngColor 8 colorType.toNat).map fun color => (width, height, color) := by
  have hdepth : ((pngHeader width height colorType ++ rest).drop 24).take 1 = [8] := by
    simp [pngHeader, pngMagic, be4, le4]
  have hcolor : ((pngHeader width height colorType ++ rest).drop 25).take 1 =
      [colorType] := by
    simp [pngHeader, pngMagic, be4, le4]
  have hw : ((pngHeader width height colorType ++ rest).drop 16).take 4 = be4 width := by
    simp [pngHeader, pngMagic, be4, le4]
  have hh : ((pngHeader width height colorType ++ rest).drop 20).take 4 = be4 height := by
    simp [pngHeader, pngMagic, be4, le4]
  have hbits : beField (pngHeader width height colorType ++ rest) 24 1 = 8 := by
    rw [beField, hdepth]
    rfl
  have htype : beField (pngHeader width height colorType ++ rest) 25 1 =
      colorType.toNat := by
    rw [beField, hcolor]
    rfl
  simp only [readHeader, hbits, htype]
  rw [beField, beField, hw, hh, leValue_be4_reverse hwidth, leValue_be4_reverse hheight]
  cases pngColor 8 colorType.toNat <;> rfl

/-- An all-black PNG decodes to the black image of its size when that is within
the limit. -/
theorem decode_blackPng {width height : ℕ} {colorType : UInt8} {color : ColorType}
    (channels : ℕ) (hcolor : pngColor 8 colorType.toNat = some color)
    (hwidth : 0 < width ∧ width < 2 ^ 32) (hheight : 0 < height ∧ height < 2 ^ 32)
    (hlimit : width * height * color.bytesPerPixel ≤ decodeLimit) :
    decode codec (blackPng width height colorType channels) =
      .ok (black (.ofNat width) (.ofNat height) color) := by
  have hheader : readHeader (blackPng width height colorType channels) .png =
      some (width, height, color) := by
    rw [blackPng, readHeader_pngHeader hwidth.2 hheight.2, hcolor]
    rfl
  have hguess : codec.withGuessedFormat (blackPng width height colorType channels) =
      .ok (some .png) :=
    congrArg Except.ok (guessFormat_pngHeader width height colorType _)
  have himage : codec.decode (some .png) (blackPng width height colorType channels) =
      .ok (black (.ofNat width) (.ofNat height) color) := by
    rw [codec_decode, decodeImage_of_readHeader hheader hwidth hheight, if_pos hlimit]
  exact decode_eq_ok_iff.2 ⟨some .png, openImage_eq_ok_iff.2 ⟨hguess, himage⟩⟩

theorem decode_samplePng : decode codec samplePng = .ok (black 2 2 .rgb8) := by
  rw [samplePng_eq_blackPng]
  exact decode_blackPng 3 rfl (by decide) (by decide) (by decide)

theorem guessFormat_bmpHeader (width height : ℕ) (rest : Blob) :
    guessFormat (bmpHeader width height ++ rest) = some .bmp := by
  simp [guessFormat, bmpHeader, bmpMagic, pngMagic, le4, List.isPrefixOf]

theorem guessFormat_jpegHeader (width height : ℕ) (rest : Blob) :
    guessFormat (jpegHeader width height ++ rest) = some .jpeg := by
  simp [guessFormat, jpegHeader, jpegMagic, bmpMagic, pngMagic, be2, List.isPrefixOf]

theorem readHeader_bmpHeader {width height : ℕ} (hwidth : width < 2 ^ 32)
    (hheight : height < 2 ^ 32) (rest : Blob) :
    readHeader (bmpHeader width height ++ rest) .bmp =
      some (width, height, .rgb8) := by
  have hdepth : ((bmpHeader width height ++ rest).drop 28).take 2 = [24, 0] := by
    simp [bmpHeader, bmpMagic, le4]
  have hw : ((bmpHeader width height ++ rest).drop 18).take 4 = le4 width := by
    simp [bmpHeader, bmpMagic, le4]
  have hh : ((bmpHeader width height ++ rest).drop 22).take 4 = le4 height := by
    simp [bmpHeader, bmpMagic, le4]
  have hpixels : leField (bmpHeader width height ++ rest) 28 2 = 24 := by
    rw [leField, hdepth]
    rfl
  simp only [readHeader, hpixels, if_true]
  rw [leField, leField, hw, hh, leValue_le4 hwidth, leValue_le4 hheight]

theorem readHeader_jpegHeader {width height : ℕ} (hwidth : width < 256 ^ 2)
    (hheight : height < 256 ^ 2) (rest : Blob) :
    readHeader (jpegHeader width height ++ rest) .jpeg =
      some (width, height, .rgb8) := by
  have hcount : ((jpegHeader width height ++ rest).drop 11).take 1 = [3] := by
    simp [jpegHeader, jpegMagic, be2]
  have hw : ((jpegHeader width height ++ rest).drop 9).take 2 = be2 width := by
    simp [jpegHeader, jpegMagic, be2]
  have hh : ((jpegHeader width height ++ rest).drop 7).take 2 = be2 height := by
    simp [jpegHeader, jpegMagic, be2]
  have hcomponents : beField (jpegHeader width height ++ rest) 11 1 = 3 := by
    rw [beField, hcount]
    rfl
  simp only [readHeader, hcomponents, if_true]
  rw [beField, beField, hw, hh, leValue_be2_reverse hwidth, leValue_be2_reverse hheight]

/-- What the encoder writes: a BMP or a JPEG of an RGB image with no empty
side. -/
theorem writeImage_eq_ok {img : DynamicImage} {format : ImageFormat} {out : Blob}
    (h : writeImage img format = .ok out) :
    (0 < img.width ∧ 0 < img.height ∧ img.color = .rgb8) ∧
      ((format = .bmp ∧ out = bmpHeader img.width.toNat img.height.toNat ++
          List.replicate (img.height.toNat * bmpRowBytes img.width.toNat) 0) ∨
        (format = .jpeg ∧ img.width.toNat < 256 ^ 2 ∧ img.height.toNat < 256 ^ 2 ∧
          out = jpegHeader img.width.toNat img.height.toNat ++ [0xFF, 0xD9])) := by
  by_cases himg : 0 < img.width ∧ 0 < img.height ∧ img.color = .rgb8
  · refine ⟨himg, ?_⟩
    cases format
    case bmp =>
      simp only [writeImage, himg, and_self, if_true, Except.ok.injEq] at h
      exact Or.inl ⟨rfl, h.symm⟩
    case jpeg =>
      by_cases hsize : img.width.toNat < 256 ^ 2 ∧ img.height.toNat < 256 ^ 2
      · simp only [writeImage, himg, hsize, and_self, if_true, Except.ok.injEq] at h
        exact Or.inr ⟨rfl, hsize.1, hsize.2, h.symm⟩
      · simp only [writeImage, himg, hsize, and_self, if_true, if_false, reduceCtorEq] at h
    all_goals simp [writeImage, himg] at h
  · simp [writeImage, himg] at h

end ReferenceCodec

end VgiImage.Imaging
