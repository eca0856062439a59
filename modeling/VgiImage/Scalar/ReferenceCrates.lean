import VgiImage.Imaging.Fingerprint
import VgiImage.Scalar.Registry

/-!
# Concrete crates

Crates on which the functions can be run: the header-level codec, a hasher of
black images, an EXIF parser given as a parameter, Arrow's names of its types
and errors, and a bind that publishes one nullable column.
-/

namespace VgiImage.Scalar

open Arrow ArrowIo Imaging

/-- Decoded images have no empty side and stay within the decoder's limit. -/
structure DecodeLaws (crate : ImageCrate) : Prop where
  admitted {format : Option ImageFormat} {blob : Blob} {img : DynamicImage}
    (h : crate.decode format blob = .ok img) :
    0 < img.width ∧ 0 < img.height ∧ 0 < img.color.bytesPerPixel ∧
      pixelBytes img.width img.height img.color ≤ decodeLimit

/-! ## The crates -/

def scalarTypeName : ScalarType → String
  | .boolean => "Boolean"
  | .int8 => "Int8"
  | .int16 => "Int16"
  | .int32 => "Int32"
  | .int64 => "Int64"
  | .uint8 => "UInt8"
  | .uint16 => "UInt16"
  | .uint32 => "UInt32"
  | .uint64 => "UInt64"
  | .float64 => "Float64"
  | .binary => "Binary"
  | .largeBinary => "LargeBinary"
  | .utf8 => "Utf8"
  | .largeUtf8 => "LargeUtf8"

def typeName : DataType → String
  | .null => "Null"
  | .scalar type => scalarTypeName type
  | .struct _ => "Struct"
  | .map _ => "Map"
  | .other name => name

def arrowNames : ArrowCrate where
  debugType := typeName
  displayError _ := "Invalid argument error"

def singleColumnBind : VgiCrate where
  bindResult dataType := ⟨⟨[⟨"result", dataType, true⟩]⟩⟩

/-- A parser that finds no EXIF block. -/
def noExif : ExifCrate where
  readFromContainer _ := none
  tagToString _ := ""
  displayValueWithUnit _ _ := ""

def referenceCrates (exif : ExifCrate) : Crates where
  image := ReferenceCodec.codec
  exif := exif
  hasher := blackHasher
  arrow := arrowNames
  vgi := singleColumnBind

theorem singleColumnBind_laws : VgiLaws singleColumnBind where
  exists_field _ := ⟨"result", rfl⟩

theorem bytesPerPixel_of_readHeader {format : ImageFormat} {blob : Blob}
    {width height : ℕ} {color : ColorType}
    (h : ReferenceCodec.readHeader blob format = some (width, height, color)) :
    0 < color.bytesPerPixel := by
  cases format
  case png =>
    simp only [ReferenceCodec.readHeader, Option.bind_eq_bind, Option.bind_eq_some_iff] at h
    obtain ⟨decoded, hdecoded, hpure⟩ := h
    cases hpure
    unfold ReferenceCodec.pngColor at hdecoded
    split at hdecoded <;> cases hdecoded <;> decide
  case bmp =>
    simp only [ReferenceCodec.readHeader] at h
    split_ifs at h
    cases h
    decide
  case jpeg =>
    simp only [ReferenceCodec.readHeader] at h
    split_ifs at h
    cases h
    decide
  all_goals simp [ReferenceCodec.readHeader] at h

theorem codec_decodeLaws : DecodeLaws ReferenceCodec.codec where
  admitted {format blob img} h := by
    change ReferenceCodec.decodeImage format blob = .ok img at h
    cases hheader : format.bind (ReferenceCodec.readHeader blob) with
    | none => simp [ReferenceCodec.decodeImage, hheader] at h
    | some header =>
        obtain ⟨width, height, color⟩ := header
        obtain ⟨format, rfl, hread⟩ := Option.bind_eq_some_iff.1 hheader
        simp only [ReferenceCodec.decodeImage, hheader] at h
        split_ifs at h with hpos hlimit
        cases h
        exact ⟨hpos.1, hpos.2, bytesPerPixel_of_readHeader hread, hlimit⟩

/-! ## Batches of one blob column -/

/-- A batch whose only column is a binary column of the cells. -/
def blobBatch (cells : List (Option Blob)) : RecordBatch :=
  .single ⟨[⟨"blob", .scalar .binary, true⟩]⟩ (.scalar (.binary cells))

/-- A call with no constant arguments. -/
def noArguments : Arguments := ⟨fun _ => none, fun _ => none⟩

def resultParams (type : DataType) : ProcessParams :=
  ⟨(singleColumnBind.bindResult type).outputSchema, noArguments⟩

/-- Arguments with no dimension and the given format at position `pos`. -/
def formatArguments (pos : ℕ) (format : String) : Arguments where
  constI64 _ := none
  constStr i := if i = pos then some format else none

end VgiImage.Scalar
