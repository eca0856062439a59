import VgiImage.Scalar.Exif
import VgiImage.Scalar.Hash
import VgiImage.Scalar.Info
import VgiImage.Scalar.Transform

/-!
# The registered functions

Nine functions take a blob column; `phash_distance` takes two integer columns.
Each comes with the specification of its builders.
-/

namespace VgiImage.Scalar

open Arrow ArrowIo Imaging Outcome RowLoop

inductive BlobName where
  | imageInfo | exif | exifGps | phash | dhash | ahash
  | thumbnail | thumbnailFit | convert
  deriving DecidableEq

inductive FunctionName where
  | blob (name : BlobName)
  | phashDistance
  deriving DecidableEq

namespace BlobName

variable (crates : Crates)

def function : BlobName → BlobFunction
  | imageInfo => ImageInfo.function crates
  | exif => Exif.function crates
  | exifGps => ExifGps.function crates
  | phash => PerceptualHash.function crates .phash
  | dhash => PerceptualHash.function crates .dhash
  | ahash => PerceptualHash.function crates .ahash
  | thumbnail => Thumbnail.function crates
  | thumbnailFit => ThumbnailFit.function crates
  | convert => Convert.function crates

def spec : (name : BlobName) →
    BuilderSpec ((name.function crates).toScalar crates.arrow)
  | imageInfo => ImageInfo.spec crates
  | exif => Exif.spec crates
  | exifGps => ExifGps.spec crates
  | phash => PerceptualHash.spec crates .phash
  | dhash => PerceptualHash.spec crates .dhash
  | ahash => PerceptualHash.spec crates .ahash
  | thumbnail => reencoderSpec crates.arrow _ _ _
  | thumbnailFit => reencoderSpec crates.arrow _ _ _
  | convert => reencoderSpec crates.arrow _ _ _

end BlobName

namespace FunctionName

variable (crates : Crates)

def function : FunctionName → ScalarFunction
  | blob name => (name.function crates).toScalar crates.arrow
  | phashDistance => PhashDistance.function crates

def spec : (name : FunctionName) → BuilderSpec (name.function crates)
  | blob name => name.spec crates
  | phashDistance => PhashDistance.spec crates

end FunctionName

/-! ## Bind -/

section Bind

variable {crates : Crates}

theorem onBind_convert {params : BindParams} {bound : BindResponse}
    (h : Convert.onBind crates params = .ok bound) :
    bound = crates.vgi.bindResult (.scalar .binary) ∧
      ∃ fmt, formatAt params.arguments 1 Convert.missingFormat = .ok fmt := by
  obtain ⟨fmt, hfmt, hbound⟩ := bind_eq_ok_iff.1 h
  cases hbound
  exact ⟨rfl, fmt, hfmt⟩

theorem onBind_thumbnailFit {params : BindParams} {bound : BindResponse}
    (h : ThumbnailFit.onBind crates params = .ok bound) :
    bound = crates.vgi.bindResult (.scalar .binary) ∧
      (∃ w, dimAt params.arguments 1 "width" = .ok w) ∧
        (∃ height, dimAt params.arguments 2 "height" = .ok height) ∧
          ∃ fmt, formatAt params.arguments 3 ThumbnailFit.missingFormat = .ok fmt := by
  obtain ⟨⟨⟩, hwidth, h⟩ := bind_eq_ok_iff.1 h
  obtain ⟨⟨⟩, hheight, h⟩ := bind_eq_ok_iff.1 h
  obtain ⟨fmt, hfmt, hbound⟩ := bind_eq_ok_iff.1 h
  cases hbound
  exact ⟨rfl, checkDim_eq_ok_iff.1 hwidth, checkDim_eq_ok_iff.1 hheight, fmt, hfmt⟩

/-- A successful bind publishes the type the function builds. -/
theorem onBind_eq (name : FunctionName) {params : BindParams} {bound : BindResponse}
    (h : (name.function crates).onBind params = .ok bound) :
    bound = crates.vgi.bindResult (name.spec crates).dataType := by
  rcases name with name | _
  · cases name
    case thumbnailFit => exact (onBind_thumbnailFit h).1
    case convert => exact (onBind_convert h).1
    all_goals
      cases h
      rfl
  · cases h
    rfl

end Bind

end VgiImage.Scalar
