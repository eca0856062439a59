import VgiImage.Core.Stages
import VgiImage.Imaging.Call
import VgiImage.Imaging.Reopen
import VgiImage.Imaging.Thumbnail

/-!
# Chains of transformations

`thumbnail` and `convert` decode a blob and encode a new one, so they can be
chained to any depth.  What `image_info` reports at the end of a chain is
computed without looking at a pixel: the size is the source's, scaled into one
box after the other by the rule of the crate, and the format is the last one
written.
-/

namespace VgiImage.Imaging

open AspectRatio Outcome Stages

/-! ## Transformations -/

/-- A transformation of blobs; a box has no empty side. -/
inductive Transform where
  | thumbnail (maxW maxH : UInt32) (hmaxW : 0 < maxW) (hmaxH : 0 < maxH) (format : OutFormat)
  | convert (format : OutFormat)

namespace Transform

def apply (crate : ImageCrate) : Transform → Blob → Run Blob
  | thumbnail maxW maxH _ _ format, blob => callThumbnail crate blob maxW maxH format
  | convert format, blob => callConvert crate blob format

/-- The format that is written. -/
def format : Transform → OutFormat
  | thumbnail _ _ _ _ format => format
  | convert format => format

/-- The box an image is scaled into, if it is. -/
def box : Transform → Option Size
  | thumbnail maxW maxH hmaxW hmaxH _ =>
      some ⟨maxW.toNat, maxH.toNat, UInt32.lt_iff_toNat_lt.1 hmaxW, UInt32.lt_iff_toNat_lt.1 hmaxH⟩
  | convert _ => none

/-- The image that is written for a decoded one. -/
def scaled (crate : ImageCrate) : Transform → DynamicImage → DynamicImage
  | thumbnail maxW maxH _ _ _, img => crate.thumbnail img maxW maxH
  | convert _, img => img

/-- Whether a decoded image is scaled past the pixel buffer. -/
def overflows (crate : ImageCrate) : Transform → DynamicImage → Bool
  | thumbnail maxW maxH _ _ _, img => crate.thumbnailOverflows img maxW maxH
  | convert _, _ => false

/-- What becomes of a size when `rule` scales a size into a box. -/
def resize (rule : Size → Size → Size) (transform : Transform) (size : Size) : Size :=
  match transform.box with
  | some box => rule size box
  | none => size

end Transform

/-- All transformations of a chain, the first one first. -/
def transformAll (crate : ImageCrate) (transforms : List Transform) :
    Blob → Run Blob :=
  through (transforms.map (Transform.apply crate))

/-- What becomes of a size in a chain. -/
def sizeAfter (rule : Size → Size → Size) (transforms : List Transform) (size : Size) : Size :=
  transforms.foldl (fun size transform => transform.resize rule size) size

structure HasSize (img : DynamicImage) (size : Size) : Prop where
  width_eq : img.width.toNat = size.width
  height_eq : img.height.toNat = size.height

/-- The crate scales by `rule`, which looks at the sizes alone. -/
structure ResizeLaws (crate : ImageCrate) (rule : Size → Size → Size) : Prop where
  hasSize_thumbnail {img : DynamicImage} {size : Size} (h : HasSize img size)
    {maxW maxH : UInt32} (hmaxW : 0 < maxW) (hmaxH : 0 < maxH) (format : OutFormat) :
    HasSize (crate.thumbnail img maxW maxH)
      ((Transform.thumbnail maxW maxH hmaxW hmaxH format).resize rule size)

/-! ## One transformation -/

section Step

variable {crate : ImageCrate} {rule : Size → Size → Size} {blob out : Blob}
variable {img : DynamicImage} {size : Size}

theorem HasSize.width_pos (h : HasSize img size) : 0 < img.width :=
  UInt32.lt_iff_toNat_lt.2 (h.width_eq ▸ size.width_pos)

theorem HasSize.height_pos (h : HasSize img size) : 0 < img.height :=
  UInt32.lt_iff_toNat_lt.2 (h.height_eq ▸ size.height_pos)

/-- In exact arithmetic the rule is `Size.fit`. -/
theorem ThumbnailLaws.resizeLaws (laws : ThumbnailLaws crate) : ResizeLaws crate Size.fit where
  hasSize_thumbnail {img size} h {maxW maxH} hmaxW hmaxH format := by
    constructor
    · rw [laws.width_thumbnail h.width_pos h.height_pos hmaxW hmaxH, h.width_eq, h.height_eq]
      rfl
    · rw [laws.height_thumbnail h.width_pos h.height_pos hmaxW hmaxH, h.width_eq, h.height_eq]
      rfl

/-- An encoded blob is opened in the format it was written in and with the size
it was written with. -/
theorem hasSize_of_encode {format : OutFormat} (laws : WriteLaws crate format)
    (hout : encode crate img format = .ok out) (h : HasSize img size)
    {guessed : Option ImageFormat} {reopened : DynamicImage}
    (hopen : openImage crate out = .ok (guessed, reopened)) :
    guessed = some format.imageFormat ∧ HasSize reopened size := by
  have hwrite := encode_eq_ok_iff.1 hout
  obtain ⟨hguess, hdecode⟩ := openImage_eq_ok_iff.1 hopen
  obtain rfl : guessed = some format.imageFormat :=
    Except.ok.inj (hguess.symm.trans (laws.guessed_of_writeTo hwrite))
  obtain ⟨hwidth, hheight⟩ :=
    laws.size_of_decode hwrite (color_encoded_jpeg laws.toRgb8Laws img) hdecode
  refine ⟨rfl, ?_, ?_⟩
  · rw [hwidth, width_encoded laws.toRgb8Laws, h.width_eq]
  · rw [hheight, height_encoded laws.toRgb8Laws, h.height_eq]

theorem Transform.apply_of_decode (transform : Transform) (h : decode crate blob = .ok img) :
    transform.apply crate blob =
      if transform.overflows crate img then .error .panic
      else liftImg (encode crate (transform.scaled crate img) transform.format) := by
  cases transform with
  | thumbnail maxW maxH hmaxW hmaxH format =>
      rw [apply, callThumbnail, thumbnailPanics, if_neg (box_not_empty hmaxW hmaxH), h,
        thumbnail_of_decode h hmaxW hmaxH]
      rfl
  | convert format =>
      rw [apply, callConvert, convert_of_decode h]
      rfl

/-- A blob that cannot be decoded is not transformed. -/
theorem Transform.apply_of_decode_error (transform : Transform) {e : ImgError}
    (h : decode crate blob = .error e) :
    transform.apply crate blob = .error (.error (.valueError e.message)) := by
  cases transform with
  | thumbnail maxW maxH hmaxW hmaxH format =>
      have hthumb : Imaging.thumbnail crate blob maxW maxH format = .error e := by
        rw [Imaging.thumbnail, if_neg (box_not_empty hmaxW hmaxH)]
        exact bind_of_error h _
      rw [apply, callThumbnail, thumbnailPanics, if_neg (box_not_empty hmaxW hmaxH), h, hthumb]
      rfl
  | convert format =>
      rw [apply, callConvert, Imaging.convert, bind_of_error h]
      rfl

/-- What a transformation returns was decoded, scaled and encoded. -/
theorem Transform.exists_decode {transform : Transform}
    (h : transform.apply crate blob = .ok out) :
    ∃ source, decode crate blob = .ok source ∧ transform.overflows crate source = false ∧
      encode crate (transform.scaled crate source) transform.format = .ok out := by
  cases hdecode : decode crate blob with
  | error e =>
      rw [transform.apply_of_decode_error hdecode] at h
      cases h
  | ok source =>
      rw [transform.apply_of_decode hdecode] at h
      cases hover : transform.overflows crate source with
      | true =>
          rw [hover, if_pos rfl] at h
          cases h
      | false =>
          rw [hover, if_neg Bool.false_ne_true] at h
          exact ⟨source, rfl, hover, liftImg_eq_ok_iff.1 h⟩

/-- An error of a transformation is reported as a bad value. -/
theorem Transform.exists_valueError (transform : Transform) {e : RpcError}
    (h : transform.apply crate blob = .error (.error e)) : ∃ message, e = .valueError message := by
  cases hdecode : decode crate blob with
  | error failure =>
      rw [transform.apply_of_decode_error hdecode] at h
      cases h
      exact ⟨failure.message, rfl⟩
  | ok source =>
      rw [transform.apply_of_decode hdecode] at h
      split_ifs at h
      · cases h
      · obtain ⟨failure, -, hhalt⟩ := liftImg_eq_error_iff.1 h
        cases hhalt
        exact ⟨failure.message, rfl⟩

theorem Transform.hasSize_scaled (laws : ResizeLaws crate rule) (transform : Transform)
    (h : HasSize img size) :
    HasSize (transform.scaled crate img) (transform.resize rule size) := by
  cases transform with
  | thumbnail maxW maxH hmaxW hmaxH format => exact laws.hasSize_thumbnail h hmaxW hmaxH format
  | convert format => exact h

/-- A transformation opens its input and encodes an image of the new size. -/
theorem Transform.exists_encode (laws : ResizeLaws crate rule) {transform : Transform}
    (h : transform.apply crate blob = .ok out) :
    ∃ guessed source, openImage crate blob = .ok (guessed, source) ∧
      ∀ size, HasSize source size →
        ∃ img, encode crate img transform.format = .ok out ∧
          HasSize img (transform.resize rule size) := by
  obtain ⟨source, hdecode, -, hencode⟩ := Transform.exists_decode h
  obtain ⟨guessed, hopen⟩ := decode_eq_ok_iff.1 hdecode
  exact ⟨guessed, source, hopen, fun size hsize =>
    ⟨_, hencode, transform.hasSize_scaled laws hsize⟩⟩

/-- What a transformation returns, an encoder wrote in its format. -/
theorem Transform.exists_writeTo {transform : Transform}
    (h : transform.apply crate blob = .ok out) :
    ∃ img, crate.writeTo img transform.format.imageFormat = .ok out := by
  obtain ⟨source, -, -, hencode⟩ := Transform.exists_decode h
  exact ⟨_, encode_eq_ok_iff.1 hencode⟩

end Step

/-! ## Chains -/

section Chain

variable {crate : ImageCrate} {rule : Size → Size → Size} {transforms : List Transform}
variable {blob out : Blob}

theorem transformAll_cons_eq_ok_iff {transform : Transform} :
    transformAll crate (transform :: transforms) blob = .ok out ↔
      ∃ middle, transform.apply crate blob = .ok middle ∧
        transformAll crate transforms middle = .ok out :=
  through_cons_eq_ok_iff

/-- A chain returns what its last transformation wrote. -/
theorem exists_writeTo_of_transformAll {last : Transform}
    (hrun : transformAll crate (transforms ++ [last]) blob = .ok out) :
    ∃ img, crate.writeTo img last.format.imageFormat = .ok out := by
  rw [transformAll, List.map_append, List.map_singleton] at hrun
  obtain ⟨middle, hmiddle⟩ := exists_of_through_concat hrun
  exact Transform.exists_writeTo hmiddle

/-- The first transformation of a chain opens the source. -/
theorem exists_openImage_of_transformAll (laws : ResizeLaws crate rule) {last : Transform}
    (hrun : transformAll crate (transforms ++ [last]) blob = .ok out) :
    ∃ guessed source, openImage crate blob = .ok (guessed, source) := by
  cases hchain : transforms ++ [last] with
  | nil => simp at hchain
  | cons first rest =>
      rw [hchain] at hrun
      obtain ⟨middle, hmiddle, -⟩ := transformAll_cons_eq_ok_iff.1 hrun
      obtain ⟨guessed, source, hopen, -⟩ := Transform.exists_encode laws hmiddle
      exact ⟨guessed, source, hopen⟩

/-- The image a chain encodes last, by the sizes alone. -/
theorem exists_encode_of_transformAll (resizes : ResizeLaws crate rule)
    (writes : ∀ format, WriteLaws crate format) {last : Transform}
    (hrun : transformAll crate (transforms ++ [last]) blob = .ok out)
    {guessed : Option ImageFormat} {source : DynamicImage} {size : Size}
    (hsource : openImage crate blob = .ok (guessed, source)) (hsize : HasSize source size) :
    ∃ img, encode crate img last.format = .ok out ∧
      HasSize img (sizeAfter rule (transforms ++ [last]) size) := by
  induction transforms generalizing blob guessed source size with
  | nil =>
      obtain ⟨middle, hmiddle, hdone⟩ := transformAll_cons_eq_ok_iff.1 hrun
      cases hdone
      obtain ⟨_, _, hopen, hencode⟩ := Transform.exists_encode resizes hmiddle
      rw [hsource] at hopen
      cases hopen
      exact hencode size hsize
  | cons transform transforms ih =>
      obtain ⟨middle, hmiddle, hrest⟩ := transformAll_cons_eq_ok_iff.1 hrun
      obtain ⟨_, _, hopen, hencode⟩ := Transform.exists_encode resizes hmiddle
      rw [hsource] at hopen
      cases hopen
      obtain ⟨img, himg, hresized⟩ := hencode size hsize
      obtain ⟨guessed', reopened, hreopen⟩ := exists_openImage_of_transformAll resizes hrest
      obtain ⟨-, hreopened⟩ := hasSize_of_encode (writes transform.format) himg hresized hreopen
      exact ih hrest hreopen hreopened

/-- The size of a chain's result, by the sizes alone. -/
theorem hasSize_transformAll (resizes : ResizeLaws crate rule)
    (writes : ∀ format, WriteLaws crate format)
    (hrun : transformAll crate transforms blob = .ok out) {guessed guessed' : Option ImageFormat}
    {source result : DynamicImage} {size : Size}
    (hsource : openImage crate blob = .ok (guessed, source)) (hsize : HasSize source size)
    (hout : openImage crate out = .ok (guessed', result)) :
    HasSize result (sizeAfter rule transforms size) ∧
      ∀ transform, transforms.getLast? = some transform →
        guessed' = some transform.format.imageFormat := by
  rcases transforms.eq_nil_or_concat' with rfl | ⟨before, last, rfl⟩
  · cases hrun
    rw [hsource] at hout
    cases hout
    exact ⟨hsize, nofun⟩
  · obtain ⟨img, himg, hresized⟩ :=
      exists_encode_of_transformAll resizes writes hrun hsource hsize
    obtain ⟨rfl, hresult⟩ := hasSize_of_encode (writes last.format) himg hresized hout
    refine ⟨hresult, fun transform htransform => ?_⟩
    rw [List.getLast?_concat] at htransform
    cases htransform
    rfl

theorem exists_openImage_of_imageInfo {info : ImageInfo} (h : imageInfo crate blob = .ok info) :
    ∃ guessed img, openImage crate blob = .ok (guessed, img) ∧
      info.format = (guessed.map formatName).getD "unknown" ∧
        info.width = img.width ∧ info.height = img.height := by
  cases hopen : openImage crate blob with
  | error e =>
      rw [imageInfo_eq_error_iff.2 hopen] at h
      cases h
  | ok opened =>
      rw [imageInfo_of_openImage hopen] at h
      cases h
      exact ⟨opened.1, opened.2, rfl, rfl, rfl, rfl⟩

/-- The size `image_info` reports. -/
def ImageInfo.size (info : ImageInfo) (hwidth : 0 < info.width) (hheight : 0 < info.height) :
    Size :=
  ⟨info.width.toNat, info.height.toNat, UInt32.lt_iff_toNat_lt.1 hwidth,
    UInt32.lt_iff_toNat_lt.1 hheight⟩

/-- What `image_info` opens has the size it reports. -/
theorem exists_hasSize_of_imageInfo {info : ImageInfo} (h : imageInfo crate blob = .ok info)
    (hwidth : 0 < info.width) (hheight : 0 < info.height) :
    ∃ guessed img, openImage crate blob = .ok (guessed, img) ∧
      HasSize img (info.size hwidth hheight) := by
  obtain ⟨guessed, img, hopen, -, hw, hh⟩ := exists_openImage_of_imageInfo h
  exact ⟨guessed, img, hopen, congrArg UInt32.toNat hw.symm, congrArg UInt32.toNat hh.symm⟩

/-- What is reported of a chain's result is computed from what is reported of its source. -/
theorem exists_guessed_of_transformAll (resizes : ResizeLaws crate rule)
    (writes : ∀ format, WriteLaws crate format)
    (hrun : transformAll crate transforms blob = .ok out)
    {source info : ImageInfo} (hsource : imageInfo crate blob = .ok source)
    (hwidth : 0 < source.width) (hheight : 0 < source.height)
    (hinfo : imageInfo crate out = .ok info) :
    ∃ guessed, info.format = (guessed.map formatName).getD "unknown" ∧
      (∀ transform, transforms.getLast? = some transform →
        guessed = some transform.format.imageFormat) ∧
      info.width.toNat = (sizeAfter rule transforms (source.size hwidth hheight)).width ∧
        info.height.toNat = (sizeAfter rule transforms (source.size hwidth hheight)).height := by
  obtain ⟨_, img, hopen, hsize⟩ := exists_hasSize_of_imageInfo hsource hwidth hheight
  obtain ⟨guessed, result, hout, hformat, hw', hh'⟩ := exists_openImage_of_imageInfo hinfo
  obtain ⟨hresult, hlast⟩ := hasSize_transformAll resizes writes hrun hopen hsize hout
  refine ⟨guessed, hformat, hlast, ?_, ?_⟩
  · rw [hw', hresult.width_eq]
  · rw [hh', hresult.height_eq]

end Chain

/-! ## When the result can be opened -/

/-- The bytes per pixel of an opened blob, where its format alone decides them. -/
def OutFormat.reopenedBytes : OutFormat → Option ℕ
  | .jpeg => some 3
  | .gif => some 4
  | _ => none

section Open

variable {crate : ImageCrate} {rule : Size → Size → Size} {transforms : List Transform}
variable {blob out : Blob} {format : OutFormat} {bytes : ℕ}

theorem bytesPerPixel_reopened (laws : Rgb8Laws crate) (img : DynamicImage)
    (h : format.reopenedBytes = some bytes) :
    (reopenedColor format (encoded crate img format).color).bytesPerPixel = bytes := by
  cases format
  case jpeg =>
    cases h
    simp [reopenedColor, encoded, laws.color_toRgb8, ColorType.bytesPerPixel]
  case gif =>
    cases h
    rfl
  all_goals cases h

/-- What a JPEG or GIF of the given size takes when it is opened. -/
theorem pixelBytes_reopened (laws : Rgb8Laws crate) {img : DynamicImage} {size : Size}
    (hsize : HasSize img size) (hbytes : format.reopenedBytes = some bytes) :
    pixelBytes (encoded crate img format).width (encoded crate img format).height
        (reopenedColor format (encoded crate img format).color) =
      size.width * size.height * bytes := by
  rw [pixelBytes, bytesPerPixel_reopened laws img hbytes, width_encoded laws,
    height_encoded laws, hsize.width_eq, hsize.height_eq]

/-- `image_info` accepts a chain's result, written last as JPEG or GIF, exactly when its
size is within the decoder's limit. -/
theorem exists_imageInfo_transformAll_iff (resizes : ResizeLaws crate rule)
    (writes : ∀ format, WriteLaws crate format) {last : Transform}
    (reopens : ReopenLaws crate last.format)
    (hbytes : last.format.reopenedBytes = some bytes)
    (hlast : transforms.getLast? = some last)
    (hrun : transformAll crate transforms blob = .ok out) {source : ImageInfo}
    (hsource : imageInfo crate blob = .ok source) (hwidth : 0 < source.width)
    (hheight : 0 < source.height) :
    (∃ info, imageInfo crate out = .ok info) ↔
      (sizeAfter rule transforms (source.size hwidth hheight)).width *
        (sizeAfter rule transforms (source.size hwidth hheight)).height * bytes ≤
          decodeLimit := by
  obtain ⟨before, rfl⟩ := List.getLast?_eq_some_iff.1 hlast
  obtain ⟨_, img, hopen, hsize⟩ := exists_hasSize_of_imageInfo hsource hwidth hheight
  obtain ⟨written, hencode, hwritten⟩ :=
    exists_encode_of_transformAll resizes writes hrun hopen hsize
  rw [← pixelBytes_reopened reopens.toRgb8Laws hwritten hbytes]
  constructor
  · rintro ⟨info, hinfo⟩
    by_contra hlimit
    exact imageInfo_ne_ok_of_writeTo reopens hencode (not_le.1 hlimit) info hinfo
  · intro hlimit
    obtain ⟨info, hinfo, -⟩ := imageInfo_of_writeTo reopens hencode hlimit
    exact ⟨info, hinfo⟩

/-- Of the result of a chain `image_info` reports the size computed from the source's and
the format written last, where it accepts it; written last as JPEG or GIF, it accepts it
exactly when the size is within the decoder's limit. -/
theorem imageInfo_transformAll (resizes : ResizeLaws crate rule)
    (writes : ∀ format, WriteLaws crate format)
    (hrun : transformAll crate transforms blob = .ok out) {source : ImageInfo}
    (hsource : imageInfo crate blob = .ok source) (hwidth : 0 < source.width)
    (hheight : 0 < source.height) :
    (∀ info, imageInfo crate out = .ok info →
      info.width.toNat = (sizeAfter rule transforms (source.size hwidth hheight)).width ∧
        info.height.toNat = (sizeAfter rule transforms (source.size hwidth hheight)).height ∧
          ∀ transform, transforms.getLast? = some transform →
            OutFormat.parse info.format = .ok transform.format) ∧
      ∀ last bytes, transforms.getLast? = some last → ReopenLaws crate last.format →
        last.format.reopenedBytes = some bytes →
          ((∃ info, imageInfo crate out = .ok info) ↔
            (sizeAfter rule transforms (source.size hwidth hheight)).width *
              (sizeAfter rule transforms (source.size hwidth hheight)).height * bytes ≤
                decodeLimit) := by
  refine ⟨fun info hinfo => ?_, fun last bytes hlast reopens hbytes => ?_⟩
  · obtain ⟨guessed, hformat, hlast, hw, hh⟩ :=
      exists_guessed_of_transformAll resizes writes hrun hsource hwidth hheight hinfo
    refine ⟨hw, hh, fun transform htransform => ?_⟩
    rw [hformat, hlast transform htransform]
    exact OutFormat.parse_formatName transform.format
  · exact exists_imageInfo_transformAll_iff resizes writes reopens hbytes hlast hrun hsource
      hwidth hheight

end Open

/-! ## One box -/

section Box

variable {crate : ImageCrate} {transforms : List Transform} {blob out : Blob}

theorem sizeAfter_of_fit {box : Size} (size : Size)
    (hboxes : ∀ transform ∈ transforms, ∀ other, transform.box = some other → other = box) :
    sizeAfter Size.fit transforms (size.fit box) = size.fit box := by
  induction transforms with
  | nil => rfl
  | cons transform transforms ih =>
      have hstep : transform.resize Size.fit (size.fit box) = size.fit box := by
        rw [Transform.resize]
        cases hbox : transform.box with
        | none => rfl
        | some other =>
            obtain rfl := hboxes transform (.head _) other hbox
            exact size.fit_fit other
      rw [sizeAfter, List.foldl_cons, hstep]
      exact ih fun other hother => hboxes other (.tail _ hother)

/-- In a chain with one box the first thumbnail settles the size. -/
theorem sizeAfter_of_box {box : Size} (size : Size)
    (hboxes : ∀ transform ∈ transforms, ∀ other, transform.box = some other → other = box)
    (hbox : ∃ transform ∈ transforms, transform.box = some box) :
    sizeAfter Size.fit transforms size = size.fit box := by
  induction transforms with
  | nil => simp at hbox
  | cons transform transforms ih =>
      have hrest : ∀ other ∈ transforms, ∀ b, other.box = some b → b = box :=
        fun other hother => hboxes other (.tail _ hother)
      rw [sizeAfter, List.foldl_cons]
      cases htransform : transform.box with
      | some other =>
          obtain rfl := hboxes transform (.head _) other htransform
          have hstep : transform.resize Size.fit size = size.fit other := by
            rw [Transform.resize, htransform]
          rw [hstep]
          exact sizeAfter_of_fit size hrest
      | none =>
          have hstep : transform.resize Size.fit size = size := by
            rw [Transform.resize, htransform]
          rw [hstep]
          refine ih hrest ?_
          obtain ⟨found, hfound, hsome⟩ := hbox
          cases hfound with
          | head =>
              rw [htransform] at hsome
              cases hsome
          | tail _ hmem => exact ⟨found, hmem, hsome⟩

/-- However often a chain scales into its one box, `image_info` reports, where it
accepts the result, a size that fits the box, touches it and keeps the aspect ratio of
the source. -/
theorem imageInfo_transformAll_of_box (thumbnails : ThumbnailLaws crate)
    (writes : ∀ format, WriteLaws crate format) {box : Size}
    (hboxes : ∀ transform ∈ transforms, ∀ other, transform.box = some other → other = box)
    (hbox : ∃ transform ∈ transforms, transform.box = some box)
    (hrun : transformAll crate transforms blob = .ok out) {source info : ImageInfo}
    (hsource : imageInfo crate blob = .ok source) (hwidth : 0 < source.width)
    (hheight : 0 < source.height) (hinfo : imageInfo crate out = .ok info) :
    (info.width.toNat ≤ box.width ∧ info.height.toNat ≤ box.height) ∧
      ((info.width.toNat = box.width ∧
          Nearest info.height.toNat (source.height.toNat * box.width) source.width.toNat) ∨
        (info.height.toNat = box.height ∧
          Nearest info.width.toNat (source.width.toNat * box.height) source.height.toNat)) := by
  obtain ⟨-, -, -, hw, hh⟩ :=
    exists_guessed_of_transformAll thumbnails.resizeLaws writes hrun hsource hwidth hheight hinfo
  rw [sizeAfter_of_box _ hboxes hbox] at hw hh
  rw [hw, hh]
  exact ⟨⟨Size.width_fit_le _ box, Size.height_fit_le _ box⟩, Size.fit_keeps_ratio _ box⟩

/-- A thumbnail whose box is within the decoder's limit in the output's color type
is accepted by `image_info`, with the format asked for and the scaled size. -/
theorem imageInfo_of_box (thumbnails : ThumbnailLaws crate) {transform : Transform}
    (reopens : ReopenLaws crate transform.format) {box : Size} {bytes : ℕ}
    (hbox : transform.box = some box)
    (hbytes : transform.format.reopenedBytes = some bytes)
    (hlimit : box.width * box.height * bytes ≤ decodeLimit)
    (hout : transform.apply crate blob = .ok out) {source : ImageInfo}
    (hsource : imageInfo crate blob = .ok source) (hwidth : 0 < source.width)
    (hheight : 0 < source.height) :
    ∃ info, imageInfo crate out = .ok info ∧
      OutFormat.parse info.format = .ok transform.format ∧
        info.width.toNat = ((source.size hwidth hheight).fit box).width ∧
          info.height.toNat = ((source.size hwidth hheight).fit box).height := by
  obtain ⟨_, opened, hopen, hencode⟩ := Transform.exists_encode thumbnails.resizeLaws hout
  obtain ⟨_, img, hopen', himg⟩ := exists_hasSize_of_imageInfo hsource hwidth hheight
  rw [hopen] at hopen'
  cases hopen'
  obtain ⟨thumb, hthumb, hsize⟩ := hencode (source.size hwidth hheight) himg
  have hresize : transform.resize Size.fit (source.size hwidth hheight) =
      (source.size hwidth hheight).fit box := by
    rw [Transform.resize, hbox]
  rw [hresize] at hsize
  have hfits : pixelBytes (encoded crate thumb transform.format).width
      (encoded crate thumb transform.format).height
      (reopenedColor transform.format (encoded crate thumb transform.format).color) ≤
        decodeLimit := by
    rw [pixelBytes_reopened reopens.toRgb8Laws hsize hbytes]
    calc
      _ ≤ box.width * box.height * bytes := by
        gcongr
        · exact Size.width_fit_le _ _
        · exact Size.height_fit_le _ _
      _ ≤ decodeLimit := hlimit
  obtain ⟨info, hinfo, hformat, hwidth', hheight'⟩ := imageInfo_of_writeTo reopens hthumb hfits
  exact ⟨info, hinfo, hformat, by rw [hwidth', hsize.width_eq],
    by rw [hheight', hsize.height_eq]⟩

end Box

/-! ## A chain on the sample image -/

open ReferenceCodec

/-- A conversion and two thumbnails in one box. -/
def sampleChain : List Transform :=
  [.thumbnail 1 2 (by decide) (by decide) .bmp, .convert .bmp,
    .thumbnail 1 2 (by decide) (by decide) .jpeg]

/-- The JPEG the chain ends with, of one pixel. -/
def sampleChainOut : Blob := jpegHeader 1 1 ++ [0xFF, 0xD9]

theorem transformAll_sampleChain :
    transformAll codec sampleChain samplePng = .ok sampleChainOut := by
  decide +kernel

theorem imageInfo_transformAll_sampleChain :
    (∀ info, imageInfo codec sampleChainOut = .ok info →
      info.width.toNat = (sizeAfter Size.fit sampleChain ⟨2, 2, by decide, by decide⟩).width ∧
        info.height.toNat =
            (sizeAfter Size.fit sampleChain ⟨2, 2, by decide, by decide⟩).height ∧
          ∀ transform, sampleChain.getLast? = some transform →
            OutFormat.parse info.format = .ok transform.format) ∧
      ∀ last bytes, sampleChain.getLast? = some last → ReopenLaws codec last.format →
        last.format.reopenedBytes = some bytes →
          ((∃ info, imageInfo codec sampleChainOut = .ok info) ↔
            (sizeAfter Size.fit sampleChain ⟨2, 2, by decide, by decide⟩).width *
              (sizeAfter Size.fit sampleChain ⟨2, 2, by decide, by decide⟩).height * bytes ≤
                decodeLimit) :=
  @imageInfo_transformAll codec Size.fit sampleChain samplePng sampleChainOut
    ReferenceCodec.thumbnailLaws.resizeLaws (fun format => (reopenLaws format).writeLaws)
    transformAll_sampleChain ⟨"png", 2, 2, "rgb8", false⟩ rfl (by decide) (by decide)

/-- The one box of the chain. -/
def sampleBox : Size := ⟨1, 2, by decide, by decide⟩

theorem box_sampleChain :
    (∀ transform ∈ sampleChain, ∀ other, transform.box = some other → other = sampleBox) ∧
      ∃ transform ∈ sampleChain, transform.box = some sampleBox := by
  constructor
  · simp [sampleChain, Transform.box, sampleBox]
  · exact ⟨_, .head _, rfl⟩

theorem imageInfo_transformAll_of_box_sampleChain :
    ((1 : UInt32).toNat ≤ 1 ∧ (1 : UInt32).toNat ≤ 2) ∧
      (((1 : UInt32).toNat = 1 ∧ Nearest (1 : UInt32).toNat (2 * 1) 2) ∨
        ((1 : UInt32).toNat = 2 ∧ Nearest (1 : UInt32).toNat (2 * 2) 2)) :=
  @imageInfo_transformAll_of_box codec sampleChain samplePng sampleChainOut
    ReferenceCodec.thumbnailLaws (fun format => (reopenLaws format).writeLaws) sampleBox
    box_sampleChain.1 box_sampleChain.2 transformAll_sampleChain ⟨"png", 2, 2, "rgb8", false⟩
    ⟨"jpeg", 1, 1, "rgb8", false⟩ rfl (by decide) (by decide) rfl

end VgiImage.Imaging
