import VgiImage.Imaging.Transforms
import VgiImage.Scalar.Decoders

/-!
# Previews

`image_info` asked about a column of thumbnails.  A thumbnail in JPEG or GIF has
a color type of its own, so a box within the decoder's limit is enough for every
thumbnail of the column to be opened again.
-/

namespace VgiImage.Scalar

open Arrow ArrowIo AspectRatio Imaging Outcome RowLoop Stages

/-! ## What is reported -/

/-- `info` describes a thumbnail of `source` in the given box and format. -/
structure Thumbnailed (source info : Imaging.ImageInfo) (box : Size) (format : OutFormat) :
    Prop where
  parse_format : OutFormat.parse info.format = .ok format
  width_le : info.width.toNat ≤ box.width
  height_le : info.height.toNat ≤ box.height
  /-- One side is that of the box, and the other keeps the aspect ratio. -/
  keeps_ratio :
    (info.width.toNat = box.width ∧
        Nearest info.height.toNat (source.height.toNat * box.width) source.width.toNat) ∨
      (info.height.toNat = box.height ∧
        Nearest info.width.toNat (source.width.toNat * box.height) source.height.toNat)

/-- What `image_info` reports of the thumbnail of a cell. -/
inductive Previewed (crate : ImageCrate) (box : Size) (format : OutFormat) :
    Option Blob → Option Imaging.ImageInfo → Prop
  | null : Previewed crate box format none none
  | blob {bytes : Blob} {source info : Imaging.ImageInfo}
      (hsource : imageInfo crate bytes = .ok source)
      (h : Thumbnailed source info box format) :
      Previewed crate box format (some bytes) (some info)

/-- The batch is one struct column of the given facts. -/
def InfoBatch (out : RecordBatch) (infos : List (Option Imaging.ImageInfo)) : Prop :=
  ∃ column, out.columns = [column] ∧ out.numRows = infos.length ∧
    ∀ (i : ℕ) (hi : i < infos.length),
      column.isNull i = infos[i].isNone ∧ column.value i = infos[i].map infoValue

/-- The facts about a blob cell, if it can be opened. -/
def cellInfo (crate : ImageCrate) (cell : Option Blob) : Option Imaging.ImageInfo :=
  cell.bind fun bytes => (imageInfo crate bytes).toOption

/-! ## The rows -/

section Rows

variable {crates : Crates} {transform : Transform} {box : Size} {bytesPerPixel : ℕ}

theorem cellValue_imageInfo (cell : Option Blob) :
    cellValue (fun bytes => (liftImg (imageInfo crates.image bytes)).map
        fun info => some (infoValue info)) cell =
      (cellInfo crates.image cell).map infoValue := by
  cases cell with
  | none => rfl
  | some bytes =>
      rw [cellValue, cellInfo, Option.bind_some]
      cases imageInfo crates.image bytes <;> rfl

/-- A decoded image has no empty side. -/
theorem sides_pos_of_imageInfo {crate : ImageCrate} (laws : DecodeLaws crate) {blob : Blob}
    {info : Imaging.ImageInfo} (h : imageInfo crate blob = .ok info) :
    0 < info.width ∧ 0 < info.height := by
  obtain ⟨_, img, hopen, -, hwidth, hheight⟩ := exists_openImage_of_imageInfo h
  obtain ⟨hw, hh, -⟩ := laws.admitted (openImage_eq_ok_iff.1 hopen).2
  rw [hwidth, hheight]
  exact ⟨hw, hh⟩

/-- The thumbnail of a cell can be opened. -/
theorem previewed_of_cellThrough (decodes : DecodeLaws crates.image)
    (thumbnails : ThumbnailLaws crates.image)
    (reopens : ReopenLaws crates.image transform.format)
    (hbox : transform.box = some box) (hbytes : transform.format.reopenedBytes = some bytesPerPixel)
    (hlimit : box.width * box.height * bytesPerPixel ≤ decodeLimit) {cell result : Option Blob}
    (h : CellThrough [transform.apply crates.image] cell result) :
    (∀ bytes, result = some bytes → ∃ info, imageInfo crates.image bytes = .ok info) ∧
      Previewed crates.image box transform.format cell (cellInfo crates.image result) := by
  cases h with
  | null => exact ⟨nofun, .null⟩
  | @blob bytes out h =>
      have hout : transform.apply crates.image bytes = .ok out := by
        simpa [through] using h
      obtain ⟨_, opened, hopen, -⟩ := Transform.exists_encode thumbnails.resizeLaws hout
      obtain ⟨source, hsource⟩ : ∃ source, imageInfo crates.image bytes = .ok source :=
        ⟨_, imageInfo_of_openImage hopen⟩
      obtain ⟨hwidth, hheight⟩ := sides_pos_of_imageInfo decodes hsource
      obtain ⟨info, hinfo, hformat, hw, hh⟩ :=
        imageInfo_of_box thumbnails reopens hbox hbytes hlimit hout hsource hwidth hheight
      constructor
      · rintro _ ⟨⟩
        exact ⟨info, hinfo⟩
      · have hcell : cellInfo crates.image (some out) = some info := by
          rw [cellInfo, Option.bind_some, hinfo]
          rfl
        rw [hcell]
        refine .blob hsource ⟨hformat, ?_, ?_, ?_⟩
        · rw [hw]
          exact Size.width_fit_le _ box
        · rw [hh]
          exact Size.height_fit_le _ box
        · rw [hw, hh]
          exact Size.fit_keeps_ratio _ box

end Rows

/-! ## A column of thumbnails -/

section Column

variable {crates : Crates} {transform : Transform} {box : Size} {bytesPerPixel : ℕ}
variable {batch out : RecordBatch} {cells results : List (Option Blob)}

/-- `image_info` of blobs that can all be opened. -/
theorem exists_imageInfo_call (decodes : DecodeLaws crates.image) (hvgi : VgiLaws crates.vgi)
    (args : Arguments) (hresults : CarriesBatch out results)
    (hrows : results.length ≤ infoRows)
    (hopen : ∀ cell ∈ results, ∀ bytes, cell = some bytes →
      ∃ info, imageInfo crates.image bytes = .ok info) :
    ∃ described,
      ((FunctionName.blob .imageInfo).function crates).call crates.arrow args out =
          .ok described ∧
        InfoBatch described (results.map (cellInfo crates.image)) := by
  obtain ⟨col, hcol, hcarries⟩ := hresults
  obtain ⟨rowOf, hprepare, himaging⟩ :=
    (Computes.imageInfo : Computes crates args .imageInfo _).exists_prepare decodes
  obtain ⟨field, hschema⟩ := hvgi.exists_field (BlobName.imageInfo.spec crates).dataType
  have hfits : OutputFits (BlobName.imageInfo.spec crates) rowOf results := by
    have hroom := hasRoom_decoder (show .imageInfo ∈ decoders by decide) hprepare col fun _ => hrows
    rw [hasRoom_iff fun _ _ => (BlobName.imageInfo.spec crates).fits_of_concat,
      ← rowValue_eq_columnRow rowOf, rowValue_of_carries _ crates.arrow _ hcarries] at hroom
    exact ⟨hroom, trivial⟩
  have hrowWise : RowWise
      (fun bytes => (liftImg (imageInfo crates.image bytes)).map
        fun info => some (infoValue info)) results
      (((FunctionName.blob .imageInfo).function crates).call crates.arrow args out) := by
    rw [himaging]
    exact rowWise_of_outputFits (BlobName.imageInfo.spec crates) hprepare hschema hcol hcarries
      hfits
  obtain ⟨described, column, hdescribed, hcolumns, hnumRows, hvalues⟩ :=
    hrowWise.exists_output fun cell hcell bytes hbytes => by
      obtain ⟨info, hinfo⟩ := hopen cell hcell bytes hbytes
      exact ⟨_, map_eq_ok_iff.2 ⟨info, liftImg_eq_ok_iff.2 hinfo, rfl⟩⟩
  refine ⟨described, hdescribed, column, hcolumns, by rw [hnumRows, List.length_map], ?_⟩
  intro i hi
  obtain ⟨hnull, hvalue⟩ := hvalues i (by simpa using hi)
  rw [cellValue_imageInfo] at hnull hvalue
  rw [List.getElem_map]
  exact ⟨by rw [hnull, Option.isNone_map], hvalue⟩

/-- `image_info` accepts every column of thumbnails whose box is within the
decoder's limit, and reports for each row the format asked for and a size that fits
the box, touches it and keeps the aspect ratio of the source. -/
theorem imageInfo_of_thumbnails (decodes : DecodeLaws crates.image)
    (thumbnails : ThumbnailLaws crates.image)
    (reopens : ReopenLaws crates.image transform.format)
    (hvgi : VgiLaws crates.vgi) {call : BoundCall crates}
    (hcall : call.Reencoding (transform.apply crates.image)) (hbox : transform.box = some box)
    (hbytes : transform.format.reopenedBytes = some bytesPerPixel)
    (hlimit : box.width * box.height * bytesPerPixel ≤ decodeLimit)
    (hcells : CarriesBatch batch cells) (hrows : cells.length ≤ infoRows)
    (hout : call.run batch = .ok out) (args : Arguments) :
    ∃ described infos,
      ((FunctionName.blob .imageInfo).function crates).call crates.arrow args out =
          .ok described ∧
        InfoBatch described infos ∧
          List.Forall₂ (Previewed crates.image box transform.format) cells infos := by
  have hnested : BoundCall.nested [call] batch = .ok out := by
    rw [BoundCall.nested, List.foldlM_cons, bind_of_ok hout]
    rfl
  obtain ⟨results, hresults, hthrough⟩ :=
    nested_output hvgi (.cons hcall .nil) hcells hnested
  have hpreviewed := hthrough.imp fun _ _ =>
    previewed_of_cellThrough decodes thumbnails reopens hbox hbytes hlimit
  have hopen : ∀ cell ∈ results, ∀ bytes, cell = some bytes →
      ∃ info, imageInfo crates.image bytes = .ok info := by
    intro cell hcell
    obtain ⟨i, hi, rfl⟩ := List.mem_iff_getElem.1 hcell
    have hi' : i < cells.length := hpreviewed.length_eq.symm ▸ hi
    exact ((List.forall₂_iff_get.1 hpreviewed).2 i hi' hi).1
  obtain ⟨described, hdescribed, hinfos⟩ := exists_imageInfo_call decodes hvgi args hresults
    (hpreviewed.length_eq ▸ hrows) hopen
  refine ⟨described, _, hdescribed, hinfos, ?_⟩
  rw [List.forall₂_map_right_iff]
  exact hpreviewed.imp fun _ _ h => h.2

end Column

/-! ## The thumbnail of the sample -/

def previewBox : Size := ⟨128, 128, by decide, by decide⟩

theorem imageInfo_of_thumbnails_samplePng :
    ∃ out described infos,
      thumbnailCall.run (blobBatch [some ReferenceCodec.samplePng, none]) = .ok out ∧
        ((FunctionName.blob .imageInfo).function (referenceCrates noExif)).call arrowNames
            noArguments out = .ok described ∧
          InfoBatch described infos ∧
            List.Forall₂ (Previewed ReferenceCodec.codec previewBox .jpeg)
              [some ReferenceCodec.samplePng, none] infos := by
  have hrun : (thumbnailCall.run (blobBatch [some ReferenceCodec.samplePng, none])).toBool := by
    decide +kernel
  obtain ⟨out, hout⟩ := exists_eq_ok_of_toBool hrun
  obtain ⟨described, infos, hdescribed, hinfos, hpreviewed⟩ :=
    @imageInfo_of_thumbnails (referenceCrates noExif)
      (.thumbnail 128 128 (by decide) (by decide) .jpeg) previewBox 3 _ _ _ codec_decodeLaws
      ReferenceCodec.thumbnailLaws (ReferenceCodec.reopenLaws .jpeg) singleColumnBind_laws
      thumbnailCall
      (.mk thumbnailCall.onBind_eq .thumbnail) rfl rfl (by decide)
      (carriesBatch_blobBatch [some ReferenceCodec.samplePng, none]) (by decide) hout noArguments
  exact ⟨out, described, infos, hout, hdescribed, hinfos, hpreviewed⟩

end VgiImage.Scalar
