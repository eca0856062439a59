import VgiImage.Imaging.Transforms
import VgiImage.Scalar.Metadata
import VgiImage.Scalar.Nested

/-!
# What re-encoding leaves behind

The encoders write pixels and nothing else.  Whatever position or tags a column of
images carried, none of it is left in its thumbnails and conversions.
-/

namespace VgiImage.Scalar

open Arrow ArrowIo Imaging Outcome RowLoop Stages

/-! ## One blob -/

/-- What is read from a blob the encoders wrote: nothing, except for TIFF, the container
of EXIF itself, where the tags that describe the pixels are read. -/
structure StripLaws (image : ImageCrate) (crate : ExifCrate) : Prop where
  parseExif_of_writeTo {img : DynamicImage} {format : OutFormat} {out : Blob}
    (h : image.writeTo img format.imageFormat = .ok out) (htiff : format ≠ .tiff) :
    parseExif crate out = none
  context_of_writeTo {img : DynamicImage} {format : OutFormat} {out : Blob}
    (h : image.writeTo img format.imageFormat = .ok out) {exifdata : Exif}
    (hparse : parseExif crate out = some exifdata) :
    ∀ field ∈ exifdata.fields, field.tag.context = .tiff

section Written

variable {image : ImageCrate} {crate : ExifCrate} (strips : StripLaws image crate)
variable {img : DynamicImage} {format : OutFormat} {out : Blob}
include strips

theorem exifGps_of_writeTo (h : image.writeTo img format.imageFormat = .ok out) :
    exifGps crate out = .ok none := by
  apply exifGps_eq_ok_none
  intro gps hgps
  cases hparse : parseExif crate out with
  | none =>
      rw [exifGps, hparse] at hgps
      cases hgps
  | some exifdata =>
      obtain ⟨hlat, -⟩ := (exifGps_eq_ok_some_iff hparse).1 hgps
      obtain ⟨field, hfield, htag⟩ := exists_field_of_gpsCoord hlat
      have hcontext := strips.context_of_writeTo h hparse field hfield
      rw [htag] at hcontext
      cases hcontext

theorem exifPairs_of_writeTo (h : image.writeTo img format.imageFormat = .ok out)
    (htiff : format ≠ .tiff) : exifPairs crate out = [] := by
  rw [exifPairs, exif, strips.parseExif_of_writeTo h htiff]
  rfl

end Written

/-! ## A column -/

/-- What is left of the position and the tags of a column of blobs in the given format:
no position, and, unless the format is TIFF, an empty map for every blob. -/
structure Stripped (format : OutFormat) (cells : List (Option Blob))
    (gpsRun tagsRun : Run RecordBatch) : Prop where
  gps : ∃ out column, gpsRun = .ok out ∧ out.columns = [column] ∧ out.numRows = cells.length ∧
    ∀ i < cells.length, column.isNull i = true
  tags (htiff : format ≠ .tiff) :
    ∃ out column, tagsRun = .ok out ∧ out.columns = [column] ∧ out.numRows = cells.length ∧
      ∀ (i : ℕ) (hi : i < cells.length), column.value i = cells[i].map fun _ => .map []

section Columns

variable {crates : Crates} {batch out : RecordBatch} {cells : List (Option Blob)}

/-- The maps of blobs without tags fit. -/
theorem mapFits_of_exifPairs (h : ∀ bytes, some bytes ∈ cells → exifPairs crates.exif bytes = []) :
    MapFits (exifRows crates.exif cells) := by
  have hentries : (rowEntries (exifRows crates.exif cells)).flatten = [] := by
    apply List.flatten_eq_nil_iff.2
    intro entries hentries
    obtain ⟨row, hrow, rfl⟩ := List.mem_map.1 hentries
    obtain ⟨cell, hcell, rfl⟩ := List.mem_map.1 hrow
    cases cell with
    | none => rfl
    | some bytes => exact h bytes hcell
  rw [MapFits, hentries]
  decide

section Written

variable (strips : StripLaws crates.image crates.exif) (hvgi : VgiLaws crates.vgi)
variable (hcells : CarriesBatch batch cells) {format : OutFormat}
variable (hwritten : ∀ bytes, some bytes ∈ cells →
  ∃ img, crates.image.writeTo img format.imageFormat = .ok bytes) (args : Arguments)
include strips hvgi hcells hwritten

theorem exists_exifGps_call :
    ∃ out column,
      ((FunctionName.blob .exifGps).function crates).call crates.arrow args batch = .ok out ∧
        out.columns = [column] ∧ out.numRows = cells.length ∧
          ∀ i < cells.length, column.isNull i = true := by
  obtain ⟨col, hcol, hcarries⟩ := hcells
  have hgps : RowWise (fun bytes => (liftImg (exifGps crates.exif bytes)).map
      (Option.map (ExifGps.spec crates).value)) cells
      (((FunctionName.blob .exifGps).function crates).call crates.arrow args batch) :=
    rowWise_exifGps hvgi rfl hcol hcarries
  have hnone : ∀ bytes, some bytes ∈ cells → exifGps crates.exif bytes = .ok none := by
    intro bytes hbytes
    obtain ⟨img, hwrite⟩ := hwritten bytes hbytes
    exact exifGps_of_writeTo strips hwrite
  obtain ⟨out, column, hout, hcolumns, hnumRows, hrows⟩ :=
    hgps.exists_output fun cell hcell bytes h => by
      rw [hnone bytes (h ▸ hcell)]
      exact ⟨none, rfl⟩
  refine ⟨out, column, hout, hcolumns, hnumRows, fun i hi => ?_⟩
  rw [(hrows i hi).1]
  cases hcell : cells[i] with
  | none => rfl
  | some bytes =>
      rw [cellValue, hnone bytes (hcell ▸ List.getElem_mem hi)]
      rfl

theorem exists_exif_call (hnames : ∀ tag, crates.exif.tagToString tag ≠ "")
    (htiff : format ≠ .tiff) :
    ∃ out column,
      ((FunctionName.blob .exif).function crates).call crates.arrow args batch = .ok out ∧
        out.columns = [column] ∧ out.numRows = cells.length ∧
          ∀ (i : ℕ) (hi : i < cells.length), column.value i = cells[i].map fun _ => .map [] := by
  obtain ⟨col, hcol, hcarries⟩ := hcells
  have hpairs : ∀ bytes, some bytes ∈ cells → exifPairs crates.exif bytes = [] := by
    intro bytes hbytes
    obtain ⟨img, hwrite⟩ := hwritten bytes hbytes
    exact exifPairs_of_writeTo strips hwrite htiff
  have htags : RowWise (fun bytes => .ok (some (mapValue (exifPairs crates.exif bytes)))) cells
      (((FunctionName.blob .exif).function crates).call crates.arrow args batch) :=
    rowWise_exif hvgi hnames rfl hcol hcarries (mapFits_of_exifPairs hpairs)
  obtain ⟨out, column, hout, hcolumns, hnumRows, hrows⟩ :=
    htags.exists_output fun _ _ _ _ => ⟨_, rfl⟩
  refine ⟨out, column, hout, hcolumns, hnumRows, fun i hi => ?_⟩
  rw [(hrows i hi).2]
  cases hcell : cells[i] with
  | none => rfl
  | some bytes =>
      change some (mapValue (exifPairs crates.exif bytes)) = _
      rw [hpairs bytes (hcell ▸ List.getElem_mem hi)]
      rfl

end Written

/-- Whatever the images of a column carried, and however often they are scaled and
converted, `exif_gps` is NULL in every row of the result, and `exif` is the empty map
unless the last format is TIFF. -/
theorem stripped_of_nested (strips : StripLaws crates.image crates.exif)
    (hvgi : VgiLaws crates.vgi) (hnames : ∀ tag, crates.exif.tagToString tag ≠ "")
    {calls : List (BoundCall crates)} {transforms : List Transform} {last : Transform}
    (hcalls : List.Forall₂ BoundCall.Reencoding calls
      ((transforms ++ [last]).map (Transform.apply crates.image)))
    (hcells : CarriesBatch batch cells) (hout : BoundCall.nested calls batch = .ok out)
    (args args' : Arguments) :
    ∃ results, CarriesBatch out results ∧ results.length = cells.length ∧
      Stripped last.format results
        (((FunctionName.blob .exifGps).function crates).call crates.arrow args out)
        (((FunctionName.blob .exif).function crates).call crates.arrow args' out) := by
  obtain ⟨results, hresults, hthrough⟩ := nested_output hvgi hcalls hcells hout
  have hwritten : ∀ bytes, some bytes ∈ results →
      ∃ img, crates.image.writeTo img last.format.imageFormat = .ok bytes := by
    intro bytes hbytes
    obtain ⟨i, hi, hi'⟩ := List.mem_iff_getElem.1 hbytes
    have hlt : i < cells.length := hthrough.length_eq ▸ hi
    have hcell : CellThrough _ cells[i] results[i] :=
      (List.forall₂_iff_get.1 hthrough).2 i hlt hi
    rw [hi'] at hcell
    generalize cells[i] = cell at hcell
    cases hcell with
    | blob hblob => exact exists_writeTo_of_transformAll hblob
  refine ⟨results, hresults, hthrough.length_eq.symm, ?_, ?_⟩
  · exact exists_exifGps_call strips hvgi hresults hwritten args
  · exact exists_exif_call strips hvgi hresults hwritten args' hnames

end Columns

/-! ## The fixture's position -/

theorem parseExif_of_ne_fixture {blob : Blob} (h : blob ≠ fixtureJpeg) :
    parseExif fixtureExif blob = none :=
  if_neg h

theorem exists_fixtureJpeg_eq : ∃ rest, fixtureJpeg = 0xFF :: 0xD8 :: 0xFF :: 0xE1 :: rest :=
  ⟨_, rfl⟩

open ReferenceCodec in
/-- No blob the codec writes is the fixture. -/
theorem writeImage_ne_fixture {img : DynamicImage} {format : ImageFormat} {out : Blob}
    (h : writeImage img format = .ok out) : out ≠ fixtureJpeg := by
  obtain ⟨rest, hrest⟩ := exists_fixtureJpeg_eq
  rw [hrest]
  rcases (writeImage_eq_ok h).2 with ⟨-, hout⟩ | ⟨-, -, -, hout⟩
  · rw [hout]
    simp [bmpHeader, bmpMagic]
  · rw [hout]
    simp [jpegHeader, jpegMagic]

theorem stripLaws_fixture : StripLaws ReferenceCodec.codec fixtureExif where
  parseExif_of_writeTo h _ := parseExif_of_ne_fixture (writeImage_ne_fixture h)
  context_of_writeTo h _ hparse := by
    rw [parseExif_of_ne_fixture (writeImage_ne_fixture h)] at hparse
    cases hparse

/-- The sample converted to BMP, under the parser that knows the fixture. -/
theorem stripped_of_nested_samplePng :
    ∃ out results,
      BoundCall.nested [BoundCall.mk (.blob .convert) (formatArguments 1 "bmp")
          (singleColumnBind.bindResult (.scalar .binary)) (onBind_convert_bmp fixtureExif)]
        (blobBatch [some ReferenceCodec.samplePng, none]) = .ok out ∧
      CarriesBatch out results ∧ results.length = 2 ∧
        Stripped .bmp results
          (((FunctionName.blob .exifGps).function (referenceCrates fixtureExif)).call arrowNames
            noArguments out)
          (((FunctionName.blob .exif).function (referenceCrates fixtureExif)).call arrowNames
            noArguments out) := by
  have hrun : (BoundCall.nested [BoundCall.mk (.blob .convert) (formatArguments 1 "bmp")
      (singleColumnBind.bindResult (.scalar .binary)) (onBind_convert_bmp fixtureExif)]
        (blobBatch [some ReferenceCodec.samplePng, none])).toBool := by
    decide +kernel
  obtain ⟨out, hout⟩ := exists_eq_ok_of_toBool hrun
  obtain ⟨results, hresults, hlength, hstripped⟩ :=
    @stripped_of_nested (referenceCrates fixtureExif) _ out _ stripLaws_fixture
      singleColumnBind_laws gpsTagName_ne_empty _ [] (.convert .bmp)
      (.cons (.mk _ (reencodes_convert_bmp fixtureExif)) .nil) (carriesBatch_blobBatch _) hout
      noArguments noArguments
  exact ⟨out, results, hout, hresults, hlength, hstripped⟩

end VgiImage.Scalar
