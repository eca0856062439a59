import VgiImage.Scalar.Session

/-!
# Tags and position of one column

`exif` and `exif_gps` of the same blobs.  Neither rejects a blob: what is no image,
or carries no EXIF block, has an empty map and no position.  A position is computed
from tags the map shows.
-/

namespace VgiImage.Scalar

open Arrow ArrowIo Imaging Outcome RowLoop

/-! ## One blob -/

section Blob

variable {crate : ExifCrate} {blob : Blob}

/-- A complete coordinate was read from a field with its tag. -/
theorem exists_field_of_gpsCoord {exifdata : Exif} {tag refTag : Tag} {negRef : UInt8}
    {coord : ExactFloat} (h : gpsCoord exifdata tag refTag negRef = some coord) :
    ∃ field ∈ exifdata.fields, field.tag = tag := by
  obtain ⟨d, m, s, hdms, -⟩ := gpsCoord_eq_some_iff.1 h
  obtain ⟨field, hfield, -⟩ := Option.bind_eq_some_iff.1 hdms
  obtain ⟨hmem, htag, -⟩ := exifdata.mem_of_getField hfield
  exact ⟨field, hmem, htag⟩

/-- Both coordinates of a position are among the tags. -/
theorem mem_tagNames_of_exifGps {gps : Gps} (h : exifGps crate blob = .ok (some gps)) :
    crate.tagToString .gpsLatitude ∈ tagNames crate blob ∧
      crate.tagToString .gpsLongitude ∈ tagNames crate blob := by
  cases hparse : parseExif crate blob with
  | none =>
      rw [exifGps, hparse] at h
      cases h
  | some exifdata =>
      obtain ⟨hlat, hlon⟩ := (exifGps_eq_ok_some_iff hparse).1 h
      have hmem : ∀ {tag : Tag}, (∃ field ∈ exifdata.fields, field.tag = tag) →
          crate.tagToString tag ∈ tagNames crate blob := by
        rintro tag ⟨field, hfield, rfl⟩
        rw [tagNames, parsedFields, hparse]
        exact List.mem_map_of_mem hfield
      exact ⟨hmem (exists_field_of_gpsCoord hlat), hmem (exists_field_of_gpsCoord hlon)⟩

end Blob

/-! ## Both columns -/

/-- The entry of the map row carries a key. -/
def HasKey (row : Option Arrow.Value) (key : String) : Prop :=
  ∃ entries, row = some (.map entries) ∧ some key ∈ entries.map Prod.fst

/-- What the two functions return for the same cells. -/
structure MetadataOutcome (crate : ExifCrate) (cells : List (Option Blob))
    (tagsRun gpsRun : Run RecordBatch) : Prop where
  /-- The tags are there unless they outgrow the map. -/
  tags_ok_iff : (∃ out, tagsRun = .ok out) ↔ MapFits (exifRows crate cells)
  tags_panic_iff : tagsRun = .error .panic ↔ ¬ MapFits (exifRows crate cells)
  gps_ok : ∃ out, gpsRun = .ok out
  /-- Only a NULL cell has NULL tags, and a position is among the tags. -/
  position {tagsOut gpsOut : RecordBatch} (htags : tagsRun = .ok tagsOut)
    (hgps : gpsRun = .ok gpsOut) :
    ∃ tags gps, tagsOut.columns = [tags] ∧ gpsOut.columns = [gps] ∧
      ∀ i < cells.length, tags.isNull i = (cells[i]?).join.isNone ∧
        (gps.isNull i = false →
          HasKey (tags.value i) (crate.tagToString .gpsLatitude) ∧
            HasKey (tags.value i) (crate.tagToString .gpsLongitude))

section Columns

variable {crates : Crates} {args args' : Arguments} {batch : RecordBatch} {col : ArrayRef}
variable {cells : List (Option Blob)}

theorem hasKey_mapValue {blob : Blob} {key : String} (h : key ∈ tagNames crates.exif blob) :
    HasKey (some (mapValue (exifPairs crates.exif blob))) key := by
  refine ⟨_, rfl, ?_⟩
  rw [← map_fst_exifPairs] at h
  obtain ⟨pair, hpair, rfl⟩ := List.mem_map.1 h
  rw [List.map_map]
  exact List.mem_map.2 ⟨pair, hpair, rfl⟩

theorem rowWise_exifGps (hvgi : VgiLaws crates.vgi) {bound : BindResponse}
    (hbind : (ExifGps.function crates).onBind ⟨args⟩ = .ok bound)
    (hcol : batch.columns[0]? = some col) (hcells : Carries col cells) :
    RowWise (fun bytes => (liftImg (exifGps crates.exif bytes)).map
        (Option.map (ExifGps.spec crates).value)) cells
      (((ExifGps.function crates).toScalar crates.arrow).process crates.arrow
        ⟨bound.outputSchema, args⟩ batch) := by
  obtain ⟨name, hname⟩ := hvgi.exists_field (.struct ExifGps.gpsFields)
  have hschema : bound.outputSchema = ⟨[⟨name, (ExifGps.spec crates).dataType, true⟩]⟩ := by
    cases hbind
    exact hname
  exact rowWise_of_outputFits (ExifGps.spec crates) rfl hschema hcol hcells ⟨trivial, trivial⟩

/-- Tags that outgrow the map make `exif` panic. -/
theorem process_exif_eq_panic (hvgi : VgiLaws crates.vgi) {bound : BindResponse}
    (hbind : (Exif.function crates).onBind ⟨args⟩ = .ok bound)
    (hcol : batch.columns[0]? = some col) (hcells : Carries col cells)
    (hfull : ¬ MapFits (exifRows crates.exif cells)) :
    ((Exif.function crates).toScalar crates.arrow).process crates.arrow
      ⟨bound.outputSchema, args⟩ batch = .error .panic := by
  obtain ⟨name, hname⟩ := hvgi.exists_field mapVarcharVarcharType
  have hschema : bound.outputSchema = ⟨[⟨name, (Exif.spec crates).dataType, true⟩]⟩ := by
    cases hbind
    exact hname
  have hagrees := (Exif.spec crates).process_agrees_cells (prepare_exif args) hschema hcol hcells
  apply hagrees.left_error
  apply emitRows_of_not_fits (Exif.spec crates).fits_nil
    fun _ _ => (Exif.spec crates).fits_of_concat
  have hstretch := stretch_exif crates.exif cells
  exact fun hfits => hfull ((congrArg MapFits hstretch).mp hfits)

/-- `exif` and `exif_gps` accept every column of blobs, and whatever has a position has
the tags of its two coordinates. -/
theorem metadata_outcome (hvgi : VgiLaws crates.vgi)
    (hnames : ∀ tag, crates.exif.tagToString tag ≠ "") (hcol : batch.columns[0]? = some col)
    (hcells : Carries col cells) (args args' : Arguments) :
    MetadataOutcome crates.exif cells
      (((FunctionName.blob .exif).function crates).call crates.arrow args batch)
      (((FunctionName.blob .exifGps).function crates).call crates.arrow args' batch) := by
  have hpanic : ¬ MapFits (exifRows crates.exif cells) →
      ((FunctionName.blob .exif).function crates).call crates.arrow args batch =
        .error .panic := fun hfull => process_exif_eq_panic hvgi rfl hcol hcells hfull
  have htags : MapFits (exifRows crates.exif cells) →
      RowWise (fun bytes => .ok (some (mapValue (exifPairs crates.exif bytes)))) cells
        (((FunctionName.blob .exif).function crates).call crates.arrow args batch) :=
    fun hfits => rowWise_exif hvgi hnames rfl hcol hcells hfits
  have hgps : RowWise (fun bytes => (liftImg (exifGps crates.exif bytes)).map
      (Option.map (ExifGps.spec crates).value)) cells
      (((FunctionName.blob .exifGps).function crates).call crates.arrow args' batch) :=
    rowWise_exifGps hvgi rfl hcol hcells
  have hok : MapFits (exifRows crates.exif cells) → ∃ out,
      ((FunctionName.blob .exif).function crates).call crates.arrow args batch = .ok out :=
    fun hfits => (htags hfits).succeeds_iff.2 fun _ _ _ _ => ⟨_, rfl⟩
  refine ⟨⟨fun ⟨out, hout⟩ => ?_, hok⟩, ⟨fun h hfits => ?_, hpanic⟩, ?_, fun hout hout' => ?_⟩
  · by_contra hfull
    rw [hpanic hfull] at hout
    cases hout
  · obtain ⟨out, hout⟩ := hok hfits
    rw [hout] at h
    cases h
  · refine hgps.succeeds_iff.2 fun cell _ bytes _ => ?_
    obtain ⟨gps, hgps⟩ : ∃ gps, exifGps crates.exif bytes = .ok gps := exists_exifGps_eq_ok bytes
    exact ⟨_, map_eq_ok_iff.2 ⟨gps, liftImg_eq_ok_iff.2 hgps, rfl⟩⟩
  · have hfits : MapFits (exifRows crates.exif cells) := by
      by_contra hfull
      rw [hpanic hfull] at hout
      cases hout
    obtain ⟨tags, hcolumns, -, hrows, -⟩ := (htags hfits).output hout
    obtain ⟨gps, hcolumns', -, hrows', -⟩ := hgps.output hout'
    refine ⟨tags, gps, hcolumns, hcolumns', fun i hi => ?_⟩
    obtain ⟨hnull, hvalue⟩ := hrows i hi
    obtain ⟨hnull', -⟩ := hrows' i hi
    rw [hnull, hvalue, hnull', join_getElem? hi]
    cases cells[i] with
    | none => exact ⟨rfl, nofun⟩
    | some bytes =>
        refine ⟨rfl, fun hposition => ?_⟩
        obtain ⟨result, hresult⟩ : ∃ result, exifGps crates.exif bytes = .ok result :=
          exists_exifGps_eq_ok bytes
        cases result with
        | none =>
            rw [cellValue, liftImg_eq_ok_iff.2 hresult] at hposition
            cases hposition
        | some position =>
            obtain ⟨hlat, hlon⟩ := mem_tagNames_of_exifGps hresult
            exact ⟨hasKey_mapValue hlat, hasKey_mapValue hlon⟩

end Columns

/-! ## The fixture and an image without EXIF -/

def gpsTagName (tag : Tag) : String :=
  if tag = .gpsLatitudeRef then "GPSLatitudeRef"
  else if tag = .gpsLatitude then "GPSLatitude"
  else if tag = .gpsLongitudeRef then "GPSLongitudeRef"
  else if tag = .gpsLongitude then "GPSLongitude"
  else "Tag"

theorem gpsTagName_ne_empty (tag : Tag) : gpsTagName tag ≠ "" := by
  unfold gpsTagName
  split_ifs <;> decide

/-- The parser that knows the fixture, with the names of its tags. -/
def fixtureExif : ExifCrate where
  readFromContainer := (ExifCrate.ofBlob fixtureJpeg fixtureBlock).readFromContainer
  tagToString := gpsTagName
  displayValueWithUnit _ _ := ""

def fixtureCells : List (Option Blob) :=
  [some fixtureJpeg, some ReferenceCodec.samplePng, none]

theorem metadata_outcome_fixture :
    MetadataOutcome fixtureExif fixtureCells
      (((FunctionName.blob .exif).function (referenceCrates fixtureExif)).call arrowNames
        noArguments (blobBatch fixtureCells))
      (((FunctionName.blob .exifGps).function (referenceCrates fixtureExif)).call arrowNames
        noArguments (blobBatch fixtureCells)) :=
  @metadata_outcome (referenceCrates fixtureExif) (blobBatch fixtureCells) _ fixtureCells
    singleColumnBind_laws gpsTagName_ne_empty rfl (.binary _) noArguments noArguments

end VgiImage.Scalar
