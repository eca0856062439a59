import VgiImage.Imaging.Gps
import VgiImage.Scalar.RowWise

/-!
# Keys of the EXIF map

`exif` appends one entry for each parsed field, and the fields come from the
primary and from the thumbnail directory.  A tag that both directories carry
becomes two entries with one key, while the keys of a map have to be distinct.
-/

namespace VgiImage.Scalar

open Arrow ArrowIo Imaging RowLoop

/-! ## The pairs of a blob -/

section Pairs

variable (crate : ExifCrate) (blob : Blob)

/-- The fields of all directories of a blob; none without a readable block. -/
def parsedFields : List Imaging.Field :=
  ((parseExif crate blob).map Exif.fields).getD []

def tagNames : List String :=
  (parsedFields crate blob).map fun field => crate.tagToString field.tag

/-- The pairs `exif` returns. -/
def exifPairs : List ExifPair :=
  (exif crate blob).toOption.getD []

variable {crate blob}

theorem exif_eq : exif crate blob = .ok (exifPairs crate blob) := by
  obtain ⟨pairs, hpairs⟩ : ∃ pairs, exif crate blob = .ok pairs := exists_exif_eq_ok blob
  rw [exifPairs, hpairs]
  rfl

/-- One pair for each field, under the name of its tag. -/
theorem map_fst_exifPairs : (exifPairs crate blob).map Prod.fst = tagNames crate blob := by
  rw [exifPairs, tagNames, parsedFields]
  cases hparse : parseExif crate blob with
  | none => simp [exif, hparse, Except.toOption]
  | some exifdata =>
      rw [exif_of_parseExif hparse]
      simp [Except.toOption]

end Pairs

/-! ## The statement -/

/-- A map row with pairwise distinct keys and an entry for every parsed tag. -/
def DistinctKeys (crate : ExifCrate) (fields : List Imaging.Field)
    (row : Option Arrow.Value) : Prop :=
  ∃ entries, row = some (.map entries) ∧ (entries.map Prod.fst).Nodup ∧
    ∀ field ∈ fields, some (crate.tagToString field.tag) ∈ entries.map Prod.fst

/-- The row of the pairs has distinct keys exactly when the tags of the fields
have distinct names. -/
theorem distinctKeys_mapValue_iff {crate : ExifCrate} {blob : Blob} :
    DistinctKeys crate (parsedFields crate blob) (some (mapValue (exifPairs crate blob))) ↔
      (tagNames crate blob).Nodup := by
  have hkeys : ((exifPairs crate blob).map fun pair => (some pair.1, some pair.2)).map
      Prod.fst = (tagNames crate blob).map some := by
    rw [← map_fst_exifPairs, List.map_map, List.map_map]
    rfl
  constructor
  · rintro ⟨entries, hentries, hnodup, -⟩
    cases hentries
    rw [hkeys] at hnodup
    exact hnodup.of_map some
  · intro hnodup
    refine ⟨_, rfl, ?_, fun field hfield => ?_⟩
    · rw [hkeys]
      exact hnodup.map (Option.some_injective _)
    · rw [hkeys]
      exact List.mem_map_of_mem (List.mem_map_of_mem hfield)

/-! ## The batch -/

section Batch

variable {crates : Crates} {cells : List (Option Blob)}

/-- The rows `exif` emits for the cells. -/
def exifRows (crate : ExifCrate) (cells : List (Option Blob)) :
    List (Option (List ExifPair)) :=
  cells.map (Option.map (exifPairs crate))

/-- Entries whose keys are not empty are no more than the bytes of their
keys. -/
theorem length_le_valueBytes {pairs : List ExifPair}
    (hkeys : ∀ pair ∈ pairs, pair.1 ≠ "") :
    pairs.length ≤ valueBytes (pairs.map fun pair => some pair.1) := by
  rw [valueBytes, List.map_map]
  calc
    pairs.length = (pairs.map fun pair => slotBytes (some pair.1)).length :=
      (List.length_map _).symm
    _ ≤ (pairs.map fun pair => slotBytes (some pair.1)).sum := by
      apply List.length_le_sum_of_one_le
      intro size hsize
      obtain ⟨pair, hpair, rfl⟩ := List.mem_map.1 hsize
      refine Nat.one_le_iff_ne_zero.2 fun hzero => hkeys pair hpair ?_
      exact String.utf8ByteSize_eq_zero_iff.1 hzero

theorem key_ne_empty (hnames : ∀ tag, crates.exif.tagToString tag ≠ "")
    {pair : ExifPair} (hpair : pair ∈ (rowEntries (exifRows crates.exif cells)).flatten) :
    pair.1 ≠ "" := by
  obtain ⟨pairs, hpairs, hmem⟩ := List.mem_flatten.1 hpair
  obtain ⟨row, hrow, rfl⟩ := List.mem_map.1 hpairs
  obtain ⟨cell, -, rfl⟩ := List.mem_map.1 hrow
  cases cell with
  | none => simp at hmem
  | some bytes =>
      have hname : pair.1 ∈ tagNames crates.exif bytes := by
        rw [← map_fst_exifPairs]
        exact List.mem_map_of_mem hmem
      obtain ⟨field, -, hfield⟩ := List.mem_map.1 hname
      rw [← hfield]
      exact hnames field.tag

theorem stretch_exif (crate : ExifCrate) (cells : List (Option Blob)) :
    stretch (fun i => cellRow (fun bytes => .ok (some (exifPairs crate bytes)))
      (cells[i]?).join) cells.length = exifRows crate cells := by
  apply stretch_eq_of_isPrefix _ (List.length_map _)
  intro i hi
  have hcell : i < cells.length := by simpa [exifRows] using hi
  simp only [List.getElem_map, join_getElem? hcell]
  cases cells[i] <;> rfl

theorem prepare_exif (args : Arguments) :
    (Exif.function crates).prepare args =
      .ok fun bytes => .ok (some (exifPairs crates.exif bytes)) := by
  change Except.ok (fun bytes => (liftImg (exif crates.exif bytes)).map some) = _
  congr 1
  funext bytes
  rw [exif_eq]
  rfl

/-- `exif` returns the pairs of every blob, as long as the map fits. -/
theorem rowWise_exif (hvgi : VgiLaws crates.vgi)
    (hnames : ∀ tag, crates.exif.tagToString tag ≠ "") {args : Arguments}
    {bound : BindResponse} (hbind : (Exif.function crates).onBind ⟨args⟩ = .ok bound)
    {batch : RecordBatch} {col : ArrayRef} (hcol : batch.columns[0]? = some col)
    (hcells : Carries col cells) (hfits : MapFits (exifRows crates.exif cells)) :
    RowWise (fun bytes => .ok (some (mapValue (exifPairs crates.exif bytes)))) cells
      (((Exif.function crates).toScalar crates.arrow).process crates.arrow
        ⟨bound.outputSchema, args⟩ batch) := by
  have hreadable : Exif.Readable (exifRows crates.exif cells) :=
    (length_le_valueBytes fun _ => key_ne_empty hnames).trans hfits.1
  have houtput : OutputFits (Exif.spec crates)
      (fun bytes => .ok (some (exifPairs crates.exif bytes))) cells := by
    have hstretch := stretch_exif crates.exif cells
    exact ⟨(congrArg MapFits hstretch).mpr hfits,
      (congrArg Exif.Readable hstretch).mpr hreadable⟩
  obtain ⟨name, hname⟩ := hvgi.exists_field mapVarcharVarcharType
  have hschema : bound.outputSchema = ⟨[⟨name, (Exif.spec crates).dataType, true⟩]⟩ := by
    cases hbind
    exact hname
  exact rowWise_of_outputFits (Exif.spec crates) (prepare_exif args) hschema hcol hcells houtput

/-- `exif` on a batch of blob cells whose map fits: a row has distinct keys
exactly when no two fields of its blob carry tags of one name. -/
theorem exif_distinctKeys_iff (hvgi : VgiLaws crates.vgi)
    (hnames : ∀ tag, crates.exif.tagToString tag ≠ "") {args : Arguments}
    {bound : BindResponse} (hbind : (Exif.function crates).onBind ⟨args⟩ = .ok bound)
    {batch : RecordBatch} {col : ArrayRef} (hcol : batch.columns[0]? = some col)
    (hcells : Carries col cells) (hfits : MapFits (exifRows crates.exif cells)) :
    ∃ out column, ((Exif.function crates).toScalar crates.arrow).process crates.arrow
        ⟨bound.outputSchema, args⟩ batch = .ok out ∧ out.columns = [column] ∧
      ∀ (i : ℕ) (bytes : Blob), cells[i]? = some (some bytes) →
        (DistinctKeys crates.exif (parsedFields crates.exif bytes) (column.value i) ↔
          (tagNames crates.exif bytes).Nodup) := by
  have hrowWise := rowWise_exif hvgi hnames hbind hcol hcells hfits
  obtain ⟨out, hout⟩ := hrowWise.succeeds_iff.2 fun _ _ _ _ => ⟨_, rfl⟩
  obtain ⟨column, hcolumn, -, hrows, -⟩ := hrowWise.output hout
  refine ⟨out, column, hout, hcolumn, fun i bytes hbytes => ?_⟩
  obtain ⟨hi, hcell⟩ := List.getElem?_eq_some_iff.1 hbytes
  have hvalue : column.value i = some (mapValue (exifPairs crates.exif bytes)) := by
    rw [(hrows i hi).2, hcell]
    rfl
  rw [hvalue]
  exact distinctKeys_mapValue_iff

end Batch

/-! ## An image with a thumbnail -/

def orientation : Tag := ⟨.tiff, 0x112⟩

/-- A TIFF directory of one entry, `Orientation = 1`, and the offset of the
next directory. -/
def orientationDirectory (next : ℕ) : Blob :=
  [0x01, 0x00, 0x12, 0x01, 0x03, 0x00] ++ ReferenceCodec.le4 1 ++ ReferenceCodec.le4 1 ++
    ReferenceCodec.le4 next

def tiffHeader : Blob := [0x49, 0x49, 0x2A, 0x00] ++ ReferenceCodec.le4 8

/-- One directory, and a second one for the thumbnail. -/
def plainTiff : Blob := tiffHeader ++ orientationDirectory 0
def thumbnailTiff : Blob := tiffHeader ++ orientationDirectory 26 ++ orientationDirectory 0

def orientationField (ifd : In) : Imaging.Field := ⟨orientation, ifd, .short [1]⟩

/-- A parser that knows the two files. -/
def tiffExif : ExifCrate where
  readFromContainer blob :=
    if blob = plainTiff then some (.ofFields [orientationField .primary])
    else if blob = thumbnailTiff then
      some (.ofFields [orientationField .primary, orientationField .thumbnail])
    else none
  tagToString tag := if tag = orientation then "Orientation" else "Tag"
  displayValueWithUnit _ _ := "row 0 at top and column 0 at left"

theorem exif_distinctKeys_plainTiff :
    ∃ out column, ((Exif.function (referenceCrates tiffExif)).toScalar arrowNames).process
        arrowNames (resultParams mapVarcharVarcharType) (blobBatch [some plainTiff, none]) =
          .ok out ∧ out.columns = [column] ∧
      DistinctKeys tiffExif (parsedFields tiffExif plainTiff) (column.value 0) := by
  have hnames : ∀ tag, tiffExif.tagToString tag ≠ "" := by
    intro tag
    change (if tag = orientation then "Orientation" else "Tag") ≠ ""
    split <;> decide
  obtain ⟨out, column, hout, hcolumn, hkeys⟩ :=
    @exif_distinctKeys_iff (referenceCrates tiffExif) _ singleColumnBind_laws hnames noArguments
      _ rfl (blobBatch [some plainTiff, none]) _ rfl (.binary _) (by decide)
  exact ⟨out, column, hout, hcolumn, (hkeys 0 plainTiff rfl).2 (by decide)⟩

/-- The map row of the file with a thumbnail holds the key `Orientation`
twice. -/
theorem exif_repeats_key_of_thumbnail :
    ∃ column, ((Exif.function (referenceCrates tiffExif)).toScalar arrowNames).process
        arrowNames (resultParams mapVarcharVarcharType) (blobBatch [some thumbnailTiff]) =
          .ok (.single ⟨[⟨"result", mapVarcharVarcharType, true⟩]⟩ column) ∧
      ¬ DistinctKeys tiffExif (parsedFields tiffExif thumbnailTiff) (column.value 0) := by
  refine ⟨_, rfl, ?_⟩
  rintro ⟨entries, hentries, hnodup, -⟩
  cases hentries
  exact absurd hnodup (by decide)

end VgiImage.Scalar
