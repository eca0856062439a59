import VgiImage.Imaging.Similarity
import VgiImage.Scalar.Nested

/-!
# Comparing two columns of images

`phash_distance` of two hash columns.  The hash functions write unsigned words,
`phash_distance` reads them back without loss, and what it counts in a row is the
number of hash bits in which the two images of the row differ.
-/

namespace VgiImage.Scalar

open Arrow ArrowIo BitDistance Imaging Outcome RowLoop

/-! ## Hash columns -/

/-- The function that computes hashes of the given kind. -/
def hashName : HashKind → BlobName
  | .perceptual => .phash
  | .difference => .dhash
  | .average => .ahash

/-- The hash of a cell. -/
inductive HashOf (crates : Crates) (kind : HashKind) : Option Blob → Option UInt64 → Prop
  | null : HashOf crates kind none none
  | blob {bytes : Blob} {img : DynamicImage} (hdecode : decode crates.image bytes = .ok img) :
      HashOf crates kind (some bytes)
        (some (packHash (crates.hasher.hashImage (hasherConfig kind) img)))

/-- The batch is one column of the hashes of the cells. -/
def HashBatch (crates : Crates) (kind : HashKind) (out : RecordBatch)
    (cells : List (Option Blob)) : Prop :=
  ∃ column hashes, out.columns = [column] ∧
    Column (.scalar .uint64) PerceptualHash.hashValue (fun _ => True) column hashes ∧
      List.Forall₂ (HashOf crates kind) cells hashes

section Hashes

variable {crates : Crates} {batch out : RecordBatch} {cells : List (Option Blob)}

theorem hashOf_of_cellRow {kind : HashKind} {cell : Option Blob} {hash : Option UInt64}
    (h : cellRow (fun bytes =>
      (liftImg (perceptualHash crates.image crates.hasher bytes kind)).map some) cell =
        .ok hash) : HashOf crates kind cell hash := by
  cases cell with
  | none =>
      cases h
      exact .null
  | some bytes =>
      obtain ⟨word, hword, rfl⟩ := map_eq_ok_iff.1 h
      obtain ⟨img, hdecode, hpack⟩ := bind_eq_ok_iff.1 (liftImg_eq_ok_iff.1 hword)
      cases hpack
      exact .blob hdecode

theorem hashBatch_of_process {self : PerceptualHash} {args : Arguments} {schema : Schema}
    {field : String} (hschema : schema = ⟨[⟨field, .scalar .uint64, true⟩]⟩)
    (hcells : CarriesBatch batch cells)
    (hout : ((PerceptualHash.function crates self).toScalar crates.arrow).process crates.arrow
      ⟨schema, args⟩ batch = .ok out) : HashBatch crates self.kind out cells := by
  obtain ⟨col, hcol, hcarries⟩ := hcells
  have hprepare : (PerceptualHash.function crates self).prepare args = .ok _ := rfl
  have hagrees := (PerceptualHash.spec crates self).process_agrees_cells hprepare hschema hcol
    hcarries
  obtain ⟨hashes, hemit, column, hcolumn, rfl⟩ := hagrees.exists_of_left_ok hout
  obtain ⟨hlength, hvalues, -⟩ := emitRows_eq_ok_iff.1 hemit
  refine ⟨column, hashes, rfl, hcolumn, List.forall₂_iff_get.2 ⟨hlength.symm, fun i hi hi' => ?_⟩⟩
  rw [List.get_eq_getElem, ← join_getElem? hi]
  exact hashOf_of_cellRow (hvalues i hi')

/-- A hash function that returns writes the hashes of its cells. -/
theorem hashBatch_of_call (hvgi : VgiLaws crates.vgi) {kind : HashKind} {args : Arguments}
    (hcells : CarriesBatch batch cells)
    (hout : ((FunctionName.blob (hashName kind)).function crates).call crates.arrow args batch =
      .ok out) : HashBatch crates kind out cells := by
  obtain ⟨field, hschema⟩ := hvgi.exists_field (.scalar .uint64)
  cases kind
  case perceptual => exact @hashBatch_of_process _ _ _ _ .phash _ _ _ hschema hcells hout
  case difference => exact @hashBatch_of_process _ _ _ _ .dhash _ _ _ hschema hcells hout
  case average => exact @hashBatch_of_process _ _ _ _ .ahash _ _ _ hschema hcells hout

end Hashes

/-! ## Distances -/

/-- The column compares the images of two cell columns: NULL where a cell is, and
else the number of hash bits in which the images differ. -/
structure SimilarityColumn {crates : Crates} (model : HasherModel crates.hasher)
    (kind : HashKind) (xs ys : List (Option Blob)) (column : ArrayRef) : Prop where
  len_eq : column.len = xs.length
  isNull_eq (i : ℕ) (hi : i < column.len) :
    column.isNull i = ((xs[i]?).join.isNone || (ys[i]?).join.isNone)
  value_eq (i : ℕ) (x y : Blob) (hx : xs[i]? = some (some x)) (hy : ys[i]? = some (some y)) :
    ∃ img img', decode crates.image x = .ok img ∧ decode crates.image y = .ok img' ∧
      column.value i =
        some (.scalar (.int (differences (model.bits kind img) (model.bits kind img'))))

section Distances

variable {crates : Crates} {kind : HashKind} {cells : List (Option Blob)}
variable {hashes : List (Option UInt64)} {column : ArrayRef}

theorem HashOf.isNone_eq {cell : Option Blob} {hash : Option UInt64}
    (h : HashOf crates kind cell hash) : hash.isNone = cell.isNone := by
  cases h <;> rfl

theorem isNull_hashColumn
    (hcolumn : Column (.scalar .uint64) PerceptualHash.hashValue (fun _ => True) column hashes)
    (hhashes : List.Forall₂ (HashOf crates kind) cells hashes) (i : ℕ) :
    column.isNull i = (cells[i]?).join.isNone := by
  rw [hcolumn.isNull_eq]
  by_cases hi : i < hashes.length
  · have hi' : i < cells.length := hhashes.length_eq.symm ▸ hi
    rw [List.getElem?_eq_getElem hi, List.getElem?_eq_getElem hi']
    exact ((List.forall₂_iff_get.1 hhashes).2 i hi' hi).isNone_eq
  · rw [List.getElem?_eq_none (by omega),
      List.getElem?_eq_none (by rw [hhashes.length_eq]; omega)]
    rfl

theorem value_hashColumn
    (hcolumn : Column (.scalar .uint64) PerceptualHash.hashValue (fun _ => True) column hashes)
    (hhashes : List.Forall₂ (HashOf crates kind) cells hashes) {i : ℕ} {bytes : Blob}
    (hbytes : cells[i]? = some (some bytes)) :
    ∃ img, decode crates.image bytes = .ok img ∧ column.value i = some (PerceptualHash.hashValue
      (packHash (crates.hasher.hashImage (hasherConfig kind) img))) := by
  obtain ⟨hi, hcell⟩ := List.getElem?_eq_some_iff.1 hbytes
  have hi' : i < hashes.length := hhashes.length_eq ▸ hi
  have hhash : HashOf crates kind cells[i] hashes[i] :=
    (List.forall₂_iff_get.1 hhashes).2 i hi hi'
  have hvalue := hcolumn.value_eq trivial i
  rw [List.getElem?_eq_getElem hi'] at hvalue
  rw [hcell] at hhash
  generalize hashes[i] = hash at hhash hvalue
  cases hhash with
  | blob hdecode => exact ⟨_, hdecode, hvalue⟩

/-- `phash_distance` of two columns hashed by the same function is NULL where one of the
images is, and else counts the hash bits in which the two images differ. -/
theorem phashDistance_of_hashes (hvgi : VgiLaws crates.vgi) (model : HasherModel crates.hasher)
    {left right out out' pair : RecordBatch} {xs ys : List (Option Blob)}
    (hleft : CarriesBatch left xs) (hright : CarriesBatch right ys) {args args' : Arguments}
    (hout : ((FunctionName.blob (hashName kind)).function crates).call crates.arrow args left =
      .ok out)
    (hout' : ((FunctionName.blob (hashName kind)).function crates).call crates.arrow args'
      right = .ok out')
    (hpair : pair.columns = out.columns ++ out'.columns) (args'' : Arguments) :
    ∃ result column,
      (FunctionName.phashDistance.function crates).call crates.arrow args'' pair = .ok result ∧
        result.columns = [column] ∧ SimilarityColumn model kind xs ys column := by
  obtain ⟨a, hashes, ha, hcolumn, hhashes⟩ := hashBatch_of_call hvgi hleft hout
  obtain ⟨b, hashes', hb, hcolumn', hhashes'⟩ := hashBatch_of_call hvgi hright hout'
  have hcolumns : [0, 1].mapM pair.column = .ok [a, b] := by
    rw [ha, hb] at hpair
    apply mapM_eq_ok_iff.2
    refine .cons ?_ (.cons ?_ .nil)
    · exact column_eq_ok_iff.2 (by rw [hpair]; rfl)
    · exact column_eq_ok_iff.2 (by rw [hpair]; rfl)
  have hreads : ∀ {column : ArrayRef}, column.dataType = .scalar .uint64 →
      FunctionName.phashDistance.Reads column.dataType := by
    intro column htype
    rw [htype]
    change ScalarType.uint64 ∈ FunctionName.phashDistance.readTypes
    decide
  obtain ⟨result, column, hresult, hcolumns', hlen, hdistance⟩ :=
    @distanceColumn_of_process crates a b (hreads hcolumn.dataType_eq)
      (hreads hcolumn'.dataType_eq) hvgi args'' _ rfl pair hcolumns
  have hrows : pair.numRows = xs.length := by
    rw [← pair.len_column a (by rw [hpair, ha]; exact .head _), hcolumn.len_eq,
      hhashes.length_eq]
  refine ⟨result, column, hresult, hcolumns', hlen.trans hrows, ?_, ?_⟩
  · intro i hi
    rw [hdistance.isNull_eq i (hlen ▸ hi), isNull_hashColumn hcolumn hhashes,
      isNull_hashColumn hcolumn' hhashes']
  · intro i x y hx hy
    obtain ⟨img, hdecode, hvalue⟩ := value_hashColumn hcolumn hhashes hx
    obtain ⟨img', hdecode', hvalue'⟩ := value_hashColumn hcolumn' hhashes' hy
    obtain ⟨hi, -⟩ := List.getElem?_eq_some_iff.1 hx
    refine ⟨img, img', hdecode, hdecode', ?_⟩
    rw [hdistance.value_eq i (hrows ▸ hi) _ _ hvalue hvalue',
      ← toNat_hammingDistance_of_isWordOf (isWordOf_natCast rfl) (isWordOf_natCast rfl),
      toNat_hammingDistance_hashes model]

end Distances

/-! ## The sample next to itself -/

/-- A batch that shows the columns of another twice. -/
def besideItself (batch : RecordBatch) : RecordBatch where
  schema := ⟨batch.schema.fields ++ batch.schema.fields⟩
  columns := batch.columns ++ batch.columns
  numRows := batch.numRows
  len_column column hcolumn := by
    rw [List.mem_append, or_self] at hcolumn
    exact batch.len_column column hcolumn

theorem phashDistance_of_hashes_samplePng :
    ∃ out result column,
      ((FunctionName.blob .phash).function (referenceCrates noExif)).call arrowNames noArguments
          (blobBatch [some ReferenceCodec.samplePng, none]) = .ok out ∧
        (FunctionName.phashDistance.function (referenceCrates noExif)).call arrowNames
            noArguments (besideItself out) = .ok result ∧
          result.columns = [column] ∧
            @SimilarityColumn (referenceCrates noExif) blackHasherModel .perceptual
              [some ReferenceCodec.samplePng, none] [some ReferenceCodec.samplePng, none]
              column := by
  have hhash : (((FunctionName.blob (hashName .perceptual)).function
      (referenceCrates noExif)).call arrowNames noArguments
        (blobBatch [some ReferenceCodec.samplePng, none])).toBool := by
    decide +kernel
  obtain ⟨out, hout⟩ := exists_eq_ok_of_toBool hhash
  obtain ⟨result, column, hresult, hcolumn, hsimilarity⟩ :=
    @phashDistance_of_hashes (referenceCrates noExif) .perceptual singleColumnBind_laws
      blackHasherModel _ _ out out (besideItself out) _ _ (carriesBatch_blobBatch _)
      (carriesBatch_blobBatch _) noArguments noArguments hout hout rfl noArguments
  exact ⟨out, result, column, hout, hresult, hcolumn, hsimilarity⟩

end VgiImage.Scalar
