import VgiImage.Scalar.Nested

/-!
# The functions that decode an image

`image_info`, `phash`, `dhash` and `ahash` open each blob and compute from the
decoded image without failing.  So they accept the same columns, reject the
others with the same error, and are NULL in the same rows, and what the worker
re-encoded without an error they can all be asked about.
-/

namespace VgiImage.Scalar

open Arrow ArrowIo Imaging Outcome RowLoop

/-! ## Strings of bounded length -/

section Bytes

variable {α : Type} [ByteLen α]

theorem valueBytes_le_mul {slots : List (Option α)} {bound : ℕ}
    (h : ∀ slot ∈ slots, slotBytes slot ≤ bound) : valueBytes slots ≤ slots.length * bound := by
  have hsum := List.sum_le_card_nsmul (slots.map slotBytes) bound fun size hsize => by
    obtain ⟨slot, hslot, rfl⟩ := List.mem_map.1 hsize
    exact h slot hslot
  rwa [List.length_map, smul_eq_mul] at hsum

end Bytes

theorem utf8ByteSize_unknown_le : "unknown".utf8ByteSize ≤ 8 := by decide

theorem utf8ByteSize_formatName_le (format : ImageFormat) :
    (formatName format).utf8ByteSize ≤ 8 := by
  cases format
  case other => exact utf8ByteSize_unknown_le
  all_goals decide

theorem utf8ByteSize_colorName_le (color : ColorType) : (colorName color).utf8ByteSize ≤ 8 := by
  cases color
  case other =>
    have hother : "other".utf8ByteSize ≤ 8 := by decide
    exact hother
  all_goals decide

/-- The strings `image_info` reports have at most eight bytes. -/
theorem utf8ByteSize_imageInfo_le {crate : ImageCrate} {blob : Blob} {info : Imaging.ImageInfo}
    (h : imageInfo crate blob = .ok info) :
    info.format.utf8ByteSize ≤ 8 ∧ info.color.utf8ByteSize ≤ 8 := by
  cases hopen : openImage crate blob with
  | error e =>
      rw [imageInfo_eq_error_iff.2 hopen] at h
      cases h
  | ok opened =>
      obtain ⟨format, img⟩ := opened
      rw [imageInfo_of_openImage hopen] at h
      cases h
      refine ⟨?_, utf8ByteSize_colorName_le _⟩
      cases format with
      | none => exact utf8ByteSize_unknown_le
      | some format => exact utf8ByteSize_formatName_le format

/-- A row count for which the strings of `image_info` always fit. -/
def infoRows : ℕ := maxOffset / 8

theorem fits_imageInfo {rows : List (Option Imaging.ImageInfo)} (hlength : rows.length ≤ infoRows)
    (hrows : ∀ info, some info ∈ rows →
      info.format.utf8ByteSize ≤ 8 ∧ info.color.utf8ByteSize ≤ 8) :
    ImageInfo.Fits rows := by
  have hbytes : ∀ read : Imaging.ImageInfo → String,
      (∀ info, some info ∈ rows → (read info).utf8ByteSize ≤ 8) →
        valueBytes (rows.map (Option.map read)) ≤ maxOffset := by
    intro read hread
    have hslots : ∀ slot ∈ rows.map (Option.map read), slotBytes slot ≤ 8 := by
      intro slot hslot
      obtain ⟨row, hrow, rfl⟩ := List.mem_map.1 hslot
      cases row with
      | none => exact Nat.zero_le _
      | some info => exact hread info hrow
    calc
      valueBytes (rows.map (Option.map read)) ≤ rows.length * 8 := by
        simpa using valueBytes_le_mul hslots
      _ ≤ infoRows * 8 := Nat.mul_le_mul_right 8 hlength
      _ ≤ maxOffset := by decide
  exact ⟨hbytes _ fun info h => (hrows info h).1, hbytes _ fun info h => (hrows info h).2⟩

/-! ## The rows of a decoder -/

/-- The functions that only decode. -/
def decoders : List BlobName := [.imageInfo, .phash, .dhash, .ahash]

/-- What the image in a cell is opened as; NULL stays NULL. -/
def openRow (crates : Crates) (col : ArrayRef) :
    ℕ → Run (Option (Option ImageFormat × DynamicImage)) :=
  columnRow crates.arrow (fun bytes => (liftImg (openImage crates.image bytes)).map some) col

/-- Rows that are NULL together. -/
def NullTogether {ρ τ : Type} (row : Option ρ) (row' : Option τ) : Prop :=
  row.isNone = row'.isNone

section Rows

variable {crates : Crates} {name : BlobName} {args : Arguments}
variable {rowOf : Blob → Run (Option (name.function crates).Row)}

/-- A decoder opens the image and then does not fail. -/
theorem rowOf_agrees (hname : name ∈ decoders)
    (hprepare : (name.function crates).prepare args = .ok rowOf) (bytes : Blob) :
    Agrees NullTogether (rowOf bytes) ((liftImg (openImage crates.image bytes)).map some) := by
  simp only [decoders, List.mem_cons, List.not_mem_nil, or_false] at hname
  rcases hname with rfl | rfl | rfl | rfl
  all_goals cases hprepare
  · change Agrees _ ((liftImg (imageInfo crates.image bytes)).map some) _
    cases hopen : openImage crates.image bytes with
    | error e =>
        rw [imageInfo_eq_error_iff.2 hopen]
        exact .error _
    | ok opened =>
        rw [imageInfo_of_openImage hopen]
        exact .ok rfl
  all_goals
    change Agrees _ ((liftImg (perceptualHash crates.image crates.hasher bytes _)).map some) _
    rw [perceptualHash, decode]
    cases openImage crates.image bytes with
    | error e => exact .error _
    | ok opened => exact .ok rfl

theorem columnRow_agrees (hname : name ∈ decoders)
    (hprepare : (name.function crates).prepare args = .ok rowOf) (col : ArrayRef) (i : ℕ) :
    Agrees NullTogether (columnRow crates.arrow rowOf col i) (openRow crates col i) := by
  rw [columnRow, openRow, columnRow]
  cases blobBytes crates.arrow col i with
  | error e => exact .error e
  | ok cell =>
      cases cell with
      | none => exact .ok rfl
      | some bytes => exact rowOf_agrees hname hprepare bytes

/-- The rows of a decoder fit its builders, of `image_info` up to `infoRows` of them. -/
theorem hasRoom_decoder (hname : name ∈ decoders)
    (hprepare : (name.function crates).prepare args = .ok rowOf) (col : ArrayRef) {rows : ℕ}
    (hrows : name = .imageInfo → rows ≤ infoRows) :
    HasRoom (columnRow crates.arrow rowOf col) (name.spec crates).fits rows := by
  intro out hlength hvalues
  simp only [decoders, List.mem_cons, List.not_mem_nil, or_false] at hname
  rcases hname with rfl | rfl | rfl | rfl
  · cases hprepare
    refine fits_imageInfo (hlength.trans (hrows rfl)) fun info hinfo => ?_
    obtain ⟨i, hi, hrow⟩ := List.mem_iff_getElem.1 hinfo
    obtain ⟨cell, -, hcell⟩ := bind_eq_ok_iff.1 (hvalues i hi)
    have hreported := hcell.trans (congrArg Except.ok hrow)
    cases cell with
    | none => cases hreported
    | some bytes =>
        obtain ⟨info', hinfo', hsome⟩ := map_eq_ok_iff.1 hreported
        cases hsome
        exact utf8ByteSize_imageInfo_le (liftImg_eq_ok_iff.1 hinfo')
  all_goals exact trivial

end Rows

/-! ## Calls that agree -/

/-- The batch is one column that is NULL where the rows are. -/
def NullsOf {ρ : Type} (out : RecordBatch) (rows : List (Option ρ)) : Prop :=
  ∃ column, out.columns = [column] ∧ column.len = rows.length ∧
    ∀ i, column.isNull i = (rows[i]?).join.isNone

/-- Two batches of one column, NULL in the same rows. -/
def SameNulls (out out' : RecordBatch) : Prop :=
  ∃ column column', out.columns = [column] ∧ out'.columns = [column'] ∧
    column.len = column'.len ∧ ∀ i, column.isNull i = column'.isNull i

theorem NullsOf.sameNulls {ρ : Type} {rows : List (Option ρ)} {out out' : RecordBatch}
    (h : NullsOf out rows) (h' : NullsOf out' rows) : SameNulls out out' := by
  obtain ⟨column, hout, hlen, hnull⟩ := h
  obtain ⟨column', hout', hlen', hnull'⟩ := h'
  exact ⟨column, column', hout, hout', hlen.trans hlen'.symm,
    fun i => (hnull i).trans (hnull' i).symm⟩

/-- Rows that are NULL together leave the same marks. -/
theorem nullsOf_of_emitted {f : ScalarFunction} {spec : BuilderSpec f} {schema : Schema}
    {out : RecordBatch} {rows : List (Option f.Row)} {τ : Type} {rows' : List (Option τ)}
    (h : Emitted spec schema out rows) (htogether : List.Forall₂ NullTogether rows rows') :
    NullsOf out rows' := by
  obtain ⟨column, hcolumn, rfl⟩ := h
  refine ⟨column, rfl, hcolumn.len_eq.trans htogether.length_eq, fun i => ?_⟩
  rw [hcolumn.isNull_eq]
  by_cases hi : i < rows.length
  · have hi' : i < rows'.length := htogether.length_eq ▸ hi
    rw [List.getElem?_eq_getElem hi, List.getElem?_eq_getElem hi']
    exact (List.forall₂_iff_get.1 htogether).2 i hi hi'
  · rw [List.getElem?_eq_none (by omega),
      List.getElem?_eq_none (by rw [← htogether.length_eq]; omega)]
    rfl

section Calls

variable {crates : Crates} {name name' : BlobName} {args : Arguments} {batch : RecordBatch}
variable {col : ArrayRef}

theorem exists_bind_decoder (hname : name ∈ decoders) (args : Arguments) :
    ∃ bound, ((FunctionName.blob name).function crates).onBind ⟨args⟩ = .ok bound := by
  simp only [decoders, List.mem_cons, List.not_mem_nil, or_false] at hname
  rcases hname with rfl | rfl | rfl | rfl
  all_goals exact ⟨_, rfl⟩

/-- A bound call on a blob column does what the loop over its blobs does. -/
theorem process_blob_agrees (hvgi : VgiLaws crates.vgi) {bound : BindResponse}
    (hbind : ((FunctionName.blob name).function crates).onBind ⟨args⟩ = .ok bound)
    {rowOf : Blob → Run (Option (name.function crates).Row)}
    (hrowOf : (name.function crates).prepare args = .ok rowOf)
    (hcol : batch.columns[0]? = some col) :
    Agrees (Emitted (name.spec crates) bound.outputSchema)
      (((name.function crates).toScalar crates.arrow).process crates.arrow
        ⟨bound.outputSchema, args⟩ batch)
      (emitRows (columnRow crates.arrow rowOf col) (name.spec crates).fits .panic
        batch.numRows) := by
  obtain ⟨field, hschema⟩ := exists_outputSchema hvgi (.blob name) hbind
  rw [← rowValue_eq_columnRow rowOf]
  exact (name.spec crates).process_agrees crates.arrow (toScalar_prepare hrowOf) hschema
    (mapM_inputs_of_column hcol)

/-- A decoder opens the blobs of its column. -/
theorem call_decoder_agrees (hvgi : VgiLaws crates.vgi) (hname : name ∈ decoders)
    (args : Arguments) (hcol : batch.columns[0]? = some col)
    (hrows : name = .imageInfo → batch.numRows ≤ infoRows) :
    Agrees NullsOf (((FunctionName.blob name).function crates).call crates.arrow args batch)
      (emitRows (openRow crates col) (fun _ => True) .panic batch.numRows) := by
  obtain ⟨bound, hbind⟩ := @exists_bind_decoder crates name hname args
  obtain ⟨evalRow, hprepare⟩ := exists_prepare_of_bind (.blob name) hbind
  obtain ⟨rowOf, hrowOf, rfl⟩ := map_eq_ok_iff.1 hprepare
  have hcall : ((FunctionName.blob name).function crates).call crates.arrow args batch =
      ((name.function crates).toScalar crates.arrow).process crates.arrow
        ⟨bound.outputSchema, args⟩ batch := bind_of_ok hbind _
  have hloops := emitRows_agrees Halt.panic Halt.panic
    (hasRoom_decoder hname hrowOf col hrows) (fun _ _ _ => trivial)
    fun i _ => columnRow_agrees hname hrowOf col i
  rw [hcall]
  exact (process_blob_agrees hvgi hbind hrowOf hcol).trans hloops
    fun _ _ _ => nullsOf_of_emitted

/-- The functions that decode an image accept the same batches, reject the others
with the same error, and are NULL in the same rows. -/
theorem decoders_agree (hvgi : VgiLaws crates.vgi) (hname : name ∈ decoders)
    (hname' : name' ∈ decoders) (args args' : Arguments)
    (hcol : batch.columns[0]? = some col) (hrows : name = .imageInfo → batch.numRows ≤ infoRows)
    (hrows' : name' = .imageInfo → batch.numRows ≤ infoRows) :
    Agrees SameNulls (((FunctionName.blob name).function crates).call crates.arrow args batch)
      (((FunctionName.blob name').function crates).call crates.arrow args' batch) :=
  (call_decoder_agrees hvgi hname args hcol hrows).compare
    (call_decoder_agrees hvgi hname' args' hcol hrows') fun _ _ _ h h' => h.sameNulls h'

/-- The rows of a function that re-encodes are blobs of images that open. -/
theorem exists_prepare_of_reencodes {imaging : Blob → Run Blob}
    (h : Reencodes crates args name imaging) :
    ∃ rowOf : Blob → Run (Option (name.function crates).Row),
      (name.function crates).prepare args = .ok rowOf ∧
        ∀ bytes row, rowOf bytes = .ok row →
          ∃ opened, openImage crates.image bytes = .ok opened ∧ NullTogether row (some opened) := by
  obtain ⟨transform, hasks, -⟩ := h.exists_asks
  obtain ⟨rowOf, hprepare, hagrees⟩ := @Asks.exists_prepare crates _ _ _ hasks
  refine ⟨rowOf, hprepare, fun bytes row hrow => ?_⟩
  obtain ⟨blob, hblob, hsome⟩ := (hagrees bytes).exists_of_left_ok hrow
  obtain ⟨source, hdecode, -⟩ := Transform.exists_decode hblob
  obtain ⟨format, hopen⟩ := decode_eq_ok_iff.1 hdecode
  exact ⟨(format, source), hopen, Option.isNone_eq_false_iff.2 hsome⟩

/-- When a column can be re-encoded, all four functions answer for it, with NULLs
in the same rows. -/
theorem decoders_of_reencoding (hvgi : VgiLaws crates.vgi) {call : BoundCall crates}
    {imaging : Blob → Run Blob} (hcall : call.Reencoding imaging)
    (hname : name ∈ decoders) (args : Arguments) (hcol : batch.columns[0]? = some col)
    (hrows : name = .imageInfo → batch.numRows ≤ infoRows) {out : RecordBatch}
    (hout : call.run batch = .ok out) :
    ∃ out', ((FunctionName.blob name).function crates).call crates.arrow args batch = .ok out' ∧
      SameNulls out out' := by
  cases hcall with
  | mk hbind h =>
    obtain ⟨rowOf, hrowOf, hopens⟩ := exists_prepare_of_reencodes h
    obtain ⟨rows, hemit, hemitted⟩ :=
      (process_blob_agrees hvgi hbind hrowOf hcol).exists_of_left_ok hout
    have hopened : ∃ opened, emitRows (openRow crates col) (fun _ => True) Halt.panic
        batch.numRows = .ok opened ∧ List.Forall₂ NullTogether rows opened := by
      apply exists_emitRows_of_related hemit fun _ _ _ => trivial
      intro i _ row hrow
      obtain ⟨cell, hcell, hrow⟩ := bind_eq_ok_iff.1 hrow
      rw [openRow, columnRow, bind_of_ok hcell]
      cases cell with
      | none =>
          cases hrow
          exact ⟨none, rfl, rfl⟩
      | some bytes =>
          obtain ⟨opened, hopened, hnull⟩ := hopens bytes row hrow
          exact ⟨some opened, map_eq_ok_iff.2 ⟨opened, liftImg_eq_ok_iff.2 hopened, rfl⟩, hnull⟩
    obtain ⟨opened, hopen, htogether⟩ := hopened
    obtain ⟨out', hout', hnulls⟩ :=
      (call_decoder_agrees hvgi hname args hcol hrows).exists_of_right_ok hopen
    exact ⟨out', hout', (nullsOf_of_emitted hemitted htogether).sameNulls hnulls⟩

end Calls

/-! ## A sample and a NULL -/

/-- The facts and the hash of the sample. -/
theorem decoders_agree_samplePng :
    Agrees SameNulls
      (((FunctionName.blob .imageInfo).function (referenceCrates noExif)).call arrowNames
        noArguments (blobBatch [some ReferenceCodec.samplePng, none]))
      (((FunctionName.blob .phash).function (referenceCrates noExif)).call arrowNames
        noArguments (blobBatch [some ReferenceCodec.samplePng, none])) :=
  @decoders_agree (referenceCrates noExif) .imageInfo .phash
    (blobBatch [some ReferenceCodec.samplePng, none]) _ singleColumnBind_laws (by decide)
    (by decide) noArguments noArguments rfl (fun _ => by decide) fun _ => by decide

/-- The hash of a sample that has a thumbnail. -/
theorem decoders_of_reencoding_samplePng :
    ∃ out out', thumbnailCall.run (blobBatch [some ReferenceCodec.samplePng, none]) = .ok out ∧
      ((FunctionName.blob .phash).function (referenceCrates noExif)).call arrowNames
          noArguments (blobBatch [some ReferenceCodec.samplePng, none]) = .ok out' ∧
        SameNulls out out' := by
  have hrun : (thumbnailCall.run (blobBatch [some ReferenceCodec.samplePng, none])).toBool := by
    decide +kernel
  obtain ⟨out, hout⟩ := exists_eq_ok_of_toBool hrun
  obtain ⟨out', hout', hnulls⟩ := decoders_of_reencoding singleColumnBind_laws
    (.mk thumbnailCall.onBind_eq .thumbnail) (show .phash ∈ decoders by decide) noArguments rfl
    (fun _ => by decide) hout
  exact ⟨out, out', hout, hout', hnulls⟩

end VgiImage.Scalar
