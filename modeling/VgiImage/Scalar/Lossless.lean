import VgiImage.Imaging.Lossless
import VgiImage.Scalar.Nested

/-!
# Conversions that leave no trace

The hashes, the thumbnails and the conversions of a column are those of the column it
was converted from, however long the chain of conversions, as long as every format
keeps the samples of the images that go through.
-/

namespace VgiImage.Scalar

open Arrow ArrowIo Imaging Outcome RowLoop Stages

/-- The functions that look at the decoded image alone. -/
def pixelFunctions : List BlobName :=
  [.phash, .dhash, .ahash, .thumbnail, .thumbnailFit, .convert]

section Rows

variable {crates : Crates} {name : BlobName} {args : Arguments}
variable {rowOf : Blob → Run (Option (name.function crates).Row)}

/-- Blobs that decode to the same image have the same row. -/
theorem rowOf_congr (hname : name ∈ pixelFunctions)
    (hprepare : (name.function crates).prepare args = .ok rowOf) {bytes bytes' : Blob}
    (h : decode crates.image bytes = decode crates.image bytes') : rowOf bytes = rowOf bytes' := by
  simp only [pixelFunctions, List.mem_cons, List.not_mem_nil, or_false] at hname
  rcases hname with rfl | rfl | rfl | rfl | rfl | rfl
  case inr.inr.inr.inl =>
    obtain rfl := Except.ok.inj ((reencoder_prepare (Thumbnail.prepare_eq crates args)).symm.trans
      hprepare)
    exact congrArg (Except.map some) (callThumbnail_congr _ _ _ h)
  case inr.inr.inr.inr.inl =>
    obtain ⟨imaging, himaging, rfl⟩ := map_eq_ok_iff.1 hprepare
    obtain ⟨w, -, himaging⟩ := bind_eq_ok_iff.1 himaging
    obtain ⟨height, -, himaging⟩ := bind_eq_ok_iff.1 himaging
    obtain ⟨fmt, -, himaging⟩ := bind_eq_ok_iff.1 himaging
    cases himaging
    exact congrArg (Except.map some) (callThumbnail_congr _ _ _ h)
  case inr.inr.inr.inr.inr =>
    obtain ⟨imaging, himaging, rfl⟩ := map_eq_ok_iff.1 hprepare
    obtain ⟨fmt, -, himaging⟩ := bind_eq_ok_iff.1 himaging
    cases himaging
    exact congrArg (Except.map some) (callConvert_congr _ h)
  all_goals
    cases hprepare
    exact congrArg (fun hash => (liftImg hash).map some) (perceptualHash_congr _ _ h)

theorem cellRow_congr (hname : name ∈ pixelFunctions)
    (hprepare : (name.function crates).prepare args = .ok rowOf) {cell cell' : Option Blob}
    (h : cell.map (decode crates.image) = cell'.map (decode crates.image)) :
    cellRow rowOf cell = cellRow rowOf cell' := by
  cases cell with
  | none =>
      rw [Option.map_eq_none_iff.1 h.symm]
  | some bytes =>
      obtain ⟨bytes', rfl, hsame⟩ := Option.map_eq_some_iff.1 h.symm
      exact rowOf_congr hname hprepare hsame.symm

/-- Columns whose cells decode to the same images compute the same rows. -/
theorem rowValue_of_decode (hname : name ∈ pixelFunctions)
    (hprepare : (name.function crates).prepare args = .ok rowOf) {col col' : ArrayRef}
    {cells cells' : List (Option Blob)} (hcells : Carries col cells)
    (hcells' : Carries col' cells')
    (h : List.Forall₂ (fun cell cell' => cell.map (decode crates.image) =
      cell'.map (decode crates.image)) cells cells') {i : ℕ} (hi : i < cells.length) :
    ((name.function crates).toScalar crates.arrow).rowValue (onBlob rowOf) [col] i =
      ((name.function crates).toScalar crates.arrow).rowValue (onBlob rowOf) [col'] i := by
  rw [rowValue_of_carries _ crates.arrow _ hcells, rowValue_of_carries _ crates.arrow _ hcells']
  have hi' : i < cells'.length := h.length_eq ▸ hi
  change cellRow rowOf (cells[i]?).join = cellRow rowOf (cells'[i]?).join
  rw [join_getElem? hi, join_getElem? hi']
  exact cellRow_congr hname hprepare ((List.forall₂_iff_get.1 h).2 i hi hi')

end Rows

section Calls

variable {crates : Crates} {name : BlobName} {batch out : RecordBatch}
variable {cells : List (Option Blob)}

/-- A call on what lossless conversions made of a column is the call on the column
itself. -/
theorem call_of_conversions (laws : LosslessLaws crates.image) (hvgi : VgiLaws crates.vgi)
    {calls : List (BoundCall crates)} {formats : List OutFormat}
    (hcalls : List.Forall₂ BoundCall.Reencoding calls (conversions crates.image formats))
    (hcells : CarriesBatch batch cells)
    (hkeeps : ∀ bytes, some bytes ∈ cells → ∀ img, decode crates.image bytes = .ok img →
      ∀ format ∈ formats, format.keeps img)
    (hout : BoundCall.nested calls batch = .ok out) (hname : name ∈ pixelFunctions)
    (args : Arguments) :
    ((FunctionName.blob name).function crates).call crates.arrow args out =
      ((FunctionName.blob name).function crates).call crates.arrow args batch := by
  obtain ⟨results, ⟨col', hcol', hcarries'⟩, hthrough⟩ :=
    nested_output hvgi hcalls hcells hout
  obtain ⟨col, hcol, hcarries⟩ := hcells
  have hdecodes : List.Forall₂ (fun cell cell' => cell.map (decode crates.image) =
      cell'.map (decode crates.image)) results cells := by
    apply List.forall₂_iff_get.2
    refine ⟨hthrough.length_eq.symm, fun i hi hi' => ?_⟩
    have hmem := List.getElem_mem hi'
    have hcell := (List.forall₂_iff_get.1 hthrough).2 i hi' hi
    rw [List.get_eq_getElem, List.get_eq_getElem] at hcell ⊢
    generalize cells[i] = cell, results[i] = result at hmem hcell
    cases hcell with
    | null => rfl
    | blob hblob => exact congrArg some (decode_through laws (hkeeps _ hmem) hblob)
  rw [ScalarFunction.call, ScalarFunction.call]
  congr
  funext bound
  apply ScalarFunction.process_congr _ _ (mapM_inputs_of_column hcol')
    (mapM_inputs_of_column hcol)
  · rw [numRows_eq hcol hcarries, numRows_eq hcol' hcarries', hdecodes.length_eq]
  · intro evalRow hprepare i hi
    obtain ⟨rowOf, hrowOf, rfl⟩ := map_eq_ok_iff.1 hprepare
    apply rowValue_of_decode hname hrowOf hcarries' hcarries hdecodes
    rwa [hdecodes.length_eq, ← numRows_eq hcol hcarries]

end Calls

/-- The hash of the sample from its BMP. -/
theorem call_of_conversions_samplePng :
    ∃ out, BoundCall.nested [convertBmpCall] (blobBatch [some ReferenceCodec.samplePng, none]) =
        .ok out ∧
      ((FunctionName.blob .phash).function (referenceCrates noExif)).call arrowNames
          noArguments out =
        ((FunctionName.blob .phash).function (referenceCrates noExif)).call arrowNames
          noArguments (blobBatch [some ReferenceCodec.samplePng, none]) := by
  have hrun : (BoundCall.nested [convertBmpCall]
      (blobBatch [some ReferenceCodec.samplePng, none])).toBool := by
    decide +kernel
  obtain ⟨out, hout⟩ := exists_eq_ok_of_toBool hrun
  refine ⟨out, hout, ?_⟩
  apply @call_of_conversions (referenceCrates noExif) .phash _ out _ ReferenceCodec.losslessLaws
    singleColumnBind_laws _ [.bmp]
    (.cons (.mk convertBmpCall.onBind_eq (reencodes_convert_bmp noExif)) .nil)
    (carriesBatch_blobBatch _) _ hout (by decide)
  intro bytes hbytes img himg format hformat
  obtain rfl := List.mem_singleton.1 hformat
  have hsample : bytes = ReferenceCodec.samplePng := by
    simpa using hbytes
  rw [hsample] at himg
  obtain rfl := Except.ok.inj (ReferenceCodec.decode_samplePng.symm.trans himg)
  rfl

end VgiImage.Scalar
