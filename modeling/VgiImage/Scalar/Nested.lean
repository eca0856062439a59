import VgiImage.Core.Stages
import VgiImage.Scalar.Rebatch

/-!
# Nested calls

`thumbnail`, `thumbnail_fit` and `convert` take and return blobs, so their calls
nest: each runs on the whole column the one inside it returned.  Unless a column
in between outgrows its offsets, a nested call computes row by row what the
imaging functions compute one after the other, panics included.
-/

namespace VgiImage.Scalar

open Arrow ArrowIo Imaging Outcome RowLoop Stages

/-! ## Bound calls -/

/-- A call whose constant arguments were accepted at bind. -/
structure BoundCall (crates : Crates) where
  name : FunctionName
  args : Arguments
  bound : BindResponse
  onBind_eq : (name.function crates).onBind ⟨args⟩ = .ok bound

namespace BoundCall

variable {crates : Crates}

/-- The call on a batch. -/
def run (call : BoundCall crates) (batch : RecordBatch) : Run RecordBatch :=
  (call.name.function crates).process crates.arrow ⟨call.bound.outputSchema, call.args⟩ batch

/-- Calls inside out: each runs on what the one before it returned. -/
def nested (calls : List (BoundCall crates)) (batch : RecordBatch) : Run RecordBatch :=
  calls.foldlM (fun batch call => call.run batch) batch

/-- The call re-encodes blobs by `imaging`. -/
inductive Reencoding : BoundCall crates → (Blob → Run Blob) → Prop
  | mk {name : BlobName} {args : Arguments} {bound : BindResponse}
      {imaging : Blob → Run Blob}
      (hbind : ((FunctionName.blob name).function crates).onBind ⟨args⟩ = .ok bound)
      (h : Reencodes crates args name imaging) :
      Reencoding ⟨.blob name, args, bound, hbind⟩ imaging

end BoundCall

/-! ## One stage -/

/-- What a re-encoding function makes of a cell. -/
def cellStage (imaging : Blob → Run Blob) : Option Blob → Run (Option Blob) :=
  cellRow fun bytes => (imaging bytes).map some

/-- A batch whose first column carries the cells. -/
def CarriesBatch (batch : RecordBatch) (cells : List (Option Blob)) : Prop :=
  ∃ column, batch.columns[0]? = some column ∧ Carries column cells

/-- A finished binary column carries its rows. -/
theorem carries_of_column {readable : List (Option Blob) → Prop} {column : ArrayRef}
    {rows : List (Option Blob)}
    (h : Column (.scalar .binary) blobValue readable column rows) (hreadable : readable rows) :
    Carries column rows := by
  have htype := h.dataType_eq
  cases column with
  | scalar array =>
      cases array
      case binary slots =>
        have hlength : slots.length = rows.length := by
          have := h.len_eq
          simpa [ArrayRef.len, ScalarArray.len, ScalarArray.slots] using this
        have hslots : slots = rows := by
          apply List.ext_getElem hlength
          intro i hi hi'
          have hvalue := h.value_eq hreadable i
          rw [ArrayRef.value, value_binary, List.getElem?_eq_getElem hi,
            List.getElem?_eq_getElem hi'] at hvalue
          cases hslot : slots[i] <;> cases hrow : rows[i] <;>
            simp [hslot, hrow, blobValue] at hvalue ⊢
          exact hvalue
        rw [hslots]
        exact .binary rows
      all_goals simp [ArrayRef.dataType, ScalarArray.dataType] at htype
  | null | struct | map | other => cases htype

section Stage

variable {crates : Crates} {call : BoundCall crates} {imaging : Blob → Run Blob}
variable {batch : RecordBatch} {col : ArrayRef} {cells : List (Option Blob)}

/-- The rows of a stage. -/
def stageRow (imaging : Blob → Run Blob) (cells : List (Option Blob)) (i : ℕ) :
    Run (Option Blob) :=
  cellStage imaging (cells[i]?).join

theorem reencoder_agrees {name : String} {onBind : BindParams → Run BindResponse}
    {prepare : Arguments → Run (Blob → Run Blob)} {arrow : ArrowCrate}
    {args : Arguments} (hprepare : prepare args = .ok imaging) {schema : Schema} {field : String}
    (hschema : schema = ⟨[⟨field, .scalar .binary, true⟩]⟩)
    (hcol : batch.columns[0]? = some col) (hcells : Carries col cells) :
    Agrees CarriesBatch
      (((reencoder name onBind prepare).toScalar arrow).process arrow ⟨schema, args⟩ batch)
      (emitRows (stageRow imaging cells) BlobsFit .panic cells.length) := by
  have hagrees := (reencoderSpec arrow name onBind prepare).process_agrees_cells
    (reencoder_prepare hprepare) hschema hcol hcells
  refine hagrees.imp fun out rows hout => ?_
  obtain ⟨column, hcolumn, rfl⟩ := hout
  exact ⟨column, rfl, carries_of_column hcolumn trivial⟩

/-- A call does what its stage does. -/
theorem run_agrees (hvgi : VgiLaws crates.vgi) (h : call.Reencoding imaging)
    (hcells : CarriesBatch batch cells) :
    Agrees CarriesBatch (call.run batch)
      (emitRows (stageRow imaging cells) BlobsFit .panic cells.length) := by
  obtain ⟨col, hcol, hcells⟩ := hcells
  cases h with
  | @mk name args bound imaging hbind h =>
    obtain ⟨field, hschema⟩ := exists_outputSchema hvgi (.blob name) hbind
    cases h
    case thumbnail =>
      exact reencoder_agrees (Thumbnail.prepare_eq crates args) hschema hcol hcells
    case thumbnailFit w h fmt hw hh hfmt =>
      exact reencoder_agrees (ThumbnailFit.prepare_eq crates hw hh hfmt) hschema hcol hcells
    case convert fmt hfmt =>
      exact reencoder_agrees (Convert.prepare_eq crates hfmt) hschema hcol hcells

/-- A stage reads its cells in order, when its output fits. -/
theorem emitRows_stageRow (hfits : BlobsFit (stretch (stageRow imaging cells) cells.length)) :
    emitRows (stageRow imaging cells) BlobsFit .panic cells.length =
      cells.mapM (cellStage imaging) := by
  apply emitRows_eq_mapM
  · intro i hi
    rw [stageRow, join_getElem? hi]
  · exact (hasRoom_iff fun _ _ => blobsFit_of_concat).2 hfits

theorem emitRows_stageRow_eq_panic
    (hfull : ¬ BlobsFit (stretch (stageRow imaging cells) cells.length)) :
    emitRows (stageRow imaging cells) BlobsFit .panic cells.length = .error .panic :=
  emitRows_of_not_fits (Nat.zero_le _) (fun _ _ => blobsFit_of_concat) hfull

end Stage

/-! ## All stages -/

section Nested

variable {crates : Crates} {imaging : Blob → Run Blob}
variable {stages : List (Blob → Run Blob)} {cells : List (Option Blob)}

/-- The output of every stage that is reached fits a binary column. -/
def StagesFit (stages : List (Blob → Run Blob)) (cells : List (Option Blob)) :
    Prop :=
  ∀ passed imaging rest middle, stages = passed ++ imaging :: rest →
    stagewise (passed.map cellStage) cells = .ok middle →
      BlobsFit (stretch (stageRow imaging middle) middle.length)

theorem stagesFit_cons :
    StagesFit (imaging :: stages) cells ↔
      BlobsFit (stretch (stageRow imaging cells) cells.length) ∧
        ∀ middle, cells.mapM (cellStage imaging) = .ok middle → StagesFit stages middle := by
  constructor
  · intro h
    refine ⟨h [] imaging stages cells rfl rfl, fun middle hmiddle => ?_⟩
    rintro passed next rest last rfl hlast
    refine h (imaging :: passed) next rest last rfl ?_
    rw [List.map_cons, stagewise, List.foldlM_cons, bind_of_ok hmiddle]
    exact hlast
  · rintro ⟨hfirst, hlater⟩ passed next rest last hstages hlast
    cases passed with
    | nil =>
        cases hstages
        cases hlast
        exact hfirst
    | cons first passed =>
        obtain ⟨rfl, rfl⟩ := List.cons.inj hstages
        rw [List.map_cons, stagewise, List.foldlM_cons] at hlast
        obtain ⟨middle, hmiddle, hpassed⟩ := bind_eq_ok_iff.1 hlast
        exact hlater middle hmiddle passed next rest last rfl hpassed

/-- Nested calls do what the stages do, or panic when the output of a stage does
not fit. -/
theorem nested_agrees (hvgi : VgiLaws crates.vgi) {calls : List (BoundCall crates)}
    (hcalls : List.Forall₂ BoundCall.Reencoding calls stages) {batch : RecordBatch}
    (hcells : CarriesBatch batch cells) :
    (StagesFit stages cells → Agrees CarriesBatch (BoundCall.nested calls batch)
        (stagewise (stages.map cellStage) cells)) ∧
      (¬ StagesFit stages cells → BoundCall.nested calls batch = .error .panic) := by
  induction hcalls generalizing batch cells with
  | nil =>
      refine ⟨fun _ => .ok hcells, fun h => absurd ?_ h⟩
      intro passed imaging rest middle hstages
      simp at hstages
  | @cons call imaging calls stages hcall hcalls ih =>
      have hrun := run_agrees hvgi hcall hcells
      simp only [BoundCall.nested, List.map_cons, stagewise, List.foldlM_cons, stagesFit_cons]
      by_cases hfits : BlobsFit (stretch (stageRow imaging cells) cells.length)
      · rw [emitRows_stageRow hfits] at hrun
        cases hmiddle : cells.mapM (cellStage imaging) with
        | error e =>
            rw [hrun.left_error hmiddle]
            refine ⟨fun _ => .error e, fun h => absurd ⟨hfits, ?_⟩ h⟩
            intro middle hnone
            cases hnone
        | ok middle =>
            obtain ⟨out, hout, hcarries⟩ := hrun.exists_of_right_ok hmiddle
            rw [hout]
            obtain ⟨hagrees, hpanic⟩ := ih hcarries
            refine ⟨fun h => hagrees (h.2 middle rfl), fun h => hpanic fun hlater => ?_⟩
            refine h ⟨hfits, ?_⟩
            rintro _ ⟨⟩
            exact hlater
      · rw [emitRows_stageRow_eq_panic hfits] at hrun
        rw [hrun.left_error rfl]
        exact ⟨fun h => absurd h.1 hfits, fun _ => rfl⟩

/-! ## The outcome of nested calls -/

/-- What a cell becomes: NULL stays NULL, and bytes go through all stages. -/
inductive CellThrough (stages : List (Blob → Run Blob)) :
    Option Blob → Option Blob → Prop
  | null : CellThrough stages none none
  | blob {bytes result : Blob} (h : through stages bytes = .ok result) :
      CellThrough stages (some bytes) (some result)

theorem through_none (stages : List (Blob → Run Blob)) :
    through (stages.map cellStage) none = .ok none := by
  induction stages with
  | nil => rfl
  | cons imaging stages ih =>
      rw [List.map_cons, through, List.foldlM_cons]
      exact ih

theorem through_some (stages : List (Blob → Run Blob)) (bytes : Blob) :
    through (stages.map cellStage) (some bytes) = (through stages bytes).map some := by
  induction stages generalizing bytes with
  | nil => rfl
  | cons imaging stages ih =>
      have hcell : cellStage imaging (some bytes) = (imaging bytes).map some := rfl
      rw [List.map_cons, through, List.foldlM_cons, through, List.foldlM_cons, hcell]
      cases imaging bytes with
      | error halt => rfl
      | ok result => exact ih result

theorem through_eq_ok_iff {cell result : Option Blob} :
    through (stages.map cellStage) cell = .ok result ↔ CellThrough stages cell result := by
  cases cell with
  | none =>
      rw [through_none]
      constructor
      · rintro ⟨⟩
        exact .null
      · rintro ⟨⟩
        rfl
  | some bytes =>
      rw [through_some, map_eq_ok_iff]
      constructor
      · rintro ⟨out, hout, rfl⟩
        exact .blob hout
      · intro h
        cases h with
        | blob h => exact ⟨_, h, rfl⟩

theorem exists_through_iff {cell : Option Blob} :
    (∃ result, through (stages.map cellStage) cell = .ok result) ↔
      ∀ bytes, cell = some bytes → ∃ result, through stages bytes = .ok result := by
  simp only [through_eq_ok_iff]
  cases cell with
  | none => exact iff_of_true ⟨none, .null⟩ nofun
  | some bytes =>
      constructor
      · rintro ⟨result, hresult⟩ _ ⟨⟩
        cases hresult with
        | blob h => exact ⟨_, h⟩
      · intro h
        obtain ⟨result, hresult⟩ := h bytes rfl
        exact ⟨some result, .blob hresult⟩

/-- The first failing cell of a stage. -/
theorem failsFirst_cellStage_iff {k : ℕ} {halt : Halt} :
    FailsFirst (cellStage imaging) cells k halt ↔
      (∃ bytes, cells[k]? = some (some bytes) ∧ imaging bytes = .error halt) ∧
        ∀ j < k, ∀ bytes, cells[j]? = some (some bytes) → ∃ result, imaging bytes = .ok result := by
  refine and_congr ?_ (forall₂_congr fun j _ => ?_)
  · constructor
    · rintro ⟨cell, hcell, hfail⟩
      obtain ⟨bytes, rfl, hhalt⟩ := cellRow_eq_error_iff.1 hfail
      exact ⟨bytes, hcell, map_eq_error_iff.1 hhalt⟩
    · rintro ⟨bytes, hcell, hhalt⟩
      exact ⟨some bytes, hcell, cellRow_eq_error_iff.2 ⟨bytes, rfl, map_eq_error_iff.2 hhalt⟩⟩
  · constructor
    · intro h bytes hbytes
      obtain ⟨cell, hcell⟩ := h (some bytes) hbytes
      obtain ⟨result, hresult, -⟩ := map_eq_ok_iff.1 hcell
      exact ⟨result, hresult⟩
    · intro h cell hcell
      refine exists_cellRow_eq_ok_iff.2 ?_
      rintro bytes rfl
      obtain ⟨result, hresult⟩ := h bytes hcell
      exact ⟨some result, map_eq_ok_iff.2 ⟨result, hresult, rfl⟩⟩

/-- The first failing cell of the first stage at which a cell fails ends with
`halt`. -/
def FailsInStage (stages : List (Blob → Run Blob)) (cells : List (Option Blob))
    (halt : Halt) : Prop :=
  ∃ (passed : List (Blob → Run Blob)) (imaging : Blob → Run Blob)
    (rest : List (Blob → Run Blob)) (middle : List (Option Blob)) (k : ℕ),
    stages = passed ++ imaging :: rest ∧ List.Forall₂ (CellThrough passed) cells middle ∧
      (∃ bytes, middle[k]? = some (some bytes) ∧ imaging bytes = .error halt) ∧
        ∀ j < k, ∀ bytes, middle[j]? = some (some bytes) → ∃ blob, imaging bytes = .ok blob

/-- What nested calls on the cells return. -/
structure NestedOutcome (stages : List (Blob → Run Blob))
    (cells : List (Option Blob)) (result : Run RecordBatch) : Prop where
  /-- A panic means that the output of a stage does not fit, or that an image is
  scaled past the pixel buffer. -/
  panic_iff : result = .error .panic ↔
    ¬ StagesFit stages cells ∨ FailsInStage stages cells .panic
  ok_iff : (∃ out, result = .ok out) ↔ StagesFit stages cells ∧
    ∀ bytes, some bytes ∈ cells → ∃ blob, through stages bytes = .ok blob
  /-- Each cell has gone through all stages. -/
  output {out : RecordBatch} (h : result = .ok out) :
    ∃ results, CarriesBatch out results ∧ List.Forall₂ (CellThrough stages) cells results
  error_iff (e : RpcError) : result = .error (.error e) ↔
    StagesFit stages cells ∧ FailsInStage stages cells (.error e)

theorem stagewise_cellStage_eq_ok_iff {results : List (Option Blob)} :
    stagewise (stages.map cellStage) cells = .ok results ↔
      List.Forall₂ (CellThrough stages) cells results := by
  rw [stagewise_eq_ok_iff]
  simp only [through_eq_ok_iff]

theorem exists_stagewise_cellStage_iff :
    (∃ results, stagewise (stages.map cellStage) cells = .ok results) ↔
      ∀ bytes, some bytes ∈ cells → ∃ blob, through stages bytes = .ok blob := by
  rw [exists_stagewise_iff]
  simp only [exists_through_iff]
  constructor
  · intro h bytes hbytes
    exact h _ hbytes bytes rfl
  · rintro h _ hcell bytes rfl
    exact h bytes hcell

theorem stagewise_cellStage_eq_error_iff {halt : Halt} :
    stagewise (stages.map cellStage) cells = .error halt ↔ FailsInStage stages cells halt := by
  rw [stagewise_eq_error_iff]
  constructor
  · rintro ⟨passed, stage, rest, middle, k, hstages, hmiddle, hk⟩
    obtain ⟨passed', tail, rfl, rfl, htail⟩ := List.map_eq_append_iff.1 hstages
    obtain ⟨imaging, rest', rfl, rfl, rfl⟩ := List.map_eq_cons_iff.1 htail
    exact ⟨passed', imaging, rest', middle, k, rfl, stagewise_cellStage_eq_ok_iff.1 hmiddle,
      failsFirst_cellStage_iff.1 hk⟩
  · rintro ⟨passed, imaging, rest, middle, k, rfl, hmiddle, hk⟩
    exact ⟨passed.map cellStage, cellStage imaging, rest.map cellStage, middle, k, by simp,
      stagewise_cellStage_eq_ok_iff.2 hmiddle, failsFirst_cellStage_iff.2 hk⟩

/-- The results of nested calls are the cells after all stages. -/
theorem nested_output (hvgi : VgiLaws crates.vgi) {calls : List (BoundCall crates)}
    (hcalls : List.Forall₂ BoundCall.Reencoding calls stages) {batch out : RecordBatch}
    (hcells : CarriesBatch batch cells) (hout : BoundCall.nested calls batch = .ok out) :
    ∃ results, CarriesBatch out results ∧ List.Forall₂ (CellThrough stages) cells results := by
  obtain ⟨hagrees, hpanic⟩ := nested_agrees hvgi hcalls hcells
  have hfits : StagesFit stages cells := by
    by_contra hfull
    rw [hpanic hfull] at hout
    cases hout
  obtain ⟨results, hresults, hcarries⟩ := (hagrees hfits).exists_of_left_ok hout
  exact ⟨results, hcarries, stagewise_cellStage_eq_ok_iff.1 hresults⟩

/-- Nested re-encoding calls of any depth compute row by row what their imaging
functions compute one after the other. -/
theorem nested_outcome (hvgi : VgiLaws crates.vgi) {calls : List (BoundCall crates)}
    (hcalls : List.Forall₂ BoundCall.Reencoding calls stages) {batch : RecordBatch}
    (hcells : CarriesBatch batch cells) :
    NestedOutcome stages cells (BoundCall.nested calls batch) := by
  obtain ⟨hagrees, hpanic⟩ := nested_agrees hvgi hcalls hcells
  have hfits_of : ∀ {result}, BoundCall.nested calls batch = result →
      result ≠ .error .panic → StagesFit stages cells := by
    rintro _ rfl h
    by_contra hfull
    exact h (hpanic hfull)
  have herror : ∀ halt, StagesFit stages cells →
      (BoundCall.nested calls batch = .error halt ↔ FailsInStage stages cells halt) :=
    fun halt hfits => (Iff.intro (hagrees hfits).right_error (hagrees hfits).left_error).trans
      stagewise_cellStage_eq_error_iff
  refine ⟨?_, ?_, fun h => nested_output hvgi hcalls hcells h, fun e => ?_⟩
  · by_cases hfits : StagesFit stages cells
    · rw [herror .panic hfits]
      exact (or_iff_right (not_not_intro hfits)).symm
    · exact iff_of_true (hpanic hfits) (Or.inl hfits)
  · constructor
    · rintro ⟨out, hout⟩
      have hfits := hfits_of hout nofun
      exact ⟨hfits, exists_stagewise_cellStage_iff.1 ((hagrees hfits).exists_ok_iff.1 ⟨out, hout⟩)⟩
    · rintro ⟨hfits, hcells⟩
      exact (hagrees hfits).exists_ok_iff.2 (exists_stagewise_cellStage_iff.2 hcells)
  · constructor
    · intro h
      have hfits := hfits_of h (by simp)
      exact ⟨hfits, (herror _ hfits).1 h⟩
    · rintro ⟨hfits, h⟩
      exact (herror _ hfits).2 h

end Nested

/-! ## A thumbnail of a conversion -/

theorem carriesBatch_blobBatch (cells : List (Option Blob)) :
    CarriesBatch (blobBatch cells) cells :=
  ⟨_, rfl, .binary cells⟩

def convertBmpCall : BoundCall (referenceCrates noExif) where
  name := .blob .convert
  args := formatArguments 1 "bmp"
  bound := singleColumnBind.bindResult (.scalar .binary)
  onBind_eq := onBind_convert_bmp noExif

def thumbnailCall : BoundCall (referenceCrates noExif) where
  name := .blob .thumbnail
  args := noArguments
  bound := singleColumnBind.bindResult (.scalar .binary)
  onBind_eq := rfl

theorem nested_outcome_samplePng :
    NestedOutcome
      [fun bytes => callConvert ReferenceCodec.codec bytes .bmp,
        fun bytes => callThumbnail ReferenceCodec.codec bytes 128 128 .jpeg]
      [some ReferenceCodec.samplePng, none]
      (BoundCall.nested [convertBmpCall, thumbnailCall]
        (blobBatch [some ReferenceCodec.samplePng, none])) :=
  nested_outcome singleColumnBind_laws
    (.cons (.mk convertBmpCall.onBind_eq (reencodes_convert_bmp noExif))
      (.cons (.mk thumbnailCall.onBind_eq .thumbnail) .nil))
    (carriesBatch_blobBatch _)

end VgiImage.Scalar
