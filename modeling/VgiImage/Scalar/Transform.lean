import VgiImage.Scalar.Function

/-!
# `thumbnail`, `thumbnail_fit` and `convert`

Each decodes the blob and emits a re-encoded blob.  The three loops are the
same; they differ in the constant arguments they read and in what they compute
from a blob.
-/

namespace VgiImage.Scalar

open Arrow Imaging Outcome RowLoop

/-! ## Constant arguments -/

def DEFAULT_DIM : UInt32 := 128

/-- Validate a bind-time dimension constant: a positive integer in `u32`
range. -/
def parseDim (n : Int64) (name : String) : Run UInt32 :=
  if 0 < n ∧ n ≤ 4294967295 then .ok n.toUInt64.toUInt32
  else
    .error (.error (.valueError
      s!"thumbnail_fit: '{name}' must be a positive integer, got {n}"))

/-- Read the positional const dimension at index `pos`, defaulting to 128 when
the caller omits it. -/
def dimAt (args : Arguments) (pos : ℕ) (name : String) : Run UInt32 :=
  match args.constI64 pos with
  | none => .ok DEFAULT_DIM
  | some n => parseDim n name

/-- `if let Some(n) = args.const_i64(pos) { parse_dim(n, name)?; }` -/
def checkDim (args : Arguments) (pos : ℕ) (name : String) : Run Unit :=
  match args.constI64 pos with
  | none => .ok ()
  | some n => (parseDim n name).map fun _ => ()

/-- A dimension the bind accepted or was not given is read back by process. -/
theorem checkDim_eq_ok_iff {args : Arguments} {pos : ℕ} {name : String} :
    checkDim args pos name = .ok () ↔ ∃ dim, dimAt args pos name = .ok dim := by
  rw [checkDim, dimAt]
  cases args.constI64 pos with
  | none => simp
  | some n => cases h : parseDim n name <;> simp [h, Except.map]

/-- `args.const_str(pos).ok_or_else(..)?`, then `OutFormat::parse`. -/
def formatAt (args : Arguments) (pos : ℕ) (missing : String) : Run OutFormat :=
  match args.constStr pos with
  | none => .error (.error (.valueError missing))
  | some s => liftImg (OutFormat.parse s)

/-! ## The shared loop -/

def appendBlob (b : ByteBuilder Blob) : Option Blob → Run (ByteBuilder Blob)
  | none => .ok b.appendNull
  | some out => b.appendValue out

def finishBlobs (b : ByteBuilder Blob) : Run ArrayRef := .ok (.scalar (.binary b.slots))

/-- A function that emits one blob for each blob. -/
def reencoder (name : String) (onBind : BindParams → Run BindResponse)
    (prepare : Arguments → Run (Blob → Run Blob)) : BlobFunction where
  name := name
  onBind := onBind
  Row := Blob
  Builders := ByteBuilder Blob
  prepare args := (prepare args).map fun imaging bytes => (imaging bytes).map some
  new := .new
  append := appendBlob
  finish := finishBlobs

theorem reencoder_prepare {name : String} {onBind : BindParams → Run BindResponse}
    {prepare : Arguments → Run (Blob → Run Blob)} {args : Arguments}
    {imaging : Blob → Run Blob} (h : prepare args = .ok imaging) :
    (reencoder name onBind prepare).prepare args =
      .ok fun bytes => (imaging bytes).map some :=
  map_eq_ok_iff.2 ⟨imaging, h, rfl⟩

/-- The rows stay within the offsets of a binary array. -/
def BlobsFit (out : List (Option Blob)) : Prop := valueBytes out ≤ maxOffset

instance decidableBlobsFit : DecidablePred BlobsFit :=
  fun _ => inferInstanceAs (Decidable (_ ≤ _))

def blobValue (bytes : Blob) : Arrow.Value := .scalar (.bytes bytes)

theorem blobsFit_of_concat {out : List (Option Blob)} {row : Option Blob}
    (h : BlobsFit (out ++ [row])) : BlobsFit out := by
  simp only [BlobsFit, valueBytes_append] at h
  exact (Nat.le_add_right _ _).trans h

theorem blobsFit_null {out : List (Option Blob)} (h : BlobsFit out) :
    BlobsFit (out ++ [none]) := by
  simpa [BlobsFit] using h

theorem appendBlob_agrees {b : ByteBuilder Blob} {out : List (Option Blob)}
    (h : b.slots = out) (row : Option Blob) :
    Agrees (fun b out => ByteBuilder.slots b = out) (appendBlob b row)
      (if BlobsFit (out ++ [row]) then .ok (out ++ [row]) else .error .panic) := by
  subst h
  cases row with
  | none =>
      rw [if_pos (blobsFit_null b.fits)]
      exact .ok rfl
  | some bytes =>
      by_cases hfits : BlobsFit (b.slots ++ [some bytes])
      · obtain ⟨next, hnext, hslots⟩ := ByteBuilder.exists_appendValue hfits
        rw [if_pos hfits, appendBlob, hnext]
        exact .ok hslots
      · rw [if_neg hfits, appendBlob, ByteBuilder.appendValue_eq_panic hfits]
        exact .error _

theorem column_binary (out : List (Option Blob)) :
    Column (.scalar .binary) blobValue (fun _ => True) (.scalar (.binary out)) out where
  dataType_eq := rfl
  len_eq := List.length_map _
  isNull_eq i := by
    simp [ArrayRef.isNull, value_binary]
  value_eq _ i := by
    rw [ArrayRef.value, value_binary, Option.map_map]
    rfl
  aligned hstruct := by cases hstruct

def reencoderSpec (arrow : ArrowCrate) (name : String)
    (onBind : BindParams → Run BindResponse)
    (prepare : Arguments → Run (Blob → Run Blob)) :
    BuilderSpec ((reencoder name onBind prepare).toScalar arrow) where
  dataType := .scalar .binary
  value := blobValue
  fits := BlobsFit
  decidableFits := decidableBlobsFit
  readable _ := True
  represents := fun b out => ByteBuilder.slots b = out
  fits_nil := Nat.zero_le _
  fits_of_concat := blobsFit_of_concat
  fits_null := blobsFit_null
  represents_new := rfl
  append_agrees := appendBlob_agrees
  finish_spec := by
    rintro b _ rfl
    exact ⟨_, rfl, column_binary _⟩

/-! ## The functions -/

namespace Thumbnail

def prepare (crates : Crates) (_ : Arguments) : Run (Blob → Run Blob) := do
  let fmt ← liftImg (OutFormat.parse "jpeg")
  .ok fun bytes => callThumbnail crates.image bytes DEFAULT_DIM DEFAULT_DIM fmt

def onBind (crates : Crates) (_ : BindParams) : Run BindResponse :=
  .ok (crates.vgi.bindResult (.scalar .binary))

def function (crates : Crates) : BlobFunction :=
  reencoder "thumbnail" (onBind crates) (prepare crates)

theorem prepare_eq (crates : Crates) (args : Arguments) :
    prepare crates args =
      .ok fun bytes => callThumbnail crates.image bytes DEFAULT_DIM DEFAULT_DIM .jpeg := by
  have hjpeg : OutFormat.parse "jpeg" = .ok .jpeg := by decide +kernel
  rw [prepare, hjpeg]
  exact bind_of_ok rfl _

end Thumbnail

namespace ThumbnailFit

def missingFormat : String := "thumbnail_fit: a target format string is required"

def prepare (crates : Crates) (args : Arguments) : Run (Blob → Run Blob) := do
  let w ← dimAt args 1 "width"
  let h ← dimAt args 2 "height"
  let fmt ← formatAt args 3 missingFormat
  .ok fun bytes => callThumbnail crates.image bytes w h fmt

/-- Validate the constants eagerly (fail fast at bind). -/
def onBind (crates : Crates) (params : BindParams) : Run BindResponse := do
  checkDim params.arguments 1 "width"
  checkDim params.arguments 2 "height"
  let _ ← formatAt params.arguments 3 missingFormat
  .ok (crates.vgi.bindResult (.scalar .binary))

def function (crates : Crates) : BlobFunction :=
  reencoder "thumbnail_fit" (onBind crates) (prepare crates)

theorem prepare_eq (crates : Crates) {args : Arguments} {w h : UInt32} {fmt : OutFormat}
    (hwidth : dimAt args 1 "width" = .ok w) (hheight : dimAt args 2 "height" = .ok h)
    (hfmt : formatAt args 3 missingFormat = .ok fmt) :
    prepare crates args = .ok fun bytes => callThumbnail crates.image bytes w h fmt := by
  rw [prepare, bind_of_ok hwidth, bind_of_ok hheight, bind_of_ok hfmt]

end ThumbnailFit

namespace Convert

def missingFormat : String := "convert: a target format string is required"

def prepare (crates : Crates) (args : Arguments) : Run (Blob → Run Blob) := do
  let fmt ← formatAt args 1 missingFormat
  .ok fun bytes => callConvert crates.image bytes fmt

def onBind (crates : Crates) (params : BindParams) : Run BindResponse := do
  let _ ← formatAt params.arguments 1 missingFormat
  .ok (crates.vgi.bindResult (.scalar .binary))

def function (crates : Crates) : BlobFunction :=
  reencoder "convert" (onBind crates) (prepare crates)

theorem prepare_eq (crates : Crates) {args : Arguments} {fmt : OutFormat}
    (hfmt : formatAt args 1 missingFormat = .ok fmt) :
    prepare crates args = .ok fun bytes => callConvert crates.image bytes fmt :=
  bind_of_ok hfmt _

end Convert

end VgiImage.Scalar
