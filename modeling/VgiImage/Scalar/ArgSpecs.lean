import VgiImage.Scalar.Arguments
import VgiImage.Scalar.Session

/-!
# Declared arguments

Every function declares the columns and constants it takes, with the bounds and
choices that clients are shown.  A call reads nothing it did not declare, and a
bind is decided by the declarations, up to the case of a format and a dimension
that no `u32` holds.
-/

namespace VgiImage.Scalar

open Arrow ArrowIo Imaging Outcome RowLoop

/-! ## The declarations -/

/-- The types of constant arguments. -/
inductive ConstType where
  | int64 | varchar
  deriving DecidableEq

inductive ArgKind where
  | anyColumn
  | column (type : ScalarType)
  | constArg (type : ConstType)
  deriving DecidableEq

structure ArgSpec where
  name : String
  position : ℕ
  kind : ArgKind
  description : String
  /-- `with_ge`: the least number accepted. -/
  ge : Option ℤ := none
  /-- `with_choices`: the closed set of strings. -/
  choices : Option (List String) := none

/-- The blob column that all functions but one take. -/
def blobSpec : ArgSpec where
  name := "blob"
  position := 0
  kind := .anyColumn
  description := "Image bytes (BLOB)"

namespace PhashDistance

def argumentSpecs : List ArgSpec :=
  [{ name := "a"
     position := 0
     kind := .column .uint64
     description := "The first perceptual hash to compare, as produced by phash/dhash/ahash" },
    { name := "b"
      position := 1
      kind := .column .uint64
      description := "The second perceptual hash to compare against the first" }]

end PhashDistance

namespace ThumbnailFit

def argumentSpecs : List ArgSpec :=
  [blobSpec,
    { name := "width"
      position := 1
      kind := .constArg .int64
      description := "Maximum thumbnail width in pixels (must be positive)"
      ge := some 1 },
    { name := "height"
      position := 2
      kind := .constArg .int64
      description := "Maximum thumbnail height in pixels (must be positive)"
      ge := some 1 },
    { name := "format"
      position := 3
      kind := .constArg .varchar
      description := "Output format: jpeg, png, webp, gif, bmp, tiff"
      choices := some OutFormat.ACCEPTED }]

end ThumbnailFit

namespace Convert

def argumentSpecs : List ArgSpec :=
  [blobSpec,
    { name := "format"
      position := 1
      kind := .constArg .varchar
      description := "Target format: jpeg, png, webp, gif, bmp, tiff"
      choices := some OutFormat.ACCEPTED }]

end Convert

def FunctionName.argumentSpecs : FunctionName → List ArgSpec
  | .blob .thumbnailFit => ThumbnailFit.argumentSpecs
  | .blob .convert => Convert.argumentSpecs
  | .blob _ => [blobSpec]
  | .phashDistance => PhashDistance.argumentSpecs

/-! ## What a declaration says about a call -/

namespace ArgSpec

/-- Two calls hand over the same for the declared argument. -/
def Same (spec : ArgSpec) (args args' : Arguments) (batch batch' : RecordBatch) : Prop :=
  match spec.kind with
  | .anyColumn | .column _ => batch.columns[spec.position]? = batch'.columns[spec.position]?
  | .constArg .int64 => args.constI64 spec.position = args'.constI64 spec.position
  | .constArg .varchar => args.constStr spec.position = args'.constStr spec.position

/-- The constant is one the declaration admits: a number may be left out and has to be
within the bound and in the range of `u32`, a string is required and has to be a choice
in lower case. -/
def Admits (spec : ArgSpec) (args : Arguments) : Prop :=
  match spec.kind with
  | .anyColumn | .column _ => True
  | .constArg .int64 => ∀ n, args.constI64 spec.position = some n →
      (∀ least ∈ spec.ge, least ≤ n.toInt) ∧ n.toInt ≤ 2 ^ 32 - 1
  | .constArg .varchar => ∃ s, args.constStr spec.position = some s ∧
      ∀ accepted ∈ spec.choices, s.toLower ∈ accepted

end ArgSpec

/-- The declarations are all that a call depends on, and what they admit is what the
bind accepts. -/
structure DeclaredBy (f : ScalarFunction) (specs : List ArgSpec) (arrow : ArrowCrate) :
    Prop where
  call_eq {args args' : Arguments} {batch batch' : RecordBatch}
    (hrows : batch.numRows = batch'.numRows)
    (h : ∀ spec ∈ specs, spec.Same args args' batch batch') :
    f.call arrow args batch = f.call arrow args' batch'
  bind_iff (args : Arguments) :
    (∃ bound, f.onBind ⟨args⟩ = .ok bound) ↔ ∀ spec ∈ specs, spec.Admits args

/-! ## The declarations are met -/

section Call

variable {f : ScalarFunction} {arrow : ArrowCrate} {args args' : Arguments}
variable {batch batch' : RecordBatch}

/-- A call looks at its arguments in the bind and in the argument stage, and at its
batch for the input columns and the row count. -/
theorem call_congr (hbind : f.onBind ⟨args⟩ = f.onBind ⟨args'⟩)
    (hprepare : f.prepare args = f.prepare args')
    (hcolumns : f.inputs.mapM batch.column = f.inputs.mapM batch'.column)
    (hrows : batch.numRows = batch'.numRows) :
    f.call arrow args batch = f.call arrow args' batch' := by
  simp only [ScalarFunction.call, ScalarFunction.process, hbind, hprepare, hcolumns, hrows]

theorem column_congr {i : ℕ} (h : batch.columns[i]? = batch'.columns[i]?) :
    batch.column i = batch'.column i := by
  rw [RecordBatch.column, RecordBatch.column, h]

theorem mapM_column_congr {inputs : List ℕ}
    (h : ∀ i ∈ inputs, batch.columns[i]? = batch'.columns[i]?) :
    inputs.mapM batch.column = inputs.mapM batch'.column := by
  induction inputs with
  | nil => rfl
  | cons i inputs ih =>
      rw [List.mapM_cons, List.mapM_cons, column_congr (h i (.head _)),
        ih fun j hj => h j (.tail _ hj)]

theorem checkDim_congr {pos : ℕ} (h : args.constI64 pos = args'.constI64 pos) (name : String) :
    checkDim args pos name = checkDim args' pos name := by
  rw [checkDim, checkDim, h]

theorem dimAt_congr {pos : ℕ} (h : args.constI64 pos = args'.constI64 pos) (name : String) :
    dimAt args pos name = dimAt args' pos name := by
  rw [dimAt, dimAt, h]

theorem formatAt_congr {pos : ℕ} (h : args.constStr pos = args'.constStr pos)
    (missing : String) : formatAt args pos missing = formatAt args' pos missing := by
  rw [formatAt, formatAt, h]

end Call

section Functions

variable (crates : Crates)

/-- A function without constant arguments. -/
theorem declaredBy_of_no_constants {f : ScalarFunction} {specs : List ArgSpec}
    {arrow : ArrowCrate} {bound : BindResponse} (hbind : ∀ args, f.onBind ⟨args⟩ = .ok bound)
    (hprepare : ∀ args args', f.prepare args = f.prepare args')
    (hinputs : ∀ i ∈ f.inputs, ∃ spec ∈ specs, spec.position = i)
    (hkinds : ∀ spec ∈ specs, spec.kind = .anyColumn ∨ ∃ type, spec.kind = .column type) :
    DeclaredBy f specs arrow where
  call_eq {args args' batch batch'} hrows h := by
    apply call_congr ((hbind args).trans (hbind args').symm) (hprepare args args') _ hrows
    apply mapM_column_congr
    intro i hi
    obtain ⟨spec, hspec, rfl⟩ := hinputs i hi
    have hsame := h spec hspec
    unfold ArgSpec.Same at hsame
    rcases hkinds spec hspec with hkind | ⟨type, hkind⟩
    · rwa [hkind] at hsame
    · rwa [hkind] at hsame
  bind_iff args := by
    refine iff_of_true ⟨bound, hbind args⟩ fun spec hspec => ?_
    unfold ArgSpec.Admits
    rcases hkinds spec hspec with hkind | ⟨type, hkind⟩
    · rw [hkind]
      trivial
    · rw [hkind]
      trivial

theorem declaredBy_thumbnailFit :
    DeclaredBy ((FunctionName.blob .thumbnailFit).function crates) ThumbnailFit.argumentSpecs
      crates.arrow where
  call_eq {args args' batch batch'} hrows h := by
    have hblob : batch.columns[0]? = batch'.columns[0]? := h blobSpec (.head _)
    have hwidth : args.constI64 1 = args'.constI64 1 := h _ (.tail _ (.head _))
    have hheight : args.constI64 2 = args'.constI64 2 := h _ (.tail _ (.tail _ (.head _)))
    have hformat : args.constStr 3 = args'.constStr 3 :=
      h _ (.tail _ (.tail _ (.tail _ (.head _))))
    refine call_congr ?_ ?_ (mapM_column_congr fun i hi => ?_) hrows
    · change ThumbnailFit.onBind crates ⟨args⟩ = ThumbnailFit.onBind crates ⟨args'⟩
      simp only [ThumbnailFit.onBind, checkDim_congr hwidth, checkDim_congr hheight,
        formatAt_congr hformat]
    · have hprepare : ThumbnailFit.prepare crates args = ThumbnailFit.prepare crates args' := by
        simp only [ThumbnailFit.prepare, dimAt_congr hwidth, dimAt_congr hheight,
          formatAt_congr hformat]
      exact congrArg (fun result => (result.map fun imaging bytes =>
        (imaging bytes).map some).map onBlob) hprepare
    · obtain rfl := List.mem_singleton.1 hi
      exact hblob
  bind_iff args := by
    refine (exists_bind_thumbnailFit_iff crates args).trans ?_
    simp [ThumbnailFit.argumentSpecs, ArgSpec.Admits, AcceptsDim, AcceptsFormat, blobSpec]

theorem declaredBy_convert :
    DeclaredBy ((FunctionName.blob .convert).function crates) Convert.argumentSpecs
      crates.arrow where
  call_eq {args args' batch batch'} hrows h := by
    have hblob : batch.columns[0]? = batch'.columns[0]? := h blobSpec (.head _)
    have hformat : args.constStr 1 = args'.constStr 1 := h _ (.tail _ (.head _))
    refine call_congr ?_ ?_ (mapM_column_congr fun i hi => ?_) hrows
    · change Convert.onBind crates ⟨args⟩ = Convert.onBind crates ⟨args'⟩
      simp only [Convert.onBind, formatAt_congr hformat]
    · have hprepare : Convert.prepare crates args = Convert.prepare crates args' := by
        simp only [Convert.prepare, formatAt_congr hformat]
      exact congrArg (fun result => (result.map fun imaging bytes =>
        (imaging bytes).map some).map onBlob) hprepare
    · obtain rfl := List.mem_singleton.1 hi
      exact hblob
  bind_iff args := by
    refine (exists_bind_convert_iff crates args).trans ?_
    simp [Convert.argumentSpecs, ArgSpec.Admits, AcceptsFormat, blobSpec]

/-- Every function depends on what it declares alone, and binds exactly the constants
its declarations admit. -/
theorem declaredBy_argumentSpecs (name : FunctionName) :
    DeclaredBy (name.function crates) name.argumentSpecs crates.arrow := by
  have hblob : ∀ spec ∈ [blobSpec], spec.kind = .anyColumn ∨ ∃ type, spec.kind = .column type := by
    intro spec hspec
    rw [List.mem_singleton.1 hspec]
    exact Or.inl rfl
  have hinputs : ∀ i ∈ [0], ∃ spec ∈ [blobSpec], spec.position = i := by
    intro i hi
    exact ⟨blobSpec, .head _, (List.mem_singleton.1 hi).symm⟩
  rcases name with name | _
  · cases name
    case thumbnailFit => exact declaredBy_thumbnailFit crates
    case convert => exact declaredBy_convert crates
    all_goals exact declaredBy_of_no_constants (fun _ => rfl) (fun _ _ => rfl) hinputs hblob
  · apply declaredBy_of_no_constants (fun _ => rfl) (fun _ _ => rfl)
    · exact List.forall_mem_cons.2 ⟨⟨_, .head _, rfl⟩,
        List.forall_mem_singleton.2 ⟨_, .tail _ (.head _), rfl⟩⟩
    · exact List.forall_mem_cons.2 ⟨Or.inr ⟨_, rfl⟩,
        List.forall_mem_singleton.2 (Or.inr ⟨_, rfl⟩)⟩

end Functions

end VgiImage.Scalar
