import VgiImage.Scalar.Function

/-!
# `image_info(blob)`

The loop keeps five builders and a validity vector in lockstep and finishes
them as one struct column.
-/

namespace VgiImage.Scalar.ImageInfo

open Arrow Imaging RowLoop

/-- The fixed output STRUCT fields. -/
def structFields : List (Arrow.Field ScalarType) :=
  [⟨"format", .utf8, true⟩, ⟨"width", .int32, true⟩, ⟨"height", .int32, true⟩,
    ⟨"color", .utf8, true⟩, ⟨"has_alpha", .boolean, true⟩]

structure Builders where
  format : ByteBuilder String
  width : PrimitiveBuilder Int32
  height : PrimitiveBuilder Int32
  color : ByteBuilder String
  hasAlpha : PrimitiveBuilder Bool
  valid : List Bool

def new : Builders := ⟨.new, .new, .new, .new, .new, []⟩

def append (b : Builders) : Option Imaging.ImageInfo → Run Builders
  | none =>
      .ok
        { format := b.format.appendNull
          width := b.width.appendNull
          height := b.height.appendNull
          color := b.color.appendNull
          hasAlpha := b.hasAlpha.appendNull
          valid := b.valid ++ [false] }
  | some info => do
      let format ← b.format.appendValue info.format
      let width := b.width.appendValue info.width.toInt32
      let height := b.height.appendValue info.height.toInt32
      let color ← b.color.appendValue info.color
      let hasAlpha := b.hasAlpha.appendValue info.hasAlpha
      .ok { format, width, height, color, hasAlpha, valid := b.valid ++ [true] }

def finish (b : Builders) : Run ArrayRef :=
  structArrayNew structFields
    [.utf8 b.format.slots, .int32 b.width.slots, .int32 b.height.slots,
      .utf8 b.color.slots, .boolean b.hasAlpha.slots] b.valid

def function (crates : Crates) : BlobFunction where
  name := "image_info"
  onBind _ := .ok (crates.vgi.bindResult (.struct structFields))
  Row := Imaging.ImageInfo
  Builders := Builders
  prepare _ := .ok fun bytes => (liftImg (imageInfo crates.image bytes)).map some
  new := new
  append := append
  finish := finish

/-! ## What the builders hold -/

/-- The six parts after the rows `out`. -/
structure Holds (b : Builders) (out : List (Option Imaging.ImageInfo)) : Prop where
  format_eq : b.format.slots = out.map (Option.map (·.format))
  width_eq : b.width.slots = out.map (Option.map (·.width.toInt32))
  height_eq : b.height.slots = out.map (Option.map (·.height.toInt32))
  color_eq : b.color.slots = out.map (Option.map (·.color))
  hasAlpha_eq : b.hasAlpha.slots = out.map (Option.map (·.hasAlpha))
  valid_eq : b.valid = out.map Option.isSome

/-- The two string builders have room for the rows. -/
def Fits (out : List (Option Imaging.ImageInfo)) : Prop :=
  valueBytes (out.map (Option.map (·.format))) ≤ maxOffset ∧
    valueBytes (out.map (Option.map (·.color))) ≤ maxOffset

instance decidableFits : DecidablePred Fits :=
  fun _ => inferInstanceAs (Decidable (_ ∧ _))

/-- What is read from each row, child by child. -/
def reads : List (Imaging.ImageInfo → ScalarArray.Value) :=
  [fun info => .text info.format, fun info => .int info.width.toInt32.toInt,
    fun info => .int info.height.toInt32.toInt, fun info => .text info.color,
    fun info => .boolean info.hasAlpha]

section Append

variable {b : Builders} {out : List (Option Imaging.ImageInfo)}

theorem fits_of_concat {row : Option Imaging.ImageInfo} (h : Fits (out ++ [row])) :
    Fits out := by
  simp only [Fits, List.map_append, valueBytes_append] at h
  exact ⟨by omega, by omega⟩

theorem fits_null (h : Fits out) : Fits (out ++ [none]) := by
  simpa [Fits] using h

theorem append_none_agrees (h : Holds b out) :
    Agrees Holds (append b none)
      (if Fits (out ++ [none]) then .ok (out ++ [none]) else .error .panic) := by
  have hfits : Fits out := ⟨h.format_eq ▸ b.format.fits, h.color_eq ▸ b.color.fits⟩
  rw [if_pos (fits_null hfits)]
  apply Agrees.ok
  constructor <;> simp [h.format_eq, h.width_eq, h.height_eq, h.color_eq, h.hasAlpha_eq,
    h.valid_eq]

theorem append_some_agrees (h : Holds b out) (info : Imaging.ImageInfo) :
    Agrees Holds (append b (some info))
      (if Fits (out ++ [some info]) then .ok (out ++ [some info]) else .error .panic) := by
  have hformat_slots : b.format.slots ++ [some info.format] =
      (out ++ [some info]).map (Option.map (·.format)) := by
    simp [h.format_eq]
  have hcolor_slots : b.color.slots ++ [some info.color] =
      (out ++ [some info]).map (Option.map (·.color)) := by
    simp [h.color_eq]
  rw [append]
  by_cases hformat : valueBytes (b.format.slots ++ [some info.format]) ≤ maxOffset
  · obtain ⟨format, hformat_ok, hformat_eq⟩ := ByteBuilder.exists_appendValue hformat
    by_cases hcolor : valueBytes (b.color.slots ++ [some info.color]) ≤ maxOffset
    · obtain ⟨color, hcolor_ok, hcolor_eq⟩ := ByteBuilder.exists_appendValue hcolor
      rw [hformat_ok, hcolor_ok, if_pos ⟨hformat_slots ▸ hformat, hcolor_slots ▸ hcolor⟩]
      apply Agrees.ok
      constructor
      case format_eq => exact hformat_eq.trans hformat_slots
      case color_eq => exact hcolor_eq.trans hcolor_slots
      all_goals simp [h.width_eq, h.height_eq, h.hasAlpha_eq, h.valid_eq]
    · rw [hformat_ok, ByteBuilder.appendValue_eq_panic hcolor,
        if_neg fun hfits => hcolor (hcolor_slots ▸ hfits.2)]
      exact .error _
  · rw [ByteBuilder.appendValue_eq_panic hformat,
      if_neg fun hfits => hformat (hformat_slots ▸ hfits.1)]
    exact .error _

theorem finish_eq (h : Holds b out) :
    ∃ column, finish b = .ok column ∧
      Column (.struct structFields)
        (fun info => .struct (reads.map fun read => some (read info)))
        (fun _ => True) column out := by
  rw [finish, h.format_eq, h.width_eq, h.height_eq, h.color_eq, h.hasAlpha_eq, h.valid_eq]
  refine ⟨_, structArrayNew_of_forall₂ ?_, column_struct ?_⟩
  · simp [structFields, ChildMatches, ScalarArray.dataType, ScalarArray.len,
      ScalarArray.slots]
  · simp [reads, Child, ScalarArray.len, ScalarArray.slots, value_utf8, value_int32,
      value_boolean, Option.join_map_eq_map_join, Function.comp_def]

end Append

def spec (crates : Crates) : BuilderSpec ((function crates).toScalar crates.arrow) where
  dataType := .struct structFields
  value := fun info => .struct (reads.map fun read => some (read info))
  fits := Fits
  decidableFits := decidableFits
  readable _ := True
  represents := Holds
  fits_nil := ⟨Nat.zero_le _, Nat.zero_le _⟩
  fits_of_concat := fits_of_concat
  fits_null := fits_null
  represents_new := ⟨rfl, rfl, rfl, rfl, rfl, rfl⟩
  append_agrees h
    | none => append_none_agrees h
    | some info => append_some_agrees h info
  finish_spec := finish_eq

end VgiImage.Scalar.ImageInfo
