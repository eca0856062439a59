import Mathlib.Algebra.Order.Round
import Mathlib.Data.Rat.Floor
import Mathlib.Tactic.Linarith
import Mathlib.Tactic.FieldSimp
import Mathlib.Tactic.Positivity

/-!
# Scaling a rectangle into a box

A `w × h` rectangle is scaled by the smaller of the two side ratios, so that
it fits the box `nw × nh`; each side is rounded to the nearest integer and is
at least one.  The scaled rectangle always fits the box, but it is enlarged as
soon as the box exceeds the rectangle in both dimensions.
-/

namespace VgiImage.AspectRatio

/-- The largest factor that scales `w × h` into the box `nw × nh`. -/
def fitRatio (w h nw nh : ℕ) : ℚ :=
  min ((nw : ℚ) / w) ((nh : ℚ) / h)

/-- A side scaled by `ratio`, rounded half up, and at least one. -/
def scaledSide (side : ℕ) (ratio : ℚ) : ℕ :=
  max 1 (round (side * ratio)).toNat

theorem one_le_scaledSide (side : ℕ) (ratio : ℚ) : 1 ≤ scaledSide side ratio :=
  le_max_left _ _

theorem scaledSide_le {side bound : ℕ} {ratio : ℚ}
    (hratio : side * ratio ≤ bound) (hbound : 1 ≤ bound) :
    scaledSide side ratio ≤ bound := by
  have hround : round (side * ratio) ≤ bound := by
    rw [round_eq, Int.floor_le_iff, Int.cast_natCast]
    linarith
  exact max_le hbound (Int.toNat_le.2 hround)

theorem scaledSide_of_eq {side target : ℕ} {ratio : ℚ}
    (hratio : side * ratio = target) (htarget : 1 ≤ target) :
    scaledSide side ratio = target := by
  rw [scaledSide, hratio, round_natCast, Int.toNat_natCast, max_eq_right htarget]

theorem scaledSide_one {side : ℕ} (h : 1 ≤ side) : scaledSide side 1 = side :=
  scaledSide_of_eq (mul_one (side : ℚ)) h

section Box

variable {w h nw nh : ℕ}

theorem width_mul_fitRatio_le (hw : 0 < w) : w * fitRatio w h nw nh ≤ nw := by
  have hw' : (0 : ℚ) < w := by exact_mod_cast hw
  calc
    (w : ℚ) * fitRatio w h nw nh ≤ w * (nw / w) := by
      gcongr
      exact min_le_left _ _
    _ = nw := by field_simp

theorem height_mul_fitRatio_le (hh : 0 < h) : h * fitRatio w h nw nh ≤ nh := by
  have hh' : (0 : ℚ) < h := by exact_mod_cast hh
  calc
    (h : ℚ) * fitRatio w h nw nh ≤ h * (nh / h) := by
      gcongr
      exact min_le_right _ _
    _ = nh := by field_simp

theorem fitRatio_le_one_iff (hw : 0 < w) (hh : 0 < h) :
    fitRatio w h nw nh ≤ 1 ↔ nw ≤ w ∨ nh ≤ h := by
  have hw' : (0 : ℚ) < w := by exact_mod_cast hw
  have hh' : (0 : ℚ) < h := by exact_mod_cast hh
  rw [fitRatio, min_le_iff, div_le_one hw', div_le_one hh']
  norm_cast

/-- The scaled rectangle fits the box. -/
theorem scaledSide_le_box (hw : 0 < w) (hh : 0 < h) (hnw : 0 < nw) (hnh : 0 < nh) :
    scaledSide w (fitRatio w h nw nh) ≤ nw ∧
      scaledSide h (fitRatio w h nw nh) ≤ nh :=
  ⟨scaledSide_le (width_mul_fitRatio_le hw) hnw,
    scaledSide_le (height_mul_fitRatio_le hh) hnh⟩

/-- The scaled rectangle is nowhere larger than the original exactly when the
box does not exceed the original in both dimensions. -/
theorem scaledSide_le_source_iff (hw : 0 < w) (hh : 0 < h) (hnw : 0 < nw)
    (hnh : 0 < nh) :
    (scaledSide w (fitRatio w h nw nh) ≤ w ∧
        scaledSide h (fitRatio w h nw nh) ≤ h) ↔ nw ≤ w ∨ nh ≤ h := by
  constructor
  · rintro ⟨hwidth, hheight⟩
    by_contra hlarger
    have hw' : (w : ℚ) ≠ 0 := by exact_mod_cast hw.ne'
    have hh' : (h : ℚ) ≠ 0 := by exact_mod_cast hh.ne'
    -- The side whose ratio is the smaller one is scaled onto the box.
    rcases min_choice ((nw : ℚ) / w) ((nh : ℚ) / h) with hmin | hmin
    · have hside : scaledSide w (fitRatio w h nw nh) = nw :=
        scaledSide_of_eq (by rw [fitRatio, hmin]; field_simp) hnw
      omega
    · have hside : scaledSide h (fitRatio w h nw nh) = nh :=
        scaledSide_of_eq (by rw [fitRatio, hmin]; field_simp) hnh
      omega
  · intro hbox
    have hratio : fitRatio w h nw nh ≤ 1 := (fitRatio_le_one_iff hw hh).2 hbox
    have hshrink : ∀ side : ℕ, (side : ℚ) * fitRatio w h nw nh ≤ side := fun side =>
      mul_le_of_le_one_right (Nat.cast_nonneg side) hratio
    exact ⟨scaledSide_le (hshrink w) hw, scaledSide_le (hshrink h) hh⟩

/-- One of the sides is scaled exactly onto the box. -/
theorem scaledSide_eq_box (hw : 0 < w) (hh : 0 < h) (hnw : 0 < nw) (hnh : 0 < nh) :
    (scaledSide w (fitRatio w h nw nh) = nw ∧ fitRatio w h nw nh = nw / w) ∨
      (scaledSide h (fitRatio w h nw nh) = nh ∧ fitRatio w h nw nh = nh / h) := by
  have hw' : (w : ℚ) ≠ 0 := by exact_mod_cast hw.ne'
  have hh' : (h : ℚ) ≠ 0 := by exact_mod_cast hh.ne'
  rcases min_choice ((nw : ℚ) / w) ((nh : ℚ) / h) with hmin | hmin
  · left
    refine ⟨scaledSide_of_eq ?_ hnw, hmin⟩
    rw [fitRatio, hmin]
    field_simp
  · right
    refine ⟨scaledSide_of_eq ?_ hnh, hmin⟩
    rw [fitRatio, hmin]
    field_simp

end Box

/-! ## The nearest side -/

/-- `side` is the integer nearest to `num / den`, or it is one and the quotient
is smaller than a half. -/
def Nearest (side num den : ℕ) : Prop :=
  |2 * ((side * den : ℕ) - (num : ℕ) : ℤ)| ≤ den ∨ (side = 1 ∧ 2 * num < den)

instance (side num den : ℕ) : Decidable (Nearest side num den) :=
  inferInstanceAs (Decidable (_ ∨ _))

theorem nearest_scaledSide {side num den : ℕ} (hden : 0 < den) {ratio : ℚ}
    (hratio : side * ratio = num / den) : Nearest (scaledSide side ratio) num den := by
  have hden' : (0 : ℚ) < den := by exact_mod_cast hden
  have hnonneg : (0 : ℚ) ≤ num / den := by positivity
  rw [scaledSide, hratio]
  by_cases hsmall : round ((num : ℚ) / den) ≤ 0
  · -- Rounded to zero, the side is raised to one.
    right
    have hzero : (round ((num : ℚ) / den)).toNat = 0 := Int.toNat_of_nonpos hsmall
    refine ⟨by rw [hzero]; rfl, ?_⟩
    have hround : (num : ℚ) / den + 1 / 2 < 1 := by
      have hfloor : ⌊(num : ℚ) / den + 1 / 2⌋ < 1 := by
        rw [← round_eq]
        omega
      exact_mod_cast Int.floor_lt.1 hfloor
    have hhalf : (num : ℚ) / den < 1 / 2 := by linarith
    rw [div_lt_iff₀ hden'] at hhalf
    have hdouble : (2 : ℚ) * num < den := by linarith
    exact_mod_cast hdouble
  · left
    have hone : 1 ≤ round ((num : ℚ) / den) := by omega
    have hside : (max 1 (round ((num : ℚ) / den)).toNat : ℕ) =
        (round ((num : ℚ) / den)).toNat := max_eq_right (by omega)
    have hcast : (((round ((num : ℚ) / den)).toNat : ℕ) : ℤ) = round ((num : ℚ) / den) :=
      Int.toNat_of_nonneg (by omega)
    rw [hside]
    have hnear := abs_sub_round ((num : ℚ) / den)
    have hscaled : |(round ((num : ℚ) / den) : ℚ) * den - num| * 2 ≤ den := by
      calc
        |(round ((num : ℚ) / den) : ℚ) * den - num| * 2 =
            |(num : ℚ) / den - round ((num : ℚ) / den)| * den * 2 := by
          rw [← abs_of_pos hden', ← abs_mul, abs_of_pos hden', abs_sub_comm]
          congr 2
          field_simp
        _ ≤ 1 / 2 * den * 2 := by gcongr
        _ = den := by ring
    have hint : |(round ((num : ℚ) / den) * den - num : ℤ)| * 2 ≤ den := by
      exact_mod_cast hscaled
    rw [abs_mul, abs_of_pos (by norm_num : (0 : ℤ) < 2), mul_comm, Nat.cast_mul, hcast]
    exact hint

/-! ## Sizes -/

/-- The size of a rectangle with no empty side. -/
@[ext]
structure Size where
  width : ℕ
  height : ℕ
  width_pos : 0 < width
  height_pos : 0 < height
  deriving DecidableEq

namespace Size

/-- The factor that scales a size into a box. -/
def ratio (size box : Size) : ℚ := fitRatio size.width size.height box.width box.height

/-- A size scaled into a box. -/
def fit (size box : Size) : Size where
  width := scaledSide size.width (size.ratio box)
  height := scaledSide size.height (size.ratio box)
  width_pos := one_le_scaledSide _ _
  height_pos := one_le_scaledSide _ _

variable (size box : Size)

theorem width_fit : (size.fit box).width = scaledSide size.width (size.ratio box) := rfl

theorem height_fit : (size.fit box).height = scaledSide size.height (size.ratio box) := rfl

theorem width_fit_le : (size.fit box).width ≤ box.width :=
  (scaledSide_le_box size.width_pos size.height_pos box.width_pos box.height_pos).1

theorem height_fit_le : (size.fit box).height ≤ box.height :=
  (scaledSide_le_box size.width_pos size.height_pos box.width_pos box.height_pos).2

/-- A size that touches its box is not scaled any further. -/
theorem fit_of_touches {size box : Size} (hwidth : size.width ≤ box.width)
    (hheight : size.height ≤ box.height)
    (htouches : size.width = box.width ∨ size.height = box.height) : size.fit box = size := by
  have hw : (0 : ℚ) < size.width := by exact_mod_cast size.width_pos
  have hh : (0 : ℚ) < size.height := by exact_mod_cast size.height_pos
  have hratio : size.ratio box = 1 := by
    rcases htouches with htouches | htouches
    · rw [ratio, fitRatio, ← htouches, div_self hw.ne']
      exact min_eq_left ((one_le_div hh).2 (by exact_mod_cast hheight))
    · rw [ratio, fitRatio, ← htouches, div_self hh.ne']
      exact min_eq_right ((one_le_div hw).2 (by exact_mod_cast hwidth))
  apply Size.ext
  · rw [width_fit, hratio, scaledSide_one size.width_pos]
  · rw [height_fit, hratio, scaledSide_one size.height_pos]

/-- Scaling into a box a second time changes nothing. -/
@[simp]
theorem fit_fit : (size.fit box).fit box = size.fit box := by
  apply fit_of_touches (size.width_fit_le box) (size.height_fit_le box)
  exact (scaledSide_eq_box size.width_pos size.height_pos box.width_pos box.height_pos).imp
    And.left And.left

/-- The scaled size touches the box, and its other side is the integer nearest
to what the aspect ratio asks for. -/
theorem fit_keeps_ratio :
    ((size.fit box).width = box.width ∧
        Nearest (size.fit box).height (size.height * box.width) size.width) ∨
      ((size.fit box).height = box.height ∧
        Nearest (size.fit box).width (size.width * box.height) size.height) := by
  rcases scaledSide_eq_box size.width_pos size.height_pos box.width_pos box.height_pos with
    ⟨hside, hratio⟩ | ⟨hside, hratio⟩
  · refine Or.inl ⟨hside, nearest_scaledSide size.width_pos ?_⟩
    rw [ratio, hratio, Nat.cast_mul, mul_div_assoc]
  · refine Or.inr ⟨hside, nearest_scaledSide size.height_pos ?_⟩
    rw [ratio, hratio, Nat.cast_mul, mul_div_assoc]

end Size

end VgiImage.AspectRatio
