import Mathlib.Algebra.Order.Floor.Ring
import Mathlib.Tactic.FieldSimp
import Mathlib.Tactic.Ring

/-!
# Degrees, minutes and seconds

An angle is split into whole degrees, whole minutes of what is left, and the
seconds that remain; adding the parts up gives the angle back.
-/

namespace VgiImage

universe u

structure Sexagesimal (K : Type u) where
  degrees : K
  minutes : K
  seconds : K
  deriving DecidableEq

namespace Sexagesimal

variable {K : Type u} [Field K]

/-- The angle the three parts add up to. -/
def toAngle (parts : Sexagesimal K) : K :=
  parts.degrees + parts.minutes / 60 + parts.seconds / 3600

variable [LinearOrder K] [FloorRing K]

/-- The standard split of an angle. -/
def ofAngle (angle : K) : Sexagesimal K where
  degrees := ⌊angle⌋
  minutes := ⌊60 * (angle - ⌊angle⌋)⌋
  seconds := 60 * (60 * (angle - ⌊angle⌋) - ⌊60 * (angle - ⌊angle⌋)⌋)

variable [CharZero K]

theorem toAngle_ofAngle (angle : K) : (ofAngle angle).toAngle = angle := by
  rw [toAngle, ofAngle]
  field_simp
  ring

end Sexagesimal

end VgiImage
