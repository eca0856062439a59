import VgiImage.Core.Outcome
import VgiImage.Imaging.Image

/-!
# Calls into the imaging functions

How a call of the worker ends without a result, and what a process loop makes of
an imaging function: an error of the function becomes a value error, and a
thumbnail too large for the crate's pixel buffer is a panic.
-/

namespace VgiImage

open Outcome

/-! ## Outcomes -/

/-- `RpcError::value_error(..)` and `RpcError::runtime_error(..)`. -/
inductive RpcError where
  | valueError (message : String)
  | runtimeError (message : String)
  deriving DecidableEq

/-- How a call ends without a result: with an error returned to the caller, or
by a panic. -/
inductive Halt where
  | error (e : RpcError)
  | panic
  deriving DecidableEq

abbrev Run := Except Halt

/-- `.map_err(|e| RpcError::value_error(e.to_string()))` -/
def liftImg {α : Type} (result : Except ImgError α) : Run α :=
  result.mapError fun e => .error (.valueError e.message)

section LiftImg

variable {α : Type} {result : Except ImgError α}

theorem liftImg_eq_ok_iff {v : α} : liftImg result = .ok v ↔ result = .ok v := by
  cases result <;> simp [liftImg, Except.mapError]

theorem liftImg_eq_error_iff {halt : Halt} :
    liftImg result = .error halt ↔
      ∃ e, result = .error e ∧ halt = .error (.valueError e.message) := by
  cases result <;> simp [liftImg, Except.mapError, eq_comm]

theorem liftImg_ne_panic : liftImg result ≠ .error .panic := by
  cases result <;> simp [liftImg, Except.mapError]

end LiftImg

namespace Imaging

/-! ## The calls that write an image -/

section Crate

variable (crate : ImageCrate)

/-- `imaging::thumbnail(bytes, w, h, fmt)?` -/
def callThumbnail (bytes : Blob) (w h : UInt32) (fmt : OutFormat) : Run Blob :=
  if thumbnailPanics crate bytes w h then .error .panic
  else liftImg (thumbnail crate bytes w h fmt)

/-- `imaging::convert(bytes, fmt)?` -/
def callConvert (bytes : Blob) (fmt : OutFormat) : Run Blob :=
  liftImg (convert crate bytes fmt)

variable {crate} {bytes out : Blob} {w h : UInt32} {fmt : OutFormat}

theorem callThumbnail_eq_ok_iff :
    callThumbnail crate bytes w h fmt = .ok out ↔
      thumbnailPanics crate bytes w h = false ∧
        thumbnail crate bytes w h fmt = .ok out := by
  rw [callThumbnail]
  cases thumbnailPanics crate bytes w h <;> simp [liftImg_eq_ok_iff]

theorem callThumbnail_eq_error_iff {e : RpcError} :
    callThumbnail crate bytes w h fmt = .error (.error e) ↔
      thumbnailPanics crate bytes w h = false ∧
        ∃ failure, thumbnail crate bytes w h fmt = .error failure ∧
          e = .valueError failure.message := by
  rw [callThumbnail]
  cases thumbnailPanics crate bytes w h <;> simp [liftImg_eq_error_iff]

theorem callConvert_eq_ok_iff :
    callConvert crate bytes fmt = .ok out ↔ convert crate bytes fmt = .ok out :=
  liftImg_eq_ok_iff

end Crate

end Imaging

end VgiImage
