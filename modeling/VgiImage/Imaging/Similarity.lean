import VgiImage.Imaging.Fingerprint

/-!
# How far two images are apart

The packing puts each hash bit into a place of its own, so the Hamming distance
of two packed hashes is the number of hash bits in which the images differ, for
every algorithm and whether or not it fills the word.
-/

namespace VgiImage.Imaging

open BitDistance GridBits

section Model

variable {hasher : HasherCrate} (model : HasherModel hasher)

/-- Which hash bit ends up in a bit of the word. -/
def HasherModel.place (j : Fin 64) : Fin 64 := ⟨model.sourceBit j, sourceBit_lt model j.isLt⟩

theorem place_injective : Function.Injective model.place := by
  intro j k h
  have hbit : 8 * (7 - j.val / 8) + model.order.source (j % 8) =
      8 * (7 - k.val / 8) + model.order.source (k % 8) := congrArg Fin.val h
  have hj := model.order.source_lt (Nat.mod_lt j.val (show 0 < 8 by omega))
  have hk := model.order.source_lt (Nat.mod_lt k.val (show 0 < 8 by omega))
  have hlow := model.order.source_injOn (Nat.mod_lt j.val (by omega))
    (Nat.mod_lt k.val (by omega)) (by omega)
  apply Fin.ext
  omega

theorem bitCount_le (kind : HashKind) : bitCount (hasherConfig kind) ≤ 64 := by
  cases kind <;> decide

theorem packHash_hashImage (kind : HashKind) (img : DynamicImage) :
    packHash (hasher.hashImage (hasherConfig kind) img) =
      model.word kind (model.samples (hasherConfig kind) img) := by
  rw [model.hashImage_eq]
  rfl

/-- The distance of two packed hashes counts the differing hash bits. -/
theorem toNat_hammingDistance_hashes (kind : HashKind) (img img' : DynamicImage) :
    (hammingDistance (packHash (hasher.hashImage (hasherConfig kind) img))
      (packHash (hasher.hashImage (hasherConfig kind) img'))).toNat =
        differences (model.bits kind img) (model.bits kind img') := by
  rw [toNat_hammingDistance, packHash_hashImage model, packHash_hashImage model]
  apply popcount_xor_eq_differences _ _ (place_injective model)
  · exact fun j => getLsbD_word _ j.isLt (bitCount_le kind)
  · exact fun j => getLsbD_word _ j.isLt (bitCount_le kind)
  · rw [length_bits, length_bits]
  · rw [length_bits]
    exact bitCount_le kind

end Model

end VgiImage.Imaging
