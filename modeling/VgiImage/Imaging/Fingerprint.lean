import VgiImage.Core.GridBits
import VgiImage.Imaging.Hash
import VgiImage.Imaging.ReferenceCodec

/-!
# How many bits a fingerprint has

`perceptual_hash` configures every algorithm with an 8×8 hash and packs the
bytes it gets into a `u64`, which silently pads or truncates.  The mean and the
gradient algorithm emit 64 bits for 8×8; the double gradient compares a 5×5
grid in both directions and emits 40, so `phash` leaves the low 24 bits of its
word zero.
-/

namespace VgiImage.Imaging

open BitDistance GridBits

/-! ## The bits of a configuration -/

/-- Columns of the sample grid an algorithm asks for. -/
def gridWidth (cfg : HasherConfig) : ℕ :=
  match cfg.hashAlg with
  | .mean => cfg.hashWidth
  | .gradient => cfg.hashWidth + 1
  | .doubleGradient => cfg.hashWidth / 2 + 1

/-- Rows of the sample grid an algorithm asks for. -/
def gridHeight (cfg : HasherConfig) : ℕ :=
  match cfg.hashAlg with
  | .mean => cfg.hashHeight
  | .gradient => cfg.hashHeight
  | .doubleGradient => cfg.hashHeight / 2 + 1

/-- How samples are compared: two neighbours, and a cell with its grid. -/
structure Comparisons (α : Type) where
  less : α → α → Bool
  aboveMean : List α → α → Bool
  exists_less : ∃ a b, less a b = true
  exists_aboveMean : ∃ a, ∀ count, aboveMean (List.replicate count a) a = true

/-- Hash bits of a sample grid: one per cell, one per horizontal pair, or one
per horizontal and then one per vertical pair. -/
def hashBits {α : Type} (compare : Comparisons α) :
    (cfg : HasherConfig) → Grid (gridWidth cfg) (gridHeight cfg) α → List Bool
  | ⟨_, _, .mean, _⟩, g =>
      (rowMajor g).map (compare.aboveMean (rowMajor g))
  | ⟨_, _, .gradient, _⟩, g =>
      (horizontalPairs g).map fun pair => compare.less pair.1 pair.2
  | ⟨_, _, .doubleGradient, _⟩, g =>
      (horizontalPairs g).map (fun pair => compare.less pair.1 pair.2) ++
        (verticalPairs g).map fun pair => compare.less pair.1 pair.2

/-- Number of bits a configuration emits. -/
def bitCount (cfg : HasherConfig) : ℕ :=
  match cfg.hashAlg with
  | .mean => cfg.hashHeight * cfg.hashWidth
  | .gradient => cfg.hashHeight * cfg.hashWidth
  | .doubleGradient =>
      (cfg.hashHeight / 2 + 1) * (cfg.hashWidth / 2) +
        (cfg.hashWidth / 2 + 1) * (cfg.hashHeight / 2)

theorem length_hashBits {α : Type} (compare : Comparisons α) (cfg : HasherConfig)
    (g : Grid (gridWidth cfg) (gridHeight cfg) α) :
    (hashBits compare cfg g).length = bitCount cfg := by
  obtain ⟨w, h, alg, dct⟩ := cfg
  cases alg
  case mean => exact (List.length_map _).trans (length_rowMajor g)
  case gradient => exact (List.length_map _).trans (length_horizontalPairs g)
  case doubleGradient =>
    simp only [hashBits, List.length_append, List.length_map, bitCount]
    exact congrArg₂ _ (length_horizontalPairs g) (length_verticalPairs g)

/-- How the crate hashes an image: it samples a grid of the algorithm's shape,
with or without DCT preprocessing, and packs the bits of that grid. -/
structure HasherModel (hasher : HasherCrate) where
  Sample : Type
  compare : Comparisons Sample
  order : BitOrder
  samples (cfg : HasherConfig) (img : DynamicImage) :
    Grid (gridWidth cfg) (gridHeight cfg) Sample
  hashImage_eq (cfg : HasherConfig) (img : DynamicImage) :
    hasher.hashImage cfg img = packBits order (hashBits compare cfg (samples cfg img))

section Model

variable {hasher : HasherCrate} (model : HasherModel hasher)

/-- The hash bits of an image before packing. -/
def HasherModel.bits (kind : HashKind) (img : DynamicImage) : List Bool :=
  hashBits model.compare (hasherConfig kind) (model.samples (hasherConfig kind) img)

/-- The word a grid of samples is packed into. -/
def HasherModel.word (kind : HashKind)
    (g : Grid (gridWidth (hasherConfig kind)) (gridHeight (hasherConfig kind))
      model.Sample) : UInt64 :=
  packHash (packBits model.order (hashBits model.compare (hasherConfig kind) g))

/-- Big-endian bytes of a word. -/
def toBeBytes (v : UInt64) : List UInt8 :=
  List.ofFn fun i : Fin 8 => ⟨byteLane v i.rev⟩

/-- The hash of an image is a full 64-bit fingerprint: 64 bits in 8 bytes, none
dropped by `take(8)`, no bit of the word constant, and the bytes recoverable
from the word. -/
structure FullFingerprint (kind : HashKind) (img : DynamicImage) : Prop where
  length_bits : (model.bits kind img).length = 64
  length_bytes : (hasher.hashImage (hasherConfig kind) img).length = 8
  take_bytes : (hasher.hashImage (hasherConfig kind) img).take 8 =
    hasher.hashImage (hasherConfig kind) img
  bit_varies (j : ℕ) (hj : j < 64) :
    ∃ g, (model.word kind g).toBitVec.getLsbD j = true
  bytes_recovered :
    toBeBytes (packHash (hasher.hashImage (hasherConfig kind) img)) =
      hasher.hashImage (hasherConfig kind) img

variable {model}

theorem length_bits (kind : HashKind) (img : DynamicImage) :
    (model.bits kind img).length = bitCount (hasherConfig kind) :=
  length_hashBits _ _ _

theorem length_hashImage (model : HasherModel hasher) (kind : HashKind)
    (img : DynamicImage) :
    (hasher.hashImage (hasherConfig kind) img).length =
      (bitCount (hasherConfig kind) + 7) / 8 := by
  rw [model.hashImage_eq, length_packBits, length_hashBits]

/-- Which hash bit ends up in bit `j` of the word. -/
def HasherModel.sourceBit (model : HasherModel hasher) (j : ℕ) : ℕ :=
  8 * (7 - j / 8) + model.order.source (j % 8)

theorem getLsbD_word {kind : HashKind} (g) {j : ℕ} (hj : j < 64)
    (hcount : bitCount (hasherConfig kind) ≤ 64) :
    (model.word kind g).toBitVec.getLsbD j =
      (hashBits model.compare (hasherConfig kind) g).getD (model.sourceBit j) false := by
  let a : Fin 8 := ⟨j / 8, by omega⟩
  let b : Fin 8 := ⟨j % 8, by omega⟩
  have hbytes : (packBits model.order
      (hashBits model.compare (hasherConfig kind) g)).length ≤ 8 := by
    rw [length_packBits, length_hashBits]
    omega
  have hlane := byteLane_packHash
    (packBits model.order (hashBits model.compare (hasherConfig kind) g)) a
  rw [List.take_of_length_le hbytes] at hlane
  have hbit := congrArg (fun l => l.getLsbD b) hlane
  simp only [byteLane] at hbit
  rw [getLsbD_lane, getLsbD_getD_packBits _ _ _ b.isLt] at hbit
  have hj' : 8 * a.val + b.val = j := Nat.div_add_mod j 8
  rw [hj'] at hbit
  exact hbit

theorem sourceBit_lt (model : HasherModel hasher) {j : ℕ} (hj : j < 64) :
    model.sourceBit j < 64 := by
  have := model.order.source_lt (Nat.mod_lt j (show 0 < 8 by omega))
  rw [HasherModel.sourceBit]
  omega

/-- Every bit of an average or difference hash is set for some samples. -/
theorem exists_hashBits_getD {kind : HashKind} (hkind : kind ≠ .perceptual) {i : ℕ}
    (hi : i < 64) :
    ∃ g, (hashBits model.compare (hasherConfig kind) g).getD i false = true := by
  cases kind
  case average =>
    obtain ⟨a, ha⟩ := model.compare.exists_aboveMean
    let g : Grid 8 8 model.Sample := fun _ _ => a
    have hg : rowMajor g = List.replicate 64 a := List.ofFn_const 64 a
    refine ⟨g, ?_⟩
    change ((rowMajor g).map (model.compare.aboveMean (rowMajor g))).getD i false = true
    rw [hg, List.map_replicate, ha 64, List.getD, List.getElem?_replicate, if_pos hi]
    rfl
  case difference =>
    exact exists_horizontalPairs_getD model.compare.exists_less ⟨i, hi⟩
  case perceptual => exact absurd rfl hkind

/-- The word gives back eight packed bytes. -/
theorem toBeBytes_packHash {bytes : List UInt8} (h : bytes.length = 8) :
    toBeBytes (packHash bytes) = bytes := by
  refine List.ext_getElem (by simp [toBeBytes, h]) fun i hi hi' => ?_
  have hindex : 7 - (Fin.rev ⟨i, h ▸ hi'⟩ : Fin 8).val = i := by
    rw [Fin.val_rev]
    change 7 - (8 - (i + 1)) = i
    omega
  simp only [toBeBytes, List.getElem_ofFn, byteLane_packHash,
    List.take_of_length_le h.le, hindex]
  rw [List.getD_eq_getElem _ _ hi']

/-- `perceptual_hash` yields a full 64-bit fingerprint exactly for the average
and the difference hash. -/
theorem perceptualHash_fullFingerprint_iff (model : HasherModel hasher)
    {image : ImageCrate} {blob : Blob} {img : DynamicImage}
    (hdecode : decode image blob = .ok img) (kind : HashKind) :
    perceptualHash image hasher blob kind =
        .ok (packHash (hasher.hashImage (hasherConfig kind) img)) ∧
      (FullFingerprint model kind img ↔ kind ≠ .perceptual) := by
  constructor
  · simp [perceptualHash, hdecode, bind, Except.bind, pure, Except.pure]
  constructor
  · rintro h rfl
    have hcount : bitCount (hasherConfig .perceptual) = 64 :=
      (length_bits .perceptual img).symm.trans h.length_bits
    exact absurd hcount (by decide)
  · intro hkind
    have hcount : bitCount (hasherConfig kind) = 64 := by
      cases kind
      case average => rfl
      case difference => rfl
      case perceptual => exact absurd rfl hkind
    have hlength : (hasher.hashImage (hasherConfig kind) img).length = 8 := by
      rw [length_hashImage model, hcount]
    refine
      { length_bits := (length_bits kind img).trans hcount
        length_bytes := hlength
        take_bytes := List.take_of_length_le hlength.le
        bit_varies := fun j hj => ?_
        bytes_recovered := toBeBytes_packHash hlength }
    obtain ⟨g, hg⟩ := exists_hashBits_getD hkind (sourceBit_lt model hj)
    exact ⟨g, (getLsbD_word g hj hcount.le).trans hg⟩

/-- The defect in numbers: `phash` packs 40 bits into 5 bytes, and the low 24
bits of its word are zero for every grid of samples. -/
theorem perceptual_bits (img : DynamicImage) :
    (model.bits .perceptual img).length = 40 ∧
      (hasher.hashImage (hasherConfig .perceptual) img).length = 5 ∧
        ∀ g, ∀ j < 24, (model.word .perceptual g).toBitVec.getLsbD j = false := by
  refine ⟨length_bits .perceptual img, length_hashImage model .perceptual img,
    fun g j hj => ?_⟩
  rw [getLsbD_word g (by omega) (by decide)]
  have hlength : (hashBits model.compare (hasherConfig .perceptual) g).length = 40 :=
    length_hashBits _ _ _
  rw [List.getD, List.getElem?_eq_none]
  · rfl
  · rw [hlength, HasherModel.sourceBit]
    omega

end Model

/-! ## A concrete hasher -/

/-- Natural-number samples, compared by size; a cell is set from the truncated mean
up. -/
def naturalComparisons : Comparisons ℕ where
  less a b := a < b
  aboveMean cells cell := cells.sum / cells.length ≤ cell
  exists_less := ⟨0, 1, rfl⟩
  exists_aboveMean := ⟨0, fun count => by simp⟩

/-- A hasher for the all-black images of the header-level codec: every sample
of the grid is zero. -/
def blackHasher : HasherCrate where
  hashImage cfg _ := packBits .lsbFirst (hashBits naturalComparisons cfg fun _ _ => 0)

def blackHasherModel : HasherModel blackHasher where
  Sample := ℕ
  compare := naturalComparisons
  order := .lsbFirst
  samples _ _ _ _ := 0
  hashImage_eq _ _ := rfl

open ReferenceCodec

theorem perceptualHash_fullFingerprint_samplePng :
    perceptualHash codec blackHasher samplePng .difference =
        .ok (packHash (blackHasher.hashImage (hasherConfig .difference) (black 2 2 .rgb8))) ∧
      (FullFingerprint blackHasherModel .difference (black 2 2 .rgb8) ↔
        HashKind.difference ≠ .perceptual) :=
  perceptualHash_fullFingerprint_iff blackHasherModel decode_samplePng .difference

/-- The sample image has no full fingerprint under `phash`. -/
theorem phash_not_fullFingerprint :
    ¬ ∀ (hasher : HasherCrate) (model : HasherModel hasher) (image : ImageCrate)
        (blob : Blob) (img : DynamicImage), decode image blob = .ok img →
          ∀ kind, FullFingerprint model kind img := by
  intro h
  have hfull := h blackHasher blackHasherModel codec samplePng _ decode_samplePng
    .perceptual
  have hforty := hfull.length_bits.symm.trans (perceptual_bits (black 2 2 .rgb8)).1
  exact absurd hforty (by decide)

end VgiImage.Imaging
