import VgiImage.Core.BitDistance
import VgiImage.Imaging.Image
import Mathlib.Data.List.GetD

/-!
# Perceptual hashes and their packing

`perceptual_hash` asks the `image_hasher` crate for the hash bytes of the
decoded image and packs up to eight of them big-endian into a `u64`; byte `i`
lands in lane `7 - i` of the word.  `hamming_distance` counts differing bits of
two packed words, which is the sum of the distances of the bytes.
-/

namespace VgiImage.Imaging

open BitDistance

/-- Which perceptual-hash algorithm to compute. -/
inductive HashKind where
  | average | difference | perceptual
  deriving DecidableEq

inductive HashAlg where
  | mean | gradient | doubleGradient
  deriving DecidableEq

structure HasherConfig where
  hashWidth : ℕ
  hashHeight : ℕ
  hashAlg : HashAlg
  preprocDct : Bool
  deriving DecidableEq

/-- `cfg.to_hasher().hash_image(&img).as_bytes()` of the `image_hasher` crate. -/
structure HasherCrate where
  hashImage : HasherConfig → DynamicImage → List UInt8

/-- The configuration `perceptual_hash` builds: 8×8, with DCT preprocessing for
the perceptual kind. -/
def hasherConfig (kind : HashKind) : HasherConfig where
  hashWidth := 8
  hashHeight := 8
  hashAlg :=
    match kind with
    | .average => .mean
    | .difference => .gradient
    | .perceptual => .doubleGradient
  preprocDct := kind = .perceptual

/-! ## The packing loop -/

/-- `v |= (*b as u64) << (8 * (7 - i))` -/
def packByte (v : UInt64) (step : UInt8 × ℕ) : UInt64 :=
  v ||| step.1.toUInt64 <<< (8 * (7 - step.2)).toUInt64

/-- The loop over `bytes.iter().take(8).enumerate()`. -/
def packHash (bytes : List UInt8) : UInt64 :=
  (bytes.take 8).zipIdx.foldl packByte 0

/-- Compute a perceptual hash of `blob` using `kind`. -/
def perceptualHash (image : ImageCrate) (hasher : HasherCrate) (blob : Blob)
    (kind : HashKind) : Except ImgError UInt64 := do
  let img ← decode image blob
  let bytes := hasher.hashImage (hasherConfig kind) img
  pure (packHash bytes)

/-- `x.count_ones()` -/
def countOnes (x : UInt64) : UInt32 := .ofNat (popcount x.toBitVec)

/-- Hamming distance between two packed 64-bit hashes. -/
def hammingDistance (a b : UInt64) : UInt32 := countOnes (a ^^^ b)

theorem toNat_hammingDistance (a b : UInt64) :
    (hammingDistance a b).toNat = popcount (a.toBitVec ^^^ b.toBitVec) := by
  rw [hammingDistance, countOnes, UInt64.toBitVec_xor]
  apply UInt32.toNat_ofNat_of_lt'
  exact (popcount_le (w := 64) _).trans_lt (by decide)

theorem toNat_hammingDistance_le (a b : UInt64) :
    (hammingDistance a b).toNat ≤ 64 := by
  rw [toNat_hammingDistance]
  exact popcount_le _

/-! ## The checked loop

The same loop with Rust's overflow checks: `7 - i` must not underflow, and the
shift must be smaller than the word and lose no bit. -/

def checkedSub (a b : ℕ) : Option ℕ :=
  if b ≤ a then some (a - b) else none

def checkedShl (x : UInt64) (amount : ℕ) : Option UInt64 :=
  if amount < 64 ∧ x.toNat * 2 ^ amount < 2 ^ 64 then some (x <<< amount.toUInt64)
  else none

def checkedPackByte (v : UInt64) (step : UInt8 × ℕ) : Option UInt64 := do
  let lane ← checkedSub 7 step.2
  let shifted ← checkedShl step.1.toUInt64 (8 * lane)
  some (v ||| shifted)

def checkedPackHash (bytes : List UInt8) : Option UInt64 :=
  (bytes.take 8).zipIdx.foldlM checkedPackByte 0

theorem checkedPackByte_eq_some {v : UInt64} {byte : UInt8} {i : ℕ} (hi : i < 8) :
    checkedPackByte v (byte, i) = some (packByte v (byte, i)) := by
  have hshift : 8 * (7 - i) < 64 ∧ byte.toUInt64.toNat * 2 ^ (8 * (7 - i)) < 2 ^ 64 := by
    refine ⟨by omega, ?_⟩
    calc
      byte.toUInt64.toNat * 2 ^ (8 * (7 - i)) ≤ byte.toUInt64.toNat * 2 ^ 56 := by
        gcongr
        · norm_num
        · omega
      _ < 2 ^ 64 := by
        have := byte.toNat_lt
        rw [UInt8.toNat_toUInt64]
        omega
  simp only [checkedPackByte, checkedSub, checkedShl, if_pos (show i ≤ 7 by omega),
    Option.bind_eq_bind, Option.bind_some, if_pos hshift, packByte]

/-- No step of the loop over- or underflows, whatever the hash bytes. -/
theorem checkedPackHash_eq_some (bytes : List UInt8) :
    checkedPackHash bytes = some (packHash bytes) := by
  have hsteps : ∀ (steps : List (UInt8 × ℕ)) (v : UInt64), (∀ step ∈ steps, step.2 < 8) →
      steps.foldlM checkedPackByte v = some (steps.foldl packByte v) := by
    intro steps
    induction steps with
    | nil => intro v _; rfl
    | cons step steps ih =>
        intro v h
        rw [List.foldlM_cons, checkedPackByte_eq_some (h step (by simp))]
        exact ih _ fun step' hstep' => h step' (by simp [hstep'])
  apply hsteps
  rintro ⟨byte, i⟩ hmem
  have hi := (List.mem_zipIdx hmem).2.1
  simp at hi
  omega

/-! ## Lanes of a packed hash -/

/-- Lane `a` of a `u64`, counted from the least significant byte. -/
def byteLane (v : UInt64) (a : Fin 8) : BitVec 8 :=
  lane (m := 8) (n := 8) v.toBitVec a

theorem toBitVec_packByte (v : UInt64) (byte : UInt8) {i : ℕ} (hi : i < 8) :
    (packByte v (byte, i)).toBitVec =
      v.toBitVec ||| byte.toBitVec.setWidth 64 <<< (8 * (7 - i)) := by
  have hamount : ((8 * (7 - i)).toUInt64.toBitVec % 64).toNat = 8 * (7 - i) := by
    have hnat : ((8 * (7 - i)).toUInt64).toNat = 8 * (7 - i) :=
      UInt64.toNat_ofNat_of_lt' (by simp only [UInt64.size]; omega)
    rw [BitVec.toNat_umod, UInt64.toNat_toBitVec, hnat]
    have hword : (64 : BitVec 64).toNat = 64 := rfl
    exact Nat.mod_eq_of_lt (by rw [hword]; omega)
  rw [packByte, UInt64.toBitVec_or, UInt64.toBitVec_shiftLeft, BitVec.shiftLeft_eq',
    hamount, UInt8.toBitVec_toUInt64]

/-- A step ors the byte into lane `7 - i` and leaves the other lanes alone. -/
theorem byteLane_packByte (v : UInt64) (byte : UInt8) {i : ℕ} (hi : i < 8) (a : Fin 8) :
    byteLane (packByte v (byte, i)) a =
      if i + a = 7 then byteLane v a ||| byte.toBitVec else byteLane v a := by
  let target : Fin 8 := ⟨7 - i, by omega⟩
  have hlane := lane_or_shiftLeft (m := 8) (n := 8) v.toBitVec byte.toBitVec target a
  have hiff : target = a ↔ i + a = 7 := by
    rw [Fin.ext_iff]
    change 7 - i = a.val ↔ _
    omega
  rw [byteLane, toBitVec_packByte v byte hi]
  simp only [hiff] at hlane
  exact hlane

/-- The loop invariant: after the bytes from index `start` on, lane `a` also
holds byte `7 - a` if that byte was among them. -/
theorem byteLane_foldl_packByte (bytes : List UInt8) (start : ℕ) (v : UInt64)
    (hlength : start + bytes.length ≤ 8) (a : Fin 8) :
    byteLane ((bytes.zipIdx start).foldl packByte v) a =
      if start + a ≤ 7 then
        byteLane v a ||| (bytes.getD (7 - a - start) 0).toBitVec
      else byteLane v a := by
  induction bytes generalizing start v with
  | nil => simp
  | cons byte bytes ih =>
      rw [List.length_cons] at hlength
      rw [List.zipIdx_cons, List.foldl_cons, ih (start + 1) _ (by omega),
        byteLane_packByte v byte (by omega)]
      by_cases hbefore : start + a ≤ 7
      · by_cases hnow : start + a = 7
        · have hindex : 7 - a.val - start = 0 := by omega
          have hafter : ¬ start + 1 + a ≤ 7 := by omega
          rw [if_neg hafter, if_pos hnow, if_pos hbefore, hindex]
          rfl
        · have hindex : 7 - a.val - start = (7 - a - (start + 1)) + 1 := by omega
          have hafter : start + 1 + a ≤ 7 := by omega
          rw [if_pos hafter, if_neg hnow, if_pos hbefore, hindex]
          rfl
      · have hafter : ¬ start + 1 + a ≤ 7 := by omega
        have hnow : ¬ start + a = 7 := by omega
        rw [if_neg hafter, if_neg hnow, if_neg hbefore]

/-- Byte `i` of a packed hash is in lane `7 - i`; lanes of missing bytes are
zero. -/
theorem byteLane_packHash (bytes : List UInt8) (a : Fin 8) :
    byteLane (packHash bytes) a = ((bytes.take 8).getD (7 - a) 0).toBitVec := by
  rw [packHash, byteLane_foldl_packByte _ 0 0 (by simp), if_pos (by omega)]
  have hzero : byteLane 0 a = 0 := lane_zero a
  rw [hzero, Nat.sub_zero]
  exact BitVec.zero_or

/-! ## Distance of packed hashes -/

/-- Number of differing bits of two bytes. -/
def byteDistance (x y : UInt8) : ℕ := popcount (x.toBitVec ^^^ y.toBitVec)

theorem byteDistance_self (x : UInt8) : byteDistance x x = 0 :=
  popcount_xor_eq_zero_iff.2 rfl

theorem toNat_hammingDistance_eq_sum (a b : UInt64) :
    (hammingDistance a b).toNat =
      ∑ i : Fin 8, popcount (byteLane a i ^^^ byteLane b i) := by
  rw [toNat_hammingDistance]
  refine (popcount_eq_sum_lane (m := 8) (n := 8) _).trans ?_
  refine Finset.sum_congr rfl fun i _ => ?_
  exact congrArg popcount (lane_xor (m := 8) (n := 8) _ _ i)

/-- Summing over lanes of padded byte strings sums over the bytes. -/
theorem sum_getD_eq_sum_zipWith (p q : List UInt8) (hlength : p.length = q.length)
    {lanes : ℕ} (hlanes : p.length ≤ lanes) :
    ∑ i : Fin lanes, byteDistance (p.getD i 0) (q.getD i 0) =
      (List.zipWith byteDistance p q).sum := by
  induction p generalizing q lanes with
  | nil =>
      obtain rfl : q = [] := List.length_eq_zero_iff.1 hlength.symm
      simp [byteDistance_self]
  | cons x p ih =>
      cases q with
      | nil => simp at hlength
      | cons y q =>
          cases lanes with
          | zero => simp at hlanes
          | succ lanes =>
              rw [Fin.sum_univ_succ, List.zipWith_cons_cons, List.sum_cons]
              congr 1
              exact ih q (by simpa using hlength) (by simpa using hlanes)

/-- For hash byte strings of one length `≤ 8`: the distance of the packed words
is the sum of the distances of the bytes, packing is injective, and no step of
the packing loop over- or underflows. -/
theorem packHash_faithful (p q : List UInt8) (hlength : p.length = q.length)
    (hsize : p.length ≤ 8) :
    (hammingDistance (packHash p) (packHash q)).toNat =
        (List.zipWith byteDistance p q).sum ∧
      (packHash p = packHash q → p = q) ∧
      checkedPackHash p = some (packHash p) := by
  have hp : p.take 8 = p := List.take_of_length_le hsize
  have hq : q.take 8 = q := List.take_of_length_le (hlength ▸ hsize)
  refine ⟨?_, fun heq => ?_, checkedPackHash_eq_some p⟩
  · rw [toNat_hammingDistance_eq_sum, ← sum_getD_eq_sum_zipWith p q hlength hsize,
      ← Equiv.sum_comp Fin.revPerm]
    refine Finset.sum_congr rfl fun a _ => ?_
    rw [byteLane_packHash, byteLane_packHash, hp, hq, byteDistance]
    have hindex : 7 - (Fin.revPerm a).val = a.val := by
      rw [Fin.revPerm_apply, Fin.val_rev]
      omega
    rw [hindex]
  · refine List.ext_getElem hlength fun i hi hi' => ?_
    let a : Fin 8 := ⟨7 - i, by omega⟩
    have hindex : 7 - a.val = i := by
      change 7 - (7 - i) = i
      omega
    have hlanes := congrArg (fun v => byteLane v a) heq
    simp only [byteLane_packHash, hp, hq, hindex] at hlanes
    rw [List.getD_eq_getElem _ _ hi, List.getD_eq_getElem _ _ hi'] at hlanes
    exact UInt8.toBitVec_inj.1 hlanes

theorem packHash_faithful_pair :
    (hammingDistance (packHash [0xF0, 1]) (packHash [0x0F, 3])).toNat =
        (List.zipWith byteDistance [0xF0, 1] [0x0F, 3]).sum ∧
      (packHash [0xF0, 1] = packHash [0x0F, 3] → ([0xF0, 1] : List UInt8) = [0x0F, 3]) ∧
      checkedPackHash [0xF0, 1] = some (packHash [0xF0, 1]) :=
  packHash_faithful [0xF0, 1] [0x0F, 3] rfl (by decide)

end VgiImage.Imaging
