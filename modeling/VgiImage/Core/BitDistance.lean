import Mathlib.InformationTheory.Hamming
import Mathlib.Logic.Equiv.Fin.Basic
import Mathlib.Algebra.BigOperators.Fin

/-!
# Bit distance between words and its decomposition into lanes

The number of ones of `x ^^^ y` is the Hamming distance of the two bit
vectors, so it is a metric.  A word of `m * n` bits is also a vector of `m`
lanes of `n` bits each, and the distance is the sum of the distances of the
lanes.  Nothing here fixes the word or the lane size.
-/

namespace VgiImage.BitDistance

variable {w m n : ℕ}

/-- Number of ones in the binary representation. -/
def popcount (x : BitVec w) : ℕ :=
  (List.range w).countP x.getLsbD

theorem popcount_eq_sum (x : BitVec w) :
    popcount x = ∑ i : Fin w, (x.getLsbD i).toNat := by
  have hcount : ∀ (p : ℕ → Bool) (count : ℕ),
      (List.range count).countP p = ∑ i : Fin count, (p i).toNat := by
    intro p count
    induction count with
    | zero => rfl
    | succ count ih =>
        rw [List.range_succ, List.countP_append, ih, Fin.sum_univ_castSucc]
        congr 1
  exact hcount x.getLsbD w

/-- The coefficient bits of a word. -/
def bits (x : BitVec w) (i : Fin w) : Bool := x.getLsbD i

theorem bits_injective : Function.Injective (bits : BitVec w → Fin w → Bool) := by
  intro x y h
  exact BitVec.eq_of_getLsbD_eq fun i hi => congrFun h ⟨i, hi⟩

/-- Counting the ones of an exclusive or counts the differing positions. -/
theorem popcount_xor (x y : BitVec w) :
    popcount (x ^^^ y) = hammingDist (bits x) (bits y) := by
  rw [popcount_eq_sum, hammingDist, Finset.card_filter]
  refine Finset.sum_congr rfl fun i _ => ?_
  rw [BitVec.getLsbD_xor]
  change (x.getLsbD i ^^ y.getLsbD i).toNat =
    if x.getLsbD i ≠ y.getLsbD i then 1 else 0
  cases x.getLsbD i <;> cases y.getLsbD i <;> rfl

theorem popcount_le (x : BitVec w) : popcount x ≤ w := by
  simpa [popcount] using List.countP_le_length (p := x.getLsbD) (l := List.range w)

theorem popcount_xor_eq_zero_iff {x y : BitVec w} :
    popcount (x ^^^ y) = 0 ↔ x = y := by
  rw [popcount_xor, hammingDist_eq_zero]
  exact bits_injective.eq_iff

theorem popcount_xor_comm (x y : BitVec w) :
    popcount (x ^^^ y) = popcount (y ^^^ x) := by
  rw [BitVec.xor_comm]

theorem popcount_xor_triangle (x y z : BitVec w) :
    popcount (x ^^^ z) ≤ popcount (x ^^^ y) + popcount (y ^^^ z) := by
  simp only [popcount_xor]
  exact hammingDist_triangle _ _ _

/-! ## Words of integers -/

/-- A word read as unsigned is its signed value modulo `2 ^ w`. -/
theorem toNat_eq_toInt_emod (x : BitVec w) : (x.toNat : ℤ) = x.toInt % 2 ^ w := by
  have hlt : (x.toNat : ℤ) < 2 ^ w := by exact_mod_cast x.isLt
  rw [BitVec.toInt_eq_toNat_cond]
  split
  · exact (Int.emod_eq_of_lt (Int.natCast_nonneg _) hlt).symm
  · calc
      (x.toNat : ℤ) = (x.toNat : ℤ) % 2 ^ w :=
        (Int.emod_eq_of_lt (Int.natCast_nonneg _) hlt).symm
      _ = ((x.toNat : ℤ) - (2 ^ w : ℕ)) % 2 ^ w := by
        rw [Nat.cast_pow, Nat.cast_ofNat, Int.sub_emod_right]

/-- Number of bit positions at which `m` and `n` differ modulo `2 ^ w`. -/
def differingBits (w : ℕ) (m n : ℤ) : ℕ :=
  ((Finset.range w).filter fun j =>
    (m % 2 ^ w).toNat.testBit j ≠ (n % 2 ^ w).toNat.testBit j).card

theorem popcount_xor_eq_differingBits {x y : BitVec w} {k l : ℤ}
    (hx : (x.toNat : ℤ) = k % 2 ^ w) (hy : (y.toNat : ℤ) = l % 2 ^ w) :
    popcount (x ^^^ y) = differingBits w k l := by
  rw [differingBits, ← hx, ← hy, Int.toNat_natCast, Int.toNat_natCast, popcount_eq_sum,
    Finset.card_filter, Finset.sum_range]
  refine Finset.sum_congr rfl fun i _ => ?_
  rw [BitVec.getLsbD_xor, BitVec.testBit_toNat, BitVec.testBit_toNat]
  cases x.getLsbD i <;> cases y.getLsbD i <;> rfl

/-- Two integers with the same residue differ nowhere. -/
theorem differingBits_eq_zero {k l : ℤ} (h : k % 2 ^ w = l % 2 ^ w) :
    differingBits w k l = 0 := by
  rw [differingBits, h]
  simp

/-! ## Lanes -/

/-- Lane `a` of a word of `m` lanes of `n` bits, counted from the least
significant end. -/
def lane (x : BitVec (m * n)) (a : Fin m) : BitVec n :=
  x.extractLsb' (n * a) n

theorem getLsbD_lane (x : BitVec (m * n)) (a : Fin m) (b : Fin n) :
    (lane x a).getLsbD b = x.getLsbD (n * a + b) := by
  simp [lane]

theorem lane_xor (x y : BitVec (m * n)) (a : Fin m) :
    lane (x ^^^ y) a = lane x a ^^^ lane y a := by
  simp [lane, BitVec.extractLsb'_xor]

theorem lane_zero (a : Fin m) : lane (0 : BitVec (m * n)) a = 0 := by
  apply BitVec.eq_of_getLsbD_eq
  intro i hi
  simp [lane]

/-- The ones of a word are the ones of its lanes. -/
theorem popcount_eq_sum_lane (x : BitVec (m * n)) :
    popcount x = ∑ a, popcount (lane x a) := by
  rw [popcount_eq_sum, ← finProdFinEquiv.sum_comp, Fintype.sum_prod_type]
  refine Finset.sum_congr rfl fun a _ => ?_
  rw [popcount_eq_sum]
  refine Finset.sum_congr rfl fun b _ => ?_
  rw [getLsbD_lane]
  simp [finProdFinEquiv_apply_val, Nat.add_comm]

/-- Or-ing a value shifted to lane `a` into a word changes that lane only. -/
theorem lane_or_shiftLeft (x : BitVec (m * n)) (value : BitVec n) (a b : Fin m) :
    lane (x ||| value.setWidth (m * n) <<< (n * a.val)) b =
      if a = b then lane x b ||| value else lane x b := by
  apply BitVec.eq_of_getLsbD_eq
  intro i hi
  have hbit : n * b + i < m * n := by
    calc
      n * b + i < n * (b + 1) := by
        rw [Nat.mul_succ]
        omega
      _ ≤ n * m := Nat.mul_le_mul_left n b.isLt
      _ = m * n := Nat.mul_comm n m
  have hsplit : (lane (x ||| value.setWidth (m * n) <<< (n * a.val)) b).getLsbD i =
      ((lane x b).getLsbD i ||
        (!decide (n * b + i < n * a) && value.getLsbD (n * b + i - n * a))) := by
    rw [getLsbD_lane _ _ ⟨i, hi⟩, getLsbD_lane _ _ ⟨i, hi⟩]
    simp only [BitVec.getLsbD_or, BitVec.getLsbD_shiftLeft, hbit, decide_true,
      Bool.true_and, BitVec.getLsbD_setWidth]
    have : n * b + i - n * a < m * n := by omega
    simp [this]
  rw [hsplit]
  by_cases hab : a = b
  · subst hab
    simp
  · rw [if_neg hab]
    have hne : a.val ≠ b.val := fun h => hab (Fin.ext h)
    rcases Nat.lt_or_gt_of_ne hne with hlt | hgt
    · -- The shifted value ends below lane `b`.
      have hle : n * a + n ≤ n * b := by
        rw [← Nat.mul_succ]
        exact Nat.mul_le_mul_left n hlt
      rw [BitVec.getLsbD_of_ge value _ (by omega)]
      simp
    · -- The shifted value starts above lane `b`.
      have hle : n * b + n ≤ n * a := by
        rw [← Nat.mul_succ]
        exact Nat.mul_le_mul_left n hgt
      have : n * b + i < n * a := by omega
      simp [this]

/-! ## Lists of bits -/

/-- Number of positions at which two lists of bits differ. -/
def differences (l l' : List Bool) : ℕ := (List.zipWith xor l l').count true

/-- Positions past the end of both lists do not differ. -/
theorem differences_eq_sum {l l' : List Bool} (hlength : l.length = l'.length)
    (hle : l.length ≤ w) :
    differences l l' = ∑ i : Fin w, (l.getD i false ^^ l'.getD i false).toNat := by
  induction l generalizing l' w with
  | nil =>
      obtain rfl := List.length_eq_zero_iff.1 hlength.symm
      simp [differences]
  | cons b l ih =>
      cases l' with
      | nil => simp at hlength
      | cons b' l' =>
          cases w with
          | zero => simp at hle
          | succ w =>
              have hrest := ih (Nat.succ.inj hlength) (Nat.le_of_succ_le_succ hle)
              rw [Fin.sum_univ_succ]
              simp only [Fin.val_zero, Fin.val_succ, List.getD_cons_zero, List.getD_cons_succ]
              rw [← hrest, differences, differences, List.zipWith_cons_cons, List.count_cons,
                Nat.add_comm]
              cases b <;> cases b' <;> rfl

/-- Words that hold the bits of two lists, each bit in a place of its own, are as far
apart as the lists. -/
theorem popcount_xor_eq_differences {x y : BitVec w} {l l' : List Bool}
    (hlength : l.length = l'.length) (hle : l.length ≤ w) {source : Fin w → Fin w}
    (hsource : Function.Injective source)
    (hx : ∀ j : Fin w, x.getLsbD j = l.getD (source j) false)
    (hy : ∀ j : Fin w, y.getLsbD j = l'.getD (source j) false) :
    popcount (x ^^^ y) = differences l l' := by
  let places : Equiv.Perm (Fin w) := Equiv.ofBijective source
    (Finite.injective_iff_bijective.1 hsource)
  calc
    popcount (x ^^^ y) = ∑ j, (l.getD (places j) false ^^ l'.getD (places j) false).toNat := by
      rw [popcount_eq_sum]
      refine Finset.sum_congr rfl fun j _ => ?_
      rw [BitVec.getLsbD_xor, hx, hy]
      rfl
    _ = ∑ i : Fin w, (l.getD i false ^^ l'.getD i false).toNat :=
      Equiv.sum_comp places fun i => (l.getD i false ^^ l'.getD i false).toNat
    _ = differences l l' := (differences_eq_sum hlength hle).symm

end VgiImage.BitDistance
