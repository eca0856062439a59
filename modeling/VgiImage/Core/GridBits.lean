import VgiImage.Core.BitDistance

/-!
# Bits read off a grid

Hash algorithms turn a grid of samples into bits by visiting its cells and its
horizontal pairs row by row, its vertical pairs column by column, and pack the
bits eight to a byte.  This module counts the bits of each traversal and locates
every bit in the packed bytes, over arbitrary samples.
-/

namespace VgiImage.GridBits

open BitDistance

variable {α β : Type*} {w h : ℕ}

/-- A grid of `w` columns and `h` rows. -/
abbrev Grid (w h : ℕ) (α : Type*) := Fin h → Fin w → α

/-! ## Traversals -/

/-- The values of `f` in row-major order. -/
def rowMajor (f : Grid w h β) : List β :=
  List.ofFn fun i : Fin (h * w) => f i.divNat i.modNat

@[simp]
theorem length_rowMajor (f : Grid w h β) : (rowMajor f).length = h * w := by
  simp [rowMajor]

theorem getD_rowMajor (f : Grid w h β) (fallback : β) (i : Fin (h * w)) :
    (rowMajor f).getD i fallback = f i.divNat i.modNat := by
  simp [rowMajor, List.getD]

theorem map_rowMajor {γ : Type*} (f : Grid w h β) (g : β → γ) :
    (rowMajor f).map g = rowMajor fun y x => g (f y x) := by
  simp [rowMajor, List.map_ofFn, Function.comp_def]

/-- The values of `f` in column-major order. -/
def columnMajor (f : Grid w h β) : List β := rowMajor fun x y => f y x

@[simp]
theorem length_columnMajor (f : Grid w h β) : (columnMajor f).length = w * h :=
  length_rowMajor _

/-- Pairs of horizontally adjacent cells, row by row. -/
def horizontalPairs (g : Grid (w + 1) h α) : List (α × α) :=
  rowMajor fun (y : Fin h) (x : Fin w) => (g y x.castSucc, g y x.succ)

/-- Pairs of vertically adjacent cells, column by column. -/
def verticalPairs (g : Grid w (h + 1) α) : List (α × α) :=
  columnMajor fun (y : Fin h) (x : Fin w) => (g y.castSucc x, g y.succ x)

@[simp]
theorem length_horizontalPairs (g : Grid (w + 1) h α) :
    (horizontalPairs g).length = h * w :=
  length_rowMajor _

@[simp]
theorem length_verticalPairs (g : Grid w (h + 1) α) :
    (verticalPairs g).length = w * h :=
  length_columnMajor _

/-- A comparison that can hold does hold for any chosen horizontal pair of some
grid. -/
theorem exists_horizontalPairs_getD {less : α → α → Bool}
    (hless : ∃ a b, less a b = true) (i : Fin (h * w)) :
    ∃ g : Grid (w + 1) h α,
      ((horizontalPairs g).map fun pair => less pair.1 pair.2).getD i false = true := by
  obtain ⟨a, b, hab⟩ := hless
  refine ⟨fun _ x => if x = i.modNat.castSucc then a else b, ?_⟩
  rw [horizontalPairs, map_rowMajor, getD_rowMajor]
  have hne : i.modNat.succ ≠ i.modNat.castSucc := by
    intro heq
    have := congrArg Fin.val heq
    simp at this
  simpa [hne] using hab

/-! ## Packing -/

/-- Which bit of a byte takes the first of eight hash bits. -/
inductive BitOrder where
  | lsbFirst | msbFirst
  deriving DecidableEq

namespace BitOrder

/-- The index among eight hash bits of bit `k` of the byte. -/
def source : BitOrder → ℕ → ℕ
  | lsbFirst, k => k
  | msbFirst, k => 7 - k

theorem source_lt (order : BitOrder) {k : ℕ} (hk : k < 8) : order.source k < 8 := by
  cases order with
  | lsbFirst => exact hk
  | msbFirst =>
      change 7 - k < 8
      omega

theorem source_injOn (order : BitOrder) {j k : ℕ} (hj : j < 8) (hk : k < 8)
    (h : order.source j = order.source k) : j = k := by
  cases order with
  | lsbFirst => exact h
  | msbFirst =>
      change 7 - j = 7 - k at h
      omega

end BitOrder

/-- The byte whose bit `k` is `bit k`. -/
def byteOfBits (bit : ℕ → Bool) : UInt8 :=
  ⟨(BitVec.ofBoolListLE ((List.range 8).map bit)).cast (by simp)⟩

theorem getLsbD_byteOfBits (bit : ℕ → Bool) {k : ℕ} (hk : k < 8) :
    (byteOfBits bit).toBitVec.getLsbD k = bit k := by
  simp only [byteOfBits, BitVec.getLsbD_cast, BitVec.getLsbD_ofBoolListLE]
  simp [List.getD, hk]

/-- Eight bits to a byte; only the last byte is padded. -/
def packBits (order : BitOrder) (bits : List Bool) : List UInt8 :=
  (List.range ((bits.length + 7) / 8)).map fun i =>
    byteOfBits fun k => bits.getD (8 * i + order.source k) false

@[simp]
theorem length_packBits (order : BitOrder) (bits : List Bool) :
    (packBits order bits).length = (bits.length + 7) / 8 := by
  simp [packBits]

/-- Every bit of the packed bytes; missing bytes read as zero. -/
theorem getLsbD_getD_packBits (order : BitOrder) (bits : List Bool) (i : ℕ) {k : ℕ}
    (hk : k < 8) :
    ((packBits order bits).getD i 0).toBitVec.getLsbD k =
      bits.getD (8 * i + order.source k) false := by
  by_cases hi : i < (bits.length + 7) / 8
  · have hbyte : (packBits order bits).getD i 0 =
        byteOfBits fun k => bits.getD (8 * i + order.source k) false := by
      simp [packBits, List.getD, hi]
    rw [hbyte, getLsbD_byteOfBits _ hk]
  · have hbyte : (packBits order bits).getD i 0 = 0 := by
      simp [packBits, List.getD, hi]
    have hbit : bits.length ≤ 8 * i + order.source k := by omega
    rw [hbyte, List.getD, List.getElem?_eq_none hbit]
    simp

end VgiImage.GridBits
