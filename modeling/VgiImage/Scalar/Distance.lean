import VgiImage.Scalar.Nulls

/-!
# The distance of two hash columns

`phash_distance` reads integers of any width and signedness as 64-bit words by
their residue modulo `2^64`, so its result depends on the numbers alone.  On
words it is the Hamming metric.
-/

namespace VgiImage.Scalar

open Arrow ArrowIo Imaging Outcome RowLoop BitDistance

/-! ## The statement -/

/-- The column `out` holds the distances of the integers in `a` and `b`. -/
structure DistanceColumn (a b out : ArrayRef) (rows : ℕ) : Prop where
  isNull_eq : ∀ i < rows, out.isNull i = (a.isNull i || b.isNull i)
  value_eq : ∀ i < rows, ∀ m n : ℤ,
    a.value i = some (.scalar (.int m)) → b.value i = some (.scalar (.int n)) →
      out.value i = some (.scalar (.int (differingBits 64 m n)))

/-- A metric on 64-bit words with values in `0..64`. -/
structure WordMetric (distance : UInt64 → UInt64 → UInt32) : Prop where
  le (a b : UInt64) : (distance a b).toNat ≤ 64
  /-- `distance as i32` keeps the value. -/
  cast (a b : UInt64) : (distance a b).toInt32.toInt = (distance a b).toNat
  eq_zero_iff (a b : UInt64) : distance a b = 0 ↔ a = b
  comm (a b : UInt64) : distance a b = distance b a
  triangle (a b c : UInt64) :
    (distance a c).toNat ≤ (distance a b).toNat + (distance b c).toNat

/-! ## The metric -/

theorem hammingDistance_wordMetric : WordMetric hammingDistance where
  le := toNat_hammingDistance_le
  cast a b := by
    apply toInt_toInt32
    exact (toNat_hammingDistance_le a b).trans_lt (by decide)
  eq_zero_iff a b := by
    calc
      hammingDistance a b = 0 ↔ (hammingDistance a b).toNat = 0 := UInt32.toNat_inj.symm
      _ ↔ a.toBitVec = b.toBitVec := by
        rw [toNat_hammingDistance, popcount_xor_eq_zero_iff]
      _ ↔ a = b := UInt64.toBitVec_inj
  comm a b := by
    apply UInt32.toNat_inj.1
    rw [toNat_hammingDistance, toNat_hammingDistance, popcount_xor_comm]
  triangle a b c := by
    simp only [toNat_hammingDistance]
    exact popcount_xor_triangle _ _ _

/-! ## Hash words -/

/-- A word that stands for the integer `m`. -/
def IsWordOf (x : UInt64) (m : ℤ) : Prop := (x.toNat : ℤ) = m % 2 ^ 64

theorem isWordOf_natCast {x : UInt64} {m : ℕ} (h : x.toNat = m) : IsWordOf x m := by
  have hlt : (m : ℤ) < 2 ^ 64 := by
    rw [← h]
    exact_mod_cast x.toNat_lt
  rw [IsWordOf, h, Int.emod_eq_of_lt (Int.natCast_nonneg m) hlt]

/-- Sign extension keeps the residue. -/
theorem isWordOf_toUInt64 {x : Int64} {m : ℤ} (h : x.toInt = m) : IsWordOf x.toUInt64 m := by
  rw [← h]
  exact toNat_eq_toInt_emod x.toBitVec

theorem toNat_hammingDistance_of_isWordOf {x y : UInt64} {m n : ℤ} (hx : IsWordOf x m)
    (hy : IsWordOf y n) : (hammingDistance x y).toNat = differingBits 64 m n := by
  rw [toNat_hammingDistance]
  exact popcount_xor_eq_differingBits hx hy

/-- A slot with an integer value is read as the word of that integer, if each
slot of the array is. -/
theorem exists_valueAt_isWordOf {α : Type} {slots : List (Option α)} {i : ℕ} {m : ℤ}
    {int : α → ℤ} {word : α → UInt64} (hword : ∀ x, IsWordOf (word x) (int x))
    (hvalue : ((slots.map (Option.map fun x => ScalarArray.Value.int (int x)))[i]?).join =
      some (.int m)) :
    ∃ x, (valueAt slots i).map (fun x => some (word x)) = .ok (some x) ∧ IsWordOf x m := by
  obtain ⟨x, hx, hint⟩ := exists_valueAt hvalue
  obtain rfl := ScalarArray.Value.int.inj hint
  exact ⟨word x, map_eq_ok_iff.2 ⟨x, hx, rfl⟩, hword x⟩

/-- An integer is read by its residue, whatever the type of its column. -/
theorem hashBits_of_value (arrow : ArrowCrate) {column : ArrayRef} {i : ℕ} {m : ℤ}
    (hvalue : column.value i = some (.scalar (.int m))) :
    ∃ x, hashBits arrow column i = .ok (some x) ∧ IsWordOf x m := by
  cases column with
  | scalar array =>
      have hslot : array.value i = some (.int m) := by
        simpa [ArrayRef.value] using hvalue
      have hnull : (ArrayRef.scalar array).isNull i = false := by
        simp [ArrayRef.isNull, hslot]
      unfold hashBits
      rw [hnull, if_neg Bool.false_ne_true]
      cases array
      case uint64 | uint32 | uint16 | uint8 =>
        refine exists_valueAt_isWordOf (fun x => isWordOf_natCast ?_) hslot
        simp
      case int64 => exact exists_valueAt_isWordOf (fun _ => isWordOf_toUInt64 rfl) hslot
      case int32 =>
        exact exists_valueAt_isWordOf (fun x => isWordOf_toUInt64 x.toInt_toInt64) hslot
      case int16 =>
        exact exists_valueAt_isWordOf (fun x => isWordOf_toUInt64 x.toInt_toInt64) hslot
      case int8 =>
        exact exists_valueAt_isWordOf (fun x => isWordOf_toUInt64 x.toInt_toInt64) hslot
      all_goals simp [ScalarArray.value, ScalarArray.slots, Option.join_eq_some_iff] at hslot
  | struct | map => simp [ArrayRef.value] at hvalue
  | null | other => cases hvalue

/-! ## The distance column -/

section Process

variable {crates : Crates} {a b : ArrayRef}

theorem rowValue_pair {i : ℕ} {x y : Option UInt64} (hx : hashBits crates.arrow a i = .ok x)
    (hy : hashBits crates.arrow b i = .ok y) :
    (PhashDistance.function crates).rowValue PhashDistance.evalRow [a, b] i =
      PhashDistance.evalRow [x, y] := by
  have hcells : [a, b].mapM (fun column => hashBits crates.arrow column i) = .ok [x, y] :=
    mapM_eq_ok_iff.2 (.cons hx (.cons hy .nil))
  exact bind_of_ok hcells _

theorem exists_evalRow (x y : Option UInt64) : ∃ row, PhashDistance.evalRow [x, y] = .ok row := by
  cases x <;> cases y <;> exact ⟨_, rfl⟩

theorem exists_hashBits (crates : Crates) {column : ArrayRef} (i : ℕ)
    (hreads : FunctionName.phashDistance.Reads column.dataType) :
    ∃ x, hashBits crates.arrow column i = .ok x ∧ x.isNone = column.isNull i := by
  obtain ⟨hmarked, hvalue, -⟩ :=
    readCell_spec crates .phashDistance column i
  cases hnull : column.isNull i with
  | true => exact ⟨none, hmarked hnull, rfl⟩
  | false =>
      obtain ⟨x, hx⟩ := hvalue hnull hreads
      exact ⟨some x, hx, rfl⟩

/-- A row of two integer columns: NULL when either input is, and else the
distance of the two numbers. -/
structure DistanceRow (a b : ArrayRef) (i : ℕ) (row : Option Int32) : Prop where
  isNone_eq : row.isNone = (a.isNull i || b.isNull i)
  value_eq (m n : ℤ) (hm : a.value i = some (.scalar (.int m)))
    (hn : b.value i = some (.scalar (.int n))) :
    row.map PhashDistance.distanceValue = some (.scalar (.int (differingBits 64 m n)))

theorem distanceColumn_of_rows {column : ArrayRef} {out : List (Option Int32)}
    (hcolumn : Column (.scalar .int32) PhashDistance.distanceValue (fun _ => True) column out)
    (hrows : ∀ (i : ℕ) (hi : i < out.length), DistanceRow a b i out[i]) :
    DistanceColumn a b column out.length where
  isNull_eq i hi := by
    rw [hcolumn.isNull_eq, List.getElem?_eq_getElem hi]
    exact (hrows i hi).isNone_eq
  value_eq i hi m n hm hn := by
    rw [hcolumn.value_eq trivial, List.getElem?_eq_getElem hi]
    exact (hrows i hi).value_eq m n hm hn

section Integers

variable (ha : FunctionName.phashDistance.Reads a.dataType)
variable (hb : FunctionName.phashDistance.Reads b.dataType)
include ha hb

theorem exists_distanceRow (crates : Crates) (i : ℕ) :
    ∃ row, (PhashDistance.function crates).rowValue PhashDistance.evalRow [a, b] i = .ok row ∧
      DistanceRow a b i row := by
  obtain ⟨x, hx, hxnull⟩ := exists_hashBits crates i ha
  obtain ⟨y, hy, hynull⟩ := exists_hashBits crates i hb
  obtain ⟨row, hrow⟩ := exists_evalRow x y
  refine ⟨row, (rowValue_pair hx hy).trans hrow, ?_, fun m n hm hn => ?_⟩
  · rw [← hxnull, ← hynull]
    cases x <;> cases y <;> cases hrow <;> rfl
  · obtain ⟨x', hx', hword⟩ := hashBits_of_value crates.arrow hm
    obtain ⟨y', hy', hword'⟩ := hashBits_of_value crates.arrow hn
    obtain rfl : x = some x' := Except.ok.inj (hx.symm.trans hx')
    obtain rfl : y = some y' := Except.ok.inj (hy.symm.trans hy')
    cases hrow
    rw [← toNat_hammingDistance_of_isWordOf hword hword',
      ← hammingDistance_wordMetric.cast x' y']
    rfl

/-- The loop over two integer columns emits a distance row for every row. -/
theorem exists_emit_distanceRows (crates : Crates) (rows : ℕ) :
    ∃ out : List (Option Int32),
      (PhashDistance.spec crates).emit PhashDistance.evalRow [a, b] rows = .ok out ∧
        out.length = rows ∧ ∀ (i : ℕ) (hi : i < out.length), DistanceRow a b i out[i] := by
  have hroom : HasRoom ((PhashDistance.function crates).rowValue PhashDistance.evalRow [a, b])
      (PhashDistance.spec crates).fits rows := fun _ _ _ => trivial
  have hrows : ∀ i < rows, ∃ row, (PhashDistance.function crates).rowValue
      PhashDistance.evalRow [a, b] i = .ok row := by
    intro i _
    obtain ⟨row, hrow, -⟩ := exists_distanceRow ha hb crates i
    exact ⟨row, hrow⟩
  obtain ⟨out, hemit⟩ := (exists_emitRows_eq_ok_iff Halt.panic hroom).2 hrows
  obtain ⟨hlength, hvalues⟩ := (emitRows_eq_ok_iff_of_hasRoom hroom).1 hemit
  refine ⟨out, hemit, hlength, fun i hi => ?_⟩
  obtain ⟨row, hrow, hdistance⟩ := exists_distanceRow ha hb crates i
  have hrow_eq : row = out[i] := Except.ok.inj (hrow.symm.trans (hvalues i hi))
  exact hrow_eq ▸ hdistance

/-- `phash_distance` on two integer columns of any types. -/
theorem distanceColumn_of_process (hvgi : VgiLaws crates.vgi) {args : Arguments}
    {bound : BindResponse} (hbind : (PhashDistance.function crates).onBind ⟨args⟩ = .ok bound)
    {batch : RecordBatch} (hcolumns : [0, 1].mapM batch.column = .ok [a, b]) :
    ∃ out column, (PhashDistance.function crates).process crates.arrow
        ⟨bound.outputSchema, args⟩ batch = .ok out ∧
      out.columns = [column] ∧ column.len = batch.numRows ∧
        DistanceColumn a b column batch.numRows := by
  obtain ⟨rows, hemit, hlength, hrows⟩ :=
    exists_emit_distanceRows ha hb crates batch.numRows
  obtain ⟨name, hname⟩ := hvgi.exists_field (.scalar .int32)
  have hschema : bound.outputSchema =
      ⟨[⟨name, (PhashDistance.spec crates).dataType, true⟩]⟩ := by
    cases hbind
    exact hname
  have hprepare : (PhashDistance.function crates).prepare
      (ProcessParams.mk bound.outputSchema args).arguments = .ok PhashDistance.evalRow := rfl
  obtain ⟨column, hcolumn, hprocess⟩ :=
    (PhashDistance.spec crates).process_of_emit_ok_of_schema crates.arrow hprepare
      hcolumns hschema hemit
  refine ⟨_, column, hprocess, rfl, hcolumn.len_eq.trans hlength, ?_⟩
  rw [← hlength]
  exact distanceColumn_of_rows hcolumn hrows

end Integers

/-- The result depends on the numbers alone, a hash is at distance 0 from its
signed form, and the distance of words is a metric. -/
theorem phashDistance_metric (hvgi : VgiLaws crates.vgi) {args : Arguments}
    {bound : BindResponse} (hbind : (PhashDistance.function crates).onBind ⟨args⟩ = .ok bound)
    {batch : RecordBatch} (hcolumns : [0, 1].mapM batch.column = .ok [a, b])
    (ha : FunctionName.phashDistance.Reads a.dataType)
    (hb : FunctionName.phashDistance.Reads b.dataType) :
    (∃ out column, (PhashDistance.function crates).process crates.arrow
        ⟨bound.outputSchema, args⟩ batch = .ok out ∧
      out.columns = [column] ∧ column.len = batch.numRows ∧
        DistanceColumn a b column batch.numRows) ∧
      (∀ hash : UInt64, differingBits 64 hash.toNat hash.toInt64.toInt = 0) ∧
        WordMetric hammingDistance := by
  refine ⟨distanceColumn_of_process ha hb hvgi hbind hcolumns, fun hash => ?_,
    hammingDistance_wordMetric⟩
  apply differingBits_eq_zero
  calc
    (hash.toNat : ℤ) % 2 ^ 64 = hash.toNat := (isWordOf_natCast (x := hash) rfl).symm
    _ = hash.toInt64.toInt % 2 ^ 64 := toNat_eq_toInt_emod hash.toBitVec

end Process

/-! ## A signed byte column and an unsigned word column -/

def mixedBatch : RecordBatch where
  schema := ⟨[⟨"a", .scalar .int8, true⟩, ⟨"b", .scalar .uint64, true⟩]⟩
  columns := [.scalar (.int8 [some (-1), some 3]),
    .scalar (.uint64 [some 0xFFFFFFFFFFFFFFFF, some 5])]
  numRows := 2
  len_column := by decide

/-- The byte `-1` is the word of ones; `3` and `5` differ in two bits. -/
theorem phashDistance_metric_mixedBatch :
    ∃ out column, (PhashDistance.function (referenceCrates noExif)).process arrowNames
        (resultParams (.scalar .int32)) mixedBatch = .ok out ∧ out.columns = [column] ∧
      column.value 0 = some (.scalar (.int 0)) ∧ column.value 1 = some (.scalar (.int 2)) := by
  have hint8 : ScalarType.int8 ∈ FunctionName.phashDistance.readTypes := by decide
  have huint64 : ScalarType.uint64 ∈ FunctionName.phashDistance.readTypes := by decide
  obtain ⟨out, column, hprocess, hout, -, -, hvalue⟩ :=
    (@phashDistance_metric (referenceCrates noExif) _ _ singleColumnBind_laws noArguments
      _ rfl mixedBatch rfl hint8 huint64).1
  refine ⟨out, column, hprocess, hout, ?_, ?_⟩
  · have hzero : differingBits 64 (-1) 0xFFFFFFFFFFFFFFFF = 0 := by decide +kernel
    rw [hvalue 0 (by decide) (-1) 0xFFFFFFFFFFFFFFFF (by decide) (by decide), hzero]
    rfl
  · have htwo : differingBits 64 3 5 = 2 := by decide +kernel
    rw [hvalue 1 (by decide) 3 5 (by decide) (by decide), htwo]
    rfl

end VgiImage.Scalar
