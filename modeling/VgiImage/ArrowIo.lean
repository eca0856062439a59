import VgiImage.Arrow.Builder
import VgiImage.Core.RowLoop
import VgiImage.Core.Segments

/-!
# Reading blob cells and building string maps

The helpers of `arrow_io.rs`.  The map builder is specified by the rows
appended so far: its children hold the entries of all rows end to end, and its
offsets are the entry counts before each row.
-/

namespace VgiImage.ArrowIo

open Arrow Outcome RowLoop

/-! ## Blob cells -/

/-- `array.value(row)`, which panics out of bounds. -/
def valueAt {α : Type} (slots : List (Option α)) (row : ℕ) : Run α :=
  match (slots[row]?).join with
  | some v => .ok v
  | none => .error .panic

/-- `s.as_bytes()` -/
def utf8Bytes (s : String) : Blob := s.toUTF8.data.toList

/-- Borrow the raw bytes of a BLOB/VARCHAR cell at `row`, or `none` if the cell
is null.  Errors if the column isn't a binary/utf8 type. -/
def blobBytes (arrow : ArrowCrate) (col : ArrayRef) (row : ℕ) : Run (Option Blob) :=
  if col.isNull row then .ok none
  else
    match col with
    | .scalar (.binary slots) => (valueAt slots row).map some
    | .scalar (.largeBinary slots) => (valueAt slots row).map some
    | .scalar (.utf8 slots) => (valueAt slots row).map fun s => some (utf8Bytes s)
    | .scalar (.largeUtf8 slots) => (valueAt slots row).map fun s => some (utf8Bytes s)
    | other =>
        let typeName := arrow.debugType other.dataType
        .error (.error (.valueError
          s!"expected a BLOB (binary) argument, got {typeName}"))

/-- The blob cells a column of one of the four accepted types carries. -/
inductive Carries : ArrayRef → List (Option Blob) → Prop
  | binary (cells : List (Option Blob)) : Carries (.scalar (.binary cells)) cells
  | largeBinary (cells : List (Option Blob)) : Carries (.scalar (.largeBinary cells)) cells
  | utf8 (texts : List (Option String)) :
      Carries (.scalar (.utf8 texts)) (texts.map (Option.map utf8Bytes))
  | largeUtf8 (texts : List (Option String)) :
      Carries (.scalar (.largeUtf8 texts)) (texts.map (Option.map utf8Bytes))

/-- The type error a cell of another type is answered with. -/
def notBlob (arrow : ArrowCrate) (col : ArrayRef) : Halt :=
  let typeName := arrow.debugType col.dataType
  .error (.valueError s!"expected a BLOB (binary) argument, got {typeName}")

section BlobBytes

variable (arrow : ArrowCrate)

theorem blobBytes_of_isNull {col : ArrayRef} {row : ℕ} (hnull : col.isNull row = true) :
    blobBytes arrow col row = .ok none :=
  if_pos hnull

theorem Carries.len_eq {col : ArrayRef} {cells : List (Option Blob)}
    (h : Carries col cells) : col.len = cells.length := by
  cases h <;> simp [ArrayRef.len, ScalarArray.len, ScalarArray.slots]

theorem Carries.isNull_eq {col : ArrayRef} {cells : List (Option Blob)}
    (h : Carries col cells) (row : ℕ) : col.isNull row = (cells[row]?).join.isNone := by
  cases h
  case binary => rcases hcell : cells[row]? with _ | _ | bytes <;>
    simp [ArrayRef.isNull, ScalarArray.value, ScalarArray.slots, hcell]
  case largeBinary => rcases hcell : cells[row]? with _ | _ | bytes <;>
    simp [ArrayRef.isNull, ScalarArray.value, ScalarArray.slots, hcell]
  case utf8 texts => rcases hcell : texts[row]? with _ | _ | text <;>
    simp [ArrayRef.isNull, ScalarArray.value, ScalarArray.slots, hcell]
  case largeUtf8 texts => rcases hcell : texts[row]? with _ | _ | text <;>
    simp [ArrayRef.isNull, ScalarArray.value, ScalarArray.slots, hcell]

/-- A slot that has a value under some reading of the array holds an element
with that value. -/
theorem exists_valueAt {α β : Type} {slots : List (Option α)} {row : ℕ} {read : α → β}
    {v : β} (h : ((slots.map (Option.map read))[row]?).join = some v) :
    ∃ x, valueAt slots row = .ok x ∧ read x = v := by
  rcases hslot : slots[row]? with _ | _ | x <;> simp [hslot] at h
  exact ⟨x, by simp [valueAt, hslot], h⟩

theorem valueAt_eq {α β : Type} {slots : List (Option α)} {row : ℕ} (read : α → β) {v : β}
    (h : ((slots.map (Option.map read))[row]?).join = some v) :
    (valueAt slots row).map (fun v => some (read v)) = .ok (some v) := by
  obtain ⟨x, hx, rfl⟩ := exists_valueAt h
  rw [hx]
  rfl

/-- A cell reads the same from each of the four column types. -/
theorem blobBytes_of_carries {col : ArrayRef} {cells : List (Option Blob)}
    (h : Carries col cells) (row : ℕ) :
    blobBytes arrow col row = .ok (cells[row]?).join := by
  cases hcell : (cells[row]?).join with
  | none => exact blobBytes_of_isNull arrow (by rw [h.isNull_eq, hcell]; rfl)
  | some bytes =>
      have hnull : ¬ col.isNull row = true := by
        rw [h.isNull_eq, hcell]
        exact Bool.false_ne_true
      unfold blobBytes
      rw [if_neg hnull]
      cases h
      case binary => exact valueAt_eq id (by simpa using hcell)
      case largeBinary => exact valueAt_eq id (by simpa using hcell)
      case utf8 => exact valueAt_eq utf8Bytes hcell
      case largeUtf8 => exact valueAt_eq utf8Bytes hcell

/-- A cell that is not marked null in a column of another type is an error. -/
theorem blobBytes_of_not_carries {col : ArrayRef} {row : ℕ}
    (hcol : ∀ cells, ¬ Carries col cells) (hnull : col.isNull row = false) :
    blobBytes arrow col row = .error (notBlob arrow col) := by
  unfold blobBytes
  rw [hnull, if_neg Bool.false_ne_true]
  cases col with
  | scalar array =>
      cases array
      case binary cells => exact absurd (Carries.binary cells) (hcol _)
      case largeBinary cells => exact absurd (Carries.largeBinary cells) (hcol _)
      case utf8 texts => exact absurd (Carries.utf8 texts) (hcol _)
      case largeUtf8 texts => exact absurd (Carries.largeUtf8 texts) (hcol _)
      all_goals rfl
  | null | struct | map | other => rfl

/-- Reading a cell never panics. -/
theorem blobBytes_ne_panic (col : ArrayRef) (row : ℕ) :
    blobBytes arrow col row ≠ .error .panic := by
  by_cases hcol : ∃ cells, Carries col cells
  · obtain ⟨cells, hcells⟩ := hcol
    simp [blobBytes_of_carries arrow hcells]
  · cases hnull : col.isNull row with
    | true => simp [blobBytes_of_isNull arrow hnull]
    | false =>
        have hcells : ∀ cells, ¬ Carries col cells := fun cells h => hcol ⟨cells, h⟩
        simp [blobBytes_of_not_carries arrow hcells hnull, notBlob]

end BlobBytes

/-! ## String maps -/

/-- DuckDB-style map child field names. -/
def mapFieldNames : MapFieldNames where
  entry := "entries"
  key := "key"
  value := "value"

/-- A fresh map builder with DuckDB field names. -/
def mapBuilder : MapBuilder := .new mapFieldNames

/-- The exact data type `mapBuilder` produces. -/
def mapVarcharVarcharType : DataType := mapBuilder.finish.dataType

/-- `builder.keys().append_value(k); builder.values().append_value(v);` -/
def pushPair (builder : MapBuilder) (pair : String × String) : Run MapBuilder := do
  let keys ← builder.keys.appendValue pair.1
  let values ← builder.values.appendValue pair.2
  pure { builder with keys, values }

/-- Append one map row of `(key, value)` string pairs to a map builder. -/
def appendMapRow (arrow : ArrowCrate) (builder : MapBuilder)
    (pairs : List (String × String)) : Run MapBuilder := do
  let builder ← pairs.foldlM pushPair builder
  arrow.lift (builder.append true)

/-- Append a NULL map row. -/
def appendMapNull (arrow : ArrowCrate) (builder : MapBuilder) : Run MapBuilder :=
  arrow.lift (builder.append false)

/-- Finish a map builder into an `ArrayRef`. -/
def finishMap (builder : MapBuilder) : ArrayRef := builder.finish

/-! ### What the children hold after some pairs -/

/-- Pairs pushed to the children so far. -/
structure Holds (builder : MapBuilder) (pairs : List (String × String)) : Prop where
  keys_eq : builder.keys.slots = pairs.map fun pair => some pair.1
  values_eq : builder.values.slots = pairs.map fun pair => some pair.2

/-- Whether pairs stay within the offsets of both children. -/
def PairsFit (pairs : List (String × String)) : Prop :=
  valueBytes (pairs.map fun pair => some pair.1) ≤ maxOffset ∧
    valueBytes (pairs.map fun pair => some pair.2) ≤ maxOffset

instance (pairs : List (String × String)) : Decidable (PairsFit pairs) :=
  inferInstanceAs (Decidable (_ ∧ _))

theorem PairsFit.left {left right : List (String × String)}
    (h : PairsFit (left ++ right)) : PairsFit left := by
  simp only [PairsFit, List.map_append, valueBytes_append] at h
  exact ⟨by omega, by omega⟩

namespace Holds

variable {builder : MapBuilder} {pairs : List (String × String)}

theorem pairsFit (h : Holds builder pairs) : PairsFit pairs :=
  ⟨h.keys_eq ▸ builder.keys.fits, h.values_eq ▸ builder.values.fits⟩

theorem length_keys (h : Holds builder pairs) :
    builder.keys.slots.length = pairs.length := by
  rw [h.keys_eq, List.length_map]

theorem length_values (h : Holds builder pairs) :
    builder.values.slots.length = pairs.length := by
  rw [h.values_eq, List.length_map]

/-- One pair: both children take it when both have room, and otherwise one of
the two appends panics. -/
theorem pushPair_eq (h : Holds builder pairs) (pair : String × String) :
    (PairsFit (pairs ++ [pair]) ∧
        ∃ keys values, pushPair builder pair = .ok { builder with keys, values } ∧
          Holds { builder with keys, values } (pairs ++ [pair])) ∨
      (¬ PairsFit (pairs ++ [pair]) ∧ pushPair builder pair = .error .panic) := by
  have hkeys_slots : builder.keys.slots ++ [some pair.1] =
      (pairs ++ [pair]).map fun pair => some pair.1 := by
    rw [h.keys_eq, List.map_append, List.map_singleton]
  have hvalues_slots : builder.values.slots ++ [some pair.2] =
      (pairs ++ [pair]).map fun pair => some pair.2 := by
    rw [h.values_eq, List.map_append, List.map_singleton]
  by_cases hkeys : valueBytes (builder.keys.slots ++ [some pair.1]) ≤ maxOffset
  · obtain ⟨keys, hkeys_ok, hkeys_eq⟩ := ByteBuilder.exists_appendValue hkeys
    by_cases hvalues : valueBytes (builder.values.slots ++ [some pair.2]) ≤ maxOffset
    · obtain ⟨values, hvalues_ok, hvalues_eq⟩ := ByteBuilder.exists_appendValue hvalues
      refine Or.inl ⟨⟨hkeys_slots ▸ hkeys, hvalues_slots ▸ hvalues⟩, keys, values, ?_, ?_⟩
      · rw [pushPair, bind_of_ok hkeys_ok, bind_of_ok hvalues_ok]
        rfl
      · exact ⟨hkeys_eq.trans hkeys_slots, hvalues_eq.trans hvalues_slots⟩
    · refine Or.inr ⟨fun hfits => hvalues (hvalues_slots ▸ hfits.2), ?_⟩
      rw [pushPair, bind_of_ok hkeys_ok]
      exact bind_of_error (ByteBuilder.appendValue_eq_panic hvalues) _
  · refine Or.inr ⟨fun hfits => hkeys (hkeys_slots ▸ hfits.1), ?_⟩
    exact bind_of_error (ByteBuilder.appendValue_eq_panic hkeys) _

/-- A row of pairs: the children take them all, or the loop panics on the way.
Offsets and validity do not change. -/
theorem foldlM_pushPair (h : Holds builder pairs) (row : List (String × String)) :
    (PairsFit (pairs ++ row) ∧
        ∃ keys values, row.foldlM pushPair builder = .ok { builder with keys, values } ∧
          Holds { builder with keys, values } (pairs ++ row)) ∨
      (¬ PairsFit (pairs ++ row) ∧ row.foldlM pushPair builder = .error .panic) := by
  induction row generalizing builder pairs with
  | nil =>
      rw [List.append_nil]
      exact Or.inl ⟨h.pairsFit, builder.keys, builder.values, rfl, h⟩
  | cons pair row ih =>
      have hassoc : pairs ++ pair :: row = pairs ++ [pair] ++ row := by simp
      rw [hassoc, List.foldlM_cons]
      rcases h.pushPair_eq pair with ⟨-, keys, values, hpush, hholds⟩ | ⟨hfull, hpush⟩
      · rw [hpush]
        exact ih hholds
      · rw [hpush]
        exact Or.inr ⟨fun hfits => hfull hfits.left, rfl⟩

end Holds

/-! ### What the builder holds after some rows -/

/-- The entries of each row; a NULL row has none. -/
def rowEntries (rows : List (Option (List (String × String)))) :
    List (List (String × String)) :=
  rows.map fun row => row.getD []

/-- The builder after `rows`. -/
structure MapRows (builder : MapBuilder)
    (rows : List (Option (List (String × String)))) : Prop where
  names_eq : builder.names = mapFieldNames
  holds : Holds builder (rowEntries rows).flatten
  offsets_eq : builder.offsets =
    (List.range (rows.length + 1)).map fun i => .ofNat (Segments.start (rowEntries rows) i)
  validity_eq : builder.validity = rows.map Option.isSome

/-- All entries of the rows fit the offsets of the children. -/
def MapFits (rows : List (Option (List (String × String)))) : Prop :=
  PairsFit (rowEntries rows).flatten

instance decidableMapFits : DecidablePred MapFits :=
  fun _ => inferInstanceAs (Decidable (PairsFit _))

theorem mapRows_nil : MapRows mapBuilder [] where
  names_eq := rfl
  holds := ⟨rfl, rfl⟩
  offsets_eq := rfl
  validity_eq := rfl

theorem rowEntries_concat (rows : List (Option (List (String × String))))
    (row : Option (List (String × String))) :
    rowEntries (rows ++ [row]) = rowEntries rows ++ [row.getD []] := by
  simp [rowEntries]

theorem flatten_rowEntries_concat (rows : List (Option (List (String × String))))
    (row : Option (List (String × String))) :
    (rowEntries (rows ++ [row])).flatten = (rowEntries rows).flatten ++ row.getD [] := by
  rw [rowEntries_concat, List.flatten_append, List.flatten_singleton]

/-- Recording the next offset after the entries of a row completes the row. -/
theorem MapRows.append {builder : MapBuilder}
    {rows : List (Option (List (String × String)))} (h : MapRows builder rows)
    (row : Option (List (String × String))) {keys values : ByteBuilder String}
    (hholds : Holds { builder with keys, values }
      ((rowEntries rows).flatten ++ row.getD [])) :
    ∃ next, MapBuilder.append { builder with keys, values } row.isSome = .ok next ∧
      MapRows next (rows ++ [row]) := by
  rw [← flatten_rowEntries_concat] at hholds
  have hlength := hholds.length_keys.trans hholds.length_values.symm
  refine ⟨_, MapBuilder.append_of_length_eq hlength _, h.names_eq, ?_, ?_, ?_⟩
  · exact ⟨hholds.keys_eq, hholds.values_eq⟩
  · have hrows : (rowEntries rows).length = rows.length := List.length_map _
    have hlast : Segments.start (rowEntries (rows ++ [row])) (rows.length + 1) =
        keys.slots.length := by
      rw [Segments.start_of_length_le (by simp [rowEntries])]
      exact hholds.length_keys.symm
    have hprior : (List.range (rows.length + 1)).map
          (fun i => Int32.ofNat (Segments.start (rowEntries (rows ++ [row])) i)) =
        builder.offsets := by
      rw [h.offsets_eq]
      refine List.map_congr_left fun i hi => ?_
      rw [rowEntries_concat, Segments.start_append_of_le]
      rw [List.mem_range] at hi
      omega
    change builder.offsets ++ [Int32.ofNat keys.slots.length] = _
    rw [List.length_append, List.length_singleton, List.range_succ, List.map_append,
      hprior, List.map_singleton, hlast]
  · change builder.validity ++ [row.isSome] = _
    rw [h.validity_eq, List.map_append, List.map_singleton]

section AppendRow

variable (arrow : ArrowCrate) {builder : MapBuilder}
variable {rows : List (Option (List (String × String)))}

theorem mapFits_concat (row : Option (List (String × String))) :
    MapFits (rows ++ [row]) ↔ PairsFit ((rowEntries rows).flatten ++ row.getD []) := by
  rw [MapFits, flatten_rowEntries_concat]

theorem MapFits.of_concat {row : Option (List (String × String))}
    (h : MapFits (rows ++ [row])) : MapFits rows :=
  ((mapFits_concat row).1 h).left

theorem appendMapRow_agrees (h : MapRows builder rows) (pairs : List (String × String)) :
    Agrees MapRows (appendMapRow arrow builder pairs)
      (if MapFits (rows ++ [some pairs]) then .ok (rows ++ [some pairs])
        else .error .panic) := by
  rw [appendMapRow]
  rcases h.holds.foldlM_pushPair pairs with ⟨hfits, keys, values, hpush, hholds⟩ | ⟨hfull, hpush⟩
  · obtain ⟨next, hnext, hrows⟩ := h.append (some pairs) hholds
    rw [hpush, if_pos ((mapFits_concat (some pairs)).2 hfits)]
    change Agrees _ (arrow.lift (MapBuilder.append { builder with keys, values } true)) _
    rw [show MapBuilder.append { builder with keys, values } true = .ok next from hnext]
    exact .ok hrows
  · rw [hpush, if_neg (mt (mapFits_concat (some pairs)).1 hfull)]
    exact .error _

theorem appendMapNull_agrees (h : MapRows builder rows) :
    Agrees MapRows (appendMapNull arrow builder)
      (if MapFits (rows ++ [none]) then .ok (rows ++ [none]) else .error .panic) := by
  have hholds : Holds builder ((rowEntries rows).flatten ++ []) :=
    (List.append_nil _).symm ▸ h.holds
  obtain ⟨next, hnext, hrows⟩ := h.append none hholds
  rw [appendMapNull, if_pos ((mapFits_concat none).2 hholds.pairsFit),
    show MapBuilder.append builder false = .ok next from hnext]
  exact .ok hrows

end AppendRow

/-! ### Reading the rows back -/

/-- A map row as a logical value. -/
def mapValue (pairs : List (String × String)) : Value :=
  .map (pairs.map fun pair => (some pair.1, some pair.2))

section Reading

variable {builder : MapBuilder} {rows : List (Option (List (String × String)))}

theorem Holds.zip_eq {pairs : List (String × String)} (h : Holds builder pairs) :
    builder.keys.slots.zip builder.values.slots =
      pairs.map fun pair => (some pair.1, some pair.2) := by
  rw [h.keys_eq, h.values_eq, List.zip_map']

/-- An offset is the entry count before its row, as long as that count fits. -/
theorem MapRows.toInt_offset (h : MapRows builder rows)
    (hcount : (rowEntries rows).flatten.length ≤ maxOffset) {i : ℕ} (hi : i ≤ rows.length) :
    (builder.offsets.getD i 0).toInt.toNat = Segments.start (rowEntries rows) i := by
  have hlt : i < rows.length + 1 := Nat.lt_succ_of_le hi
  have hstart := (Segments.start_le (rowEntries rows) i).trans hcount
  have hoffset : builder.offsets.getD i 0 = .ofNat (Segments.start (rowEntries rows) i) := by
    simp [h.offsets_eq, hlt]
  rw [hoffset, Int32.toInt_ofNat_of_lt (by simp only [maxOffset] at hstart; omega)]
  exact Int.toNat_natCast _

/-- Slicing the children by the offsets of a row gives back the pairs of the
row. -/
theorem MapRows.mapEntries_eq (h : MapRows builder rows)
    (hcount : (rowEntries rows).flatten.length ≤ maxOffset) {i : ℕ} (hi : i < rows.length) :
    ArrayRef.mapEntries builder.offsets builder.keys.slots builder.values.slots i =
      (rows[i].getD []).map fun pair => (some pair.1, some pair.2) := by
  have hentries : i < (rowEntries rows).length := by simpa [rowEntries] using hi
  have hrow : (rowEntries rows)[i] = rows[i].getD [] := by simp [rowEntries]
  simp only [ArrayRef.mapEntries]
  rw [h.toInt_offset hcount hi.le, h.toInt_offset hcount hi, h.holds.zip_eq, ← List.map_drop,
    ← List.map_take, Segments.take_drop_flatten hentries, hrow]

theorem MapRows.value_eq (h : MapRows builder rows)
    (hcount : (rowEntries rows).flatten.length ≤ maxOffset) (i : ℕ) :
    (finishMap builder).value i = (rows[i]?).join.map mapValue := by
  by_cases hi : i < rows.length
  · simp only [finishMap, MapBuilder.finish, ArrayRef.value, h.mapEntries_eq hcount hi,
      h.validity_eq]
    cases hrow : rows[i] <;> simp [hi, hrow, mapValue]
  · simp [finishMap, MapBuilder.finish, ArrayRef.value, h.validity_eq, hi]

theorem MapRows.isNull_eq (h : MapRows builder rows) (i : ℕ) :
    (finishMap builder).isNull i = (rows[i]?).join.isNone := by
  simp only [finishMap, MapBuilder.finish, ArrayRef.isNull, h.validity_eq]
  rcases hrow : rows[i]? with _ | _ | pairs <;> simp [hrow]

theorem MapRows.len_eq (h : MapRows builder rows) :
    (finishMap builder).len = rows.length := by
  simp [finishMap, MapBuilder.finish, ArrayRef.len, h.validity_eq]

theorem MapRows.dataType_eq (h : MapRows builder rows) :
    (finishMap builder).dataType = mapVarcharVarcharType := by
  simp [finishMap, mapVarcharVarcharType, MapBuilder.finish, ArrayRef.dataType, h.names_eq,
    mapBuilder, MapBuilder.new]

end Reading

end VgiImage.ArrowIo
