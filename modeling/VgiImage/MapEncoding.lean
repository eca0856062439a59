import VgiImage.ArrowIo

/-!
# Runs of the map helpers

A map column is filled by any number of `append_map_row` and `append_map_null`
calls on a fresh builder.  The row boundaries exist only as the child lengths
at the moment of each append; a run keeps them in step, so that the finished
column gives every call back its pairs.
-/

namespace VgiImage.ArrowIo

open Arrow Outcome RowLoop

/-! ## Runs -/

/-- One call: the pairs of a row, or a NULL row. -/
abbrev MapCall := Option (List (String × String))

/-- All entries of a run. -/
def totalEntries (calls : List MapCall) : ℕ := (rowEntries calls).flatten.length

/-- The builder of a call just before its `append`. -/
def pushedPairs (builder : MapBuilder) (call : MapCall) : Run MapBuilder :=
  (call.getD []).foldlM pushPair builder

section Runs

variable (arrow : ArrowCrate)

def appendCall (builder : MapBuilder) : MapCall → Run MapBuilder
  | some pairs => appendMapRow arrow builder pairs
  | none => appendMapNull arrow builder

/-- A call pushes its pairs and then appends one row. -/
theorem appendCall_eq (builder : MapBuilder) (call : MapCall) :
    appendCall arrow builder call =
      pushedPairs builder call >>= fun pushed => arrow.lift (pushed.append call.isSome) := by
  cases call <;> rfl

/-- The calls in order, on a fresh builder. -/
def runCalls (calls : List MapCall) : Run MapBuilder :=
  calls.foldlM (appendCall arrow) mapBuilder

theorem runCalls_concat (calls : List MapCall) (call : MapCall) :
    runCalls arrow (calls ++ [call]) =
      runCalls arrow calls >>= fun builder => appendCall arrow builder call := by
  simp [runCalls, List.foldlM_append]

/-- One call on a builder that holds the calls before it. -/
theorem appendCall_agrees {builder : MapBuilder} {calls : List MapCall}
    (h : MapRows builder calls) (call : MapCall) :
    Agrees MapRows (appendCall arrow builder call)
      (if MapFits (calls ++ [call]) then .ok (calls ++ [call]) else .error .panic) := by
  cases call with
  | none => exact appendMapNull_agrees arrow h
  | some pairs => exact appendMapRow_agrees arrow h pairs

/-- A run holds its calls when their keys and their values fit the offsets of
the children, and otherwise ends in the panic of a child. -/
theorem runCalls_agrees (calls : List MapCall) :
    Agrees MapRows (runCalls arrow calls)
      (if MapFits calls then .ok calls else .error .panic) := by
  induction calls using List.reverseRecOn with
  | nil => exact .ok mapRows_nil
  | append_singleton calls call ih =>
      rw [runCalls_concat]
      by_cases hfits : MapFits calls
      · rw [if_pos hfits] at ih
        obtain ⟨builder, hbuilder, hrows⟩ := ih.exists_of_right_ok rfl
        rw [bind_of_ok hbuilder]
        exact appendCall_agrees arrow hrows call
      · have hfull : ¬ MapFits (calls ++ [call]) :=
          fun h => hfits h.of_concat
        rw [if_neg hfits] at ih
        rw [if_neg hfull, bind_of_error (ih.left_error rfl)]
        exact .error _

variable {arrow}

theorem mapRows_of_runCalls {calls : List MapCall} {builder : MapBuilder}
    (h : runCalls arrow calls = .ok builder) : MapRows builder calls :=
  (runCalls_agrees arrow calls).related_of_guarded h

theorem exists_runCalls_iff {calls : List MapCall} :
    (∃ builder, runCalls arrow calls = .ok builder) ↔ MapFits calls :=
  (runCalls_agrees arrow calls).exists_ok_iff_guard

/-- The only way a run fails is the panic of a child that is full. -/
theorem runCalls_ne_error (calls : List MapCall) (e : RpcError) :
    runCalls arrow calls ≠ .error (.error e) := by
  intro h
  have hagrees := runCalls_agrees arrow calls
  rw [h] at hagrees
  split_ifs at hagrees <;> cases hagrees

/-- The children have one length whenever a call reaches its `append`. -/
theorem length_pushedPairs {builder pushed : MapBuilder} {calls : List MapCall}
    {call : MapCall} (h : MapRows builder calls)
    (hpushed : pushedPairs builder call = .ok pushed) :
    pushed.keys.slots.length = pushed.values.slots.length := by
  rcases h.holds.foldlM_pushPair (call.getD []) with
    ⟨-, keys, values, hok, hholds⟩ | ⟨-, hpanic⟩
  · rw [pushedPairs, hok] at hpushed
    cases hpushed
    exact hholds.length_keys.trans hholds.length_values.symm
  · rw [pushedPairs, hpanic] at hpushed
    cases hpushed

end Runs

/-! ## The finished column -/

/-- A flattened map of the calls: one row each, with the entries of all rows
end to end and the row boundaries in the offsets. -/
structure Flattens (offsets : List Int32) (keys values : List (Option String))
    (validity : List Bool) (calls : List MapCall) : Prop where
  length_validity : validity.length = calls.length
  length_offsets : offsets.length = calls.length + 1
  length_keys : keys.length = totalEntries calls
  length_values : values.length = totalEntries calls
  first : (offsets.map Int32.toInt).head? = some 0
  last : (offsets.map Int32.toInt).getLast? = some (totalEntries calls : ℤ)
  nondecreasing : (offsets.map Int32.toInt).Pairwise (· ≤ ·)
  /-- A row is null exactly when its call appended a NULL row. -/
  null_iff (i : ℕ) (hi : i < calls.length) : validity[i]? = some false ↔ calls[i] = none
  /-- A null row spans no entries. -/
  null_empty (i : ℕ) (hi : i < calls.length) (hnull : calls[i] = none) :
    offsets[i]? = offsets[i + 1]?
  /-- The slice of a row holds the pairs of its call in order. -/
  slice (i : ℕ) (hi : i < calls.length) :
    ArrayRef.mapEntries offsets keys values i =
      (calls[i].getD []).map fun pair => (some pair.1, some pair.2)

section Finished

variable {builder : MapBuilder} {calls : List MapCall}

theorem MapRows.getElem?_offsets (h : MapRows builder calls) {i : ℕ} (hi : i ≤ calls.length) :
    builder.offsets[i]? = some (.ofNat (Segments.start (rowEntries calls) i)) := by
  have hlt : i < calls.length + 1 := Nat.lt_succ_of_le hi
  simp [h.offsets_eq, hlt]

/-- The offsets are the entry counts before each row. -/
theorem MapRows.toInt_offsets (h : MapRows builder calls)
    (hcount : totalEntries calls ≤ maxOffset) :
    builder.offsets.map Int32.toInt =
      (List.range (calls.length + 1)).map
        fun i => (Segments.start (rowEntries calls) i : ℤ) := by
  rw [h.offsets_eq, List.map_map]
  refine List.map_congr_left fun i _ => ?_
  have hstart := (Segments.start_le (rowEntries calls) i).trans hcount
  exact Int32.toInt_ofNat_of_lt (by simp only [maxOffset] at hstart; omega)

theorem start_length_calls (calls : List MapCall) :
    Segments.start (rowEntries calls) calls.length = totalEntries calls :=
  Segments.start_of_length_le (List.length_map _).le

theorem MapRows.flattens (h : MapRows builder calls)
    (hcount : totalEntries calls ≤ maxOffset) :
    Flattens builder.offsets builder.keys.slots builder.values.slots builder.validity
      calls where
  length_validity := by rw [h.validity_eq, List.length_map]
  length_offsets := by rw [h.offsets_eq, List.length_map, List.length_range]
  length_keys := h.holds.length_keys
  length_values := h.holds.length_values
  first := by
    rw [h.toInt_offsets hcount, List.range_succ_eq_map]
    rfl
  last := by
    rw [h.toInt_offsets hcount, List.range_succ, List.map_append, List.map_singleton,
      List.getLast?_concat, start_length_calls]
  nondecreasing := by
    rw [h.toInt_offsets hcount, List.pairwise_map]
    refine List.pairwise_lt_range.imp fun hlt => ?_
    exact Int.ofNat_le.2 (Segments.start_mono _ hlt.le)
  null_iff i hi := by
    rw [h.validity_eq, List.getElem?_map, List.getElem?_eq_getElem hi]
    cases calls[i] <;> simp
  null_empty i hi hnull := by
    have hentries : i < (rowEntries calls).length := by simpa [rowEntries] using hi
    have hrow : (rowEntries calls)[i] = [] := by simp [rowEntries, hnull]
    rw [h.getElem?_offsets hi.le, h.getElem?_offsets hi, Segments.start_succ hentries, hrow,
      List.length_nil, Nat.add_zero]
  slice i hi := h.mapEntries_eq hcount hi

end Finished

/-- The children are in step at every append of a run, so no append returns an
error; the run ends in a builder exactly when the keys and the values fit the
offsets of their children, and then the finished column holds every call. -/
theorem mapEncoding_faithful (arrow : ArrowCrate) (calls : List MapCall)
    (hcount : totalEntries calls < 2 ^ 31) :
    (∀ e, runCalls arrow calls ≠ .error (.error e)) ∧
      ((∃ builder, runCalls arrow calls = .ok builder) ↔ MapFits calls) ∧
      (∀ before call after builder pushed, calls = before ++ call :: after →
        runCalls arrow before = .ok builder → pushedPairs builder call = .ok pushed →
          pushed.keys.slots.length = pushed.values.slots.length ∧
            ∃ next, pushed.append call.isSome = .ok next ∧
              appendCall arrow builder call = .ok next) ∧
      ∀ builder, runCalls arrow calls = .ok builder →
        ∃ offsets keys values validity,
          finishMap builder = .map mapFieldNames offsets keys values validity ∧
            Flattens offsets keys values validity calls := by
  refine ⟨runCalls_ne_error calls, exists_runCalls_iff, ?_, ?_⟩
  · intro before call after builder pushed _ hbefore hpushed
    have hlength := length_pushedPairs (mapRows_of_runCalls hbefore) hpushed
    have happend := MapBuilder.append_of_length_eq hlength call.isSome
    refine ⟨hlength, _, happend, ?_⟩
    rw [appendCall_eq, bind_of_ok hpushed, happend]
    rfl
  · intro builder hbuilder
    have hrows := mapRows_of_runCalls hbuilder
    refine ⟨_, _, _, _, ?_, hrows.flattens (Nat.le_pred_of_lt hcount)⟩
    rw [← hrows.names_eq]
    rfl

/-- Two rows of tags with a NULL row and an empty row between them. -/
def tagCalls : List MapCall :=
  [some [("Make", "Canon"), ("Orientation", "row 0 at top")], none, some [],
    some [("Make", "Nikon")]]

/-- Names and errors that no run of the helpers renders. -/
def silentArrow : ArrowCrate where
  debugType _ := ""
  displayError _ := ""

theorem mapEncoding_faithful_tagCalls :
    ∃ builder, runCalls silentArrow tagCalls = .ok builder ∧
      ∃ offsets keys values validity,
        finishMap builder = .map mapFieldNames offsets keys values validity ∧
          Flattens offsets keys values validity tagCalls := by
  obtain ⟨-, hruns, -, hflattens⟩ :=
    mapEncoding_faithful silentArrow tagCalls (by decide)
  obtain ⟨builder, hbuilder⟩ := hruns.2 (by decide +kernel)
  exact ⟨builder, hbuilder, hflattens builder hbuilder⟩

end VgiImage.ArrowIo
