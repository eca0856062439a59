import VgiImage.Core.RowLoop
import Mathlib.Algebra.GroupWithZero.Nat
import Mathlib.Data.List.Perm.Subperm
import Mathlib.Data.List.Nodup
import Mathlib.Data.List.GetD

/-!
# Row loops over batches

The rows of a stream reach a worker in batches, and the loop starts anew on
each.  As long as the whole stream fits, how it is cut does not matter: the
batches emit the rows of the stream, cut in the same places, or stop with the
error the stream stops with.  A selection of the rows emits the selected rows.
-/

namespace VgiImage.RowLoop

open Outcome

universe v

variable {ε : Type*} {β : Type v}

/-- The loop takes the steps of its range only. -/
theorem runRows_congr {σ : Type*} {step step' : σ → ℕ → Except ε σ} (init : σ) {rows : ℕ}
    (h : ∀ i < rows, ∀ state, step state i = step' state i) :
    runRows step init rows = runRows step' init rows := by
  induction rows with
  | zero => rfl
  | succ rows ih =>
      rw [runRows_succ, runRows_succ, ih fun i hi => h i (by omega)]
      congr
      funext state
      exact h rows (by omega) state

/-- The loop looks at the rows of its range only. -/
theorem emitRows_congr {value value' : ℕ → Except ε β} {fits : List β → Prop}
    [DecidablePred fits] {full : ε} {rows : ℕ} (h : ∀ i < rows, value i = value' i) :
    emitRows value fits full rows = emitRows value' fits full rows := by
  apply runRows_congr
  intro i hi out
  rw [appendRow, appendRow, h i hi]

/-- With room for every row, a loop over entries reads the entries in order. -/
theorem emitRows_eq_mapM {α : Type v} {read : α → Except ε β} {value : ℕ → Except ε β}
    {entries : List α} {fits : List β → Prop} [DecidablePred fits] (full : ε)
    (hvalue : ∀ (i : ℕ) (hi : i < entries.length), value i = read entries[i])
    (hroom : HasRoom value fits entries.length) :
    emitRows value fits full entries.length = entries.mapM read := by
  cases hread : entries.mapM read with
  | ok cells =>
      obtain ⟨hlength, hcells⟩ := List.forall₂_iff_get.1 (mapM_eq_ok_iff.1 hread)
      refine (emitRows_eq_ok_iff_of_hasRoom hroom).2 ⟨hlength.symm, fun i hi => ?_⟩
      have hi' : i < entries.length := hlength ▸ hi
      exact (hvalue i hi').trans (hcells i hi' hi)
  | error e =>
      obtain ⟨k, ⟨entry, hentry, hfail⟩, hprior⟩ := mapM_eq_error_iff.1 hread
      obtain ⟨hk, rfl⟩ := List.getElem?_eq_some_iff.1 hentry
      refine (emitRows_eq_error_iff_of_hasRoom hroom).2
        ⟨k, hk, (hvalue k hk).trans hfail, fun i hi => ?_⟩
      have hi' : i < entries.length := Nat.lt_trans hi hk
      obtain ⟨cell, hcell⟩ := hprior i hi _ (List.getElem?_eq_getElem hi')
      exact ⟨cell, (hvalue i hi').trans hcell⟩

/-- Loops whose rows agree and all fit emit entries that agree. -/
theorem emitRows_agrees {γ : Type*} {related : β → γ → Prop} {value : ℕ → Except ε β}
    {value' : ℕ → Except ε γ} {fits : List β → Prop} {fits' : List γ → Prop}
    [DecidablePred fits] [DecidablePred fits'] (full full' : ε) {rows : ℕ}
    (hroom : HasRoom value fits rows) (hroom' : HasRoom value' fits' rows)
    (h : ∀ i < rows, Agrees related (value i) (value' i)) :
    Agrees (List.Forall₂ related) (emitRows value fits full rows)
      (emitRows value' fits' full' rows) := by
  induction rows with
  | zero => exact .ok .nil
  | succ rows ih =>
      have hprior := ih (fun out hle => hroom out (by omega))
        (fun out hle => hroom' out (by omega)) fun i hi => h i (by omega)
      rw [emitRows_succ, emitRows_succ]
      cases hout : emitRows value fits full rows with
      | error e =>
          rw [hprior.right_error hout]
          exact .error e
      | ok out =>
          obtain ⟨out', hout', hrelated⟩ := hprior.exists_of_left_ok hout
          rw [hout']
          have hrow := h rows (by omega)
          obtain ⟨hlength, hvalues, -⟩ := emitRows_eq_ok_iff.1 hout
          obtain ⟨hlength', hvalues', -⟩ := emitRows_eq_ok_iff.1 hout'
          change Agrees _ (appendRow value fits full out rows)
            (appendRow value' fits' full' out' rows)
          cases hv : value rows with
          | error e =>
              rw [appendRow_eq_error_iff.2 (Or.inl hv),
                appendRow_eq_error_iff.2 (Or.inl (hrow.right_error hv))]
              exact .error e
          | ok v =>
              obtain ⟨v', hv', hvv'⟩ := hrow.exists_of_left_ok hv
              have hfits := hroom (out ++ [v]) (by simp [hlength])
                (isPrefix_append_singleton.2 ⟨hvalues, by rw [hlength, hv]⟩)
              have hfits' := hroom' (out' ++ [v']) (by simp [hlength'])
                (isPrefix_append_singleton.2 ⟨hvalues', by rw [hlength', hv']⟩)
              rw [appendRow_eq_ok_iff.2 ⟨v, hv, hfits, rfl⟩,
                appendRow_eq_ok_iff.2 ⟨v', hv', hfits', rfl⟩]
              exact .ok (List.rel_append hrelated (.cons hvv' .nil))

/-- A loop whose rows have a value whenever those of a completed loop do completes,
with entries that go with them. -/
theorem exists_emitRows_of_related {γ : Type*} {related : β → γ → Prop}
    {value : ℕ → Except ε β} {value' : ℕ → Except ε γ} {fits : List β → Prop}
    {fits' : List γ → Prop} [DecidablePred fits] [DecidablePred fits'] {full full' : ε}
    {rows : ℕ} {out : List β} (hout : emitRows value fits full rows = .ok out)
    (hroom : HasRoom value' fits' rows)
    (h : ∀ i < rows, ∀ v, value i = .ok v → ∃ w, value' i = .ok w ∧ related v w) :
    ∃ out', emitRows value' fits' full' rows = .ok out' ∧ List.Forall₂ related out out' := by
  obtain ⟨hlength, hvalues, -⟩ := emitRows_eq_ok_iff.1 hout
  have hentry : ∀ (i : ℕ) (hi : i < out.length), ∃ w, value' i = .ok w ∧ related out[i] w :=
    fun i hi => h i (hlength ▸ hi) _ (hvalues i hi)
  obtain ⟨out', hout'⟩ := (exists_emitRows_eq_ok_iff full' hroom).2 fun i hi => by
    obtain ⟨w, hw, -⟩ := hentry i (hlength.symm ▸ hi)
    exact ⟨w, hw⟩
  obtain ⟨hlength', hvalues', -⟩ := emitRows_eq_ok_iff.1 hout'
  refine ⟨out', hout', List.forall₂_iff_get.2 ⟨hlength.trans hlength'.symm, fun i hi hi' => ?_⟩⟩
  obtain ⟨w, hw, hrelated⟩ := hentry i hi
  obtain rfl := Except.ok.inj (hw.symm.trans (hvalues' i hi'))
  exact hrelated

/-! ## Rows behind a prefix -/

/-- The rows from `start` on. -/
def rowsFrom (value : ℕ → Except ε β) (start : ℕ) : ℕ → Except ε β :=
  fun i => value (start + i)

section Behind

variable {value : ℕ → Except ε β} {out more : List β}

theorem isPrefix_append :
    IsPrefix value (out ++ more) ↔
      IsPrefix value out ∧ IsPrefix (rowsFrom value out.length) more := by
  induction more using List.reverseRecOn with
  | nil => simp [isPrefix_nil]
  | append_singleton more v ih =>
      rw [← List.append_assoc, isPrefix_append_singleton, isPrefix_append_singleton, ih,
        and_assoc, List.length_append]
      rfl

/-- Rows that follow emitted ones continue the stretch of the stream. -/
theorem append_stretch_prefix {rows count : ℕ} (hout : IsPrefix value out)
    (hcount : out.length + count ≤ rows) :
    out ++ stretch (rowsFrom value out.length) count <+: stretch value rows := by
  have hstretch := prefix_stretch_iff.1
    (List.prefix_refl (stretch (rowsFrom value out.length) count))
  refine prefix_stretch_iff.2 ⟨?_, isPrefix_append.2 ⟨hout, hstretch.2⟩⟩
  have := hstretch.1
  rw [List.length_append]
  omega

/-- Rows with room in the stream have room in their batch. -/
theorem hasRoom_rowsFrom {fits : List β → Prop}
    (hwindow : ∀ {out out' : List β}, out <:+: out' → fits out' → fits out)
    {rows count : ℕ} (hout : IsPrefix value out)
    (hroom : fits (stretch value rows)) (hcount : out.length + count ≤ rows) :
    HasRoom (rowsFrom value out.length) fits count := by
  rw [hasRoom_iff fun prior v => hwindow ⟨[], [v], by simp⟩]
  obtain ⟨rest, hrest⟩ := append_stretch_prefix hout hcount
  exact hwindow ⟨out, rest, hrest⟩ hroom

end Behind

/-! ## Running the batches of a stream -/

section EmitBatches

variable (value : ℕ → Except ε β) (fits : List β → Prop) [DecidablePred fits] (full : ε)

/-- The loop runs on one batch after another.  The first batch starts at row
`start` of the stream, and each further batch where the one before it ended. -/
def emitBatches : ℕ → List ℕ → Except ε (List (List β))
  | _, [] => .ok []
  | start, count :: counts => do
      let out ← emitRows (rowsFrom value start) fits full count
      let outs ← emitBatches (start + count) counts
      pure (out :: outs)

variable {value fits full}

/-- A stream with room for all its rows emits the same in one batch as in
several, behind any rows that were emitted before. -/
theorem emitRows_eq_emitBatches
    (hwindow : ∀ {out out' : List β}, out <:+: out' → fits out' → fits out)
    (counts : List ℕ) {out : List β} {rows : ℕ} (hout : IsPrefix value out)
    (hroom : fits (stretch value rows)) (hrows : rows = out.length + counts.sum) :
    emitRows value fits full rows =
      (emitBatches value fits full out.length counts).map fun outs => out ++ outs.flatten := by
  have hmono : ∀ prior v, fits (prior ++ [v]) → fits prior :=
    fun prior v => hwindow ⟨[], [v], by simp⟩
  have hall : HasRoom value fits rows := (hasRoom_iff hmono).2 hroom
  induction counts generalizing out with
  | nil =>
      have hemit : emitRows value fits full rows = .ok out :=
        (emitRows_eq_ok_iff_of_hasRoom hall).2 ⟨by simpa using hrows.symm, hout⟩
      rw [hemit]
      simp [emitBatches, Except.map]
  | cons count counts ih =>
      rw [List.sum_cons] at hrows
      have hbatch := hasRoom_rowsFrom hwindow hout hroom
        (show out.length + count ≤ rows by omega)
      cases hemit : emitRows (rowsFrom value out.length) fits full count with
      | ok batch =>
          obtain ⟨hlength, hvalues⟩ := (emitRows_eq_ok_iff_of_hasRoom hbatch).1 hemit
          have hnext := ih (isPrefix_append.2 ⟨hout, hvalues⟩)
            (by rw [List.length_append]; omega)
          rw [hnext, emitBatches, bind_of_ok hemit, List.length_append, hlength]
          cases emitBatches value fits full (out.length + count) counts with
          | error e => rfl
          | ok outs => simp [bind, Except.bind, pure, Except.pure, Except.map]
      | error e =>
          obtain ⟨k, hk, hfail, hprior⟩ := (emitRows_eq_error_iff_of_hasRoom hbatch).1 hemit
          have hstream : emitRows value fits full rows = .error e := by
            refine (emitRows_eq_error_iff_of_hasRoom hall).2
              ⟨out.length + k, by omega, hfail, fun i hi => ?_⟩
            by_cases hbefore : i < out.length
            · exact ⟨out[i], hout i hbefore⟩
            · obtain ⟨v, hv⟩ := hprior (i - out.length) (by omega)
              refine ⟨v, ?_⟩
              rwa [rowsFrom, Nat.add_sub_cancel' (Nat.le_of_not_lt hbefore)] at hv
          rw [hstream, emitBatches, bind_of_error hemit]
          rfl

/-! ## Selecting rows -/

/-- The rows at the given places. -/
def rowsAt (value : ℕ → Except ε β) (rows : List ℕ) : ℕ → Except ε β :=
  fun k => value (rows.getD k 0)

/-- A range of places has the entries of its segment. -/
theorem map_range'_getElem? (before batch after : List β) :
    ((List.range' before.length batch.length).map fun row => (before ++ batch ++ after)[row]?) =
      batch.map some := by
  apply List.ext_getElem
  · simp
  · intro k hk _
    have hk' : k < batch.length := by simpa using hk
    have hentry : (before ++ (batch ++ after))[before.length + k]? = some batch[k] := by
      rw [List.getElem?_append_right (Nat.le_add_right _ _), Nat.add_sub_cancel_left,
        List.getElem?_append_left hk', List.getElem?_eq_getElem hk']
    simp [hentry]

/-- The entries at the given places, all of which there are. -/
theorem exists_entries {out : List β} {rows : List ℕ} (hrows : ∀ row ∈ rows, row < out.length) :
    ∃ selected : List β, selected.map some = rows.map fun row => out[row]? := by
  induction rows with
  | nil => exact ⟨[], rfl⟩
  | cons row rows ih =>
      obtain ⟨selected, hselected⟩ := ih fun other hother => hrows other (.tail _ hother)
      obtain ⟨v, hv⟩ : ∃ v, out[row]? = some v :=
        ⟨_, List.getElem?_eq_getElem (hrows row (.head _))⟩
      exact ⟨v :: selected, by rw [List.map_cons, List.map_cons, hselected, hv]⟩

/-- Entries at different places are among all entries. -/
theorem subperm_of_entries {out selected : List β} {rows : List ℕ}
    (hselected : selected.map some = rows.map fun row => out[row]?) (hnodup : rows.Nodup)
    (hrows : ∀ row ∈ rows, row < out.length) : selected.Subperm out := by
  have hentries : ∀ {places : List ℕ} {entries : List β},
      (entries.map some = places.map fun row => out[row]?) →
        places.filterMap (fun row => out[row]?) = entries := by
    intro places entries h
    have := congrArg (List.filterMap id) h
    simpa [List.filterMap_map, Function.comp_def] using this.symm
  have hall : (List.range out.length).filterMap (fun row => out[row]?) = out := by
    apply hentries
    apply List.ext_getElem
    · simp
    · intro i hi _
      have : i < out.length := by simpa using hi
      simp [this]
  have hplaces : rows ⊆ List.range out.length :=
    fun row hrow => List.mem_range.2 (hrows row hrow)
  obtain ⟨places, hperm, hsublist⟩ := List.subperm_of_subset hnodup hplaces
  have hsubperm : (rows.filterMap fun row => out[row]?).Subperm
      ((List.range out.length).filterMap fun row => out[row]?) :=
    ⟨_, hperm.filterMap _, hsublist.filterMap _⟩
  rwa [hentries hselected, hall] at hsubperm

/-- A selection of rows, none of them twice, emits the selected entries. -/
theorem exists_emitRows_rowsAt
    (hsubperm : ∀ {out out' : List β}, out.Subperm out' → fits out' → fits out)
    (hnil : fits []) {count : ℕ} {out : List β}
    (hemit : emitRows value fits full count = .ok out) {rows : List ℕ} (hnodup : rows.Nodup)
    (hrows : ∀ row ∈ rows, row < count) :
    ∃ selected, emitRows (rowsAt value rows) fits full rows.length = .ok selected ∧
      selected.map some = rows.map fun row => out[row]? := by
  obtain ⟨hlength, hvalues, -⟩ := emitRows_eq_ok_iff.1 hemit
  obtain ⟨selected, hselected⟩ := exists_entries fun row hrow => hlength.symm ▸ hrows row hrow
  have hcount : selected.length = rows.length := by
    simpa using congrArg List.length hselected
  have hfits : fits selected :=
    hsubperm (subperm_of_entries hselected hnodup (hlength ▸ hrows))
      (fits_of_emitRows hnil hemit)
  refine ⟨selected, emitRows_eq_ok_iff.2 ⟨hcount, fun k hk => ?_, fun k _ => ?_⟩, hselected⟩
  · have hk' : k < rows.length := hcount ▸ hk
    have hrow : rows[k] < out.length := hlength ▸ hrows _ (List.getElem_mem hk')
    have hentry := congrArg (fun entries => entries[k]?) hselected
    simp only [List.getElem?_map, List.getElem?_eq_getElem hk, List.getElem?_eq_getElem hk',
      Option.map_some, List.getElem?_eq_getElem hrow, Option.some.injEq] at hentry
    rw [rowsAt, List.getD_eq_getElem _ _ hk', hentry]
    exact hvalues _ hrow
  · exact hsubperm (List.take_sublist _ _).subperm hfits

end EmitBatches

end VgiImage.RowLoop
