import Mathlib.Data.List.Basic
import Mathlib.Data.List.Induction
import Mathlib.Data.List.ReduceOption
import VgiImage.Core.Outcome

/-!
# Row loops with early exit

A worker that maps a column to a column runs `for i in 0..rows`, leaves the
loop at the first error and otherwise appends one output row to its builders.
This module states such a loop once, over an arbitrary builder state, together
with the abstract loop it stands for: compute the value of the row, and append
it to the rows emitted so far unless the column is full.
-/

namespace VgiImage.RowLoop

open Outcome

universe u v

variable {ε : Type*} {σ : Type u} {τ β : Type v}

/-- `for i in 0..rows { state = step(state, i)?; }` -/
def runRows (step : σ → ℕ → Except ε σ) (init : σ) (rows : ℕ) : Except ε σ :=
  (List.range rows).foldlM step init

@[simp]
theorem runRows_zero (step : σ → ℕ → Except ε σ) (init : σ) :
    runRows step init 0 = .ok init := rfl

theorem runRows_succ (step : σ → ℕ → Except ε σ) (init : σ) (rows : ℕ) :
    runRows step init (rows + 1) =
      runRows step init rows >>= fun state => step state rows := by
  simp [runRows, List.range_succ, List.foldlM_append]

/-! ## Outcomes that agree up to a relation -/

/-- Two computations agree when both succeed with related values or both stop
with the same error. -/
inductive Agrees (related : σ → τ → Prop) : Except ε σ → Except ε τ → Prop
  | ok {left : σ} {right : τ} (h : related left right) :
      Agrees related (.ok left) (.ok right)
  | error (e : ε) : Agrees related (.error e) (.error e)

namespace Agrees

variable {related : σ → τ → Prop}

theorem bind {σ' : Type u} {τ' : Type v} {related' : σ' → τ' → Prop}
    {left : Except ε σ} {right : Except ε τ}
    {next : σ → Except ε σ'} {next' : τ → Except ε τ'}
    (h : Agrees related left right)
    (hnext : ∀ a b, related a b → Agrees related' (next a) (next' b)) :
    Agrees related' (left >>= next) (right >>= next') := by
  cases h with
  | ok h => exact hnext _ _ h
  | error e => exact .error e

theorem exists_of_right_ok {left : Except ε σ} {right : Except ε τ} {b : τ}
    (h : Agrees related left right) (hright : right = .ok b) :
    ∃ a, left = .ok a ∧ related a b := by
  cases h with
  | ok h =>
      cases hright
      exact ⟨_, rfl, h⟩
  | error e => cases hright

theorem exists_of_left_ok {left : Except ε σ} {right : Except ε τ} {a : σ}
    (h : Agrees related left right) (hleft : left = .ok a) :
    ∃ b, right = .ok b ∧ related a b := by
  cases h with
  | ok h =>
      cases hleft
      exact ⟨_, rfl, h⟩
  | error e => cases hleft

theorem left_error {left : Except ε σ} {right : Except ε τ} {e : ε}
    (h : Agrees related left right) (hright : right = .error e) :
    left = .error e := by
  cases h with
  | ok h => cases hright
  | error e' =>
      cases hright
      rfl

theorem right_error {left : Except ε σ} {right : Except ε τ} {e : ε}
    (h : Agrees related left right) (hleft : left = .error e) :
    right = .error e := by
  cases h with
  | ok h => cases hleft
  | error e' =>
      cases hleft
      rfl

theorem map_right (related : σ → τ → Prop) {τ' : Type v} {related' : σ → τ' → Prop}
    {left : Except ε σ} {right : Except ε τ} {f : τ → τ'} (h : Agrees related left right)
    (hf : ∀ a b, related a b → related' a (f b)) :
    Agrees related' left (right.map f) := by
  cases h with
  | ok h => exact .ok (hf _ _ h)
  | error e => exact .error e

theorem imp {related' : σ → τ → Prop} {left : Except ε σ} {right : Except ε τ}
    (h : Agrees related left right) (himp : ∀ a b, related a b → related' a b) :
    Agrees related' left right := by
  cases h with
  | ok h => exact .ok (himp _ _ h)
  | error e => exact .error e

theorem trans {ρ : Type*} {related' : τ → ρ → Prop} {both : σ → ρ → Prop}
    {left : Except ε σ} {middle : Except ε τ} {right : Except ε ρ}
    (h : Agrees related left middle) (h' : Agrees related' middle right)
    (hboth : ∀ a b c, related a b → related' b c → both a c) : Agrees both left right := by
  cases h with
  | ok h =>
      cases h' with
      | ok h' => exact .ok (hboth _ _ _ h h')
  | error e =>
      cases h' with
      | error => exact .error e

/-- Two computations that agree with a third agree with each other. -/
theorem compare {ρ : Type*} {related' : ρ → τ → Prop} {both : σ → ρ → Prop}
    {left : Except ε σ} {left' : Except ε ρ} {right : Except ε τ} (h : Agrees related left right)
    (h' : Agrees related' left' right)
    (hboth : ∀ a a' b, related a b → related' a' b → both a a') : Agrees both left left' := by
  cases h with
  | ok h =>
      cases h' with
      | ok h' => exact .ok (hboth _ _ _ h h')
  | error e =>
      cases h' with
      | error => exact .error e

theorem exists_ok_iff {left : Except ε σ} {right : Except ε τ}
    (h : Agrees related left right) : (∃ a, left = .ok a) ↔ ∃ b, right = .ok b := by
  constructor
  · rintro ⟨a, hleft⟩
    obtain ⟨b, hright, -⟩ := h.exists_of_left_ok hleft
    exact ⟨b, hright⟩
  · rintro ⟨b, hright⟩
    obtain ⟨a, hleft, -⟩ := h.exists_of_right_ok hright
    exact ⟨a, hleft⟩

section Guarded

variable {guard : Prop} [Decidable guard] {left : Except ε σ} {b : τ} {e : ε}

/-- What agrees with a guarded result succeeds exactly when the guard holds. -/
theorem exists_ok_iff_guard (h : Agrees related left (if guard then .ok b else .error e)) :
    (∃ a, left = .ok a) ↔ guard := by
  rw [h.exists_ok_iff]
  by_cases hguard : guard
  · rw [if_pos hguard]
    exact iff_of_true ⟨b, rfl⟩ hguard
  · rw [if_neg hguard]
    exact iff_of_false (fun ⟨_, hok⟩ => nomatch hok) hguard

theorem related_of_guarded (h : Agrees related left (if guard then .ok b else .error e))
    {a : σ} (hleft : left = .ok a) : related a b := by
  have hguard := h.exists_ok_iff_guard.1 ⟨a, hleft⟩
  rw [if_pos hguard] at h
  obtain ⟨_, hright, hrelated⟩ := h.exists_of_left_ok hleft
  cases hright
  exact hrelated

end Guarded

end Agrees

/-! ## Values of the first rows -/

section Prefix

variable (value : ℕ → Except ε β)

/-- `out` lists the values of the first `out.length` rows, none of which
failed. -/
def IsPrefix (out : List β) : Prop :=
  ∀ (i : ℕ) (hi : i < out.length), value i = .ok out[i]

variable {value}

theorem isPrefix_nil : IsPrefix value [] := by
  intro i hi
  simp at hi

theorem isPrefix_append_singleton {out : List β} {v : β} :
    IsPrefix value (out ++ [v]) ↔
      IsPrefix value out ∧ value out.length = .ok v := by
  constructor
  · intro h
    refine ⟨fun i hi => ?_, ?_⟩
    · have := h i (by simp; omega)
      rwa [List.getElem_append_left hi] at this
    · simpa using h out.length (by simp)
  · rintro ⟨hout, hv⟩ i hi
    by_cases hlt : i < out.length
    · rw [List.getElem_append_left hlt]
      exact hout i hlt
    · obtain rfl : i = out.length := by
        simp at hi
        omega
      simpa using hv

theorem IsPrefix.take {out : List β} (h : IsPrefix value out) (count : ℕ) :
    IsPrefix value (out.take count) := by
  intro i hi
  rw [List.getElem_take]
  exact h i (Nat.lt_of_lt_of_le hi (List.length_take_le' _ _))

/-- Rows that all have a value form a prefix. -/
theorem exists_isPrefix {rows : ℕ} (h : ∀ i < rows, ∃ v, value i = .ok v) :
    ∃ out, out.length = rows ∧ IsPrefix value out := by
  induction rows with
  | zero => exact ⟨[], rfl, isPrefix_nil⟩
  | succ rows ih =>
      obtain ⟨out, hlength, hvalues⟩ := ih fun i hi => h i (by omega)
      obtain ⟨v, hv⟩ := h rows (by omega)
      refine ⟨out ++ [v], by simp [hlength], ?_⟩
      exact isPrefix_append_singleton.2 ⟨hvalues, by rw [hlength, hv]⟩

/-! ## The rows before the first failing one -/

/-- The values before the first error. -/
def oks : List (Except ε β) → List β
  | .ok v :: results => v :: oks results
  | _ => []

/-- The values of the rows before the first failing one. -/
def stretch (value : ℕ → Except ε β) (rows : ℕ) : List β :=
  oks ((List.range rows).map value)

theorem prefix_oks_iff {out : List β} {results : List (Except ε β)} :
    out <+: oks results ↔ out.map .ok <+: results := by
  induction results generalizing out with
  | nil => cases out <;> simp [oks]
  | cons result results ih =>
      cases out with
      | nil => simp
      | cons v out =>
          cases result with
          | error e => simp [oks]
          | ok v' => simp [oks, ih]

/-- What the values before the first error weigh, from the weights alone. -/
theorem map_oks {γ : Type*} (weight : β → γ) (results : List (Except ε β)) :
    (oks results).map weight =
      ((results.map fun result => result.toOption.map weight).takeWhile
        Option.isSome).reduceOption := by
  induction results with
  | nil => rfl
  | cons result results ih =>
      cases result with
      | error e => rfl
      | ok v =>
          rw [oks, List.map_cons, ih, List.map_cons, List.takeWhile_cons_of_pos rfl]
          exact (List.reduceOption_cons_of_some _ _).symm

theorem prefix_stretch_iff {out : List β} {rows : ℕ} :
    out <+: stretch value rows ↔ out.length ≤ rows ∧ IsPrefix value out := by
  rw [stretch, prefix_oks_iff, List.prefix_iff_getElem]
  simp only [List.length_map, List.length_range, List.getElem_map, List.getElem_range,
    exists_prop]
  refine and_congr_right fun _ => forall₂_congr fun i hi => ?_
  exact eq_comm

theorem length_stretch_le (value : ℕ → Except ε β) (rows : ℕ) :
    (stretch value rows).length ≤ rows :=
  (prefix_stretch_iff.1 (List.prefix_refl _)).1

/-- A successful run emits the whole stretch. -/
theorem stretch_eq_of_isPrefix {out : List β} {rows : ℕ} (hvalues : IsPrefix value out)
    (hlength : out.length = rows) : stretch value rows = out := by
  have hbefore : out <+: stretch value rows :=
    prefix_stretch_iff.2 ⟨Nat.le_of_eq hlength, hvalues⟩
  have hle := length_stretch_le value rows
  exact (hbefore.eq_of_length_le (by omega)).symm

variable {fits : List β → Prop}

/-- What fits keeps fitting when rows are taken away at the end. -/
theorem fits_of_prefix {out out' : List β} (hmono : ∀ out v, fits (out ++ [v]) → fits out)
    (h : out <+: out') (hfits : fits out') : fits out := by
  obtain ⟨more, rfl⟩ := h
  induction more using List.reverseRecOn with
  | nil => rwa [List.append_nil] at hfits
  | append_singleton more v ih =>
      rw [← List.append_assoc] at hfits
      exact ih (hmono _ v hfits)

/-- Every prefix of the first `rows` rows fits. -/
def HasRoom (value : ℕ → Except ε β) (fits : List β → Prop) (rows : ℕ) : Prop :=
  ∀ out, out.length ≤ rows → IsPrefix value out → fits out

/-- A column has room when the rows before the first failing one fit. -/
theorem hasRoom_iff {rows : ℕ} (hmono : ∀ out v, fits (out ++ [v]) → fits out) :
    HasRoom value fits rows ↔ fits (stretch value rows) := by
  constructor
  · intro h
    obtain ⟨hle, hvalues⟩ :=
      prefix_stretch_iff.1 (List.prefix_refl (stretch value rows))
    exact h _ hle hvalues
  · intro h out hle hvalues
    exact fits_of_prefix hmono (prefix_stretch_iff.2 ⟨hle, hvalues⟩) h

end Prefix

/-! ## The abstract loop -/

section EmitRows

variable (value : ℕ → Except ε β) (fits : List β → Prop) [DecidablePred fits]
variable (full : ε)

/-- One abstract row: compute its value, then append it, or stop with `full`
when the column does not fit with the new row. -/
def appendRow (out : List β) (row : ℕ) : Except ε (List β) :=
  value row >>= fun v =>
    if fits (out ++ [v]) then .ok (out ++ [v]) else .error full

/-- The abstract loop over rows `0, …, rows - 1`. -/
def emitRows (rows : ℕ) : Except ε (List β) :=
  runRows (appendRow value fits full) [] rows

variable {value fits full}

theorem appendRow_eq_ok_iff {out out' : List β} {row : ℕ} :
    appendRow value fits full out row = .ok out' ↔
      ∃ v, value row = .ok v ∧ fits (out ++ [v]) ∧ out' = out ++ [v] := by
  rw [appendRow, bind_eq_ok_iff]
  refine exists_congr fun v => and_congr_right fun _ => ?_
  by_cases hfits : fits (out ++ [v]) <;> simp [hfits, eq_comm]

theorem appendRow_eq_error_iff {out : List β} {row : ℕ} {e : ε} :
    appendRow value fits full out row = .error e ↔
      value row = .error e ∨
        ∃ v, value row = .ok v ∧ ¬ fits (out ++ [v]) ∧ e = full := by
  rw [appendRow, bind_eq_error_iff]
  refine or_congr_right (exists_congr fun v => and_congr_right fun _ => ?_)
  by_cases hfits : fits (out ++ [v]) <;> simp [hfits, eq_comm]

theorem emitRows_succ (rows : ℕ) :
    emitRows value fits full (rows + 1) =
      emitRows value fits full rows >>= fun out =>
        appendRow value fits full out rows :=
  runRows_succ _ _ _

/-- What a successful run emits: the values of all rows, in order, each of
them appended while the column still fitted. -/
theorem emitRows_eq_ok_iff {rows : ℕ} {out : List β} :
    emitRows value fits full rows = .ok out ↔
      out.length = rows ∧ IsPrefix value out ∧
        ∀ k < rows, fits (out.take (k + 1)) := by
  induction rows generalizing out with
  | zero =>
      simp only [emitRows, runRows_zero, Except.ok.injEq, List.length_eq_zero_iff]
      constructor
      · rintro rfl
        exact ⟨rfl, isPrefix_nil, by simp⟩
      · rintro ⟨h, -⟩
        exact h.symm
  | succ rows ih =>
      rw [emitRows_succ, bind_eq_ok_iff]
      constructor
      · rintro ⟨prior, hprior, happend⟩
        obtain ⟨v, hv, hfits, rfl⟩ := appendRow_eq_ok_iff.1 happend
        obtain ⟨hlength, hvalues, hearlier⟩ := ih.1 hprior
        refine ⟨by simp [hlength], ?_, fun k hk => ?_⟩
        · rw [isPrefix_append_singleton]
          exact ⟨hvalues, by rw [hlength, hv]⟩
        · by_cases hlast : k = rows
          · subst hlast
            rwa [List.take_of_length_le (by simp [hlength])]
          · rw [List.take_append_of_le_length (by omega)]
            exact hearlier k (by omega)
      · rintro ⟨hlength, hvalues, hfits⟩
        obtain ⟨prior, v, rfl⟩ : ∃ prior v, out = prior ++ [v] :=
          ⟨out.dropLast, out.getLast (by rintro rfl; simp at hlength),
            (List.dropLast_append_getLast _).symm⟩
        rw [isPrefix_append_singleton] at hvalues
        have hrows : prior.length = rows := by simpa using hlength
        refine ⟨prior, ih.2 ⟨hrows, hvalues.1, fun k hk => ?_⟩, ?_⟩
        · have := hfits k (by omega)
          rwa [List.take_append_of_le_length (by omega)] at this
        · have hall := hfits rows (by omega)
          rw [List.take_of_length_le (by simp [hrows])] at hall
          exact appendRow_eq_ok_iff.2 ⟨v, hrows ▸ hvalues.2, hall, rfl⟩

theorem length_of_emitRows {rows : ℕ} {out : List β}
    (h : emitRows value fits full rows = .ok out) : out.length = rows :=
  (emitRows_eq_ok_iff.1 h).1

/-- What was emitted fits. -/
theorem fits_of_emitRows (hnil : fits []) {rows : ℕ} {out : List β}
    (h : emitRows value fits full rows = .ok out) : fits out := by
  obtain ⟨hlength, -, hfits⟩ := emitRows_eq_ok_iff.1 h
  cases rows with
  | zero =>
      rw [List.length_eq_zero_iff] at hlength
      rwa [hlength]
  | succ rows =>
      have := hfits rows (by omega)
      rwa [List.take_of_length_le (by omega)] at this

/-- A failing run stops at one row, with that row's error, after all earlier
rows were emitted. -/
theorem emitRows_eq_error_iff {rows : ℕ} {e : ε} :
    emitRows value fits full rows = .error e ↔
      ∃ k < rows, ∃ out, emitRows value fits full k = .ok out ∧
        appendRow value fits full out k = .error e := by
  induction rows with
  | zero => simp [emitRows]
  | succ rows ih =>
      rw [emitRows_succ, bind_eq_error_iff, ih]
      constructor
      · rintro (⟨k, hk, hfail⟩ | ⟨out, hout, hfail⟩)
        · exact ⟨k, by omega, hfail⟩
        · exact ⟨rows, by omega, out, hout, hfail⟩
      · rintro ⟨k, hk, out, hout, hfail⟩
        rcases Nat.lt_succ_iff_lt_or_eq.1 hk with hlt | rfl
        · exact Or.inl ⟨k, hlt, out, hout, hfail⟩
        · exact Or.inr ⟨out, hout, hfail⟩

/-! ### A column with room for every row -/

theorem emitRows_eq_ok_iff_of_hasRoom {rows : ℕ} {out : List β}
    (hroom : HasRoom value fits rows) :
    emitRows value fits full rows = .ok out ↔
      out.length = rows ∧ IsPrefix value out := by
  rw [emitRows_eq_ok_iff]
  constructor
  · rintro ⟨hlength, hvalues, -⟩
    exact ⟨hlength, hvalues⟩
  · rintro ⟨hlength, hvalues⟩
    refine ⟨hlength, hvalues, fun k hk => hroom _ ?_ (hvalues.take _)⟩
    rw [List.length_take]
    omega

/-- With room for every row, the loop succeeds exactly when every row has a
value. -/
theorem exists_emitRows_eq_ok_iff (full : ε) {rows : ℕ} (hroom : HasRoom value fits rows) :
    (∃ out, emitRows value fits full rows = .ok out) ↔
      ∀ i < rows, ∃ v, value i = .ok v := by
  constructor
  · rintro ⟨out, hout⟩ i hi
    obtain ⟨hlength, hvalues⟩ := (emitRows_eq_ok_iff_of_hasRoom hroom).1 hout
    exact ⟨_, hvalues i (hlength ▸ hi)⟩
  · intro h
    obtain ⟨out, hout⟩ := exists_isPrefix h
    exact ⟨out, (emitRows_eq_ok_iff_of_hasRoom hroom).2 hout⟩

/-- With room for every row, the loop fails exactly with the error of the
first row that has no value. -/
theorem emitRows_eq_error_iff_of_hasRoom {rows : ℕ} {e : ε}
    (hroom : HasRoom value fits rows) :
    emitRows value fits full rows = .error e ↔
      ∃ k < rows, value k = .error e ∧ ∀ i < k, ∃ v, value i = .ok v := by
  rw [emitRows_eq_error_iff]
  refine exists_congr fun k => and_congr_right fun hk => ?_
  have hroom_k : HasRoom value fits k := fun out hle => hroom out (by omega)
  constructor
  · rintro ⟨out, hout, hfail⟩
    obtain ⟨hlength, hvalues⟩ := (emitRows_eq_ok_iff_of_hasRoom hroom_k).1 hout
    rcases appendRow_eq_error_iff.1 hfail with hvalue | ⟨v, hv, hfull, -⟩
    · exact ⟨hvalue, (exists_emitRows_eq_ok_iff full hroom_k).1 ⟨out, hout⟩⟩
    · refine absurd (hroom _ ?_ ?_) hfull
      · simp
        omega
      · exact isPrefix_append_singleton.2 ⟨hvalues, by rw [hlength, hv]⟩
  · rintro ⟨hvalue, hprior⟩
    have hemit : ∃ out, emitRows value fits full k = .ok out :=
      (exists_emitRows_eq_ok_iff full hroom_k).2 hprior
    obtain ⟨out, hout⟩ := hemit
    exact ⟨out, hout, appendRow_eq_error_iff.2 (Or.inl hvalue)⟩

/-! ### A column that may fill up -/

section Outcome

variable {rows : ℕ} (hnil : fits []) (hmono : ∀ out v, fits (out ++ [v]) → fits out)
include hnil hmono

/-- The loop stops with `full` when the rows before the first failing one do not fit. -/
theorem emitRows_of_not_fits (h : ¬ fits (stretch value rows)) :
    emitRows value fits full rows = .error full := by
  rw [← hasRoom_iff hmono] at h
  -- What was emitted fits, so the rows that do not fit are not all emitted.
  have hroom : ∀ {k out}, emitRows value fits full k = .ok out → HasRoom value fits k := by
    intro k out hout
    obtain ⟨hlength, hvalues, -⟩ := emitRows_eq_ok_iff.1 hout
    rw [hasRoom_iff hmono, stretch_eq_of_isPrefix hvalues hlength]
    exact fits_of_emitRows hnil hout
  cases hrun : emitRows value fits full rows with
  | ok out => exact absurd (hroom hrun) h
  | error e =>
      obtain ⟨k, -, prior, hprior, hfail⟩ := emitRows_eq_error_iff.1 hrun
      rcases appendRow_eq_error_iff.1 hfail with hfailed | ⟨v, -, -, rfl⟩
      · refine absurd (fun out hle hvalues => ?_) h
        -- No prefix reaches past the failing row `k`.
        refine hroom hprior out ?_ hvalues
        by_contra hlong
        have := hvalues k (by omega)
        rw [hfailed] at this
        cases this
      · rfl

/-- The loop stops with `full` when the rows before the first failing one do not fit, or
that row fails with `full` itself. -/
theorem emitRows_eq_full_iff :
    emitRows value fits full rows = .error full ↔ ¬ fits (stretch value rows) ∨
      ∃ k < rows, value k = .error full ∧ ∀ i < k, ∃ v, value i = .ok v := by
  by_cases hfits : fits (stretch value rows)
  · rw [emitRows_eq_error_iff_of_hasRoom ((hasRoom_iff hmono).2 hfits)]
    exact (or_iff_right (not_not_intro hfits)).symm
  · exact iff_of_true (emitRows_of_not_fits hnil hmono hfits) (Or.inl hfits)

/-- The loop stops with the error of a row when the rows before it fit. -/
theorem emitRows_eq_error_iff_of_ne_full {e : ε} (he : e ≠ full) :
    emitRows value fits full rows = .error e ↔ fits (stretch value rows) ∧
      ∃ k < rows, value k = .error e ∧ ∀ i < k, ∃ v, value i = .ok v := by
  by_cases hfits : fits (stretch value rows)
  · rw [emitRows_eq_error_iff_of_hasRoom ((hasRoom_iff hmono).2 hfits)]
    exact (and_iff_right hfits).symm
  · rw [emitRows_of_not_fits hnil hmono hfits, Except.error.injEq]
    exact iff_of_false he.symm fun h => hfits h.1

/-- The loop succeeds when every row has a value and the values fit. -/
theorem exists_emitRows_iff :
    (∃ out, emitRows value fits full rows = .ok out) ↔
      fits (stretch value rows) ∧ ∀ i < rows, ∃ v, value i = .ok v := by
  by_cases hfits : fits (stretch value rows)
  · rw [exists_emitRows_eq_ok_iff full ((hasRoom_iff hmono).2 hfits)]
    exact (and_iff_right hfits).symm
  · rw [emitRows_of_not_fits hnil hmono hfits]
    refine iff_of_false ?_ fun h => hfits h.1
    rintro ⟨out, hout⟩
    cases hout

end Outcome

end EmitRows

/-! ## A concrete loop that stands for the abstract one -/

/-- If every step on a state that represents `out` does what `appendRow` does
to `out`, the whole loop does what `emitRows` does. -/
theorem runRows_agrees {value : ℕ → Except ε β} {fits : List β → Prop}
    [DecidablePred fits] {full : ε} {represents : σ → List β → Prop}
    {step : σ → ℕ → Except ε σ} {init : σ}
    (hinit : represents init [])
    (hstep : ∀ state out, represents state out →
      Agrees represents (step state out.length)
        (appendRow value fits full out out.length))
    (rows : ℕ) :
    Agrees represents (runRows step init rows)
      (emitRows value fits full rows) := by
  induction rows with
  | zero => exact .ok hinit
  | succ rows ih =>
      rw [runRows_succ, emitRows_succ]
      cases hout : emitRows value fits full rows with
      | error e =>
          rw [ih.left_error hout]
          exact .error e
      | ok out =>
          obtain ⟨state, hstate, hrep⟩ := ih.exists_of_right_ok hout
          rw [hstate]
          have := hstep state out hrep
          rwa [length_of_emitRows hout] at this

end VgiImage.RowLoop
