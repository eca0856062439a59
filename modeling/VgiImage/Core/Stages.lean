import VgiImage.Core.Batches

/-!
# Several stages over a list of entries

Entries pass through several fallible stages.  Evaluating stage by stage, all
entries through one stage before the next one starts, succeeds on the same
entries and with the same results as taking one entry after the other through
all stages; only the error that is found first may be another one.
-/

namespace VgiImage.Stages

open Outcome RowLoop

universe u

variable {ε : Type*} {α : Type u}

/-- One entry through all stages. -/
def through (stages : List (α → Except ε α)) (entry : α) : Except ε α :=
  stages.foldlM (fun entry stage => stage entry) entry

/-- All entries through one stage after the other. -/
def stagewise (stages : List (α → Except ε α)) (entries : List α) : Except ε (List α) :=
  stages.foldlM (fun entries stage => entries.mapM stage) entries

variable {stage : α → Except ε α} {stages : List (α → Except ε α)} {entries out : List α} {e : ε}

theorem through_cons_eq_ok_iff {entry result : α} :
    through (stage :: stages) entry = .ok result ↔
      ∃ middle, stage entry = .ok middle ∧ through stages middle = .ok result := by
  rw [through, List.foldlM_cons]
  exact bind_eq_ok_iff

theorem through_append (stages' : List (α → Except ε α)) (entry : α) :
    through (stages ++ stages') entry = through stages entry >>= through stages' :=
  List.foldlM_append

/-- What comes out of all stages comes out of the last one. -/
theorem exists_of_through_concat {entry result : α}
    (h : through (stages ++ [stage]) entry = .ok result) : ∃ middle, stage middle = .ok result := by
  rw [through_append] at h
  obtain ⟨middle, -, hlast⟩ := bind_eq_ok_iff.1 h
  obtain ⟨out, hout, hdone⟩ := through_cons_eq_ok_iff.1 hlast
  cases hdone
  exact ⟨middle, hout⟩

/-- All stages are the first stage and then the others. -/
theorem forall₂_through_cons_iff :
    List.Forall₂ (fun entry result => through (stage :: stages) entry = .ok result) entries out ↔
      ∃ middle, List.Forall₂ (fun entry cell => stage entry = .ok cell) entries middle ∧
        List.Forall₂ (fun entry result => through stages entry = .ok result) middle out := by
  constructor
  · intro h
    induction h with
    | nil => exact ⟨[], .nil, .nil⟩
    | cons hentry _ hentries =>
        obtain ⟨cell, hcell, hresult⟩ := through_cons_eq_ok_iff.1 hentry
        obtain ⟨middle, hmiddle, hlater⟩ := hentries
        exact ⟨cell :: middle, .cons hcell hmiddle, .cons hresult hlater⟩
  · rintro ⟨middle, hmiddle, hlater⟩
    induction hmiddle generalizing out with
    | nil =>
        cases hlater
        exact .nil
    | cons hentry _ hentries =>
        cases hlater with
        | cons hresult hresults =>
            exact .cons (through_cons_eq_ok_iff.2 ⟨_, hentry, hresult⟩) (hentries hresults)

/-- The results do not depend on the order of evaluation. -/
theorem stagewise_eq_ok_iff :
    stagewise stages entries = .ok out ↔
      List.Forall₂ (fun entry result => through stages entry = .ok result) entries out := by
  induction stages generalizing entries with
  | nil =>
      have hsame : (fun entry result : α => through ([] : List (α → Except ε α)) entry =
          .ok result) = Eq := by
        funext entry result
        exact propext ⟨Except.ok.inj, congrArg Except.ok⟩
      rw [hsame, List.forall₂_eq_eq_eq]
      exact ⟨Except.ok.inj, congrArg Except.ok⟩
  | cons stage stages ih =>
      rw [stagewise, List.foldlM_cons, bind_eq_ok_iff, forall₂_through_cons_iff]
      refine exists_congr fun middle => and_congr mapM_eq_ok_iff ?_
      exact ih

/-- Evaluation stage by stage succeeds when every entry passes all stages. -/
theorem exists_stagewise_iff :
    (∃ out, stagewise stages entries = .ok out) ↔
      ∀ entry ∈ entries, ∃ result, through stages entry = .ok result := by
  simp only [stagewise_eq_ok_iff]
  induction entries with
  | nil => simp
  | cons entry entries ih =>
      simp only [List.forall₂_cons_left_iff, List.forall_mem_cons, ← ih]
      constructor
      · rintro ⟨_, result, results, hresult, hresults, rfl⟩
        exact ⟨⟨result, hresult⟩, results, hresults⟩
      · rintro ⟨⟨result, hresult⟩, results, hresults⟩
        exact ⟨_, result, results, hresult, hresults, rfl⟩

/-- The error is that of the first entry that does not pass the first stage at
which one fails. -/
theorem stagewise_eq_error_iff :
    stagewise stages entries = .error e ↔
      ∃ passed stage rest middle k, stages = passed ++ stage :: rest ∧
        stagewise passed entries = .ok middle ∧ FailsFirst stage middle k e := by
  induction stages generalizing entries with
  | nil =>
      constructor
      · intro h
        cases h
      · rintro ⟨passed, stage, rest, middle, k, hstages, -⟩
        simp at hstages
  | cons first stages ih =>
      rw [stagewise, List.foldlM_cons, bind_eq_error_iff, mapM_eq_error_iff]
      constructor
      · rintro (⟨k, hk⟩ | ⟨cells, hcells, hrest⟩)
        · exact ⟨[], first, stages, entries, k, rfl, rfl, hk⟩
        · obtain ⟨passed, stage, rest, middle, k, rfl, hmiddle, hk⟩ := ih.1 hrest
          refine ⟨first :: passed, stage, rest, middle, k, rfl, ?_, hk⟩
          rw [stagewise, List.foldlM_cons, bind_of_ok hcells]
          exact hmiddle
      · rintro ⟨passed, stage, rest, middle, k, hstages, hmiddle, hk⟩
        cases passed with
        | nil =>
            cases hstages
            cases hmiddle
            exact Or.inl ⟨k, hk⟩
        | cons second passed =>
            obtain ⟨rfl, rfl⟩ := List.cons.inj hstages
            rw [stagewise, List.foldlM_cons] at hmiddle
            obtain ⟨cells, hcells, hpassed⟩ := bind_eq_ok_iff.1 hmiddle
            exact Or.inr ⟨cells, hcells, ih.2 ⟨passed, stage, rest, middle, k, rfl, hpassed, hk⟩⟩

end VgiImage.Stages
