import Mathlib.Data.List.Forall2
import Mathlib.Tactic.Common

/-!
# Computations that may fail

A sequence of computations stops at its first error, and reading a list of
entries stops at the first entry that cannot be read.
-/

namespace VgiImage.Outcome

universe u

variable {ε : Type*} {α β : Type u}

section Bind

variable {first : Except ε α}

theorem bind_of_ok {a : α} (h : first = .ok a) (next : α → Except ε β) :
    (first >>= next) = next a := by
  rw [h]
  rfl

theorem bind_of_error {e : ε} (h : first = .error e) (next : α → Except ε β) :
    (first >>= next) = .error e := by
  rw [h]
  rfl

theorem bind_eq_ok_iff {next : α → Except ε β} {result : β} :
    (first >>= next) = .ok result ↔ ∃ a, first = .ok a ∧ next a = .ok result := by
  cases first with
  | error e =>
      rw [bind_of_error rfl]
      simp
  | ok a =>
      rw [bind_of_ok rfl]
      simp

theorem bind_eq_error_iff {next : α → Except ε β} {e : ε} :
    (first >>= next) = .error e ↔
      first = .error e ∨ ∃ a, first = .ok a ∧ next a = .error e := by
  cases first with
  | error e' =>
      rw [bind_of_error rfl]
      simp
  | ok a =>
      rw [bind_of_ok rfl]
      simp

theorem exists_eq_ok_of_toBool {result : Except ε β} (h : result.toBool = true) :
    ∃ a, result = .ok a := by
  cases result with
  | error e => cases h
  | ok a => exact ⟨a, rfl⟩

/-- A sequence fails with `e` only if one of its parts does. -/
theorem bind_ne_error {next : α → Except ε β} {e : ε} (hfirst : first ≠ .error e)
    (hnext : ∀ a, next a ≠ .error e) : (first >>= next) ≠ .error e := by
  intro h
  rcases bind_eq_error_iff.1 h with hfail | ⟨a, -, hfail⟩
  · exact hfirst hfail
  · exact hnext a hfail

theorem map_eq_ok_iff {f : α → β} {result : β} :
    first.map f = .ok result ↔ ∃ a, first = .ok a ∧ f a = result := by
  cases first <;> simp [Except.map]

theorem map_eq_error_iff {f : α → β} {e : ε} : first.map f = .error e ↔ first = .error e := by
  cases first <;> simp [Except.map]

theorem mapError_eq_error_iff {ε' : Type*} {f : ε → ε'} {e : ε'} :
    first.mapError f = .error e ↔ ∃ e', first = .error e' ∧ f e' = e := by
  cases first <;> simp [Except.mapError]

end Bind

/-! ## Reading a list of entries -/

section Reads

variable {read : α → Except ε β} {e : ε}

/-- Entry `k` is the first that cannot be read. -/
def FailsFirst (read : α → Except ε β) (entries : List α) (k : ℕ) (e : ε) : Prop :=
  (∃ entry, entries[k]? = some entry ∧ read entry = .error e) ∧
    ∀ j < k, ∀ entry, entries[j]? = some entry → ∃ cell, read entry = .ok cell

theorem mapM_eq_ok_iff {entries : List α} {cells : List β} :
    entries.mapM read = .ok cells ↔
      List.Forall₂ (fun entry cell => read entry = .ok cell) entries cells := by
  induction entries generalizing cells with
  | nil =>
      rw [List.mapM_nil, List.forall₂_nil_left_iff]
      exact ⟨fun h => (Except.ok.inj h).symm, fun h => congrArg Except.ok h.symm⟩
  | cons entry entries ih =>
      rw [List.mapM_cons, List.forall₂_cons_left_iff]
      constructor
      · intro h
        obtain ⟨cell, hcell, h⟩ := bind_eq_ok_iff.1 h
        obtain ⟨rest, hrest, h⟩ := bind_eq_ok_iff.1 h
        cases h
        exact ⟨cell, rest, hcell, ih.1 hrest, rfl⟩
      · rintro ⟨cell, rest, hcell, hrest, rfl⟩
        rw [bind_of_ok hcell, bind_of_ok (ih.2 hrest)]
        rfl

/-- A list is read when each of its entries can be. -/
theorem exists_mapM_iff {entries : List α} :
    (∃ cells, entries.mapM read = .ok cells) ↔
      ∀ entry ∈ entries, ∃ cell, read entry = .ok cell := by
  simp only [mapM_eq_ok_iff]
  induction entries with
  | nil => simp
  | cons entry entries ih =>
      simp only [List.forall_mem_cons, ← ih]
      constructor
      · rintro ⟨_, hcells⟩
        obtain ⟨cell, rest, hcell, hrest, -⟩ := List.forall₂_cons_left_iff.1 hcells
        exact ⟨⟨cell, hcell⟩, rest, hrest⟩
      · rintro ⟨⟨cell, hcell⟩, rest, hrest⟩
        exact ⟨cell :: rest, .cons hcell hrest⟩

theorem failsFirst_cons_iff {entry : α} {entries : List α} {k : ℕ} :
    FailsFirst read (entry :: entries) k e ↔
      (k = 0 ∧ read entry = .error e) ∨
        ∃ j cell, k = j + 1 ∧ read entry = .ok cell ∧ FailsFirst read entries j e := by
  cases k with
  | zero => simp [FailsFirst]
  | succ k =>
      constructor
      · rintro ⟨hfail, hearlier⟩
        obtain ⟨cell, hcell⟩ := hearlier 0 (by omega) entry rfl
        refine Or.inr ⟨k, cell, rfl, hcell, hfail, fun j hj => ?_⟩
        exact hearlier (j + 1) (by omega)
      · rintro (⟨hk, -⟩ | ⟨j, cell, hk, hcell, hfail, hearlier⟩)
        · omega
        · obtain rfl : k = j := by omega
          refine ⟨hfail, fun i hi other hother => ?_⟩
          cases i with
          | zero =>
              cases hother
              exact ⟨cell, hcell⟩
          | succ i => exact hearlier i (by omega) other hother

/-- The entries are read in order, up to the first that cannot be. -/
theorem mapM_eq_error_iff {entries : List α} :
    entries.mapM read = .error e ↔ ∃ k, FailsFirst read entries k e := by
  induction entries with
  | nil => simp [FailsFirst, pure, Except.pure]
  | cons entry entries ih =>
      -- Collecting the cells does not fail by itself.
      have hcollect : ∀ cell, (entries.mapM read >>= fun cells =>
          (pure (cell :: cells) : Except ε (List β))) = .error e ↔
            entries.mapM read = .error e := by
        intro cell
        rw [bind_eq_error_iff]
        simp [pure, Except.pure]
      rw [List.mapM_cons, bind_eq_error_iff]
      simp only [hcollect, ih, failsFirst_cons_iff]
      constructor
      · rintro (hentry | ⟨cell, hcell, k, hk⟩)
        · exact ⟨0, Or.inl ⟨rfl, hentry⟩⟩
        · exact ⟨k + 1, Or.inr ⟨k, cell, rfl, hcell, hk⟩⟩
      · rintro ⟨k, ⟨-, hentry⟩ | ⟨j, cell, -, hcell, hj⟩⟩
        · exact Or.inl hentry
        · exact Or.inr ⟨cell, hcell, j, hj⟩

end Reads

end VgiImage.Outcome
