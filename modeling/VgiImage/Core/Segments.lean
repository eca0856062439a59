import Mathlib.Data.List.Basic
import Mathlib.Order.Monotone.Basic
import Mathlib.Tactic.Common

/-!
# Rows laid end to end

A column of variable-length rows is stored as one list of entries together with
the entry count before each row.  Cutting the list at two consecutive counts
gives back the row between them.
-/

namespace VgiImage.Segments

universe u

variable {α : Type u}

/-- Entries before row `i`. -/
def start (rows : List (List α)) (i : ℕ) : ℕ := (rows.take i).flatten.length

theorem start_of_length_le {rows : List (List α)} {i : ℕ} (hi : rows.length ≤ i) :
    start rows i = rows.flatten.length := by
  rw [start, List.take_of_length_le hi]

theorem start_append_of_le {rows : List (List α)} {i : ℕ} (hi : i ≤ rows.length)
    (more : List (List α)) : start (rows ++ more) i = start rows i := by
  rw [start, start, List.take_append_of_le_length hi]

theorem start_succ {rows : List (List α)} {i : ℕ} (hi : i < rows.length) :
    start rows (i + 1) = start rows i + rows[i].length := by
  have htake : rows.take (i + 1) = rows.take i ++ [rows[i]] := by
    rw [List.take_add_one, List.getElem?_eq_getElem hi, Option.toList_some]
  rw [start, start, htake, List.flatten_append, List.length_append,
    List.flatten_singleton]

theorem start_le_succ (rows : List (List α)) (i : ℕ) :
    start rows i ≤ start rows (i + 1) := by
  rcases Nat.lt_or_ge i rows.length with hi | hi
  · rw [start_succ hi]
    exact Nat.le_add_right _ _
  · rw [start_of_length_le hi, start_of_length_le (Nat.le_succ_of_le hi)]

theorem start_mono (rows : List (List α)) : Monotone (start rows) :=
  monotone_nat_of_le_succ (start_le_succ rows)

theorem start_le (rows : List (List α)) (i : ℕ) : start rows i ≤ rows.flatten.length := by
  calc
    start rows i ≤ start rows (i + rows.length) := start_mono rows (Nat.le_add_right _ _)
    _ = rows.flatten.length := start_of_length_le (Nat.le_add_left _ _)

/-- The entries between two consecutive counts are the row between them. -/
theorem take_drop_flatten {rows : List (List α)} {i : ℕ} (hi : i < rows.length) :
    (rows.flatten.drop (start rows i)).take (start rows (i + 1) - start rows i) =
      rows[i] := by
  have hdrop : rows.flatten.drop (start rows i) = (rows.drop i).flatten := by
    calc
      rows.flatten.drop (start rows i) =
          ((rows.take i).flatten ++ (rows.drop i).flatten).drop (start rows i) := by
        rw [← List.flatten_append, List.take_append_drop]
      _ = (rows.drop i).flatten := List.drop_left
  rw [hdrop, List.drop_eq_getElem_cons hi, List.flatten_cons, start_succ hi,
    Nat.add_sub_cancel_left, List.take_left]

end VgiImage.Segments
