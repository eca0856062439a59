import Mathlib.Data.List.DropRight
import Mathlib.Data.List.Forall2
import Mathlib.Tactic.Common

/-!
# Words between separators

A list is cut at a separator, the pieces are trimmed and the empty ones are
dropped.  What remains is stated without reference to cutting and trimming: the
list is some pieces joined by the separator, and every word is a piece without
the blanks around it.
-/

namespace VgiImage.Words

universe u

variable {α : Type u}

/-! ## Trimming -/

section Trim

variable (blank : α → Bool)

def trim (piece : List α) : List α := (piece.dropWhile blank).rdropWhile blank

/-- Neither end is blank. -/
structure Trimmed (word : List α) : Prop where
  first : ∀ x ∈ word.head?, blank x = false
  last : ∀ x ∈ word.getLast?, blank x = false

instance (word : List α) : Decidable (Trimmed blank word) :=
  decidable_of_iff
    ((∀ x ∈ word.head?, blank x = false) ∧ ∀ x ∈ word.getLast?, blank x = false)
    ⟨fun h => ⟨h.1, h.2⟩, fun h => ⟨h.first, h.last⟩⟩

/-- `piece` is `word` with blanks around it. -/
structure TrimsTo (piece word : List α) : Prop where
  trimmed : Trimmed blank word
  surrounded : ∃ left right, piece = left ++ word ++ right ∧
    (∀ x ∈ left, blank x = true) ∧ ∀ x ∈ right, blank x = true

variable {blank}

theorem rdropWhile_append_of_pos {word right : List α} (hright : ∀ x ∈ right, blank x = true) :
    (word ++ right).rdropWhile blank = word.rdropWhile blank := by
  rw [List.rdropWhile, List.reverse_append, List.dropWhile_append_of_pos, List.rdropWhile]
  exact fun x hx => hright x (List.mem_reverse.1 hx)

theorem trimmed_trim (piece : List α) : Trimmed blank (trim blank piece) where
  first x hx := by
    have hmem : x ∈ (piece.dropWhile blank).head? := by
      obtain ⟨suffix, hsuffix⟩ := List.rdropWhile_prefix blank (piece.dropWhile blank)
      rw [← hsuffix, List.head?_append]
      change (trim blank piece).head? = some x at hx
      rw [show (piece.dropWhile blank).rdropWhile blank = trim blank piece from rfl, hx]
      rfl
    have hhead := List.head?_dropWhile_not blank piece
    rw [Option.mem_def.1 hmem] at hhead
    exact hhead
  last x hx := by
    obtain ⟨hne, hlast⟩ := List.mem_getLast?_eq_getLast hx
    rw [hlast]
    exact Bool.eq_false_iff.2 (List.rdropWhile_last_not blank _ hne)

theorem trimsTo_trim (piece : List α) : TrimsTo blank piece (trim blank piece) where
  trimmed := trimmed_trim piece
  surrounded := by
    refine ⟨piece.takeWhile blank, (piece.dropWhile blank).rtakeWhile blank, ?_, ?_, ?_⟩
    · rw [List.append_assoc, trim, List.rdropWhile_append_rtakeWhile,
        List.takeWhile_append_dropWhile]
    · exact fun x hx => List.mem_takeWhile_imp hx
    · exact fun x hx => List.mem_rtakeWhile_imp hx

/-- A piece trims to one word. -/
theorem trimsTo_iff {piece word : List α} :
    TrimsTo blank piece word ↔ trim blank piece = word := by
  constructor
  · rintro ⟨⟨hfirst, hlast⟩, left, right, rfl, hleft, hright⟩
    rw [trim, List.append_assoc, List.dropWhile_append_of_pos hleft]
    cases word with
    | nil => rw [List.nil_append, List.dropWhile_eq_nil_iff.2 hright, List.rdropWhile_nil]
    | cons x rest =>
        have hx : ¬ blank x = true := by simp [hfirst x rfl]
        rw [List.cons_append, List.dropWhile_cons_of_neg hx, ← List.cons_append,
          rdropWhile_append_of_pos hright, List.rdropWhile_eq_self_iff]
        intro hne
        simp [hlast _ (List.getLast?_eq_some_getLast hne)]
  · rintro rfl
    exact trimsTo_trim piece

end Trim

/-! ## Words joined by a separator -/

section Joined

variable (sep : α) (blank : α → Bool)

/-- `text` is some pieces joined by `sep`, and `ws` are the pieces without the
blanks around them, those of blanks only left out. -/
def IsWords (text : List α) (ws : List (List α)) : Prop :=
  ∃ pieces trimmed, pieces ≠ [] ∧ text = [sep].intercalate pieces ∧
    (∀ piece ∈ pieces, sep ∉ piece) ∧ List.Forall₂ (TrimsTo blank) pieces trimmed ∧
      ws = trimmed.filter fun word => !word.isEmpty

/-- `text` is the words joined by `sep`, with any padding around each. -/
def Joins (pad : α) (text : List α) (ws : List (List α)) : Prop :=
  ∃ pieces, text = [sep].intercalate pieces ∧
    List.Forall₂ (fun piece word => ∃ before after,
      piece = List.replicate before pad ++ word ++ List.replicate after pad) pieces ws

variable {sep blank}

/-- A word with padding around it trims to the word. -/
theorem trimsTo_of_padded {pad : α} (hblank : blank pad = true) {word : List α}
    (htrimmed : Trimmed blank word) (before after : ℕ) :
    TrimsTo blank (List.replicate before pad ++ word ++ List.replicate after pad) word where
  trimmed := htrimmed
  surrounded := by
    refine ⟨_, _, rfl, fun x hx => ?_, fun x hx => ?_⟩
    · rw [List.eq_of_mem_replicate hx, hblank]
    · rw [List.eq_of_mem_replicate hx, hblank]

/-- Words that were joined are the words of the result. -/
theorem isWords_of_joins {pad : α} {text : List α} {ws : List (List α)}
    (hjoins : Joins sep pad text ws) (hblank : blank pad = true) (hpad : pad ≠ sep)
    (hwords : ∀ word ∈ ws, word ≠ [] ∧ Trimmed blank word ∧ sep ∉ word) :
    IsWords sep blank text ws := by
  obtain ⟨pieces, rfl, hpieces⟩ := hjoins
  by_cases hne : pieces = []
  · subst hne
    obtain rfl := List.forall₂_nil_left_iff.1 hpieces
    have hempty : TrimsTo blank ([] : List α) [] := trimsTo_iff.2 rfl
    exact ⟨[[]], [[]], List.cons_ne_nil _ _, rfl, by simp, .cons hempty .nil, rfl⟩
  · have hboth : List.Forall₂ (fun piece word => sep ∉ piece ∧ TrimsTo blank piece word)
        pieces ws := by
      have hall := (List.forall₂_and_left _ _).2 ⟨hwords, hpieces.flip⟩
      refine List.Forall₂.flip (hall.imp ?_)
      rintro word piece ⟨⟨-, htrimmed, hsep⟩, before, after, rfl⟩
      refine ⟨?_, trimsTo_of_padded hblank htrimmed before after⟩
      simp [hsep, hpad.symm]
    obtain ⟨hsep, htrims⟩ := (List.forall₂_and_left _ _).1 hboth
    refine ⟨pieces, ws, hne, rfl, hsep, htrims, (List.filter_eq_self.2 ?_).symm⟩
    intro word hword
    simpa using (hwords word hword).1

end Joined

/-! ## Cutting a text into its words -/

section Cut

variable [DecidableEq α] (sep : α) (blank : α → Bool)

/-- Cut at `sep`, trim the pieces and drop the empty ones. -/
def words (text : List α) : List (List α) :=
  ((text.splitOn sep).map (trim blank)).filter fun word => !word.isEmpty

variable {sep blank}

theorem not_mem_of_mem_splitOn {text piece : List α} (h : piece ∈ text.splitOn sep) :
    sep ∉ piece := by
  induction text generalizing piece with
  | nil =>
      rw [List.splitOn_nil, List.mem_singleton] at h
      simp [h]
  | cons x text ih =>
      obtain ⟨first, more, hsplit⟩ := List.exists_cons_of_ne_nil (List.splitOn_ne_nil sep text)
      rw [List.splitOn_cons_eq_if_modifyHead, hsplit] at h
      rw [hsplit] at ih
      by_cases hx : x = sep
      · rw [if_pos (beq_iff_eq.2 hx), List.mem_cons] at h
        rcases h with rfl | h
        · exact List.not_mem_nil
        · exact ih h
      · rw [if_neg (by simpa using hx), List.modifyHead_cons, List.mem_cons] at h
        rcases h with rfl | h
        · rw [List.mem_cons, not_or]
          exact ⟨fun hsep => hx hsep.symm, ih List.mem_cons_self⟩
        · exact ih (List.mem_cons_of_mem _ h)

omit [DecidableEq α] in
theorem forall₂_trimsTo_iff {pieces trimmed : List (List α)} :
    List.Forall₂ (TrimsTo blank) pieces trimmed ↔ pieces.map (trim blank) = trimmed := by
  have htrims : TrimsTo blank = fun piece word => trim blank piece = word := by
    funext piece word
    exact propext trimsTo_iff
  rw [htrims, ← List.forall₂_map_left_iff, List.forall₂_eq_eq_eq]

/-- A text has exactly one list of words. -/
theorem isWords_iff {text : List α} {ws : List (List α)} :
    IsWords sep blank text ws ↔ words sep blank text = ws := by
  constructor
  · rintro ⟨pieces, trimmed, hne, rfl, hsep, htrims, rfl⟩
    rw [words, List.splitOn_intercalate sep hsep hne, forall₂_trimsTo_iff.1 htrims]
  · rintro rfl
    exact ⟨text.splitOn sep, _, List.splitOn_ne_nil sep text,
      (List.intercalate_splitOn sep).symm, fun _ => not_mem_of_mem_splitOn,
      forall₂_trimsTo_iff.2 rfl, rfl⟩

omit [DecidableEq α] in
theorem mem_intercalate {pieces : List (List α)} {piece : List α} (hpiece : piece ∈ pieces)
    {x : α} (hx : x ∈ piece) : x ∈ [sep].intercalate pieces := by
  induction pieces with
  | nil => cases hpiece
  | cons first more ih =>
      cases more with
      | nil =>
          rw [List.mem_singleton.1 hpiece] at hx
          rwa [List.intercalate_singleton]
      | cons next rest =>
          rw [List.intercalate_cons_cons, List.append_assoc]
          rcases List.mem_cons.1 hpiece with rfl | hmore
          · exact List.mem_append_left _ hx
          · exact List.mem_append_right _ (List.mem_append_right _ (ih hmore))

/-- Words hold no element the text does not hold. -/
theorem mem_of_mem_words {text word : List α} (hword : word ∈ words sep blank text) {x : α}
    (hx : x ∈ word) : x ∈ text := by
  obtain ⟨piece, hpiece, rfl⟩ := List.mem_map.1 (List.mem_of_mem_filter hword)
  have hmem : x ∈ piece :=
    (List.dropWhile_sublist _).subset ((List.rdropWhile_prefix _ _).subset hx)
  have hjoin : [sep].intercalate (text.splitOn sep) = text := List.intercalate_splitOn sep
  rw [← hjoin]
  exact mem_intercalate hpiece hmem

end Cut

end VgiImage.Words
