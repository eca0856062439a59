import Mathlib.Data.List.Forall2
import Mathlib.Tactic.Common

/-!
# Reading JSON

A reader of RFC 8259 texts.  A reader consumes the start of its input and
returns what it read with the rest.  Numbers are kept as they are written, and
the members of an object in their order, repeated names included.

A text that every continuation is read after is one a reader *reads*; strings,
arrays and objects are read from the texts of their parts.
-/

namespace VgiImage

inductive Json where
  | null
  | bool (value : Bool)
  | number (literal : String)
  | string (text : String)
  | array (items : List Json)
  | object (members : List (String × Json))

namespace Json

variable {α : Type}

abbrev Reader (α : Type) := List Char → Option (α × List Char)

def isBlank (c : Char) : Bool := c = ' ' || c = '\t' || c = '\n' || c = '\r'

def skipBlanks (input : List Char) : List Char := input.dropWhile isBlank

/-! ## Strings -/

/-- A character JSON does not allow unescaped in a string. -/
def IsControl (c : Char) : Prop := c.toNat < 0x20

instance : DecidablePred IsControl := fun _ => inferInstanceAs (Decidable (_ < _))

/-- The character a one-letter escape stands for. -/
def shortEscape (c : Char) : Option Char :=
  if c = '"' ∨ c = '\\' ∨ c = '/' then some c
  else if c = 'b' then some '\x08'
  else if c = 'f' then some '\x0C'
  else if c = 'n' then some '\n'
  else if c = 'r' then some '\r'
  else if c = 't' then some '\t'
  else none

def hexDigit (c : Char) : Option ℕ :=
  if '0' ≤ c ∧ c ≤ '9' then some (c.toNat - '0'.toNat)
  else if 'a' ≤ c ∧ c ≤ 'f' then some (c.toNat - 'a'.toNat + 10)
  else if 'A' ≤ c ∧ c ≤ 'F' then some (c.toNat - 'A'.toNat + 10)
  else none

/-- The four digits of `\uXXXX`. -/
def codeUnit : Reader ℕ
  | a :: b :: c :: d :: rest => do
      let a ← hexDigit a
      let b ← hexDigit b
      let c ← hexDigit c
      let d ← hexDigit d
      some (((a * 16 + b) * 16 + c) * 16 + d, rest)
  | _ => none

/-- What follows `\u`: a character of its own, or the first half of a pair of
surrogates.  A half without the other is rejected. -/
def unicodeEscape : Reader Char := fun input => do
  let (unit, rest) ← codeUnit input
  if 0xD800 ≤ unit ∧ unit < 0xDC00 then
    match rest with
    | '\\' :: 'u' :: rest => do
        let (low, rest) ← codeUnit rest
        if 0xDC00 ≤ low ∧ low < 0xE000 then
          some (.ofNat (0x10000 + (unit - 0xD800) * 0x400 + (low - 0xDC00)), rest)
        else none
    | _ => none
  else if 0xDC00 ≤ unit ∧ unit < 0xE000 then none
  else some (.ofNat unit, rest)

/-- What follows a backslash. -/
def escape : Reader Char
  | c :: rest => if c = 'u' then unicodeEscape rest else (shortEscape c).map (·, rest)
  | [] => none

/-- A string after its opening quotation mark, of at most `fuel` characters. -/
def stringBody : ℕ → Reader (List Char)
  | 0, _ => none
  | _ + 1, [] => none
  | fuel + 1, c :: rest =>
      if c = '"' then some ([], rest)
      else if c = '\\' then do
        let (c, rest) ← escape rest
        let (text, rest) ← stringBody fuel rest
        some (c :: text, rest)
      else if IsControl c then none
      else do
        let (text, rest) ← stringBody fuel rest
        some (c :: text, rest)

def quoted : Reader String
  | '"' :: rest => do
      let (text, rest) ← stringBody rest.length rest
      some (.ofList text, rest)
  | _ => none

/-! ## Numbers -/

def digits (input : List Char) : Option (List Char × List Char) :=
  match input.takeWhile Char.isDigit with
  | [] => none
  | first :: more => some (first :: more, input.dropWhile Char.isDigit)

/-- The integer part: zero, or digits that do not start with zero. -/
def integer : Reader (List Char)
  | '0' :: rest => some (['0'], rest)
  | input => digits input

def fraction : Reader (List Char)
  | '.' :: rest => (digits rest).map fun (more, rest) => ('.' :: more, rest)
  | input => some ([], input)

def sign : List Char → List Char × List Char
  | '+' :: rest => (['+'], rest)
  | '-' :: rest => (['-'], rest)
  | input => ([], input)

def exponent : Reader (List Char)
  | c :: rest =>
      if c = 'e' ∨ c = 'E' then
        (digits (sign rest).2).map fun (more, after) => (c :: (sign rest).1 ++ more, after)
      else some ([], c :: rest)
  | [] => some ([], [])

def minus : List Char → List Char × List Char
  | '-' :: rest => (['-'], rest)
  | input => ([], input)

def numeral : Reader String := fun input => do
  let (negative, input) := minus input
  let (whole, input) ← integer input
  let (part, input) ← fraction input
  let (power, input) ← exponent input
  some (.ofList (negative ++ whole ++ part ++ power), input)

/-! ## Arrays and objects -/

/-- The entries of an array or an object up to its closing bracket. -/
def entries (read : Reader α) (close : Char) : ℕ → Reader (List α)
  | 0, _ => none
  | fuel + 1, input => do
      let (entry, rest) ← read input
      match skipBlanks rest with
      | c :: rest =>
          if c = close then some ([entry], rest)
          else if c = ',' then do
            let (more, rest) ← entries read close fuel rest
            some (entry :: more, rest)
          else none
      | [] => none

/-- What follows an opening bracket. -/
def bracketed (read : Reader α) (close : Char) : Reader (List α) := fun input =>
  match skipBlanks input with
  | c :: rest =>
      if c = close then some ([], rest)
      else entries read close (rest.length + 1) (c :: rest)
  | [] => none

/-- A name and a value. -/
def member (read : Reader α) : Reader (String × α) := fun input => do
  let (name, rest) ← quoted (skipBlanks input)
  match skipBlanks rest with
  | ':' :: rest => do
      let (value, rest) ← read rest
      some ((name, value), rest)
  | _ => none

def literal (name : String) (value : Json) : Reader Json := fun input =>
  if name.toList.isPrefixOf input then some (value, input.drop name.length) else none

/-- A value nested at most `fuel` deep. -/
def value : ℕ → Reader Json
  | 0, _ => none
  | fuel + 1, input =>
      match skipBlanks input with
      | [] => none
      | c :: rest =>
          if c = '"' then (quoted (c :: rest)).map fun (text, rest) => (.string text, rest)
          else if c = '[' then
            (bracketed (value fuel) ']' rest).map fun (items, rest) => (.array items, rest)
          else if c = '\x7b' then
            (bracketed (member (value fuel)) '\x7d' rest).map fun (members, rest) =>
              (.object members, rest)
          else if c = 'n' then literal "null" .null (c :: rest)
          else if c = 't' then literal "true" (.bool true) (c :: rest)
          else if c = 'f' then literal "false" (.bool false) (c :: rest)
          else (numeral (c :: rest)).map fun (text, rest) => (.number text, rest)

/-- The value a JSON text denotes, if it is one. -/
def parse (text : String) : Option Json := do
  let (value, rest) ← value (text.length + 1) text.toList
  if skipBlanks rest = [] then some value else none

/-! ## What is read -/

/-- `read` consumes exactly `text`, whatever follows it. -/
def Reads (read : Reader α) (text : List Char) (result : α) : Prop :=
  ∀ rest, read (text ++ rest) = some (result, rest)

/-- Starts with a character that is neither blank nor a closing bracket. -/
def Starts (text : List Char) : Prop :=
  ∃ c rest, text = c :: rest ∧ isBlank c = false ∧ c ≠ ']' ∧ c ≠ '\x7d'

theorem skipBlanks_of_not_isBlank {c : Char} (h : isBlank c = false) (rest : List Char) :
    skipBlanks (c :: rest) = c :: rest :=
  List.dropWhile_cons_of_neg (by simp [h])

/-! ### Strings -/

/-- A quotation mark or a backslash is escaped. -/
def quoteChar (c : Char) : List Char :=
  if c = '"' ∨ c = '\\' then ['\\', c] else [c]

/-- The text of a string with no other escapes. -/
def quote (text : List Char) : List Char := '"' :: (text.flatMap quoteChar ++ ['"'])

theorem starts_quote (text : List Char) : Starts (quote text) :=
  ⟨'"', _, rfl, by decide, by decide, by decide⟩

theorem stringBody_quote {text : List Char} (hcontrol : ∀ c ∈ text, ¬ IsControl c)
    (rest : List Char) {fuel : ℕ} (hfuel : text.length < fuel) :
    stringBody fuel (text.flatMap quoteChar ++ '"' :: rest) = some (text, rest) := by
  induction text generalizing fuel with
  | nil =>
      obtain ⟨fuel, rfl⟩ := Nat.exists_eq_succ_of_ne_zero (Nat.ne_zero_of_lt hfuel)
      rfl
  | cons c text ih =>
      obtain ⟨fuel, rfl⟩ := Nat.exists_eq_succ_of_ne_zero (Nat.ne_zero_of_lt hfuel)
      have hmore := ih (fun c hc => hcontrol c (List.mem_cons_of_mem _ hc))
        (Nat.lt_of_succ_lt_succ hfuel)
      rw [List.flatMap_cons, quoteChar]
      by_cases hspecial : c = '"' ∨ c = '\\'
      · have hescape : escape (c :: (text.flatMap quoteChar ++ '"' :: rest)) =
            some (c, text.flatMap quoteChar ++ '"' :: rest) := by
          rcases hspecial with rfl | rfl <;> rfl
        rw [if_pos hspecial]
        simp [stringBody, hescape, hmore]
      · have hquote : c ≠ '"' := fun h => hspecial (Or.inl h)
        have hbackslash : c ≠ '\\' := fun h => hspecial (Or.inr h)
        rw [if_neg hspecial]
        simp [stringBody, hquote, hbackslash, hcontrol c List.mem_cons_self, hmore]

theorem length_le_flatMap_quoteChar (text : List Char) :
    text.length ≤ (text.flatMap quoteChar).length := by
  induction text with
  | nil => exact Nat.le_refl _
  | cons c text ih =>
      have hone : 1 ≤ (quoteChar c).length := by
        rw [quoteChar]
        split <;> simp
      rw [List.flatMap_cons, List.length_append, List.length_cons]
      omega

theorem reads_quoted {text : List Char} (hcontrol : ∀ c ∈ text, ¬ IsControl c) :
    Reads quoted (quote text) (.ofList text) := by
  intro rest
  have hfuel : text.length < (text.flatMap quoteChar ++ '"' :: rest).length := by
    have hlength := length_le_flatMap_quoteChar text
    rw [List.length_append, List.length_cons]
    omega
  have hbody := stringBody_quote hcontrol rest hfuel
  simp only [quote, List.cons_append, List.append_assoc, List.nil_append, quoted, hbody,
    Option.bind_eq_bind, Option.bind_some]

theorem reads_string {text : List Char} (hcontrol : ∀ c ∈ text, ¬ IsControl c) (fuel : ℕ) :
    Reads (value (fuel + 1)) (quote text) (.string (.ofList text)) := by
  intro rest
  have hquoted := reads_quoted hcontrol rest
  rw [quote, List.cons_append] at hquoted ⊢
  rw [value, skipBlanks_of_not_isBlank (by decide)]
  dsimp only
  rw [if_pos rfl, hquoted]
  rfl

/-! ### Arrays and objects -/

section Entries

variable {read : Reader α} {close : Char}

/-- Entries separated by commas. -/
theorem entries_intercalate {texts : List (List Char)} {results : List α}
    (hreads : List.Forall₂ (Reads read) texts results) (hne : texts ≠ [])
    (hclose : close ≠ ',') (hblank : isBlank close = false) (rest : List Char) {fuel : ℕ}
    (hfuel : texts.length ≤ fuel) :
    entries read close fuel ([','].intercalate texts ++ close :: rest) =
      some (results, rest) := by
  induction hreads generalizing fuel with
  | nil => exact absurd rfl hne
  | @cons text result texts results hread hreads ih =>
      obtain ⟨fuel, rfl⟩ := Nat.exists_eq_succ_of_ne_zero
        (Nat.ne_zero_of_lt (Nat.lt_of_lt_of_le (Nat.zero_lt_succ _) hfuel))
      cases hreads with
      | nil =>
          rw [List.intercalate_singleton, entries, hread (close :: rest)]
          simp [skipBlanks_of_not_isBlank hblank]
      | @cons next _ more _ hnext hmore =>
          have htail := ih (List.cons_ne_nil _ _) (Nat.le_of_succ_le_succ hfuel)
          rw [List.intercalate_cons_cons, List.append_assoc, List.append_assoc, entries,
            hread, List.singleton_append]
          simp [skipBlanks_of_not_isBlank (c := ',') rfl, hclose.symm, htail]

theorem length_le_intercalate {texts : List (List Char)}
    (hstarts : ∀ text ∈ texts, Starts text) :
    texts.length ≤ ([','].intercalate texts).length := by
  induction texts with
  | nil => exact Nat.le_refl _
  | cons text texts ih =>
      obtain ⟨c, rest, rfl, -⟩ := hstarts text List.mem_cons_self
      have htail := ih fun text h => hstarts text (List.mem_cons_of_mem _ h)
      cases texts with
      | nil => simp
      | cons next more =>
          rw [List.intercalate_cons_cons]
          simp only [List.length_append, List.length_cons] at htail ⊢
          omega

theorem reads_bracketed {texts : List (List Char)} {results : List α}
    (hreads : List.Forall₂ (Reads read) texts results)
    (hstarts : ∀ text ∈ texts, Starts text) (hclose : close = ']' ∨ close = '\x7d') :
    Reads (bracketed read close) ([','].intercalate texts ++ [close]) results := by
  intro rest
  have hblank : isBlank close = false := by
    rcases hclose with rfl | rfl <;> rfl
  cases hreads with
  | nil => simp [bracketed, skipBlanks_of_not_isBlank hblank]
  | @cons text result texts results hread hreads =>
      have hcount := length_le_intercalate hstarts
      obtain ⟨c, chars, rfl, hc, hbracket, hbrace⟩ := hstarts text List.mem_cons_self
      have hopen : c ≠ close := by
        rcases hclose with rfl | rfl
        · exact hbracket
        · exact hbrace
      obtain ⟨tail, htail⟩ :
          ∃ tail, [','].intercalate ((c :: chars) :: texts) = c :: tail := by
        cases texts with
        | nil => exact ⟨chars, List.intercalate_singleton⟩
        | cons next more =>
            rw [List.intercalate_cons_cons]
            exact ⟨_, rfl⟩
      have hcomma : close ≠ ',' := by
        rcases hclose with rfl | rfl <;> decide
      have hfuel : ((c :: chars) :: texts).length ≤ (tail ++ close :: rest).length + 1 := by
        rw [htail] at hcount
        simp only [List.length_cons, List.length_append] at hcount ⊢
        omega
      have hall := entries_intercalate (.cons hread hreads) (List.cons_ne_nil _ _) hcomma
        hblank rest hfuel
      rw [htail, List.cons_append] at hall
      rw [htail, List.append_assoc, List.singleton_append, List.cons_append, bracketed,
        skipBlanks_of_not_isBlank hc]
      dsimp only
      rw [if_neg hopen, hall]

end Entries

/-- The text of a member. -/
def quoteMember (name text : List Char) : List Char := quote name ++ ':' :: text

theorem starts_quoteMember (name text : List Char) : Starts (quoteMember name text) :=
  ⟨'"', _, rfl, by decide, by decide, by decide⟩

theorem reads_member {read : Reader α} {name text : List Char} {result : α}
    (hcontrol : ∀ c ∈ name, ¬ IsControl c) (hread : Reads read text result) :
    Reads (member read) (quoteMember name text) (.ofList name, result) := by
  intro rest
  have hname := reads_quoted hcontrol (':' :: (text ++ rest))
  have hskip : skipBlanks (quote name ++ ':' :: (text ++ rest)) =
      quote name ++ ':' :: (text ++ rest) :=
    skipBlanks_of_not_isBlank rfl _
  rw [quoteMember, List.append_assoc, List.cons_append, member, hskip, hname,
    Option.bind_eq_bind, Option.bind_some]
  dsimp only
  rw [skipBlanks_of_not_isBlank rfl]
  change (read (text ++ rest) >>= _) = _
  rw [hread rest]
  rfl

theorem reads_array {fuel : ℕ} {texts : List (List Char)} {items : List Json}
    (hreads : List.Forall₂ (Reads (value fuel)) texts items)
    (hstarts : ∀ text ∈ texts, Starts text) :
    Reads (value (fuel + 1)) ('[' :: ([','].intercalate texts ++ [']'])) (.array items) := by
  intro rest
  have hitems := reads_bracketed hreads hstarts (Or.inl rfl) rest
  rw [List.cons_append, value, skipBlanks_of_not_isBlank rfl]
  dsimp only
  rw [if_neg (by decide), if_pos rfl, hitems]
  rfl

theorem reads_object {fuel : ℕ} {texts : List (List Char)} {members : List (String × Json)}
    (hreads : List.Forall₂ (Reads (member (value fuel))) texts members)
    (hstarts : ∀ text ∈ texts, Starts text) :
    Reads (value (fuel + 1)) ('\x7b' :: ([','].intercalate texts ++ ['\x7d']))
      (.object members) := by
  intro rest
  have hmembers := reads_bracketed hreads hstarts (Or.inr rfl) rest
  rw [List.cons_append, value, skipBlanks_of_not_isBlank rfl]
  dsimp only
  rw [if_neg (by decide), if_neg (by decide), if_pos rfl, hmembers]
  rfl

/-- A text read to its end is a JSON text. -/
theorem parse_of_reads {text : String} {result : Json} {depth : ℕ}
    (hdepth : depth ≤ text.length + 1)
    (hreads : ∀ fuel, Reads (value (fuel + depth)) text.toList result) :
    parse text = some result := by
  have hread := hreads (text.length + 1 - depth) []
  rw [Nat.sub_add_cancel hdepth, List.append_nil] at hread
  rw [parse, hread]
  rfl

/-- An array of texts joined by commas. -/
theorem parse_array {xs : List α} (text : α → String) (item : α → Json) {depth : ℕ}
    (hdepth : depth ≤ 2)
    (hreads : ∀ x ∈ xs, ∀ fuel, Reads (value (fuel + depth)) (text x).toList (item x))
    (hstarts : ∀ x ∈ xs, Starts (text x).toList) :
    parse ("[" ++ ",".intercalate (xs.map text) ++ "]") = some (.array (xs.map item)) := by
  have htext : ("[" ++ ",".intercalate (xs.map text) ++ "]").toList =
      '[' :: ([','].intercalate (xs.map fun x => (text x).toList) ++ [']']) := by
    simp [String.toList_append, Function.comp_def]
  have hlength : depth + 1 ≤ ("[" ++ ",".intercalate (xs.map text) ++ "]").length + 1 := by
    rw [← String.length_toList, htext, List.length_cons, List.length_append,
      List.length_singleton]
    omega
  refine parse_of_reads hlength fun fuel => ?_
  rw [htext]
  apply reads_array
  · rw [List.forall₂_map_left_iff, List.forall₂_map_right_iff, List.forall₂_same]
    exact fun x hx => hreads x hx fuel
  · rw [List.forall_mem_map]
    exact hstarts

example : (parse "[\"a\",]").isNone ∧ (parse "[\"\\\"]").isNone := by decide

end Json

end VgiImage
