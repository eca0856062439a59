import VgiImage.Core.Json
import VgiImage.Core.Words

/-!
# Discovery tags

The tags of `meta.rs` that carry JSON.  A string is quoted by two replacements
over the whole of it, backslashes before quotation marks; keywords are cut at
commas and trimmed.  Whatever strings without control characters go in, a JSON
reader gets back.
-/

namespace VgiImage.Meta

open Words

/-! ## Operations on strings -/

/-- `s.replace(c, text)` for a character `c`. -/
def replace (s : String) (c : Char) (text : String) : String :=
  .ofList (s.toList.flatMap fun x => if x = c then text.toList else [x])

/-- `s.split(c)` -/
def split (s : String) (c : Char) : List String := (s.toList.splitOn c).map .ofList

/-- `c.is_whitespace()`: the Unicode property `White_Space`. -/
def isWhitespace (c : Char) : Bool :=
  let n := c.toNat
  (0x09 ≤ n && n ≤ 0x0D) || n = 0x20 || n = 0x85 || n = 0xA0 || n = 0x1680 ||
    (0x2000 ≤ n && n ≤ 0x200A) || n = 0x2028 || n = 0x2029 || n = 0x202F || n = 0x205F ||
    n = 0x3000

/-- `s.trim()` -/
def trim (s : String) : String := .ofList (Words.trim isWhitespace s.toList)

/-! ## Tags -/

/-- Minimal JSON string literal (with surrounding quotes). -/
def jsonString (s : String) : String :=
  let escaped := replace (replace s '\\' "\\\\") '"' "\\\""
  "\"" ++ escaped ++ "\""

/-- Serialize a comma-separated keyword list as a JSON array of strings. -/
def keywordsJson (keywords : String) : String :=
  let items := (((split keywords ',').map trim).filter fun k => !k.isEmpty).map jsonString
  "[" ++ ",".intercalate items ++ "]"

/-- Build the `vgi.example_queries` tag as a JSON array of objects, one for each
`(description, sql)` pair. -/
def exampleQueriesTag (examples : List (String × String)) : String × String :=
  let items := examples.map fun (desc, sql) =>
    "\x7b\"description\":" ++ jsonString desc ++ ",\"sql\":" ++ jsonString sql ++ "\x7d"
  ("vgi.example_queries", "[" ++ ",".intercalate items ++ "]")

/-! ## Quoted strings -/

/-- No character below `U+0020`. -/
def NoControl (s : String) : Prop := ∀ c ∈ s.toList, ¬ Json.IsControl c

instance : DecidablePred NoControl :=
  fun s => List.decidableBAll (¬ Json.IsControl ·) s.toList

theorem toList_replace (s : String) (c : Char) (text : String) :
    (replace s c text).toList =
      s.toList.flatMap fun x => if x = c then text.toList else [x] :=
  String.toList_ofList

/-- Backslashes are escaped before quotation marks, so the two replacements
escape each character once. -/
theorem toList_jsonString (s : String) : (jsonString s).toList = Json.quote s.toList := by
  have hescape : (replace (replace s '\\' "\\\\") '"' "\\\"").toList =
      s.toList.flatMap Json.quoteChar := by
    rw [toList_replace, toList_replace, List.flatMap_assoc]
    refine List.flatMap_congr fun c _ => ?_
    by_cases hbackslash : c = '\\'
    · subst hbackslash
      rfl
    · by_cases hquote : c = '"'
      · subst hquote
        rfl
      · simp [Json.quoteChar, hbackslash, hquote]
  simp [jsonString, hescape, Json.quote]

theorem reads_jsonString {s : String} (hs : NoControl s) (fuel : ℕ) :
    Json.Reads (Json.value (fuel + 1)) (jsonString s).toList (.string s) := by
  have hreads := Json.reads_string hs fuel
  rwa [String.ofList_toList, ← toList_jsonString] at hreads

theorem starts_jsonString (s : String) : Json.Starts (jsonString s).toList := by
  rw [toList_jsonString]
  exact Json.starts_quote _

/-! ## Example queries -/

/-- The object of an example query. -/
def exampleObject (pair : String × String) : Json :=
  .object [("description", .string pair.1), ("sql", .string pair.2)]

/-- The text of an example query. -/
def exampleText (pair : String × String) : String :=
  "\x7b\"description\":" ++ jsonString pair.1 ++ ",\"sql\":" ++ jsonString pair.2 ++ "\x7d"

theorem toList_exampleText (pair : String × String) :
    (exampleText pair).toList =
      '\x7b' :: ([','].intercalate
        [Json.quoteMember "description".toList (jsonString pair.1).toList,
          Json.quoteMember "sql".toList (jsonString pair.2).toList] ++ ['\x7d']) := by
  have hdescription : "\x7b\"description\":".toList =
      '\x7b' :: (Json.quote "description".toList ++ [':']) := by decide +kernel
  have hsql : ",\"sql\":".toList = ',' :: (Json.quote "sql".toList ++ [':']) := by
    decide +kernel
  have hclose : "\x7d".toList = ['\x7d'] := by decide +kernel
  unfold exampleText
  simp only [String.toList_append, hdescription, hsql, hclose]
  simp only [Json.quoteMember, List.intercalate_cons_cons, List.intercalate_singleton,
    List.append_assoc, List.cons_append, List.nil_append]

theorem reads_exampleText {pair : String × String} (hdescription : NoControl pair.1)
    (hsql : NoControl pair.2) (fuel : ℕ) :
    Json.Reads (Json.value (fuel + 2)) (exampleText pair).toList (exampleObject pair) := by
  rw [toList_exampleText]
  have hdescriptionName : NoControl "description" := by decide
  have hsqlName : NoControl "sql" := by decide
  refine Json.reads_object (.cons ?_ (.cons ?_ .nil)) ?_
  · exact Json.reads_member hdescriptionName (reads_jsonString hdescription fuel)
  · exact Json.reads_member hsqlName (reads_jsonString hsql fuel)
  · intro text htext
    rcases List.mem_pair.1 htext with rfl | rfl
    · exact Json.starts_quoteMember _ _
    · exact Json.starts_quoteMember _ _

/-- The tag decodes to one object for each pair, in order, with the strings it
was built from. -/
theorem exampleQueriesTag_decodes (examples : List (String × String))
    (hcontrol : ∀ pair ∈ examples, NoControl pair.1 ∧ NoControl pair.2) :
    (exampleQueriesTag examples).1 = "vgi.example_queries" ∧
      Json.parse (exampleQueriesTag examples).2 =
        some (.array (examples.map exampleObject)) := by
  refine ⟨rfl, Json.parse_array exampleText exampleObject le_rfl ?_ ?_⟩
  · intro pair hpair
    obtain ⟨hdescription, hsql⟩ := hcontrol pair hpair
    exact reads_exampleText hdescription hsql
  · intro pair _
    exact ⟨'\x7b', _, toList_exampleText pair, by decide, by decide, by decide⟩

/-- Quotation marks and backslashes side by side, at the end of a string too. -/
theorem exampleQueriesTag_decodes_escapes :
    Json.parse (exampleQueriesTag
        [("a \\\" b\\", "SELECT '\"\\\\'"), ("", "\"")]).2 =
      some (.array [
        .object [("description", .string "a \\\" b\\"), ("sql", .string "SELECT '\"\\\\'")],
        .object [("description", .string ""), ("sql", .string "\"")]]) :=
  (exampleQueriesTag_decodes _ (by decide)).2

/-! ## Keywords -/

theorem map_toList_keywords (s : String) :
    (((split s ',').map trim).filter fun k => !k.isEmpty).map String.toList =
      words ',' isWhitespace s.toList := by
  have hempty :
      (fun k : String => !k.isEmpty) = (fun word => !word.isEmpty) ∘ String.toList := by
    funext k
    rw [Bool.eq_iff_iff]
    simp [String.toList_eq_nil_iff]
  have htrim : (String.toList ∘ trim) ∘ String.ofList = Words.trim isWhitespace := by
    funext piece
    simp [trim]
  rw [hempty, ← List.filter_map, split, List.map_map, List.map_map, htrim]
  rfl

/-- The array decodes to the words between the commas. -/
theorem parse_keywordsJson {s : String} {keywords : List String}
    (hwords : IsWords ',' isWhitespace s.toList (keywords.map String.toList))
    (hcontrol : ∀ k ∈ keywords, NoControl k) :
    Json.parse (keywordsJson s) = some (.array (keywords.map .string)) := by
  have hkept : ((split s ',').map trim).filter (fun k => !k.isEmpty) = keywords := by
    refine List.map_injective_iff.2 (fun _ _ => String.toList_injective) ?_
    rw [map_toList_keywords, isWords_iff.1 hwords]
  unfold keywordsJson
  rw [hkept]
  apply Json.parse_array jsonString Json.string (Nat.le_succ 1)
  · exact fun k hk => reads_jsonString (hcontrol k hk)
  · exact fun k _ => starts_jsonString k

/-- Without control characters, there are words to decode to. -/
theorem exists_parse_keywordsJson {s : String} (hs : NoControl s) :
    ∃ keywords : List String,
      IsWords ',' isWhitespace s.toList (keywords.map String.toList) ∧
        Json.parse (keywordsJson s) = some (.array (keywords.map .string)) := by
  have hlist : ((words ',' isWhitespace s.toList).map String.ofList).map String.toList =
      words ',' isWhitespace s.toList := by
    simp [List.map_map, Function.comp_def]
  have hwords : IsWords ',' isWhitespace s.toList
      (((words ',' isWhitespace s.toList).map String.ofList).map String.toList) :=
    isWords_iff.2 hlist.symm
  refine ⟨_, hwords, parse_keywordsJson hwords ?_⟩
  rw [List.forall_mem_map]
  intro word hword c hc
  rw [String.toList_ofList] at hc
  exact hs c (mem_of_mem_words hword hc)

/-- A list without control characters decodes to its trimmed, non-empty pieces;
keywords joined by commas and spaces are decoded again. -/
theorem keywordsJson_decodes :
    (∀ s, NoControl s → ∃ keywords : List String,
      IsWords ',' isWhitespace s.toList (keywords.map String.toList) ∧
        Json.parse (keywordsJson s) = some (.array (keywords.map .string))) ∧
    ∀ s (keywords : List String),
      (∀ k ∈ keywords, k ≠ "" ∧ Trimmed isWhitespace k.toList ∧ ',' ∉ k.toList ∧ NoControl k) →
      Joins ',' ' ' s.toList (keywords.map String.toList) →
      Json.parse (keywordsJson s) = some (.array (keywords.map .string)) := by
  constructor
  · intro s hs
    exact exists_parse_keywordsJson hs
  · intro s keywords hkeywords hjoins
    have hwords : IsWords ',' isWhitespace s.toList (keywords.map String.toList) := by
      apply isWords_of_joins hjoins rfl (by decide)
      rw [List.forall_mem_map]
      intro k hk
      obtain ⟨hne, htrimmed, hcomma, -⟩ := hkeywords k hk
      exact ⟨fun h => hne (String.toList_eq_nil_iff.1 h), htrimmed, hcomma⟩
    exact parse_keywordsJson hwords fun k hk => (hkeywords k hk).2.2.2

theorem keywordsJson_decodes_padded :
    (∃ keywords : List String,
      IsWords ',' isWhitespace " ,a\", ".toList (keywords.map String.toList) ∧
        Json.parse (keywordsJson " ,a\", ") = some (.array (keywords.map .string))) ∧
    Json.parse (keywordsJson "a ,  \"b\\,a") =
      some (.array [.string "a", .string "\"b\\", .string "a"]) := by
  have hjoins :
      Joins ',' ' ' "a ,  \"b\\,a".toList (["a", "\"b\\", "a"].map String.toList) := by
    refine ⟨["a ".toList, "  \"b\\".toList, "a".toList], by decide, ?_⟩
    exact .cons ⟨0, 1, by decide⟩ (.cons ⟨2, 0, by decide⟩ (.cons ⟨0, 0, by decide⟩ .nil))
  exact ⟨keywordsJson_decodes.1 _ (by decide),
    keywordsJson_decodes.2 _ ["a", "\"b\\", "a"] (by decide) hjoins⟩

end VgiImage.Meta
