import NestedQuery.Proofs.Sql.Spelling

set_option autoImplicit false

namespace NestedQuery.Sql

structure Delimited (dialect : Dialect) (quote : Char) (text : String) (token : Token) :
    Prop where
  -- In front of anything but one more quote, the text is this token.
  read : ∀ tail : List Char, tail.head? ≠ some quote →
    nextToken dialect (text.toList ++ tail) = some (token, tail)
  -- Whatever follows, no token ends inside the text.
  whole : ∀ (tail rest : List Char) (other : Token),
    nextToken dialect (text.toList ++ tail) = some (other, rest) → rest <:+ tail

theorem Delimited.eq_of_append_eq {dialect : Dialect} {quote : Char} {text text' : String}
    {token token' : Token} (left : Delimited dialect quote text token)
    (right : Delimited dialect quote text' token') {tail tail' : List Char}
    (ends : tail.head? ≠ some quote) (ends' : tail'.head? ≠ some quote)
    (same : text.toList ++ tail = text'.toList ++ tail') : token = token' := by
  have first := left.read tail ends
  rw [same, right.read tail' ends'] at first
  cases first
  rfl

theorem readQuoted_ends {quote : Char} (backslashes : Bool) {tail : List Char}
    (ends : tail.head? ≠ some quote) :
    readQuoted quote backslashes (quote :: tail) = some ([], tail) := by
  cases tail with
  | nil => exact readQuoted_close quote backslashes
  | cons c tail =>
    have different : c ≠ quote := by simpa using ends
    simp [readQuoted, different]

theorem readQuoted_behind {quote : Char} {backslashes : Bool} {tail read rest : List Char}
    (h : readQuoted quote backslashes (quote :: tail) = some (read, rest)) : rest <:+ tail := by
  by_cases ends : tail.head? = some quote
  · -- The two quotes stand for one of the text, which goes on.
    obtain ⟨tail, rfl⟩ := List.head?_eq_some_iff.1 ends
    simp only [readQuoted, if_true, Option.map_eq_some_iff] at h
    obtain ⟨⟨inner, rest⟩, more, ⟨⟩⟩ := h
    exact (readQuoted_suffix more).trans (List.suffix_cons quote tail)
  · rw [readQuoted_ends backslashes ends] at h
    cases h
    exact List.suffix_refl tail

theorem Delimited.of_reading {dialect : Dialect} {quote : Char} {text : String} {token : Token}
    (backslashes : Bool) (content : List Char → Token) (empty : content [] = token)
    (reading : ∀ tail, nextToken dialect (text.toList ++ tail) =
      (readQuoted quote backslashes (quote :: tail)).map fun read => (content read.1, read.2)) :
    Delimited dialect quote text token where
  read tail ends := by rw [reading, readQuoted_ends backslashes ends, Option.map_some, empty]
  whole tail rest other h := by
    rw [reading, Option.map_eq_some_iff] at h
    obtain ⟨read, behind, ⟨⟩⟩ := h
    exact readQuoted_behind behind

theorem delimited_quoteText (dialect : Dialect) (text : String) :
    Delimited dialect '\'' (dialect.quoteText text) (.string text) := by
  apply Delimited.of_reading dialect.escapesBackslashes
    fun read => .string (text ++ String.ofList read)
  · simp
  · intro tail
    simp [Dialect.quoteText, nextToken, readQuoted_escapeText, Function.comp_def]

theorem delimited_quoteName (dialect : Dialect) (name : String) :
    Delimited dialect dialect.nameQuote (dialect.quoteName name) (.name name) := by
  have notText : dialect.nameQuote ≠ '\'' := by cases dialect <;> decide
  apply Delimited.of_reading false fun read => .name (name ++ String.ofList read)
  · simp
  · intro tail
    simp [Dialect.quoteName, nextToken, notText, readQuoted_doubled, Function.comp_def]

/-- Quoting is undone by the dialect's lexer in any context: the quoted text or name is one token
with that content, none ends early, and different ones are never written alike. -/
theorem quoted_read_back (dialect : Dialect) (text : String) :
    Delimited dialect '\'' (dialect.quoteText text) (.string text) ∧
      Delimited dialect dialect.nameQuote (dialect.quoteName text) (.name text) ∧
      ∀ other : String, text ≠ other → ∀ tail tail' : List Char,
        (tail.head? ≠ some '\'' → tail'.head? ≠ some '\'' →
          (dialect.quoteText text).toList ++ tail ≠ (dialect.quoteText other).toList ++ tail') ∧
        (tail.head? ≠ some dialect.nameQuote → tail'.head? ≠ some dialect.nameQuote →
          (dialect.quoteName text).toList ++ tail ≠ (dialect.quoteName other).toList ++ tail') := by
  have values := delimited_quoteText dialect
  have names := delimited_quoteName dialect
  refine ⟨values text, names text, fun other different tail tail' => ⟨?_, ?_⟩⟩
  · intro ends ends' same
    exact different (by simpa using (values text).eq_of_append_eq (values other) ends ends' same)
  · intro ends ends' same
    exact different (by simpa using (names text).eq_of_append_eq (names other) ends ends' same)

theorem quoted_read_back_backslash :
    ([')'].head? ≠ some '\'' ∧
      nextToken .mysql ((Dialect.mysql.quoteText "it's \\").toList ++ [')']) =
        some (.string "it's \\", [')'])) ∧
      (['.'].head? ≠ some Dialect.mysql.nameQuote ∧
        nextToken .mysql ((Dialect.mysql.quoteName "it's \\").toList ++ ['.']) =
          some (.name "it's \\", ['.'])) ∧
      "it's \\" ≠ "it's " ∧
      (Dialect.mysql.quoteText "it's \\").toList ++ [')'] ≠
        (Dialect.mysql.quoteText "it's ").toList ++ ['\\', '\\', ')'] := by
  obtain ⟨value, name, apart⟩ := quoted_read_back .mysql "it's \\"
  exact ⟨⟨by decide, value.read [')'] (by decide)⟩, ⟨by decide, name.read ['.'] (by decide)⟩,
    by decide, (apart "it's " (by decide) _ _).1 (by decide) (by decide)⟩

end NestedQuery.Sql
