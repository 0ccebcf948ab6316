import NestedQuery.Text.Blank

set_option autoImplicit false

namespace NestedQuery.Text

def IsWord (word : List Char) : Prop := word ≠ [] ∧ ∀ c ∈ word, isBlank c = false

inductive HasWords : List Char → List (List Char) → Prop
  | none {text : List Char} (blank : ∀ c ∈ text, isBlank c = true) : HasWords text []
  | cons {before word rest : List Char} {words : List (List Char)}
      (blank : ∀ c ∈ before, isBlank c = true) (solid : IsWord word)
      (apart : ∀ c ∈ rest.head?, isBlank c = true) (others : HasWords rest words) :
      HasWords (before ++ (word ++ rest)) (word :: words)

theorem HasWords.blank_cons {c : Char} {text : List Char} {words : List (List Char)}
    (blank : isBlank c = true) (divided : HasWords text words) : HasWords (c :: text) words := by
  cases divided with
  | none blanks => exact .none (List.forall_mem_cons.2 ⟨blank, blanks⟩)
  | cons blanks solid apart others =>
    rw [← List.cons_append]
    exact .cons (List.forall_mem_cons.2 ⟨blank, blanks⟩) solid apart others

theorem words_blank {c : Char} (blank : isBlank c = true) (text : List Char) :
    words (c :: text) = words text := by
  simp [words, splitWords, blank, consWord]

theorem words_blanks {before : List Char} (blank : ∀ c ∈ before, isBlank c = true)
    (text : List Char) : words (before ++ text) = words text := by
  induction before with
  | nil => rfl
  | cons c before ih =>
    rw [List.forall_mem_cons] at blank
    rw [List.cons_append, words_blank blank.1, ih blank.2]

theorem splitWords_apart {rest : List Char} (apart : ∀ c ∈ rest.head?, isBlank c = true) :
    splitWords rest = ([], words rest) := by
  cases rest with
  | nil => rfl
  | cons c rest =>
    have blank : isBlank c = true := apart c rfl
    simp [words, splitWords, blank, consWord]

theorem splitWords_append {word rest : List Char} (solid : ∀ c ∈ word, isBlank c = false)
    (apart : ∀ c ∈ rest.head?, isBlank c = true) :
    splitWords (word ++ rest) = (word, words rest) := by
  induction word with
  | nil => exact splitWords_apart apart
  | cons c word ih =>
    rw [List.forall_mem_cons] at solid
    simp [splitWords, ih solid.2, solid.1]

theorem words_word {word rest : List Char} (solid : IsWord word)
    (apart : ∀ c ∈ rest.head?, isBlank c = true) : words (word ++ rest) = word :: words rest := by
  rw [words, splitWords_append solid.2 apart, consWord, if_neg (by simpa using solid.1)]

theorem HasWords.word {word rest : List Char} {words : List (List Char)} (solid : IsWord word)
    (apart : ∀ c ∈ rest.head?, isBlank c = true) (others : HasWords rest words) :
    HasWords (word ++ rest) (word :: words) := by
  rw [← List.nil_append (word ++ rest)]
  exact .cons (by simp) solid apart others

theorem HasWords.consWord {word rest : List Char} {words : List (List Char)}
    (solid : ∀ c ∈ word, isBlank c = false) (apart : ∀ c ∈ rest.head?, isBlank c = true)
    (others : HasWords rest words) : HasWords (word ++ rest) (consWord word words) := by
  by_cases empty : word = []
  · simpa [empty, Text.consWord] using others
  · rw [Text.consWord, if_neg (by simpa using empty)]
    exact .word ⟨empty, solid⟩ apart others

theorem hasWords_splitWords (text : List Char) :
    ∃ rest, text = (splitWords text).1 ++ rest ∧ (∀ c ∈ (splitWords text).1, isBlank c = false) ∧
      (∀ c ∈ rest.head?, isBlank c = true) ∧ HasWords rest (splitWords text).2 := by
  induction text with
  | nil => exact ⟨[], rfl, by simp [splitWords], by simp, .none (by simp)⟩
  | cons c text ih =>
    obtain ⟨rest, split, solid, apart, others⟩ := ih
    by_cases blank : isBlank c = true
    · have divided : HasWords text (consWord (splitWords text).1 (splitWords text).2) := by
        conv => lhs; rw [split]
        exact .consWord solid apart others
      refine ⟨c :: text, ?_, ?_, by simpa using blank, ?_⟩
      · simp [splitWords, blank]
      · simp [splitWords, blank]
      · simpa [splitWords, blank] using divided.blank_cons blank
    · rw [Bool.not_eq_true] at blank
      refine ⟨rest, ?_, ?_, apart, ?_⟩
      · simpa [splitWords, blank] using split
      · simpa [splitWords, blank] using solid
      · simpa [splitWords, blank] using others

theorem words_eq_iff {text : List Char} {given : List (List Char)} :
    words text = given ↔ HasWords text given := by
  constructor
  · rintro rfl
    obtain ⟨rest, split, solid, apart, others⟩ := hasWords_splitWords text
    conv => lhs; rw [split]
    exact .consWord solid apart others
  · intro divided
    induction divided with
    | none blank => simpa [words, splitWords, consWord] using words_blanks blank []
    | cons blank solid apart others ih => rw [words_blanks blank, words_word solid apart, ih]

theorem HasWords.isWord {text : List Char} {words : List (List Char)}
    (divided : HasWords text words) : ∀ word ∈ words, IsWord word := by
  induction divided with
  | none blank => simp
  | cons blank solid apart others ih => exact List.forall_mem_cons.2 ⟨solid, ih⟩

theorem pieces_ne_nil (separator : Char) (text : List Char) : pieces separator text ≠ [] := by
  cases text with
  | nil => simp [pieces]
  | cons c text =>
    unfold pieces
    by_cases same : c = separator
    · simp [same]
    · rw [if_neg same]
      split <;> simp

theorem pieces_cons_of_ne {separator c : Char} (apart : c ≠ separator) (text : List Char) :
    ∃ piece others, pieces separator text = piece :: others ∧
      pieces separator (c :: text) = (c :: piece) :: others := by
  obtain ⟨piece, others, split⟩ := List.exists_cons_of_ne_nil (pieces_ne_nil separator text)
  exact ⟨piece, others, split, by rw [pieces, if_neg apart, split]⟩

theorem pieces_eq_splitOn (separator : Char) (text : List Char) :
    pieces separator text = text.splitOn separator := by
  induction text with
  | nil => rw [pieces, List.splitOn_nil]
  | cons c text ih =>
    rw [List.splitOn_eq_splitOnP, List.splitOnP_cons_eq_if_modifyHead, ← List.splitOn_eq_splitOnP,
      ← ih]
    by_cases same : c = separator
    · simp [pieces, same]
    · obtain ⟨piece, others, split, split'⟩ := pieces_cons_of_ne same text
      simp [same, split, split']

theorem not_mem_pieces (separator : Char) (text : List Char) :
    ∀ piece ∈ pieces separator text, separator ∉ piece := by
  induction text with
  | nil => simp [pieces]
  | cons c text ih =>
    by_cases same : c = separator
    · simpa [pieces, same] using ih
    · obtain ⟨piece, others, split, split'⟩ := pieces_cons_of_ne same text
      rw [split, List.forall_mem_cons] at ih
      rw [split', List.forall_mem_cons, List.mem_cons, not_or]
      exact ⟨⟨Ne.symm same, ih.1⟩, ih.2⟩

theorem pieces_eq_iff {separator : Char} {text : List Char} {given : List (List Char)} :
    pieces separator text = given ↔
      given ≠ [] ∧ (∀ piece ∈ given, separator ∉ piece) ∧ text = [separator].intercalate given := by
  constructor
  · rintro rfl
    refine ⟨pieces_ne_nil separator text, not_mem_pieces separator text, ?_⟩
    rw [pieces_eq_splitOn, List.intercalate_splitOn]
  · rintro ⟨somePiece, apart, rfl⟩
    rw [pieces_eq_splitOn, List.splitOn_intercalate separator apart somePiece]

theorem map_pieces_eq_iff {separator : Char} {text : String} {given : List String} :
    (pieces separator text.toList).map String.ofList = given ↔
      given ≠ [] ∧ (∀ piece ∈ given, separator ∉ piece.toList) ∧
        text = (String.singleton separator).intercalate given := by
  have onLists : (pieces separator text.toList).map String.ofList = given ↔
      pieces separator text.toList = given.map String.toList := by
    constructor
    · rintro rfl
      simp
    · intro split
      simp [split]
  rw [onLists, pieces_eq_iff, ← String.toList_inj, String.toList_intercalate]
  simp

end NestedQuery.Text
