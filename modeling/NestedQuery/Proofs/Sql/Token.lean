import NestedQuery.Dialect

set_option autoImplicit false

namespace NestedQuery.Sql

inductive Token
  | word (text : String)
  | number (text : String)
  | symbol (text : String)
  | name (text : String)
  | string (text : String)
  -- The start of a comment, which would hide what follows.
  | comment
deriving DecidableEq

def isSpace (c : Char) : Bool := c = ' ' || c = '\n' || c = '\t' || c = '\r'

def isWordStart (c : Char) : Bool := c.isAlpha || c = '_'

def isWordPart (c : Char) : Bool := c.isAlphanum || c = '_'

def isNumberPart (c : Char) : Bool := c.isDigit || c = '.'

def isOperatorPart (c : Char) : Bool := ['=', '!', '<', '>', '~', ':', '*'].contains c

def isPunctuation (c : Char) : Bool := ['(', ')', ',', '.', ';', '-', '+', '/'].contains c

def unescape : Char → List Char
  | '0' => ['\x00']
  | 'b' => ['\x08']
  | 'n' => ['\n']
  | 'r' => ['\r']
  | 't' => ['\t']
  | 'Z' => ['\x1a']
  | '%' => ['\\', '%']
  | '_' => ['\\', '_']
  | c => [c]

def readQuoted (quote : Char) (backslashes : Bool) : List Char → Option (List Char × List Char)
  | [] => none
  | [c] => if c = quote then some ([], []) else none
  | c :: d :: rest =>
    if c = quote then
      if d = quote then (readQuoted quote backslashes rest).map fun read => (quote :: read.1, read.2)
      else some ([], d :: rest)
    else if backslashes && c = '\\' then
      (readQuoted quote backslashes rest).map fun read => (unescape d ++ read.1, read.2)
    else (readQuoted quote backslashes (d :: rest)).map fun read => (c :: read.1, read.2)

def opensComment (dialect : Dialect) (c : Char) (rest : List Char) : Bool :=
  (c = '-' && rest.head? = some '-') || (c = '/' && rest.head? = some '*') ||
    (c = '#' && dialect = .mysql)

def nextToken (dialect : Dialect) : List Char → Option (Token × List Char)
  | [] => none
  | c :: rest =>
    if c = '\'' then
      (readQuoted '\'' dialect.escapesBackslashes rest).map fun read =>
        (.string (String.ofList read.1), read.2)
    else if c = dialect.nameQuote then
      (readQuoted dialect.nameQuote false rest).map fun read =>
        (.name (String.ofList read.1), read.2)
    else if isWordStart c then
      some (.word (String.ofList (c :: rest.takeWhile isWordPart)), rest.dropWhile isWordPart)
    else if c.isDigit then
      some (.number (String.ofList (c :: rest.takeWhile isNumberPart)),
        rest.dropWhile isNumberPart)
    else if isOperatorPart c then
      some (.symbol (String.ofList (c :: rest.takeWhile isOperatorPart)),
        rest.dropWhile isOperatorPart)
    else if opensComment dialect c rest then some (.comment, rest)
    else if isPunctuation c then some (.symbol (String.ofList [c]), rest)
    else none

theorem readQuoted_suffix {quote : Char} {backslashes : Bool} {text read rest : List Char}
    (h : readQuoted quote backslashes text = some (read, rest)) : rest <:+ text := by
  fun_induction readQuoted quote backslashes text generalizing read with
  | case1 => cases h
  | case2 => simp_all
  | case3 => cases h
  | case4 tail ih =>
    obtain ⟨⟨read, _⟩, inner, ⟨⟩⟩ := Option.map_eq_some_iff.1 h
    exact (ih inner).trans ⟨[quote, quote], rfl⟩
  | case5 d tail =>
    cases h
    exact ⟨[quote], rfl⟩
  | case6 c d tail _ _ ih =>
    obtain ⟨⟨read, _⟩, inner, ⟨⟩⟩ := Option.map_eq_some_iff.1 h
    exact (ih inner).trans ⟨[c, d], rfl⟩
  | case7 c d tail _ _ ih =>
    obtain ⟨⟨read, _⟩, inner, ⟨⟩⟩ := Option.map_eq_some_iff.1 h
    exact (ih inner).trans ⟨[c], rfl⟩

theorem nextToken_suffix {dialect : Dialect} {c : Char} {text rest : List Char} {token : Token}
    (h : nextToken dialect (c :: text) = some (token, rest)) : rest <:+ text := by
  simp only [nextToken] at h
  split at h
  · obtain ⟨⟨read, _⟩, inner, ⟨⟩⟩ := Option.map_eq_some_iff.1 h
    exact readQuoted_suffix inner
  split at h
  · obtain ⟨⟨read, _⟩, inner, ⟨⟩⟩ := Option.map_eq_some_iff.1 h
    exact readQuoted_suffix inner
  split at h
  · cases h
    exact List.dropWhile_suffix _
  split at h
  · cases h
    exact List.dropWhile_suffix _
  split at h
  · cases h
    exact List.dropWhile_suffix _
  split at h
  · cases h
    exact List.suffix_refl _
  split at h
  · cases h
    exact List.suffix_refl _
  · cases h

def lex (dialect : Dialect) (text : List Char) : Option (List Token) :=
  match text with
  | [] => some []
  | c :: rest =>
    if isSpace c then lex dialect rest
    else
      match _found : nextToken dialect (c :: rest) with
      | some (token, behind) => (lex dialect behind).map (token :: ·)
      | none => none
termination_by text.length
decreasing_by
  · simp
  · have shorter := (nextToken_suffix _found).length_le
    simp only [List.length_cons]
    omega

theorem lex_space (dialect : Dialect) {c : Char} (space : isSpace c) (rest : List Char) :
    lex dialect (c :: rest) = lex dialect rest := by
  rw [lex, if_pos space]

theorem isSpace_of_nextToken {dialect : Dialect} {c : Char} {text rest : List Char}
    {token : Token} (h : nextToken dialect (c :: text) = some (token, rest)) :
    isSpace c = false := by
  cases space : isSpace c with
  | false => rfl
  | true =>
    have spaces : c = ' ' ∨ c = '\n' ∨ c = '\t' ∨ c = '\r' := by
      simpa [isSpace, or_assoc] using space
    rcases spaces with rfl | rfl | rfl | rfl <;> cases dialect <;>
      simp [nextToken, Dialect.nameQuote, isWordStart, isOperatorPart, opensComment,
        isPunctuation] at h

theorem lex_token {dialect : Dialect} {text rest : List Char} {token : Token}
    (h : nextToken dialect text = some (token, rest)) :
    lex dialect text = (lex dialect rest).map (token :: ·) := by
  cases text with
  | nil => cases h
  | cons c text =>
    rw [lex, isSpace_of_nextToken h, if_neg Bool.false_ne_true]
    split
    next h' =>
      rw [h] at h'
      cases h'
      rfl
    next h' =>
      rw [h] at h'
      cases h'

/-- No token goes on into a text that starts so. -/
def Parted (tail : List Char) : Prop := ∀ c ∈ tail.head?, c ∈ [' ', '(', ')', ',']

/-- No token at the end of such a text goes on. -/
def Closed (text : List Char) : Prop := ∀ c ∈ text.getLast?, c ∈ [' ', '(']

instance (tail : List Char) : Decidable (Parted tail) :=
  Option.decidableForallMem tail.head?

instance (text : List Char) : Decidable (Closed text) :=
  Option.decidableForallMem text.getLast?

theorem Closed.append_left {text : List Char} (closed : Closed text) (someChar : text ≠ [])
    (front : List Char) : Closed (front ++ text) := by
  intro c last
  rw [List.getLast?_append, List.getLast?_eq_some_getLast someChar, Option.some_or] at last
  exact closed c (by rwa [List.getLast?_eq_some_getLast someChar])

theorem Parted.append_right {text : List Char} (parted : Parted text) (someChar : text ≠ [])
    (tail : List Char) : Parted (text ++ tail) := by
  cases text with
  | nil => exact absurd rfl someChar
  | cons c text => exact parted

theorem Parted.append {text tail : List Char} (left : Parted text) (right : Parted tail) :
    Parted (text ++ tail) := by
  cases text with
  | nil => exact right
  | cons c text => exact left

theorem Closed.append {text tail : List Char} (left : Closed text) (right : Closed tail) :
    Closed (text ++ tail) := by
  cases tail with
  | nil => simpa using left
  | cons c tail => exact right.append_left (by simp) text

theorem Closed.suffix {text rest : List Char} (closed : Closed text) (suffix : rest <:+ text) :
    Closed rest := by
  obtain ⟨front, rfl⟩ := suffix
  intro c last
  exact closed c (by simp_all [List.getLast?_append])

theorem span_append {p : Char → Bool} (separates : [' ', '(', ')', ','].any p = false)
    {c : Char} (start : p c) {rest tail : List Char} (joint : Closed (c :: rest) ∨ Parted tail) :
    (rest ++ tail).takeWhile p = rest.takeWhile p ∧
      (rest ++ tail).dropWhile p = rest.dropWhile p ++ tail := by
  -- A run of characters of one class ends at the joint.
  have separates : ∀ c ∈ [' ', '(', ')', ','], p c = false := by simpa using separates
  induction rest generalizing c with
  | nil =>
    -- The run reaches the end of the text, so its last character is no separator.
    have parted : Parted tail := joint.resolve_left fun closed => by
      have separator : c = ' ' ∨ c = '(' := by simpa using closed c rfl
      have := separates c (by rcases separator with rfl | rfl <;> simp)
      simp_all
    cases tail with
    | nil => simp
    | cons d tail => simp [separates d (parted d rfl)]
  | cons d rest ih =>
    cases part : p d with
    | false => simp [part]
    | true =>
      have joint : Closed (d :: rest) ∨ Parted tail :=
        joint.imp_left fun closed => closed.suffix ⟨[c], rfl⟩
      have := ih part joint
      simpa [part] using this

theorem readQuoted_getLast {quote : Char} {backslashes : Bool} {text read : List Char}
    (h : readQuoted quote backslashes text = some (read, [])) : text.getLast? = some quote := by
  fun_induction readQuoted quote backslashes text generalizing read with
  | case1 => cases h
  | case2 => rfl
  | case3 => cases h
  | case4 tail ih =>
    obtain ⟨⟨read, _⟩, inner, ⟨⟩⟩ := Option.map_eq_some_iff.1 h
    simp [List.getLast?_cons, ih inner]
  | case5 d tail => cases h
  | case6 c d tail _ _ ih =>
    obtain ⟨⟨read, _⟩, inner, ⟨⟩⟩ := Option.map_eq_some_iff.1 h
    simp [List.getLast?_cons, ih inner]
  | case7 c d tail _ _ ih =>
    obtain ⟨⟨read, _⟩, inner, ⟨⟩⟩ := Option.map_eq_some_iff.1 h
    rw [List.getLast?_cons, ih inner]
    rfl

theorem readQuoted_append {quote : Char} {backslashes : Bool} {text read rest tail : List Char}
    (h : readQuoted quote backslashes text = some (read, rest))
    (ends : rest = [] → tail.head? ≠ some quote) :
    readQuoted quote backslashes (text ++ tail) = some (read, rest ++ tail) := by
  fun_induction readQuoted quote backslashes text generalizing read with
  | case1 => cases h
  | case2 =>
    cases h
    cases tail with
    | nil => simp [readQuoted]
    | cons d tail =>
      have := ends rfl
      simp_all [readQuoted]
  | case3 => cases h
  | case4 tail' ih =>
    obtain ⟨⟨read, _⟩, inner, ⟨⟩⟩ := Option.map_eq_some_iff.1 h
    simp [readQuoted, ih inner]
  | case5 d tail' different =>
    cases h
    simp [readQuoted, different]
  | case6 c d tail' different escape ih =>
    obtain ⟨⟨read, _⟩, inner, ⟨⟩⟩ := Option.map_eq_some_iff.1 h
    simp_all [readQuoted]
  | case7 c d tail' different plain ih =>
    obtain ⟨⟨read, _⟩, inner, ⟨⟩⟩ := Option.map_eq_some_iff.1 h
    simp_all [readQuoted]

theorem quote_ends {quote : Char} (separates : quote ∉ [' ', '(', ')', ',']) {backslashes : Bool}
    {c : Char} {text read rest tail : List Char}
    (h : readQuoted quote backslashes text = some (read, rest))
    (joint : Closed (c :: text) ∨ Parted tail) : rest = [] → tail.head? ≠ some quote := by
  -- The end of a quoted text is no separator, and no separator is a quote.
  rintro rfl head
  rcases joint with closed | parted
  · have last := readQuoted_getLast h
    have separator := closed quote (by simp [List.getLast?_cons, last])
    simp_all
  · exact separates (parted quote head)

theorem opensComment_append {dialect : Dialect} {c : Char} {text tail : List Char}
    (joint : Closed (c :: text) ∨ Parted tail) :
    opensComment dialect c (text ++ tail) = opensComment dialect c text := by
  cases text with
  | cons d text => rfl
  | nil =>
    rcases joint with closed | parted
    · have separator : c = ' ' ∨ c = '(' := by simpa using closed c rfl
      rcases separator with rfl | rfl <;> simp [opensComment]
    · cases tail with
      | nil => rfl
      | cons d tail =>
        have separator : d = ' ' ∨ d = '(' ∨ d = ')' ∨ d = ',' := by simpa using parted d rfl
        rcases separator with rfl | rfl | rfl | rfl <;> simp [opensComment]

theorem nextToken_append {dialect : Dialect} {c : Char} {text rest tail : List Char}
    {token : Token} (h : nextToken dialect (c :: text) = some (token, rest))
    (joint : Closed (c :: text) ∨ Parted tail) :
    nextToken dialect (c :: text ++ tail) = some (token, rest ++ tail) := by
  simp only [nextToken, List.cons_append] at h ⊢
  split at h
  next quote =>
    obtain ⟨⟨read, _⟩, inner, ⟨⟩⟩ := Option.map_eq_some_iff.1 h
    rw [if_pos quote, readQuoted_append inner (quote_ends (by decide) inner joint)]
    rfl
  rw [if_neg ‹_›]
  split at h
  next quote =>
    obtain ⟨⟨read, _⟩, inner, ⟨⟩⟩ := Option.map_eq_some_iff.1 h
    have separates : dialect.nameQuote ∉ [' ', '(', ')', ','] := by cases dialect <;> decide
    rw [if_pos quote, readQuoted_append inner (quote_ends separates inner joint)]
    rfl
  rw [if_neg ‹_›]
  split at h
  next start =>
    have part : isWordPart c := by
      simp only [isWordStart, isWordPart, Char.isAlphanum, Bool.or_eq_true] at start ⊢
      exact start.imp_left .inl
    obtain ⟨taken, dropped⟩ := span_append (by decide) part joint
    cases h
    rw [if_pos start, taken, dropped]
  rw [if_neg ‹_›]
  split at h
  next start =>
    have part : isNumberPart c := by simp [isNumberPart, start]
    obtain ⟨taken, dropped⟩ := span_append (by decide) part joint
    cases h
    rw [if_pos start, taken, dropped]
  rw [if_neg ‹_›]
  split at h
  next start =>
    obtain ⟨taken, dropped⟩ := span_append (by decide) start joint
    cases h
    rw [if_pos start, taken, dropped]
  rw [if_neg ‹_›]
  rw [opensComment_append joint]
  split at h
  next opens =>
    cases h
    rw [if_pos opens]
  rw [if_neg ‹_›]
  split at h
  next single =>
    cases h
    rw [if_pos single]
  · cases h

theorem lex_append {dialect : Dialect} {text tail : List Char} {tokens : List Token}
    (h : lex dialect text = some tokens) (joint : Closed text ∨ Parted tail) :
    lex dialect (text ++ tail) = (lex dialect tail).map (tokens ++ ·) := by
  fun_induction lex dialect text generalizing tokens with
  | case1 =>
    cases h
    simp
  | case2 c rest space ih =>
    rw [List.cons_append, lex_space dialect space]
    exact ih h (joint.imp_left fun closed => closed.suffix ⟨[c], rfl⟩)
  | case3 c rest _ token behind found ih =>
    obtain ⟨others, inner, rfl⟩ := Option.map_eq_some_iff.1 h
    have suffix : behind <:+ c :: rest := (nextToken_suffix found).trans ⟨[c], rfl⟩
    rw [lex_token (nextToken_append found joint),
      ih inner (joint.imp_left fun closed => closed.suffix suffix), Option.map_map]
    rfl
  | case4 => cases h

end NestedQuery.Sql
