import Mathlib.Data.List.Forall2
import Mathlib.Data.List.TakeWhile
import NestedQuery.Proofs.Numerals
import NestedQuery.Proofs.Sql.Token
import NestedQuery.Sql.Writer

set_option autoImplicit false

namespace NestedQuery.Sql

/-- A token of a statement, never one that ends it or hides what follows; an `operand` is the string
token of a value that a caller chose. -/
inductive Piece
  | word (text : String)
  | number (text : String)
  | symbol (text : String) (inside : (text != ";") = true := by exact Eq.refl true)
  | name (text : String)
  -- A string that no caller chose.
  | constant (text : String)
  | operand (text : String)

namespace Piece

def token : Piece → Token
  | .word text => .word text
  | .number text => .number text
  | .symbol text _ => .symbol text
  | .name text => .name text
  | .constant text | .operand text => .string text

def table (tableAlias : Alias) : Piece := .word tableAlias.write

end Piece

def Spelled (dialect : Dialect) (text : String) (pieces : List Piece) : Prop :=
  lex dialect text.toList = some (pieces.map Piece.token)

instance (dialect : Dialect) (text : String) (pieces : List Piece) :
    Decidable (Spelled dialect text pieces) :=
  inferInstanceAs (Decidable (lex dialect text.toList = some (pieces.map Piece.token)))

/-- What follows such a text is read apart from it. -/
structure Opening (dialect : Dialect) (text : String) (pieces : List Piece) : Prop where
  spelled : Spelled dialect text pieces
  closed : Closed text.toList

/-- What such a text follows is read apart from it. -/
structure Ending (dialect : Dialect) (text : String) (pieces : List Piece) : Prop where
  spelled : Spelled dialect text pieces
  parted : Parted text.toList

structure Separator (dialect : Dialect) (text : String) (pieces : List Piece) : Prop extends
  Opening dialect text pieces, Ending dialect text pieces where
  someChar : text.toList ≠ []

section Joints

variable {dialect : Dialect} {a b : String} {p q : List Piece}

theorem Spelled.append (left : Spelled dialect a p) (right : Spelled dialect b q)
    (joint : Closed a.toList ∨ Parted b.toList) : Spelled dialect (a ++ b) (p ++ q) := by
  unfold Spelled at left right ⊢
  rw [String.toList_append, lex_append left joint, right]
  simp

theorem Spelled.empty (dialect : Dialect) : Spelled dialect "" [] := by
  simp [Spelled, lex]

theorem Ending.empty (dialect : Dialect) : Ending dialect "" [] := ⟨.empty dialect, by decide⟩

theorem Opening.followed (left : Opening dialect a p) (right : Spelled dialect b q) :
    Spelled dialect (a ++ b) (p ++ q) :=
  left.spelled.append right (.inl left.closed)

theorem Spelled.ended (left : Spelled dialect a p) (right : Ending dialect b q) :
    Spelled dialect (a ++ b) (p ++ q) :=
  left.append right.spelled (.inr right.parted)

theorem Ending.append (left : Ending dialect a p) (right : Ending dialect b q) :
    Ending dialect (a ++ b) (p ++ q) where
  spelled := left.spelled.ended right
  parted := by
    rw [String.toList_append]
    exact left.parted.append right.parted

theorem Opening.append (left : Opening dialect a p) (right : Opening dialect b q) :
    Opening dialect (a ++ b) (p ++ q) where
  spelled := left.followed right.spelled
  closed := by
    rw [String.toList_append]
    exact left.closed.append right.closed

theorem Spelled.opened (left : Spelled dialect a p) (right : Separator dialect b q) :
    Opening dialect (a ++ b) (p ++ q) where
  spelled := left.ended right.toEnding
  closed := by
    rw [String.toList_append]
    exact right.closed.append_left right.someChar _

theorem Separator.ending (left : Separator dialect a p) (right : Spelled dialect b q) :
    Ending dialect (a ++ b) (p ++ q) where
  spelled := left.followed right
  parted := by
    rw [String.toList_append]
    exact left.parted.append_right left.someChar _

theorem Spelled.separated {middle : String} {r : List Piece} (left : Spelled dialect a p)
    (separator : Separator dialect middle r) (right : Spelled dialect b q) :
    Spelled dialect (a ++ middle ++ b) (p ++ r ++ q) :=
  (left.opened separator).followed right

theorem Spelled.within {before behind : String} {r s : List Piece} (inner : Spelled dialect a p)
    (opening : Opening dialect before r) (ending : Ending dialect behind s) :
    Spelled dialect (before ++ a ++ behind) (r ++ p ++ s) :=
  (opening.followed inner).ended ending

theorem Separator.intercalate {separator : String} {r : List Piece}
    (middle : Separator dialect separator r) {texts : List String} {pieces : List (List Piece)}
    (each : List.Forall₂ (Spelled dialect) texts pieces) :
    Spelled dialect (separator.intercalate texts) (r.intercalate pieces) := by
  induction each with
  | nil => exact .empty dialect
  | cons first others ih =>
    cases others with
    | nil => simpa using first
    | cons second others =>
      rw [String.intercalate_cons_cons, List.intercalate_cons_cons]
      exact first.separated middle ih

theorem Separator.intercalate_map {separator : String} {r : List Piece}
    (middle : Separator dialect separator r) {α : Type} {text : α → String}
    {pieces : α → List Piece} {items : List α}
    (each : ∀ item ∈ items, Spelled dialect (text item) (pieces item)) :
    Spelled dialect (separator.intercalate (items.map text))
      (r.intercalate (items.map pieces)) := by
  refine middle.intercalate ?_
  rw [List.forall₂_map_left_iff, List.forall₂_map_right_iff, List.forall₂_same]
  exact each

end Joints

theorem Separator.of_spelled {dialect : Dialect} {text : String} {pieces : List Piece}
    (spelled : Spelled dialect text pieces)
    (ends : Closed text.toList ∧ Parted text.toList ∧ text.toList ≠ []) :
    Separator dialect text pieces where
  spelled
  closed := ends.1
  parted := ends.2.1
  someChar := ends.2.2

section Literals

variable (dialect : Dialect)

theorem separator_space : Separator dialect " " [] :=
  .of_spelled (by cases dialect <;> decide +kernel) (by decide)

theorem separator_comma : Separator dialect ", " [.symbol ","] :=
  .of_spelled (by cases dialect <;> decide +kernel) (by decide)

theorem separator_open : Separator dialect "(" [.symbol "("] :=
  .of_spelled (by cases dialect <;> decide +kernel) (by decide)

theorem ending_close : Ending dialect ")" [.symbol ")"] :=
  ⟨by cases dialect <;> decide +kernel, by decide⟩

end Literals

theorem isWordStart_digit {c : Char} (digit : c.isDigit) : isWordStart c = false := by
  have digits : ∀ n < 58, 48 ≤ n → isWordStart (Char.ofNat n) = false := by decide
  have range : 48 ≤ c.toNat ∧ c.toNat ≤ 57 := Char.isDigit_iff_toNat.1 digit
  rw [← Char.ofNat_toNat c]
  exact digits c.toNat (by omega) range.1

def inQuotes (quote : Char) (backslashes : Bool) (c : Char) : List Char :=
  if c = quote || (backslashes && c = '\\') then [c, c] else [c]

theorem escapeText_eq_flatMap (backslashes : Bool) (text : List Char) :
    Dialect.escapeText backslashes text = text.flatMap (inQuotes '\'' backslashes) := by
  induction text with
  | nil => rfl
  | cons c text ih =>
    rw [Dialect.escapeText, List.flatMap_cons, ← ih, inQuotes]
    split <;> rfl

theorem doubled_eq_flatMap (quote : Char) (text : List Char) :
    Dialect.doubled quote text = text.flatMap (inQuotes quote false) := by
  induction text with
  | nil => rfl
  | cons c text ih =>
    rw [Dialect.doubled, List.flatMap_cons, ← ih, inQuotes]
    by_cases same : c = quote <;> simp [same]

theorem readQuoted_inQuotes (quote : Char) (backslashes : Bool) (text : List Char)
    {rest : List Char} (someChar : rest ≠ []) :
    readQuoted quote backslashes (text.flatMap (inQuotes quote backslashes) ++ rest) =
      (readQuoted quote backslashes rest).map fun read => (text ++ read.1, read.2) := by
  induction text with
  | nil => simp
  | cons c text ih =>
    have going : text.flatMap (inQuotes quote backslashes) ++ rest ≠ [] := by simp [someChar]
    rw [List.flatMap_cons, List.append_assoc]
    generalize text.flatMap (inQuotes quote backslashes) ++ rest = written at ih going ⊢
    unfold inQuotes
    split
    next special =>
      by_cases same : c = quote
      · simp [same, readQuoted, ih, Function.comp_def]
      · have escape : backslashes = true ∧ c = '\\' := by simpa [same] using special
        simp_all [readQuoted, unescape, Function.comp_def]
    next plain =>
      obtain ⟨d, behind, rfl⟩ := List.exists_cons_of_ne_nil going
      simp_all [readQuoted, Function.comp_def]

theorem readQuoted_close (quote : Char) (backslashes : Bool) :
    readQuoted quote backslashes [quote] = some ([], []) := by
  simp [readQuoted]

theorem readQuoted_escapeText (backslashes : Bool) (text : List Char) {rest : List Char}
    (someChar : rest ≠ []) :
    readQuoted '\'' backslashes (Dialect.escapeText backslashes text ++ rest) =
      (readQuoted '\'' backslashes rest).map fun read => (text ++ read.1, read.2) := by
  rw [escapeText_eq_flatMap, readQuoted_inQuotes _ _ _ someChar]

theorem readQuoted_doubled (quote : Char) (text : List Char) {rest : List Char}
    (someChar : rest ≠ []) :
    readQuoted quote false (Dialect.doubled quote text ++ rest) =
      (readQuoted quote false rest).map fun read => (text ++ read.1, read.2) := by
  rw [doubled_eq_flatMap, readQuoted_inQuotes _ _ _ someChar]

theorem Spelled.of_nextToken {dialect : Dialect} {text : String} {piece : Piece}
    (h : nextToken dialect text.toList = some (piece.token, [])) :
    Spelled dialect text [piece] := by
  rw [Spelled, lex_token h, lex]
  rfl

theorem spelled_quoteText (dialect : Dialect) (text : String) :
    Spelled dialect (dialect.quoteText text) [.operand text] := by
  apply Spelled.of_nextToken
  simp [Dialect.quoteText, nextToken, readQuoted_escapeText, readQuoted_close, Piece.token]

theorem spelled_constant (dialect : Dialect) (text : String) :
    Spelled dialect (dialect.quoteText text) [.constant text] :=
  spelled_quoteText dialect text

theorem spelled_quoteName (dialect : Dialect) (name : String) :
    Spelled dialect (dialect.quoteName name) [.name name] := by
  apply Spelled.of_nextToken
  have notText : dialect.nameQuote ≠ '\'' := by cases dialect <;> decide
  simp [Dialect.quoteName, nextToken, notText, readQuoted_doubled, readQuoted_close, Piece.token]

theorem isDigit_toString {n : Nat} {c : Char} (mem : c ∈ (toString n).toList) : c.isDigit := by
  rw [Nat.toString_eq_repr, Nat.toList_repr] at mem
  exact Text.isDigit_of_mem_toDigits mem

theorem isWordPart_digit {c : Char} (digit : c.isDigit) : isWordPart c := by
  simp [isWordPart, Char.isAlphanum, digit]

theorem isNumberPart_digit {c : Char} (digit : c.isDigit) : isNumberPart c := by
  simp [isNumberPart, digit]

theorem nextToken_alias (dialect : Dialect) (tableAlias : Alias) {tail : List Char}
    (ends : ∀ c ∈ tail.head?, isWordPart c = false) :
    nextToken dialect (tableAlias.write.toList ++ tail) = some (.word tableAlias.write, tail) := by
  -- An alias ends where no digit follows.
  have parts : ∀ d ∈ (toString tableAlias.index).toList, isWordPart d := fun d mem =>
    isWordPart_digit (isDigit_toString mem)
  have notName : '_' ≠ dialect.nameQuote := by cases dialect <;> decide
  have spelling : tableAlias.write.toList = '_' :: (toString tableAlias.index).toList := by
    rw [Alias.write, String.toList_append]
    rfl
  rw [spelling, List.cons_append, nextToken, if_neg (by decide), if_neg notName,
    if_pos (by decide), Text.takeWhile_run parts ends, Text.dropWhile_run parts ends, ← spelling,
    String.ofList_toList]

theorem spelled_alias (dialect : Dialect) (tableAlias : Alias) :
    Spelled dialect tableAlias.write [.table tableAlias] := by
  apply Spelled.of_nextToken
  have ends : ∀ c ∈ ([] : List Char).head?, isWordPart c = false := by simp
  have word := nextToken_alias dialect tableAlias ends
  rwa [List.append_nil] at word

theorem spelled_dotted {dialect : Dialect} (tableAlias : Alias) {tail : String}
    {pieces : List Piece} (behind : Spelled dialect tail pieces) :
    Spelled dialect (tableAlias.write ++ "." ++ tail)
      (.table tableAlias :: .symbol "." :: pieces) := by
  have ends : ∀ c ∈ ('.' :: tail.toList).head?, isWordPart c = false := by simp [isWordPart]
  have word := nextToken_alias dialect tableAlias ends
  have point : nextToken dialect ('.' :: tail.toList) = some (.symbol ".", tail.toList) := by
    cases dialect <;> rfl
  have spelling : (tableAlias.write ++ "." ++ tail).toList =
      tableAlias.write.toList ++ '.' :: tail.toList := by simp
  unfold Spelled at behind ⊢
  rw [spelling, lex_token word, lex_token point, behind]
  rfl

def IsNumber (text : List Char) : Prop :=
  (∃ c ∈ text.head?, c.isDigit) ∧ ∀ c ∈ text, isNumberPart c

theorem IsNumber.of_digits {text : List Char} (someDigit : text ≠ [])
    (digits : ∀ c ∈ text, c.isDigit) : IsNumber text := by
  refine ⟨⟨text.head someDigit, by simp [List.head?_eq_some_head someDigit], ?_⟩,
    fun c mem => isNumberPart_digit (digits c mem)⟩
  exact digits _ (List.head_mem someDigit)

theorem IsNumber.append {text tail : List Char} (number : IsNumber text)
    (parts : ∀ c ∈ tail, isNumberPart c) : IsNumber (text ++ tail) := by
  obtain ⟨⟨c, head, digit⟩, front⟩ := number
  refine ⟨⟨c, by simp_all [List.head?_append], digit⟩, fun d mem => ?_⟩
  rcases List.mem_append.1 mem with mem | mem
  · exact front d mem
  · exact parts d mem

theorem isNumber_toDigits (n : Nat) : IsNumber (Nat.toDigits 10 n) :=
  .of_digits Nat.toDigits_ne_nil
    fun _ => Text.isDigit_of_mem_toDigits

theorem isNumber_withPoint {digits : List Char} (someDigit : digits ≠ [])
    (allDigits : ∀ c ∈ digits, c.isDigit) (point : Int) :
    IsNumber (Decimal.withPoint digits point false) := by
  have parts : ∀ c ∈ digits, isNumberPart c := fun c mem => isNumberPart_digit (allDigits c mem)
  have zeros : ∀ count, ∀ c ∈ Decimal.zeros count, isNumberPart c := fun count c mem => by
    rw [Decimal.zeros, List.mem_replicate] at mem
    simp [mem.2, isNumberPart]
  unfold Decimal.withPoint
  split
  · have zero : IsNumber ['0', '.'] := ⟨⟨'0', rfl, rfl⟩, List.all_eq_true.1 rfl⟩
    exact (zero.append (zeros _)).append parts
  split
  · exact ((IsNumber.of_digits someDigit allDigits).append (zeros _)).append (by simp)
  · have front : digits.take point.toNat ≠ [] := by
      simp only [ne_eq, List.take_eq_nil_iff, someDigit, or_false]
      omega
    refine (IsNumber.of_digits front fun c mem => allDigits c (List.mem_of_mem_take mem)).append ?_
    intro c mem
    rcases List.mem_cons.1 mem with rfl | mem
    · rfl
    · exact parts c (List.mem_of_mem_drop mem)

theorem nextToken_number (dialect : Dialect) {text : List Char} (number : IsNumber text) :
    nextToken dialect text = some (.number (String.ofList text), []) := by
  obtain ⟨⟨c, head, digit⟩, parts⟩ := number
  obtain ⟨rest, rfl⟩ : ∃ rest, text = c :: rest := List.head?_eq_some_iff.1 head
  have notString : c ≠ '\'' := by
    rintro rfl
    simp at digit
  have notName : c ≠ dialect.nameQuote := by
    rintro rfl
    cases dialect <;> simp [Dialect.nameQuote] at digit
  have behind : ∀ d ∈ rest, isNumberPart d := fun d mem => parts d (List.mem_cons_of_mem _ mem)
  simp only [nextToken, if_neg notString, if_neg notName, isWordStart_digit digit,
    if_neg Bool.false_ne_true, if_pos digit]
  rw [List.takeWhile_eq_self_iff.2 behind, List.dropWhile_eq_nil_iff.2 behind]

def signed (negative : Bool) (digits : String) : List Piece :=
  (if negative then [.symbol "-"] else []) ++ [.number digits]

theorem spelled_signed (dialect : Dialect) (negative : Bool) {text : List Char}
    (number : IsNumber text) :
    Spelled dialect (String.ofList ((if negative then ['-'] else []) ++ text))
      (signed negative (String.ofList text)) := by
  -- A sign is no start of a comment.
  have digits := lex_token (nextToken_number dialect number)
  cases negative with
  | false =>
    simp only [Spelled, Bool.false_eq_true, ↓reduceIte, List.nil_append, String.toList_ofList,
      digits, signed, lex]
    rfl
  | true =>
    have sign : nextToken dialect ('-' :: text) = some (.symbol "-", text) := by
      obtain ⟨⟨c, head, digit⟩, -⟩ := number
      have notSign : text.head? ≠ some '-' := by
        rintro same
        cases same.symm.trans head
        simp at digit
      cases dialect <;>
        simp [nextToken, Dialect.nameQuote, isWordStart, isOperatorPart, opensComment, notSign,
          isPunctuation]
    simp only [Spelled, ↓reduceIte, List.cons_append, List.nil_append, String.toList_ofList,
      lex_token sign, digits, signed, lex]
    rfl

theorem toString_eq_ofList (n : Nat) : toString n = String.ofList (Nat.toDigits 10 n) := by
  rw [← Nat.toList_repr, String.ofList_toList]
  rfl

theorem spelled_toString (dialect : Dialect) (n : Nat) :
    Spelled dialect (toString n) [.number (toString n)] := by
  rw [toString_eq_ofList]
  exact spelled_signed dialect false (isNumber_toDigits n)

def Column.pieces (column : Column) : List Piece :=
  [.table column.table, .symbol ".", .name column.name]

theorem Column.spelled (dialect : Dialect) (column : Column) :
    Spelled dialect (column.write dialect) column.pieces :=
  spelled_dotted column.table (spelled_quoteName dialect column.name)

def operandPieces : Operand → List Piece
  | .truth true => [.word "TRUE"]
  | .truth false => [.word "FALSE"]
  | .integer n => signed (n < 0) (toString n.natAbs)
  | .decimal x _ => signed (Decimal.isNegative x) (String.ofList (Decimal.Layout.plain.finite x))
  | .text s => [.operand s]
  | .timestamp t => [.constant t.write]

theorem spelled_operand (dialect : Dialect) (operand : Operand) :
    Spelled dialect (operand.write dialect) (operandPieces operand) := by
  cases operand with
  | truth b => cases b <;> cases dialect <;> decide +kernel
  | integer n =>
    have spelling : toString n =
        String.ofList ((if decide (n < 0) then ['-'] else []) ++ Nat.toDigits 10 n.natAbs) := by
      simp only [decide_eq_true_eq, ← Text.toList_toString, String.ofList_toList]
    have digits := isNumber_toDigits n.natAbs
    rw [Operand.write, operandPieces, spelling, toString_eq_ofList]
    exact spelled_signed dialect _ digits
  | decimal x finite =>
    have digits : IsNumber (Decimal.Layout.plain.finite x) :=
      isNumber_withPoint Nat.toDigits_ne_nil
        (fun _ => Text.isDigit_of_mem_toDigits) _
    rw [Operand.write, operandPieces, Decimal.Layout.write, if_pos finite]
    exact spelled_signed dialect _ digits
  | text s => exact spelled_quoteText dialect s
  | timestamp t => exact spelled_constant dialect t.write

end NestedQuery.Sql
