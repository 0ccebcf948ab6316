import NestedQuery.Json.Token

set_option autoImplicit false

/-!
The tokens of a TOML document. Comments are checked and dropped; line ends and blanks stay, because
they matter between some tokens. A line ends with a line feed or with a carriage return and a line
feed; inside a long text either is kept as it is.
-/

namespace NestedQuery.Toml

inductive Token
  | dot
  | equals
  | comma
  | openBracket
  | closeBracket
  | openBrace
  | closeBrace
  | newline
  | blank (text : List Char)
  | word (text : List Char)
  -- A quoted text; `long` if it was written between tripled quotes.
  | text (s : String) (long : Bool)
deriving DecidableEq

def isBlank (c : Char) : Bool := c == ' ' || c == '\t'

def isControl (c : Char) : Bool := (c.toNat < 32 && c != '\t') || c.toNat == 127

def isDelimiter (c : Char) : Bool :=
  isBlank c || ['\n', '\r', '#', '.', ',', '=', '[', ']', '\x7b', '\x7d'].contains c

def hexEscape (count : Nat) (text : List Char) : Option (Char × Nat) := do
  let digits := text.take count
  let values ← digits.mapM Json.hexValue
  let code := values.foldl (fun code value => 16 * code + value) 0
  if digits.length = count && code.isValidChar then some (Char.ofNat code, count) else none

def escapeOf (c : Char) (rest : List Char) : Option (Char × Nat) :=
  match c with
  | 'b' => some ('\x08', 0)
  | 't' => some ('\t', 0)
  | 'n' => some ('\n', 0)
  | 'f' => some ('\x0c', 0)
  | 'r' => some ('\r', 0)
  | 'e' => some ('\x1b', 0)
  | '"' => some ('"', 0)
  | '\\' => some ('\\', 0)
  | 'x' => hexEscape 2 rest
  | 'u' => hexEscape 4 rest
  | 'U' => hexEscape 8 rest
  | _ => none

def closingQuotes (quote : Char) (text : List Char) : List Char × List Char :=
  match text with
  | a :: b :: rest =>
    if a = quote then if b = quote then ([quote, quote], rest) else ([quote], b :: rest)
    else ([], a :: b :: rest)
  | [a] => if a = quote then ([quote], []) else ([], [a])
  | [] => ([], [])

def twoQuotes (quote : Char) : List Char → Option (List Char)
  | a :: b :: rest => if a = quote && b = quote then some rest else none
  | _ => none

def lineEnd? : List Char → Option (List Char)
  | '\n' :: rest => some rest
  | '\r' :: '\n' :: rest => some rest
  | _ => none

def dropSpace : List Char → List Char
  | ' ' :: rest => dropSpace rest
  | '\t' :: rest => dropSpace rest
  | '\n' :: rest => dropSpace rest
  | '\r' :: '\n' :: rest => dropSpace rest
  | text => text

def joinLines (text : List Char) : Option (List Char) :=
  -- A backslash at the end of a line joins it with the next character that is not blank.
  (lineEnd? (text.dropWhile isBlank)).map dropSpace

def isTextual (long : Bool) (c : Char) (rest : List Char) : Bool :=
  !isControl c || (long && (lineEnd? (c :: rest)).isSome)

def readBasic (long : Bool) : Nat → List Char → List Char → Option (List Char × List Char)
  | 0, _, _ => none
  | _, _, [] => none
  | fuel + 1, read, c :: rest =>
    if c = '"' then
      if !long then some (read.reverse, rest)
      else match twoQuotes '"' rest with
        | none => readBasic long fuel (c :: read) rest
        | some after =>
          let (quotes, after) := closingQuotes '"' after
          some (read.reverse ++ quotes, after)
    else if c = '\\' then
      match rest with
      | [] => none
      | e :: after =>
        if long && (isBlank e || e == '\n' || e == '\r') then
          (joinLines rest).bind fun after => readBasic long fuel read after
        else
          (escapeOf e after).bind fun (character, count) =>
            readBasic long fuel (character :: read) (after.drop count)
    else if isTextual long c rest then readBasic long fuel (c :: read) rest
    else none

def readLiteral (long : Bool) (read : List Char) : List Char → Option (List Char × List Char)
  | [] => none
  | c :: rest =>
    if c = '\'' then
      if !long then some (read.reverse, rest)
      else match twoQuotes '\'' rest with
        | none => readLiteral long (c :: read) rest
        | some after =>
          let (quotes, after) := closingQuotes '\'' after
          some (read.reverse ++ quotes, after)
    else if isTextual long c rest then readLiteral long (c :: read) rest
    else none

/-- A line end right behind the opening quotes of a long text does not belong to it. -/
def dropFirstLineEnd (text : List Char) : List Char := (lineEnd? text).getD text

def readText (quote : Char) (rest : List Char) : Option (Token × List Char) := do
  let (long, text) := match twoQuotes quote rest with
    | some after => (true, dropFirstLineEnd after)
    | none => (false, rest)
  let (read, after) ←
    if quote = '"' then readBasic long (text.length + 1) [] text else readLiteral long [] text
  return (.text (String.ofList read) long, after)

def readComment : List Char → Option (List Char)
  | [] => some []
  | c :: rest =>
    if (lineEnd? (c :: rest)).isSome then some (c :: rest)
    else if isControl c then none
    else readComment rest

/-- The token that starts with `c`; `none` for a comment. -/
def readToken (c : Char) (rest : List Char) : Option (Option Token × List Char) :=
  match c with
  | '.' => some (some .dot, rest)
  | '=' => some (some .equals, rest)
  | ',' => some (some .comma, rest)
  | '[' => some (some .openBracket, rest)
  | ']' => some (some .closeBracket, rest)
  | '\x7b' => some (some .openBrace, rest)
  | '\x7d' => some (some .closeBrace, rest)
  | '\n' => some (some .newline, rest)
  | '\r' => (lineEnd? (c :: rest)).map fun after => (some .newline, after)
  | '#' => (readComment rest).map fun after => (none, after)
  | '"' => (readText '"' rest).map fun (token, after) => (some token, after)
  | '\'' => (readText '\'' rest).map fun (token, after) => (some token, after)
  | c =>
    if isBlank c then some (some (.blank (c :: rest.takeWhile isBlank)), rest.dropWhile isBlank)
    else
      some (some (.word (c :: rest.takeWhile fun c => !isDelimiter c)),
        rest.dropWhile fun c => !isDelimiter c)

def tokensWith : Nat → List Char → Option (List Token)
  -- Every token takes at least one character, so the length of the text is enough fuel.
  | _, [] => some []
  | 0, _ => none
  | fuel + 1, c :: rest => do
    let (token, after) ← readToken c rest
    return token.toList ++ (← tokensWith fuel after)

def tokens (text : String) : Option (List Token) :=
  -- A byte order mark in front of the document does not count.
  let chars := match text.toList with
    | '\ufeff' :: rest => rest
    | chars => chars
  tokensWith chars.length chars

end NestedQuery.Toml
