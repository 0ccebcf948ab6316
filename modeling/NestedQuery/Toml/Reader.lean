import NestedQuery.Toml.Scalar
import NestedQuery.Toml.Token
import NestedQuery.Toml.Tree

set_option autoImplicit false

namespace NestedQuery.Toml

def isBareKeyPart (c : Char) : Bool := c.isAlphanum || c == '_' || c == '-'

/-- The parts of a dotted key, in reverse; `expected` if a part has to follow. -/
def readParts (expected : Bool) (parts : List String) :
    List Token → Option (List String × List Token)
  | .blank _ :: rest => readParts expected parts rest
  | .word word :: rest =>
    if expected then
      if word.all isBareKeyPart then readParts false (String.ofList word :: parts) rest else none
    else some (parts, .word word :: rest)
  | .text s long :: rest =>
    if expected then if long then none else readParts false (s :: parts) rest
    else some (parts, .text s long :: rest)
  | .dot :: rest => if expected then none else readParts true parts rest
  | rest => if expected then none else some (parts, rest)

structure Key where
  path : List String
  name : String

/-- A key has at most so many parts, and at most so many arrays and inline tables lie inside each
other. -/
def maxDepth : Nat := 80

def readKey (tokens : List Token) : Option (Key × List Token) :=
  match readParts true [] tokens with
  | some (name :: path, rest) =>
    if path.length < maxDepth then some (⟨path.reverse, name⟩, rest) else none
  | _ => none

def dropBlanks : List Token → List Token
  | .blank _ :: rest => dropBlanks rest
  | tokens => tokens

def dropLines : List Token → List Token
  | .blank _ :: rest => dropLines rest
  | .newline :: rest => dropLines rest
  | tokens => tokens

def gather : List Token → List Char × List Token
  | .word word :: rest => ((word ++ (gather rest).1), (gather rest).2)
  | .dot :: rest => ('.' :: (gather rest).1, (gather rest).2)
  | tokens => ([], tokens)

def startsTime : List Char → Bool
  | a :: b :: ':' :: _ => a.isDigit && b.isDigit
  | _ => false

def readScalar (tokens : List Token) : Option (Document × List Token) :=
  -- A value without quotes or brackets; a single space may part a date from its time.
  let (text, rest) := gather tokens
  let (text, rest) := match rest with
    | .blank [' '] :: .word word :: _ =>
      if isDate text && startsTime word then
        let (time, after) := gather (rest.drop 1)
        (text ++ ' ' :: time, after)
      else (text, rest)
    | _ => (text, rest)
  (scalarOf text).map fun document => (document, rest)

mutual

/-- A value in which at most `room` arrays and inline tables lie inside each other. -/
def readValue : Nat → Nat → List Token → Option (Document × List Token)
  | 0, _, _ => none
  | _ + 1, _, .text s _ :: rest => some (.text s, rest)
  | _ + 1, 0, .openBracket :: _ => none
  | _ + 1, 0, .openBrace :: _ => none
  | fuel + 1, room + 1, .openBracket :: rest => readItems fuel room [] rest
  | fuel + 1, room + 1, .openBrace :: rest => readMembers fuel room [] rest
  | _ + 1, _, tokens => readScalar tokens

def readItems : Nat → Nat → List Document → List Token → Option (Document × List Token)
  | 0, _, _, _ => none
  | fuel + 1, room, items, tokens =>
    match dropLines tokens with
    | .closeBracket :: rest => some (.list items.reverse, rest)
    | tokens => do
      let (item, rest) ← readValue fuel room tokens
      match dropLines rest with
      | .comma :: rest => readItems fuel room (item :: items) rest
      | .closeBracket :: rest => some (.list (item :: items).reverse, rest)
      | _ => none

def readMembers : Nat → Nat → Entries → List Token → Option (Document × List Token)
  -- The rest of an inline table behind its opening brace or a comma. Lines may end anywhere but
  -- inside a key.
  | 0, _, _, _ => none
  | fuel + 1, room, entries, tokens =>
    match dropLines tokens with
    | .closeBrace :: rest => some (.table (toMembers entries), rest)
    | tokens => do
      let (key, rest) ← readKey tokens
      match dropLines rest with
      | .equals :: rest =>
        let (value, rest) ← readValue fuel room (dropLines rest)
        let entries ← addValue key.path key.name value .header entries
        match dropLines rest with
        | .comma :: rest => readMembers fuel room entries rest
        | .closeBrace :: rest => some (.table (toMembers entries), rest)
        | _ => none
      | _ => none

end

def endLine (tokens : List Token) : Option (List Token) :=
  match dropBlanks tokens with
  | [] => some []
  | .newline :: rest => some rest
  | _ => none

structure State where
  root : Entries
  header : List String

def readLine (state : State) (fuel : Nat) (tokens : List Token) : Option (State × List Token) := do
  match tokens with
  | .openBracket :: .openBracket :: rest =>
    let (key, rest) ← readKey rest
    let root ← addTable key.path key.name state.root
    match rest with
    | .closeBracket :: .closeBracket :: rest =>
      return (⟨root, key.path ++ [key.name]⟩, ← endLine rest)
    | _ => none
  | .openBracket :: rest =>
    let (key, rest) ← readKey rest
    let root ← openTable key.path key.name state.root
    match rest with
    | .closeBracket :: rest => return (⟨root, key.path ++ [key.name]⟩, ← endLine rest)
    | _ => none
  | tokens =>
    let (key, rest) ← readKey tokens
    match rest with
    | .equals :: rest =>
      let (value, rest) ← readValue fuel maxDepth (dropBlanks rest)
      let root ← addValueUnder state.header key.path key.name value state.root
      return (⟨root, state.header⟩, ← endLine rest)
    | _ => none

def readLines : Nat → State → List Token → Option Entries
  -- Every line takes at least one token, so their number is enough fuel.
  | 0, state, tokens => if (dropLines tokens).isEmpty then some state.root else none
  | fuel + 1, state, tokens =>
    match dropLines tokens with
    | [] => some state.root
    | tokens => do
      let (state, rest) ← readLine state (fuel + 1) tokens
      readLines fuel state rest

def read (text : String) : Option Document := do
  let tokens ← tokens text
  let root ← readLines tokens.length ⟨[], []⟩ tokens
  return .table (toMembers root)

end NestedQuery.Toml
