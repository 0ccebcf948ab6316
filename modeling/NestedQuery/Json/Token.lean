import NestedQuery.Json.Basic
import NestedQuery.Decimal.Nearest

set_option autoImplicit false

/-!
The tokens of JSON text. A token that breaks off or is badly formed stays in the stream, so that
the reader can tell which of two faults comes first.
-/

namespace NestedQuery.Json

/-- The text stops inside a value, or no continuation could make it JSON. -/
inductive Fault
  | ended
  | malformed
deriving DecidableEq

inductive Token
  | openArray
  | closeArray
  | openObject
  | closeObject
  | comma
  | colon
  | text (s : String)
  | atom (value : Json)
  | brokenText (fault : Fault)
  | brokenAtom (fault : Fault)

/-- What the next character of a string belongs to. `high` is the first half of a surrogate pair. -/
inductive StringState
  | plain
  | escape
  | hex (missing : Nat) (value : Nat) (high : Option Nat)
  | secondEscape (high : Nat)
  | secondUnit (high : Nat)

def hexValue (c : Char) : Option Nat :=
  if c.isDigit then some (c.toNat - '0'.toNat)
  else if 'a' ≤ c && c ≤ 'f' then some (c.toNat - 'a'.toNat + 10)
  else if 'A' ≤ c && c ≤ 'F' then some (c.toNat - 'A'.toNat + 10)
  else none

def simpleEscape : Char → Option Char
  | '"' => some '"'
  | '\\' => some '\\'
  | '/' => some '/'
  | 'b' => some '\x08'
  | 'f' => some '\x0c'
  | 'n' => some '\n'
  | 'r' => some '\r'
  | 't' => some '\t'
  | _ => none

/-- Four digits are taken at once: with fewer than four bytes left the text has ended. -/
def fourBytesLeft (text : List Char) : Bool := 4 ≤ ((text.take 4).map Char.utf8Size).foldl Nat.add 0

/-- The state after a complete `\uXXXX`, and the character it completes, if any. -/
def unitRead (value : Nat) : Option Nat → Option (StringState × Option Char)
  | none =>
    if 0xDC00 ≤ value && value ≤ 0xDFFF then none
    else if 0xD800 ≤ value && value ≤ 0xDBFF then some (.secondEscape value, none)
    else some (.plain, some (Char.ofNat value))
  | some high =>
    if 0xDC00 ≤ value && value ≤ 0xDFFF then
      some (.plain, some (Char.ofNat ((high - 0xD800) * 0x400 + (value - 0xDC00) + 0x10000)))
    else none

def readString : StringState → List Char → List Char → Except Fault (String × List Char)
  | _, _, [] => .error .ended
  | .plain, read, c :: rest =>
    if c = '"' then .ok (String.ofList read.reverse, rest)
    else if c = '\\' then readString .escape read rest
    else if c.toNat < 32 then .error .malformed
    else readString .plain (c :: read) rest
  | .escape, read, c :: rest =>
    match simpleEscape c with
    | some character => readString .plain (character :: read) rest
    | none =>
      if c ≠ 'u' then .error .malformed
      else if fourBytesLeft rest then readString (.hex 4 0 none) read rest
      else .error .ended
  | .hex missing value high, read, c :: rest =>
    match hexValue c with
    | none => .error .malformed
    | some digit =>
      if 1 < missing then readString (.hex (missing - 1) (16 * value + digit) high) read rest
      else match unitRead (16 * value + digit) high with
        | none => .error .malformed
        | some (state, none) => readString state read rest
        | some (state, some character) => readString state (character :: read) rest
  | .secondEscape high, read, c :: rest =>
    if c = '\\' then readString (.secondUnit high) read rest else .error .malformed
  | .secondUnit high, read, c :: rest =>
    if c ≠ 'u' then .error .malformed
    else if fourBytesLeft rest then readString (.hex 4 0 (some high)) read rest
    else .error .ended

theorem readString_shorter {state : StringState} {read text : List Char} {s : String}
    {rest : List Char} (h : readString state read text = .ok (s, rest)) :
    rest.length < text.length := by
  fun_induction readString state read text <;> simp_all <;> omega

def isNumberPart (c : Char) : Bool :=
  c.isDigit || c == '-' || c == '+' || c == '.' || c == 'e' || c == 'E'

/-- A significand that fits 64 bits, and the power of ten of its last digit. -/
structure Significand where
  value : Nat
  exponent : Int

def Significand.fits (significand : Significand) (digit : Char) : Bool :=
  10 * significand.value + Decimal.digitValue digit < UInt64.size

def Significand.addWhole (significand : Significand) : List Char → Significand
  -- Digits before the point: one that no longer fits, and all after it, only raise the exponent.
  | [] => significand
  | digit :: rest =>
    if significand.fits digit then
      addWhole ⟨10 * significand.value + Decimal.digitValue digit, significand.exponent⟩ rest
    else ⟨significand.value, significand.exponent + (rest.length + 1)⟩

def Significand.addFraction (significand : Significand) : List Char → Significand
  -- Digits after the point: one that no longer fits, and all after it, are dropped.
  | [] => significand
  | digit :: rest =>
    if significand.fits digit then
      addFraction
        ⟨10 * significand.value + Decimal.digitValue digit, significand.exponent - 1⟩ rest
    else significand

def powerOfTen (n : Nat) : Float := Float.ofScientific 1 false n

def scaleDown (x : Float) (last : Nat) : Nat → Float
  | 0 => x / powerOfTen last
  | times + 1 => if x == 0.0 then x else scaleDown (x / powerOfTen 308) last times

def Significand.toFloat? (significand : Significand) : Option Float :=
  let x := (UInt64.ofNat significand.value).toFloat
  if significand.exponent < 0 then
    let down := significand.exponent.natAbs
    let times := (down - 1) / 308
    some (scaleDown x (down - 308 * times) times)
  else if significand.exponent ≤ 308 then
    let scaled := x * powerOfTen significand.exponent.natAbs
    if scaled.isInf then none else some scaled
  else if x == 0.0 then some x
  else none

def doubleOf (negative : Bool) (significand : Significand) : Except Fault Number :=
  match significand.toFloat?.bind (fun x => Number.ofFloat? (Decimal.signed negative x)) with
  | some double => .ok double
  | none => .error .malformed

def wholeNumber (negative : Bool) (digits : List Char) : Except Fault Number :=
  let n : Int := Decimal.naturalOf digits
  match Number.ofInt? (if negative then -n else n) with
  | some whole => if negative && n = 0 then doubleOf true ⟨0, 0⟩ else .ok whole
  | none => doubleOf negative (Significand.addWhole ⟨0, 0⟩ digits)

/-- The fault of a number that lacks something: at the end of the text more could follow. -/
def lacking (left : List Char) (atEnd : Bool) : Fault :=
  if left.isEmpty && atEnd then .ended else .malformed

def readExponent (negative : Bool) (significand : Significand) (atEnd : Bool) :
    List Char → Except Fault Number
  | [] => doubleOf negative significand
  | mark :: rest =>
    if mark ≠ 'e' && mark ≠ 'E' then .error .malformed
    else
      let (down, digits) := Decimal.splitSign rest
      if digits.isEmpty then .error (lacking digits atEnd)
      else if !digits.all Char.isDigit then .error .malformed
      else
        let exponent : Int := Decimal.naturalOf digits
        doubleOf negative
          ⟨significand.value, significand.exponent + if down then -exponent else exponent⟩

def readUnsigned (negative : Bool) (unsigned : List Char) (atEnd : Bool) : Except Fault Number :=
  let whole := unsigned.takeWhile Char.isDigit
  let afterWhole := unsigned.dropWhile Char.isDigit
  if whole.isEmpty then .error (lacking afterWhole atEnd)
  else if whole.head? = some '0' && 1 < whole.length then .error .malformed
  else match afterWhole with
    | [] => wholeNumber negative whole
    | '.' :: rest =>
      let fraction := rest.takeWhile Char.isDigit
      let afterFraction := rest.dropWhile Char.isDigit
      if fraction.isEmpty then .error (lacking afterFraction atEnd)
      else
        readExponent negative ((Significand.addWhole ⟨0, 0⟩ whole).addFraction fraction) atEnd
          afterFraction
    | rest => readExponent negative (Significand.addWhole ⟨0, 0⟩ whole) atEnd rest

/-- Reads a maximal run of number characters; `atEnd` if the text ends with it. -/
def readNumber (run : List Char) (atEnd : Bool) : Except Fault Number :=
  match run with
  | '-' :: unsigned => readUnsigned true unsigned atEnd
  | unsigned => readUnsigned false unsigned atEnd

def readWord (value : Json) : List Char → List Char → Token × List Char
  | [], rest => (.atom value, rest)
  | _ :: _, [] => (.brokenAtom .ended, [])
  | letter :: word, c :: rest =>
    if c = letter then readWord value word rest else (.brokenAtom .malformed, rest)

def readToken (c : Char) (rest : List Char) : Token × List Char :=
  match c with
  | '[' => (.openArray, rest)
  | ']' => (.closeArray, rest)
  | '\x7b' => (.openObject, rest)
  | '\x7d' => (.closeObject, rest)
  | ',' => (.comma, rest)
  | ':' => (.colon, rest)
  | '"' =>
    match readString .plain [] rest with
    | .ok (s, after) => (.text s, after)
    | .error fault => (.brokenText fault, [])
  | 't' => readWord (.bool true) ['r', 'u', 'e'] rest
  | 'f' => readWord (.bool false) ['a', 'l', 's', 'e'] rest
  | 'n' => readWord .null ['u', 'l', 'l'] rest
  | c =>
    if c = '-' || c.isDigit then
      let after := rest.dropWhile isNumberPart
      match readNumber (c :: rest.takeWhile isNumberPart) after.isEmpty with
      | .ok n => (.atom (.number n), after)
      | .error fault => (.brokenAtom fault, after)
    else (.brokenAtom .malformed, rest)

theorem length_dropWhile_le (p : Char → Bool) (text : List Char) :
    (text.dropWhile p).length ≤ text.length :=
  (List.dropWhile_sublist p).length_le

theorem readWord_length_le (value : Json) (word text : List Char) :
    (readWord value word text).2.length ≤ text.length := by
  fun_induction readWord value word text <;> simp_all
  omega

theorem readToken_length_le (c : Char) (rest : List Char) :
    (readToken c rest).2.length ≤ rest.length := by
  unfold readToken
  split <;> try exact Nat.le_refl _
  · split
    next h => exact Nat.le_of_lt (readString_shorter h)
    · exact Nat.zero_le _
  · exact readWord_length_le _ _ _
  · exact readWord_length_le _ _ _
  · exact readWord_length_le _ _ _
  · split
    · simp only
      split <;> exact length_dropWhile_le _ _
    · exact Nat.le_refl _

def isSpace (c : Char) : Bool := c == ' ' || c == '\t' || c == '\n' || c == '\r'

def tokens : List Char → List Token
  | [] => []
  | c :: rest =>
    if isSpace c then tokens rest
    else
      let next := readToken c rest
      have := readToken_length_le c rest
      next.1 :: tokens next.2
termination_by text => text.length

end NestedQuery.Json
