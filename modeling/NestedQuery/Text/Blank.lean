set_option autoImplicit false

namespace NestedQuery.Text

def isBlank (c : Char) : Bool :=
  let n := c.toNat
  (9 ≤ n && n ≤ 13) || n == 32 || n == 0x85 || n == 0xA0 || n == 0x1680 ||
    (0x2000 ≤ n && n ≤ 0x200A) || n == 0x2028 || n == 0x2029 || n == 0x202F ||
    n == 0x205F || n == 0x3000

def dropBlanks : List Char → List Char
  | [] => []
  | c :: rest => if isBlank c then dropBlanks rest else c :: rest

def consWord (word : List Char) (tail : List (List Char)) : List (List Char) :=
  if word.isEmpty then tail else word :: tail

/-- The word that starts at the front of the text (empty if a blank stands there), and the words
after it. -/
def splitWords : List Char → List Char × List (List Char)
  | [] => ([], [])
  | c :: rest =>
    let (word, tail) := splitWords rest
    if isBlank c then ([], consWord word tail) else (c :: word, tail)

def words (text : List Char) : List (List Char) :=
  consWord (splitWords text).1 (splitWords text).2

def pieces (separator : Char) : List Char → List (List Char)
  | [] => [[]]
  | c :: rest =>
    if c = separator then [] :: pieces separator rest
    else match pieces separator rest with
      | [] => [[c]]
      | piece :: others => (c :: piece) :: others

def sameIgnoringCase (a b : String) : Bool :=
  a.toList.map Char.toLower == b.toList.map Char.toLower

end NestedQuery.Text
