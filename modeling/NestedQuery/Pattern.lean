set_option autoImplicit false

namespace NestedQuery

inductive Pattern
  | like (text : String) (ignoreCase : Bool)
  | regex (source : String) (ignoreCase : Bool)
deriving DecidableEq

namespace Pattern

def splitAtLast (c : Char) : List Char → Option (List Char × List Char)
  | [] => none
  | head :: rest =>
    match splitAtLast c rest with
    | some (before, after) => some (head :: before, after)
    | none => if head = c then some ([], rest) else none

def isFlag (c : Char) : Bool := ['g', 'i', 'm', 's', 'u', 'y'].contains c

def slashNotation (text : List Char) : Option (List Char × List Char) :=
  match text with
  | '/' :: rest =>
    match splitAtLast '/' rest with
    | some (source, flags) =>
      if !source.isEmpty && flags.all isFlag then some (source, flags) else none
    | none => none
  | _ => none

def parse (text : String) (ignoreCase : Bool) : Pattern :=
  match slashNotation text.toList with
  | some (source, flags) => .regex (String.ofList source) (ignoreCase || flags.contains 'i')
  | none => .like text ignoreCase

def globChar : Char → List Char
  | '%' => ['*']
  | '_' => ['?']
  | '*' => ['[', '*', ']']
  | '?' => ['[', '?', ']']
  | '[' => ['[', '[', ']']
  | c => [c]

/-- The `GLOB` pattern that matches what the `LIKE` pattern matches when case counts. -/
def likeToGlob (text : String) : String := String.ofList (text.toList.flatMap globChar)

end Pattern

end NestedQuery
