import NestedQuery.Json.Basic
import NestedQuery.Decimal.Layout
import NestedQuery.Text.Quoted

set_option autoImplicit false

/-!
Configuration documents, whatever format they were written in, and how records are read from them.
The first problem in the order of the members is reported; a missing member comes after all present
ones of its record.
-/

namespace NestedQuery

inductive Document
  | null
  | truth (b : Bool)
  | integer (n : Int)
  | decimal (x : Float)
  -- What is written like a number but has no value: it is too great for every width of its kind,
  -- holds more than digits, or holds none.
  | badNumber
  -- A date, a time of day or both, in its normal form.
  | moment (s : String)
  | text (s : String)
  | list (items : List Document)
  | table (members : List (String × Document))

mutual

def Json.toDocument : Json → Document
  | .null => .null
  | .bool b => .truth b
  | .number (.int n) => .integer n.toInt
  | .number (.uint n _) => .integer n.toNat
  | .number (.double x _) => .decimal x
  | .string s => .text s
  | .array items => .list (Json.toDocuments items)
  | .object members => .table (Json.toEntries members)

def Json.toDocuments : List Json → List Document
  | [] => []
  | item :: rest => item.toDocument :: Json.toDocuments rest

def Json.toEntries : List (String × Json) → List (String × Document)
  | [] => []
  | (name, value) :: rest => (name, value.toDocument) :: Json.toEntries rest

end

namespace Document

inductive Format
  | json
  | toml
deriving DecidableEq

inductive Fault
  | wrongType (found : Document) (expected : String)
  -- A number has no value, if only in a member that does not count.
  | badNumber
  | missing (field : String)
  | duplicate (field : String)
  | unknownField (field : String) (known : List String)
  | unknownChoice (choice : String) (known : List String)
  -- A list in place of a record ends before this required field.
  | tooShort (length : Nat) (record : String) (fields : Nat)
  | tooLong (length : Nat)
  | notAChoice (found : Document)
  -- A table in place of a choice has none or several members.
  | notSingle (members : Nat)
  -- A choice that is written as the member of a table is given a value.
  | notEmpty (found : Document)

mutual

def any (holds : Document → Bool) : Document → Bool
  | .list items => holds (.list items) || anyItem holds items
  | .table members => holds (.table members) || anyMember holds members
  | other => holds other

def anyItem (holds : Document → Bool) : List Document → Bool
  | [] => false
  | item :: rest => item.any holds || anyItem holds rest

def anyMember (holds : Document → Bool) : List (String × Document) → Bool
  | [] => false
  | (_, value) :: rest => value.any holds || anyMember holds rest

end

def isBadNumber : Document → Bool
  | .badNumber => true
  | _ => false

/-- Whether it is a number that 64 bits with a sign do not hold. -/
def isWide : Document → Bool
  | .integer n => n < Int64.minValue.toInt || Int64.maxValue.toInt < n
  | other => other.isBadNumber

def members? : Document → Option (List (String × Document))
  -- A moment has one member, its text.
  | .table members => some members
  | .moment s => some [("moment", .text s)]
  | _ => none

def kind : Document → String
  | .null => "null"
  | .truth _ => "boolean"
  | .integer _ => "integer"
  | .decimal _ => "float"
  | .badNumber => "number"
  | .moment _ => "datetime"
  | .text _ => "string"
  | .list _ => "array"
  | .table _ => "table"

def describe (format : Format) : Document → String
  | .null => "null"
  | .truth b => "boolean `" ++ toString b ++ "`"
  | .integer n => "integer `" ++ toString n ++ "`"
  | .decimal x =>
    let layout := match format with
      | .json => Decimal.Layout.json
      | .toml => Decimal.Layout.document
    "floating point `" ++ layout.write x ++ "`"
  | .badNumber => "number"
  | .moment _ => "map"
  | .text s => "string " ++ Text.quoted s
  | .list _ => "sequence"
  | .table _ => "map"

def oneOf (names : List String) : String :=
  "expected one of " ++ ", ".intercalate (names.map fun name => "`" ++ name ++ "`")

def Fault.message (format : Format) : Fault → String
  | .wrongType found expected =>
    "invalid type: " ++ found.describe format ++ ", expected " ++ expected
  | .badNumber => "number without a value"
  | .missing field => "missing field `" ++ field ++ "`"
  | .duplicate field => "duplicate field `" ++ field ++ "`"
  | .unknownField field known => "unknown field `" ++ field ++ "`, " ++ oneOf known
  | .unknownChoice choice known => "unknown variant `" ++ choice ++ "`, " ++ oneOf known
  | .tooShort length record fields =>
    "invalid length " ++ toString length ++ ", expected struct " ++ record ++ " with " ++
      toString fields ++ if fields = 1 then " element" else " elements"
  | .tooLong length =>
    "invalid length " ++ toString length ++ ", expected fewer elements in array"
  | .notAChoice found =>
    match format with
    | .json => "invalid type: " ++ found.describe format ++ ", expected string or map"
    | .toml => "wanted string or table"
  | .notSingle members =>
    match format with
    | .json => "invalid value: map, expected map with a single key"
    | .toml =>
      "wanted exactly 1 element, " ++
        if members = 0 then "found 0 elements" else "more than 1 element"
  | .notEmpty found =>
    match format with
    | .json => "invalid type: " ++ found.describe format ++ ", expected unit"
    | .toml =>
      match found with
      | .list _ => "expected empty array"
      | .table _ => "expected empty table"
      | other => "expected table, found " ++ other.kind

abbrev Decoder (α : Type) := Document → Except Fault α

def readText : Decoder String
  | .text s => .ok s
  | other => .error (.wrongType other "a string")

def readPath : Decoder String
  | .text s => .ok s
  | other => .error (.wrongType other "path string")

def readOptional {α : Type} (read : Decoder α) : Decoder (Option α)
  | .null => .ok none
  | document => (read document).map some

def readList {α : Type} (read : Decoder α) : Decoder (List α)
  | .list items => items.mapM read
  | other => .error (.wrongType other "a sequence")

def readCatalog {α : Type} (read : Decoder α) : Decoder (Catalog α) := fun document =>
  match document.members? with
  | some members =>
    (members.mapM fun member => (read member.2).map fun value => (member.1, value)).map
      Catalog.ofList
  | none => .error (.wrongType document "a map")

def named {α : Type} (choices : List (String × α)) (name : String) : Except Fault α :=
  match Keyed.find? name choices with
  | some value => .ok value
  | none => .error (.unknownChoice name (choices.map Prod.fst))

def readNothing (format : Format) (document : Document) : Except Fault Unit :=
  match format, document with
  | .json, .null => .ok ()
  | .toml, .list [] => .ok ()
  | .toml, .table [] => .ok ()
  | _, other => .error (.notEmpty other)

def readChoice {α : Type} (format : Format) (choices : List (String × α)) : Decoder α
  | .text s => named choices s
  | .table [(name, value)] => do
    let choice ← named choices name
    readNothing format value
    return choice
  | .table members => .error (.notSingle members.length)
  | other => .error (.notAChoice other)

structure Slot where
  name : String
  aliases : List String := []
  check : Document → Except Fault Unit

def Slot.of {α : Type} (name : String) (read : Decoder α) : Slot where
  name := name
  check := fun document => (read document).map fun _ => ()

def Slot.orAs (slot : Slot) (other : String) : Slot :=
  { slot with aliases := other :: slot.aliases }

def Slot.covers (slot : Slot) (key : String) : Bool := key == slot.name || slot.aliases.contains key

/-- A kind of record. A strict one refuses members that belong to none of its fields. -/
structure Shape where
  name : String
  slots : List Slot
  strict : Bool := false

def Shape.checkMembers (shape : Shape) (seen : List String) :
    List (String × Document) → Except Fault Unit
  -- Checks the members in order; `seen` are the fields that have been given.
  | [] => .ok ()
  | (key, value) :: rest =>
    match shape.slots.find? (fun slot => slot.covers key) with
    | none =>
      if shape.strict then .error (.unknownField key (shape.slots.map Slot.name))
      else if value.any isBadNumber then .error .badNumber
      else shape.checkMembers seen rest
    | some slot =>
      if seen.contains slot.name then .error (.duplicate slot.name)
      else
        match slot.check value with
        | .error fault => .error fault
        | .ok () => shape.checkMembers (slot.name :: seen) rest

/-- The members of a record whose present fields are in order. `listed` if it was given as a list.
-/
structure Members where
  shape : Shape
  entries : List (String × Document)
  listed : Bool

def Shape.members (shape : Shape) (document : Document) : Except Fault Members :=
  -- A list in place of a record gives the fields in their order.
  match document with
  | .list items =>
    let entries := (shape.slots.map Slot.name).zip items
    (shape.checkMembers [] entries).map fun _ => ⟨shape, entries, true⟩
  | other =>
    match other.members? with
    | some entries => (shape.checkMembers [] entries).map fun _ => ⟨shape, entries, false⟩
    | none => .error (.wrongType other ("struct " ++ shape.name))

def Members.find? (members : Members) (field : String) : Option Document :=
  (members.shape.slots.find? (fun slot => slot.name == field)).bind fun slot =>
    (members.entries.find? (fun entry => slot.covers entry.1)).map Prod.snd

def Members.field {α : Type} (members : Members) (field : String) (read : Decoder α)
    (absent : α) : Except Fault α :=
  match members.find? field with
  | some document => read document
  | none => .ok absent

def Members.required {α : Type} (members : Members) (field : String) (read : Decoder α) :
    Except Fault α :=
  match members.find? field with
  | some document => read document
  | none =>
    if members.listed then
      .error (.tooShort members.entries.length members.shape.name members.shape.slots.length)
    else .error (.missing field)

def Shape.checkEnd (shape : Shape) (format : Format) : Document → Except Fault Unit
  -- JSON lists in place of a record may not go on behind its last field.
  | .list items =>
    if format = .json ∧ shape.slots.length < items.length then .error (.tooLong items.length)
    else .ok ()
  | _ => .ok ()

end Document

end NestedQuery
