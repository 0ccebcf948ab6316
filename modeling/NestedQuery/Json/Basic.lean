import NestedQuery.Catalog

set_option autoImplicit false

namespace NestedQuery

namespace Json

inductive Number
  | int (n : Int64)
  | uint (n : UInt64) (large : Int64.maxValue.toInt < n.toNat)
  | double (x : Float) (finite : x.isFinite = true)

def Number.ofInt? (n : Int) : Option Number :=
  if Int64.minValue.toInt ≤ n ∧ n ≤ Int64.maxValue.toInt then some (.int (Int64.ofInt n))
  else if large : Int64.maxValue.toInt < (UInt64.ofNat n.toNat).toNat ∧ n < UInt64.size then
    some (.uint (UInt64.ofNat n.toNat) large.1)
  else none

def Number.ofFloat? (x : Float) : Option Number :=
  if finite : x.isFinite = true then some (.double x finite) else none

end Json

inductive Json
  | null
  | bool (b : Bool)
  | number (n : Json.Number)
  | string (s : String)
  | array (items : List Json)
  | object (members : List (String × Json))

namespace Json

instance : Inhabited Json := ⟨.null⟩

def isNull : Json → Bool
  | .null => true
  | _ => false

def ofInt (n : Int) : Json :=
  match Number.ofInt? n with
  | some whole => .number whole
  | none => .null

def member? (value : Json) (name : String) : Option Json :=
  match value with
  | .object members => Keyed.find? name members
  | _ => none

mutual

def Distinct : Json → Prop
  | .array items => DistinctItems items
  | .object members => (members.map Prod.fst).Nodup ∧ DistinctMembers members
  | _ => True

def DistinctItems : List Json → Prop
  | [] => True
  | item :: rest => Distinct item ∧ DistinctItems rest

def DistinctMembers : List (String × Json) → Prop
  | [] => True
  | (_, value) :: rest => Distinct value ∧ DistinctMembers rest

end

end Json

end NestedQuery
