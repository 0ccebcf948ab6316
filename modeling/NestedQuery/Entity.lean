import NestedQuery.Json.Basic

set_option autoImplicit false

namespace NestedQuery

inductive Related (ε : Type)
  | one (entity : ε)
  | many (entities : List ε)

structure Entity where
  -- Attributes and relations are in the order of their names.
  model : String
  attributes : List (String × Json) := []
  relations : List (String × Related Entity) := []

namespace Entity

instance : Inhabited Entity := ⟨{ model := "" }⟩

def get? (entity : Entity) (field : String) : Option Json := Keyed.find? field entity.attributes

def related? (entity : Entity) (relation : String) : Option (Related Entity) :=
  Keyed.find? relation entity.relations

def one? (entity : Entity) (relation : String) : Option Entity :=
  match entity.related? relation with
  | some (.one target) => some target
  | _ => none

def many (entity : Entity) (relation : String) : List Entity :=
  match entity.related? relation with
  | some (.many targets) => targets
  | _ => []

def putAll (members additions : List (String × Json)) : List (String × Json) :=
  additions.foldl (fun members member => Keyed.put member.1 member.2 members) members

mutual

def toJson : Entity → Json
  | ⟨_, attributes, relations⟩ => .object (putAll attributes (relationsToJson relations))

def relationsToJson : List (String × Related Entity) → List (String × Json)
  | [] => []
  | (name, .one entity) :: rest => (name, toJson entity) :: relationsToJson rest
  | (name, .many entities) :: rest => (name, .array (allToJson entities)) :: relationsToJson rest

def allToJson : List Entity → List Json
  | [] => []
  | entity :: rest => toJson entity :: allToJson rest

end

mutual

def members : Entity → List (String × Json)
  | ⟨_, attributes, relations⟩ => attributes ++ relationMembers relations

def relationMembers : List (String × Related Entity) → List (String × Json)
  | [] => []
  | (name, .one entity) :: rest => (name, .object (members entity)) :: relationMembers rest
  | (name, .many entities) :: rest => (name, .array (allMembers entities)) :: relationMembers rest

def allMembers : List Entity → List Json
  | [] => []
  | entity :: rest => .object (members entity) :: allMembers rest

end

end Entity

end NestedQuery
