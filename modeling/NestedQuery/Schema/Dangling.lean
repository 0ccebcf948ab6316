import NestedQuery.Schema.Basic

set_option autoImplicit false

namespace NestedQuery

inductive Missing
  | target (name : String)
  | join (name : String)
deriving DecidableEq

structure Dangling where
  entity : String
  relation : String
  missing : Missing
deriving DecidableEq

def Dangling.message (dangling : Dangling) : String :=
  let place := dangling.entity ++ "." ++ dangling.relation
  match dangling.missing with
  | .target name => place ++ ": unknown target `" ++ name ++ "`"
  | .join name => place ++ ": unknown join entity `" ++ name ++ "`"

namespace Schema

def missingOf (schema : Schema) (relation : Relation) : List Missing :=
  (if schema.entities.contains relation.target then [] else [.target relation.target]) ++
    match relation.through with
    | none => []
    | some through =>
      if schema.entities.contains through.entity then [] else [.join through.entity]

def dangling (schema : Schema) : List Dangling :=
  -- In the order of the entities' names, and of the relations' names within an entity.
  schema.entities.entries.flatMap fun (entity, definition) =>
    definition.relations.entries.flatMap fun (name, relation) =>
      (schema.missingOf relation).map fun missing => ⟨entity, name, missing⟩

end Schema

end NestedQuery
