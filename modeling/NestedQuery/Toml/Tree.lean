import NestedQuery.Document

set_option autoImplicit false

/-!
The tables of a TOML document while it is read. How a table came about decides what may still be
added to it.
-/

namespace NestedQuery.Toml

/-- By a header of its own, by the header of a table below it, or by a dotted key. -/
inductive Origin
  | header
  | implied
  | dotted
deriving DecidableEq

inductive Node
  -- A value, inline tables and arrays included: closed to additions.
  | value (document : Document)
  | table (origin : Origin) (entries : List (String × Node))
  -- The tables under repeated headers in double brackets, the last one first.
  | tables (items : List (List (String × Node)))

abbrev Entries := List (String × Node)

def updateAt (name : String) (change : Option Node → Option Node) : Entries → Option Entries
  | [] => (change none).map fun node => [(name, node)]
  | (other, node) :: rest =>
    if other = name then (change (some node)).map fun node => (name, node) :: rest
    else (updateAt name change rest).map fun rest => (other, node) :: rest

/-- Applies the change to the table at the end of the path; `origin` is given to tables made on the
way. -/
def updateWithin (origin : Origin) (change : Origin → Entries → Option Entries) :
    List String → Origin → Entries → Option Entries
  | [], here, entries => change here entries
  | name :: path, _, entries =>
    updateAt name
      (fun node =>
        match node with
        | none => (updateWithin origin change path origin []).map (.table origin)
        | some (.value _) => none
        | some (.table here below) =>
          -- A dotted key does not reach into a table that has a header.
          if origin = .dotted && here = .header then none
          else (updateWithin origin change path here below).map (.table here)
        | some (.tables []) => none
        | some (.tables (last :: others)) =>
          (updateWithin origin change path .header last).map fun last => .tables (last :: others))
      entries

def openTable (path : List String) (name : String) (root : Entries) : Option Entries :=
  -- Gives the table a header; one that a header below it implied may still get its own.
  updateWithin .implied
    (fun _ entries => updateAt name
      (fun node =>
        match node with
        | none => some (.table .header [])
        | some (.table .implied below) => some (.table .header below)
        | _ => none)
      entries)
    path .header root

def addTable (path : List String) (name : String) (root : Entries) : Option Entries :=
  updateWithin .implied
    (fun _ entries => updateAt name
      (fun node =>
        match node with
        | none => some (.tables [[]])
        | some (.tables items) => some (.tables ([] :: items))
        | _ => none)
      entries)
    path .header root

def addValue (path : List String) (name : String) (document : Document) (origin : Origin)
    (entries : Entries) : Option Entries :=
  -- Adds a value to a table; a dotted key must end in a table that dotted keys made.
  updateWithin .dotted
    (fun here entries =>
      if decide (here = .dotted) == path.isEmpty then none
      else updateAt name
        (fun node =>
          match node with
          | none => some (.value document)
          | some _ => none)
        entries)
    path origin entries

def addValueUnder (header path : List String) (name : String) (document : Document)
    (root : Entries) : Option Entries :=
  updateWithin .implied (fun here entries => addValue path name document here entries) header
    .header root

mutual

def Node.toDocument : Node → Document
  -- Tables are seen in the order of their names.
  | .value document => document
  | .table _ entries => .table (toMembers entries)
  | .tables items => .list (toTables items).reverse

def toMembers : List (String × Node) → List (String × Document)
  | [] => []
  | (name, node) :: rest => Keyed.insert name node.toDocument (toMembers rest)

def toTables : List (List (String × Node)) → List Document
  | [] => []
  | entries :: rest => .table (toMembers entries) :: toTables rest

end

end NestedQuery.Toml
