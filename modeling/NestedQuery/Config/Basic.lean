import NestedQuery.Dialect
import NestedQuery.Files.Path
import NestedQuery.Files.Workspace
import NestedQuery.Toml.Decode

set_option autoImplicit false

namespace NestedQuery

structure Config where
  dialect : Dialect := .sqlite
  schema : String
  -- A file for SQLite, a connection string otherwise.
  database : Option String := none
  -- The directory that relative file names start from.
  root : String := ""

inductive ConfigFault
  | notFound (path : String)
  | schemaNotFound (path : String)
  | unreadable (path : String) (fault : FileFault)
  | malformed (path : String) (fault : Toml.Fault)
  | noDatabase

def ConfigFault.message : ConfigFault → String
  | .notFound path => "config not found: " ++ path
  | .schemaNotFound path => "schema not found: " ++ path
  | .unreadable path fault => "failed to read " ++ path ++ ": " ++ fault.message
  | .malformed path fault => "failed to parse " ++ path ++ ": " ++ fault.message
  | .noDatabase => "no database configured; set `database` or pass --database"

namespace Config

/-- The database that SQLite keeps in memory; it is no file. -/
def inMemory : String := ":memory:"

def schemaPath (config : Config) : String := Path.join config.root config.schema

def databaseLocation (config : Config) : Except ConfigFault String :=
  match config.database with
  | none => .error .noDatabase
  | some database =>
    if config.dialect = .sqlite ∧ database ≠ inMemory then .ok (Path.join config.root database)
    else .ok database

open Document in
def shape : Shape where
  name := "Config"
  slots :=
    [Slot.of "dialect" (readChoice .toml Dialect.configured),
     Slot.of "schema" readPath,
     Slot.of "database" (readOptional readText)]
  strict := true

open Document in
def ofDocument (document : Document) : Except Fault Config := do
  let members ← shape.members document
  let dialect ← members.field "dialect" (readChoice .toml Dialect.configured) .sqlite
  let schema ← members.required "schema" readPath
  let database ← members.field "database" (readOptional readText) none
  return { dialect, schema, database }

def ofToml (path text : String) : Except ConfigFault Config :=
  match Toml.decode ofDocument text with
  | .ok config => .ok { config with root := Path.parent path }
  | .error fault => .error (.malformed path fault)

end Config

end NestedQuery
