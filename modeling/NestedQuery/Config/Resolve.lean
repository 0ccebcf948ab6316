import NestedQuery.Config.Basic
import NestedQuery.Schema.OfDocument

set_option autoImplicit false

namespace NestedQuery

structure Overrides where
  dialect : Option Dialect := none
  schema : Option String := none
  database : Option String := none

namespace Config

def defaultFile : String := "nestql.config.toml"

def override (config : Config) (directory : String) (overrides : Overrides) : Config where
  -- A schema named on the command line starts from the working directory.
  dialect := overrides.dialect.getD config.dialect
  schema := (overrides.schema.map (Path.absolute directory)).getD config.schema
  database := overrides.database.or config.database
  root := config.root

variable {m : Type → Type} [Monad m]

def readFile (workspace : Workspace m) (path : String) (absent : ConfigFault) :
    ExceptT ConfigFault m String := do
  match ← workspace.read path with
  | .ok text => return text
  | .error .absent => throw absent
  | .error fault => throw (.unreadable path fault)

def load (workspace : Workspace m) (path : String) : ExceptT ConfigFault m Config := do
  let text ← readFile workspace path (.notFound path)
  ofToml path text

def base (workspace : Workspace m) (path : Option String) (overrides : Overrides) :
    ExceptT ConfigFault m Config := do
  match path with
  | some path => load workspace path
  | none =>
    if ← workspace.present defaultFile then load workspace defaultFile
    else
      match overrides.schema with
      | some schema => return { schema }
      | none => throw (.notFound defaultFile)

def resolve (workspace : Workspace m) (path : Option String) (overrides : Overrides) :
    ExceptT ConfigFault m Config := do
  let config ← base workspace path overrides
  return config.override (← workspace.directory) overrides

def loadSchema (workspace : Workspace m) (config : Config) : ExceptT ConfigFault m Schema := do
  let path := config.schemaPath
  let text ← readFile workspace path (.schemaNotFound path)
  match Schema.ofToml text with
  | .ok schema => return schema
  | .error fault => throw (.malformed path fault)

end Config

end NestedQuery
