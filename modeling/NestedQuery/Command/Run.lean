import NestedQuery.Command.Basic

set_option autoImplicit false

namespace NestedQuery

structure Report where
  output : String
  fault : Option CommandFault

namespace Report

def lines (lines : List String) : String := String.join (lines.map (· ++ "\n"))

def done (text : List String) : Report := ⟨lines text, none⟩

def stopped (text : List String) (fault : CommandFault) : Report := ⟨lines text, some fault⟩

def ofExcept : Except CommandFault (List String) → Report
  | .ok text => done text
  | .error fault => stopped [] fault

end Report

namespace Command

variable {m : Type → Type} [Monad m]

def configured {α : Type} (action : ExceptT ConfigFault m α) : ExceptT CommandFault m α :=
  action.adapt .configuration

def readFilter (workspace : Workspace m) (source : FilterSource) :
    ExceptT CommandFault m Filter := do
  match source with
  | .absent => return {}
  | .inline text => liftExcept (Filter.parse text)
  | .file path =>
    match ← workspace.read path with
    | .ok text => liftExcept (Filter.parse text)
    | .error fault => throw (.unreadableFilter path fault)
where
  liftExcept {α : Type} (result : Except Error α) : ExceptT CommandFault m α :=
    match result with
    | .ok a => return a
    | .error error => throw (.failed error)

def statementText (workspace : Workspace m) (config : Config) (entity : String) (filter : Filter)
    (plural : Bool) : ExceptT CommandFault m String := do
  let schema ← configured (config.loadSchema workspace)
  match NestedQuery.compile schema (.ofDialect config.dialect) entity filter { plural } with
  | .ok sql => return sql
  | .error error => throw (.failed error)

def runQuery (workspace : Workspace m) (config : Config) (entity : String) (filter : Filter) :
    ExceptT CommandFault m (List String) := do
  -- SQLite comes to compile the filter before it lacks a channel; the others lack it at once.
  let schema ← configured (config.loadSchema workspace)
  match config.databaseLocation with
  | .error fault => throw (.configuration fault)
  | .ok _ => pure ()
  if config.dialect = .sqlite then
    match NestedQuery.compile schema (.ofDialect config.dialect) entity filter {} with
    | .ok _ => pure ()
    | .error error => throw (.failed error)
  throw (.noChannel config.dialect)

def heading (config : Config) : List String :=
  ["Checking configuration...",
   "",
   "  Dialect: " ++ config.dialect.name,
   "  Schema: " ++ config.schemaPath,
   "  Database: " ++ config.database.getD "(not set)",
   ""]

def entityLine (entry : String × EntityDef) : String :=
  "    " ++ entry.1 ++ " (" ++ toString entry.2.fields.length ++ " fields, " ++
    toString entry.2.relations.entries.length ++ " relations)"

def checked (config : Config) (loaded : Except ConfigFault Schema) : Report :=
  let checking := "  Checking Schema... "
  match loaded with
  | .error fault => .stopped (heading config ++ [checking ++ "ERROR"]) (.configuration fault)
  | .ok schema =>
    match schema.dangling with
    | [] =>
      .done (heading config ++ [checking ++ "OK"] ++ schema.entities.entries.map entityLine ++
        ["", "Configuration OK."])
    | dangling@(_ :: _) =>
      .stopped (heading config ++ [checking ++ "ERROR"] ++
        dangling.map fun d => "    " ++ d.message) (.danglingRelations dangling)

def runCheck (workspace : Workspace m) (config : Config) : m Report :=
  checked config <$> (config.loadSchema workspace).run

def sampleDatabase : Dialect → String
  | .sqlite => "./dev.db"
  | .postgresql => "host=localhost user=postgres dbname=app"
  | .mysql => "mysql://root@localhost:3306/app"

def sampleConfig (dialect : Dialect) : String :=
  Report.lines
    ["# nestql configuration",
     "",
     "dialect = \"" ++ dialect.name ++ "\"",
     "schema = \"schema.toml\"",
     "database = \"" ++ sampleDatabase dialect ++ "\""]

def runInit (workspace : Workspace m) (dialect : Dialect) :
    ExceptT CommandFault m (List String) := do
  if ← workspace.present Config.defaultFile then throw .alreadyConfigured
  match ← workspace.write Config.defaultFile (sampleConfig dialect) with
  | .error fault => throw (.unwritable fault)
  | .ok () =>
    return [
      "Created " ++ Config.defaultFile,
      "",
      "Next steps:",
      "  1. Describe your entities in schema.toml",
      "  2. Run nestql check to validate them",
      "  3. Run nestql compile <ENTITY> --filter '\x7b\x7d' to see the SQL"]

def run (workspace : Workspace m) (configPath : Option String) (overrides : Overrides) :
    Command → m Report
  | .init dialect => Report.ofExcept <$> (runInit workspace dialect).run
  | .check => do
    match ← (Config.resolve workspace configPath overrides).run with
    | .error fault => return .stopped [] (.configuration fault)
    | .ok config => runCheck workspace config
  | .compile entity source plural => Report.ofExcept <$> ExceptT.run do
    let config ← configured (Config.resolve workspace configPath overrides)
    let filter ← readFilter workspace source
    return [← statementText workspace config entity filter plural]
  | .query entity source => Report.ofExcept <$> ExceptT.run do
    let config ← configured (Config.resolve workspace configPath overrides)
    let filter ← readFilter workspace source
    runQuery workspace config entity filter

end Command

end NestedQuery
