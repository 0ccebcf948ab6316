import NestedQuery.Command.Arguments
import NestedQuery.Command.Run

set_option autoImplicit false

namespace NestedQuery

structure Outcome where
  code : UInt32
  output : String
  complaint : String
deriving DecidableEq

namespace Program

def version : String := "nestql 0.1.0"

def usage : List String :=
  ["Usage: nestql [OPTIONS] <COMMAND>",
   "",
   "Commands:",
   "  compile  Print the SQL a filter compiles to",
   "  query    Run a filter and print the entity graph as JSON",
   "  check    Validate the configuration and schema",
   "  init     Create a new nestql.config.toml"]

def ofInterrupt : Arguments.Interrupt → Outcome
  | .help => ⟨0, Report.lines usage, ""⟩
  | .version => ⟨0, Report.lines [version], ""⟩
  | .fault fault =>
    ⟨2, "", Report.lines (("error: " ++ fault.message) :: "" :: usage)⟩

def ofReport (report : Report) : Outcome :=
  match report.fault with
  | none => ⟨0, report.output, ""⟩
  | some fault => ⟨1, report.output, Report.lines ["Error: " ++ fault.message]⟩

def run {m : Type → Type} [Monad m] (workspace : Workspace m) (environment : Option String)
    (words : List String) : m Outcome :=
  match Arguments.read environment words with
  | .error interrupt => return ofInterrupt interrupt
  | .ok invocation =>
    ofReport <$> invocation.command.run workspace invocation.config invocation.overrides

end Program

end NestedQuery
