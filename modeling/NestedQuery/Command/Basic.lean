import NestedQuery.Compile
import NestedQuery.Config.Resolve
import NestedQuery.Filter.OfJson
import NestedQuery.Schema.Dangling

set_option autoImplicit false

namespace NestedQuery

inductive FilterSource
  | absent
  | inline (text : String)
  | file (path : String)
deriving DecidableEq

inductive Command
  | compile (entity : String) (filter : FilterSource) (plural : Bool)
  | query (entity : String) (filter : FilterSource)
  | check
  | init (dialect : Dialect)
deriving DecidableEq

inductive CommandFault
  | configuration (fault : ConfigFault)
  | failed (error : Error)
  | unreadableFilter (path : String) (fault : FileFault)
  | unwritable (fault : FileFault)
  | danglingRelations (dangling : List Dangling)
  | alreadyConfigured
  | noChannel (dialect : Dialect)

def CommandFault.message : CommandFault → String
  | .configuration fault => "Configuration error: " ++ fault.message
  | .failed error => error.message
  | .unreadableFilter path fault => "I/O error: " ++ path ++ ": " ++ fault.message
  | .unwritable fault => "I/O error: " ++ fault.message
  | .danglingRelations dangling =>
    "Invalid schema: " ++ "; ".intercalate (dangling.map Dangling.message)
  | .alreadyConfigured =>
    Config.defaultFile ++ " already exists. Delete it first to reinitialize."
  | .noChannel dialect =>
    "no execution channel for " ++ dialect.name ++
      "; use `nestql compile` and run the SQL yourself"

end NestedQuery
