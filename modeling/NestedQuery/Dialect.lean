import NestedQuery.Text.Blank

set_option autoImplicit false

namespace NestedQuery

inductive Dialect
  | sqlite
  | postgresql
  | mysql
deriving DecidableEq

namespace Dialect

instance : Inhabited Dialect := ⟨.sqlite⟩

def all : List Dialect := [.sqlite, .postgresql, .mysql]

def name : Dialect → String
  | .sqlite => "sqlite"
  | .postgresql => "postgresql"
  | .mysql => "mysql"

def spellings : Dialect → List String
  | .sqlite => ["sqlite", "sqlite3"]
  | .postgresql => ["postgresql", "postgres", "pg"]
  | .mysql => ["mysql", "mariadb"]

def parse (text : String) : Option Dialect :=
  all.find? (fun dialect => dialect.spellings.any (Text.sameIgnoringCase text))

def unknownMessage (text : String) : String := "unknown dialect `" ++ text ++ "`"

def configured : List (String × Dialect) :=
  [("sqlite", .sqlite), ("pg", .postgresql), ("postgres", .postgresql),
   ("postgresql", .postgresql), ("mysql", .mysql)]

def nameQuote : Dialect → Char
  | .mysql => '`'
  | .sqlite | .postgresql => '"'

def escapesBackslashes : Dialect → Bool
  | .mysql => true
  | .sqlite | .postgresql => false

def doubled (quote : Char) : List Char → List Char
  | [] => []
  | c :: rest => if c = quote then c :: c :: doubled quote rest else c :: doubled quote rest

def quoteName (dialect : Dialect) (name : String) : String :=
  let quote := dialect.nameQuote
  String.ofList (quote :: doubled quote name.toList ++ [quote])

def escapeText (backslashes : Bool) : List Char → List Char
  | [] => []
  | c :: rest =>
    if c = '\'' || (backslashes && c = '\\') then c :: c :: escapeText backslashes rest
    else c :: escapeText backslashes rest

def quoteText (dialect : Dialect) (text : String) : String :=
  String.ofList ('\'' :: escapeText dialect.escapesBackslashes text.toList ++ ['\''])

end Dialect

end NestedQuery
