import NestedQuery.Dialect
import NestedQuery.Json.Token
import NestedQuery.Json.Writer
import NestedQuery.Text.Quoted

set_option autoImplicit false

namespace NestedQuery

inductive LiteralFault
  | notDate (text : String)
  | truthNotDate (b : Bool)
  | millisOutOfRange (millis : Int)
  | doubleOutOfRange (millis : Float)
  | notFinite (x : Float)

def LiteralFault.message : LiteralFault → String
  | .notDate text => Text.quoted text ++ " is not a date"
  | .truthNotDate b => toString b ++ " is not a date"
  | .millisOutOfRange millis => "epoch milliseconds " ++ toString millis ++ " out of range"
  | .doubleOutOfRange millis =>
    "epoch milliseconds " ++ Decimal.Layout.plain.write millis ++ " out of range"
  | .notFinite x => Decimal.Layout.plain.write x ++ " is not a finite number"

inductive Connective
  | all
  | any
deriving DecidableEq

def Connective.keyword : Connective → String
  | .all => "AND"
  | .any => "OR"

def Connective.key : Connective → String
  | .all => "and"
  | .any => "or"

inductive FilterFault
  | notJson (fault : Json.Fault)
  | notObject (got : Json)
  | unknownKey (key : String)
  | count (key : String) (got : Json)
  | orderEntry (got : Json)
  | order (got : Json)
  | fieldName (got : Json)
  | fieldFlag (name : String) (got : Json)
  | fields (got : Json)
  | inclusion (got : Json)
  | inclusionName (got : Json)
  | condition (got : Json)
  | group (connective : Connective) (got : Json)
  | emptyClause (connective : Connective)
  | emptyGroup (connective : Connective)
  | aliasesExhausted

def FilterFault.message : FilterFault → String
  | .notJson .ended => "JSON text ends inside a value"
  | .notJson .malformed => "malformed JSON text"
  | .notObject got => "filter must be an object, got " ++ got.write
  | .unknownKey key => "unknown filter key `" ++ key ++ "`"
  | .count key got => "`" ++ key ++ "` must be an integer, got " ++ got.write
  | .orderEntry got => "order entries must be strings, got " ++ got.write
  | .order got => "order must be a string or array, got " ++ got.write
  | .fieldName got => "field names must be strings, got " ++ got.write
  | .fieldFlag name got => "field `" ++ name ++ "` must map to a boolean, got " ++ got.write
  | .fields got => "fields must be an object or array, got " ++ got.write
  | .inclusion got => "invalid include " ++ got.write
  | .inclusionName got => "include relation must be a string, got " ++ got.write
  | .condition got => "where must be an object, got " ++ got.write
  | .group connective got =>
    "`" ++ connective.key ++ "` needs a non-empty array, got " ++ got.write
  | .emptyClause connective => "empty clause inside `" ++ connective.key ++ "`"
  | .emptyGroup connective => "empty " ++ connective.keyword ++ " group"
  | .aliasesExhausted => "alias range exhausted"

inductive Feature
  | objects
  | arrays

def Feature.name : Feature → String
  | .objects => "JSON object construction"
  | .arrays => "JSON array aggregation"

inductive PayloadFault
  | neitherObjectNorArray (entity : String) (got : Json)
  | notObject (entity : String) (got : Json)
  | relation (entity name : String) (got : Json)

def PayloadFault.message : PayloadFault → String
  | .neitherObjectNorArray entity got =>
    "expected an object or array for `" ++ entity ++ "`, got " ++ got.write
  | .notObject entity got => "expected an object for `" ++ entity ++ "`, got " ++ got.write
  | .relation entity name got =>
    "unexpected payload for relation `" ++ entity ++ "." ++ name ++ "`: " ++ got.write

inductive Error
  | unsupportedPredicate (field operator : String) (operand : Json)
  | invalidFilter (fault : FilterFault)
  | invalidLiteral (field : String) (fault : LiteralFault)
  | invalidOrder (text : String)
  | unknownEntity (entity : String)
  | unknownRelation (entity relation : String)
  | unsupportedBackend (dialect : Dialect) (feature : Feature)
  | execution (message : String) (code : Option String)
  | malformedPayload (fault : Json.Fault)
  | materialize (fault : PayloadFault)

namespace Error

def message : Error → String
  | .unsupportedPredicate field operator operand =>
    "Unsupported predicate on `" ++ field ++ "` with operator `" ++ operator ++ "`: " ++
      (Json.object [(field, operand)]).write
  | .invalidFilter fault => "Invalid filter: " ++ fault.message
  | .invalidLiteral field fault => "Invalid literal for `" ++ field ++ "`: " ++ fault.message
  | .invalidOrder text => "Invalid order `" ++ text ++ "`, expected `field [ASC|DESC]`"
  | .unknownEntity entity => "Unknown entity `" ++ entity ++ "`"
  | .unknownRelation entity relation =>
    "Unknown relation `" ++ relation ++ "` on entity `" ++ entity ++ "`"
  | .unsupportedBackend dialect feature =>
    "Unsupported backend `" ++ dialect.name ++ "`: " ++ feature.name ++ " is not available"
  | .execution text _ => "Execution error: " ++ text
  | .malformedPayload .ended => "Malformed payload: JSON text ends inside a value"
  | .malformedPayload .malformed => "Malformed payload: malformed JSON text"
  | .materialize fault => "Materialization error: " ++ fault.message

def code : Error → Option String
  | .execution _ code => code
  | _ => none

end Error

end NestedQuery
