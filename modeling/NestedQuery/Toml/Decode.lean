import NestedQuery.Toml.Reader

set_option autoImplicit false

namespace NestedQuery.Toml

inductive Fault
  | malformed
  | data (fault : Document.Fault)

def Fault.message : Fault → String
  | .malformed => "malformed TOML document"
  | .data fault => fault.message .toml

def decode {α : Type} (decoder : Document.Decoder α) (text : String) : Except Fault α :=
  -- A document without the expected value counts as malformed if one of its numbers is too wide.
  match read text with
  | none => .error .malformed
  | some document =>
    match decoder document with
    | .ok value => .ok value
    | .error fault =>
      if document.any Document.isWide then .error .malformed else .error (.data fault)

end NestedQuery.Toml
