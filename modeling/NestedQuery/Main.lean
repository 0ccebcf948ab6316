import NestedQuery.Command.Program

set_option autoImplicit false

namespace NestedQuery.Main

def errorNumber (code : UInt32) : Nat :=
  -- The number of a fault of the operating system, which may come with its sign changed.
  if code.toNat < UInt32.size / 2 then code.toNat else UInt32.size - code.toNat

def faultOf : IO.Error → FileFault
  | .noFileOrDirectory .. => .absent
  | .inappropriateType _ code _ =>
    if errorNumber code = 20 then .notDirectory else .isDirectory
  | .invalidArgument _ code details =>
    match errorNumber code with
    | 22 => .zeroByte
    | 36 => .nameTooLong
    | _ => .other details
  | .userError _ => .notText
  | error => .other (toString error)

def attempt {α : Type} (action : IO α) : IO (Except FileFault α) := do
  try return .ok (← action)
  catch error => return .error (faultOf error)

def workspace : Workspace IO where
  directory := do return (← IO.currentDir).toString
  present := fun path => do
    match ← attempt (IO.FS.Handle.mk path .read) with
    | .ok _ => return true
    | .error _ => return false
  read := fun path => attempt (IO.FS.readFile path)
  write := fun path text => attempt (IO.FS.writeFile path text)

end NestedQuery.Main

def main (arguments : List String) : IO UInt32 := do
  let environment ← IO.getEnv "NESTQL_DATABASE"
  let outcome ← NestedQuery.Program.run NestedQuery.Main.workspace environment arguments
  IO.print outcome.output
  IO.eprint outcome.complaint
  return outcome.code
