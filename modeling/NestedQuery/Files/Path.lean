import NestedQuery.Text.Blank

set_option autoImplicit false

namespace NestedQuery.Path

def isAbsolute (path : String) : Bool := path.toList.head? == some '/'

def endsInSlash (path : String) : Bool := path.toList.getLast? == some '/'

def join (directory path : String) : String :=
  -- An absolute name replaces the directory; joining the empty name only adds a slash.
  if isAbsolute path then path
  else if directory.isEmpty || endsInSlash directory then directory ++ path
  else directory ++ "/" ++ path

def isIdle (step : String) : Bool := step == "" || step == "."

def steps (path : String) : List String := (Text.pieces '/' path.toList).map String.ofList

def dropIdleEnd (steps : List String) : List String := (steps.reverse.dropWhile isIdle).reverse

def parent (path : String) : String :=
  match steps path with
  | [] => ""
  | first :: rest =>
    match dropIdleEnd rest with
    | [] => ""
    | rest@(_ :: _) =>
      match first, dropIdleEnd rest.dropLast with
      | "", [] => "/"
      | first, outer => "/".intercalate (first :: outer)

/-- The same name seen from anywhere: idle steps go, steps to the parent stay. The empty name has
none. -/
def absolute (directory path : String) : String :=
  if path.isEmpty then path
  else
    let root :=
      if !isAbsolute path then directory
      else match steps path with
        | "" :: "" :: "" :: _ :: _ => "/"
        | "" :: "" :: _ :: _ => "//"
        | _ => "/"
    let named := ((steps path).filter fun step => !isIdle step).foldl join root
    if endsInSlash path then join named "" else named

end NestedQuery.Path
