import NestedQuery.Files.Path
import NestedQuery.Files.Workspace

set_option autoImplicit false

namespace NestedQuery

inductive Node
  | file (text : String)
  | directory
deriving DecidableEq

structure Tree where
  -- Positions are the steps from the root. The directories around the listed nodes need no entry.
  workingDirectory : List String
  nodes : List (List String × Node)

namespace Tree

def node? (tree : Tree) (position : List String) : Option Node :=
  match tree.nodes.find? (fun entry => entry.1 == position) with
  | some entry => some entry.2
  | none =>
    if (tree.workingDirectory :: tree.nodes.map Prod.fst).any position.isPrefixOf then
      some .directory
    else none

def put (tree : Tree) (position : List String) (node : Node) : Tree :=
  { tree with
    nodes := (position, node) :: tree.nodes.filter fun entry => !(entry.1 == position) }

/-- In bytes, like the length of a name. -/
def longestStep : Nat := 255

def longestName : Nat := 4095

def step (tree : Tree) (position : List String) (step : String) : Except FileFault (List String) :=
  if tree.node? position ≠ some .directory then .error .notDirectory
  else if Path.isIdle step then .ok position
  else if step = ".." then .ok position.dropLast
  else if longestStep < step.utf8ByteSize then .error .nameTooLong
  else if (tree.node? (position ++ [step])).isSome then .ok (position ++ [step])
  else .error .absent

def start (tree : Tree) (path : String) : List String :=
  if Path.isAbsolute path then [] else tree.workingDirectory

def locate (tree : Tree) (path : String) : Except FileFault (List String) :=
  if path.toList.contains '\x00' then .error .zeroByte
  else if path.isEmpty then .error .absent
  else if longestName < path.utf8ByteSize then .error .nameTooLong
  else (Path.steps path).foldlM tree.step (tree.start path)

def read (tree : Tree) (path : String) : Except FileFault String := do
  let position ← tree.locate path
  match tree.node? position with
  | some (.file text) => .ok text
  | some .directory => .error .isDirectory
  | none => .error .absent

def present (tree : Tree) (path : String) : Bool :=
  match tree.locate path with
  | .ok _ => true
  | .error _ => false

def write (tree : Tree) (path text : String) : Except FileFault Tree := do
  match tree.locate path with
  | .ok position =>
    if tree.node? position = some .directory then .error .isDirectory
    else .ok (tree.put position (.file text))
  | .error .absent =>
    let position ← (Path.steps path).dropLast.foldlM tree.step (tree.start path)
    if tree.node? position ≠ some .directory then .error .notDirectory
    else
      match (Path.steps path).getLast? with
      | some name =>
        if Path.isIdle name then .error .absent
        else .ok (tree.put (position ++ [name]) (.file text))
      | none => .error .absent
  | .error fault => .error fault

def absoluteName (position : List String) : String :=
  "/" ++ "/".intercalate position

def workspace : Workspace (StateM Tree) where
  directory := fun tree => (absoluteName tree.workingDirectory, tree)
  present := fun path tree => (tree.present path, tree)
  read := fun path tree => (tree.read path, tree)
  write := fun path text tree =>
    match tree.write path text with
    | .ok changed => (.ok (), changed)
    | .error fault => (.error fault, tree)

end Tree

end NestedQuery
