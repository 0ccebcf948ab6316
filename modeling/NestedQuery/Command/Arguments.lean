import NestedQuery.Command.Basic

set_option autoImplicit false

namespace NestedQuery

inductive Flag
  | config
  | dialect
  | schema
  | database
  -- Asks for a log; no command keeps one.
  | verbose
  | help
  | version
  | filter
  | filterFile
  | multiple
  -- Asks for indented entities, where a query comes to print any.
  | pretty
deriving DecidableEq

namespace Flag

def long : Flag → String
  | .config => "config"
  | .dialect => "dialect"
  | .schema => "schema"
  | .database => "database"
  | .verbose => "verbose"
  | .help => "help"
  | .version => "version"
  | .filter => "filter"
  | .filterFile => "filter-file"
  | .multiple => "multiple"
  | .pretty => "pretty"

def takesValue : Flag → Bool
  | .config | .dialect | .schema | .database | .filter | .filterFile => true
  | .verbose | .help | .version | .multiple | .pretty => false

def accepts (flag : Flag) (value : String) : Bool :=
  match flag with
  | .config | .schema | .filterFile => value ≠ ""
  | .dialect => (Dialect.parse value).isSome
  | _ => true

end Flag

inductive Verb
  | compile
  | query
  | check
  | init
deriving DecidableEq

def Verb.choices : List (String × Verb) :=
  [("compile", .compile), ("query", .query), ("check", .check), ("init", .init)]

namespace Arguments

def globalFlags : List Flag := [.config, .dialect, .schema, .database, .verbose, .help]

/-- What may be given in front of the command's name, or behind it. -/
def flagsAt : Option Verb → List Flag
  | none => .version :: globalFlags
  | some .compile => .filter :: .filterFile :: .multiple :: globalFlags
  | some .query => .filter :: .filterFile :: .pretty :: globalFlags
  | some .check | some .init => globalFlags

def longFlag (place : Option Verb) (name : String) : Option Flag :=
  (flagsAt place).find? fun flag => flag.long == name

def letters (place : Option Verb) : List (Char × Flag) :=
  [('c', .config), ('v', .verbose), ('h', .help)] ++
    match place with
    | none => [('V', .version)]
    | some .compile | some .query => [('f', .filter)]
    | some .init => [('d', .dialect)]
    | some .check => []

def letterFlag (place : Option Verb) (letter : Char) : Option Flag :=
  ((letters place).find? fun entry => entry.1 == letter).map Prod.snd

inductive Fault
  | unexpected (word : String)
  | noValue (flag : Flag)
  | badValue (flag : Flag) (value : String)
  | repeated (flag : Flag)
  | conflict (a b : Flag)
  | noEntity
  | noCommand

def Fault.message : Fault → String
  | .unexpected word => "unexpected argument '" ++ word ++ "'"
  | .noValue flag => "a value is required for '--" ++ flag.long ++ "'"
  | .badValue flag value => "invalid value '" ++ value ++ "' for '--" ++ flag.long ++ "'"
  | .repeated flag => "the argument '--" ++ flag.long ++ "' cannot be used multiple times"
  | .conflict a b =>
    "the argument '--" ++ a.long ++ "' cannot be used with '--" ++ b.long ++ "'"
  | .noEntity => "the name of an entity is required"
  | .noCommand => "a command is required"

inductive Interrupt
  | help
  | version
  | fault (fault : Fault)

structure Given where
  flags : List (Flag × String) := []
  words : List String := []

namespace Given

def value? (given : Given) (flag : Flag) : Option String :=
  (given.flags.find? fun entry => entry.1 == flag).map Prod.snd

def has (given : Given) (flag : Flag) : Bool := (given.value? flag).isSome

def add (given : Given) (flag : Flag) (value : String) : Except Interrupt Given :=
  if flag = .help then .error .help
  else if flag = .version then .error .version
  else if given.has flag then .error (.fault (.repeated flag))
  else if !flag.accepts value then .error (.fault (.badValue flag value))
  else .ok { given with flags := given.flags ++ [(flag, value)] }

def addWord (given : Given) (word : String) : Given := { given with words := given.words ++ [word] }

end Given

structure Progress where
  given : Given
  waiting : Option Flag := none

def readLetters (place : Option Verb) (given : Given) : List Char → Except Interrupt Progress
  -- The first letter that takes a value takes the rest of the word, if there is any.
  | [] => .ok ⟨given, none⟩
  | letter :: rest =>
    match letterFlag place letter with
    | none => .error (.fault (.unexpected (String.ofList ['-', letter])))
    | some flag =>
      if flag.takesValue then
        match rest with
        | [] => .ok ⟨given, some flag⟩
        | '=' :: value => (given.add flag (String.ofList value)).map fun given => ⟨given, none⟩
        | value => (given.add flag (String.ofList value)).map fun given => ⟨given, none⟩
      else do
        let given ← given.add flag ""
        readLetters place given rest

def readLong (place : Option Verb) (given : Given) (text : List Char) :
    Except Interrupt Progress :=
  let name := String.ofList (text.takeWhile (· ≠ '='))
  match longFlag place name, text.dropWhile (· ≠ '=') with
  | none, _ => .error (.fault (.unexpected ("--" ++ name)))
  | some flag, [] =>
    if flag.takesValue then .ok ⟨given, some flag⟩
    else (given.add flag "").map fun given => ⟨given, none⟩
  | some flag, _ :: value =>
    if flag.takesValue then
      (given.add flag (String.ofList value)).map fun given => ⟨given, none⟩
    else .error (.fault (.unexpected (String.ofList value)))

def readWords (place : Option Verb) :
    Progress → List String → Except Interrupt (Given × List String)
  -- Before the command's name the first word that is no flag ends the reading.
  | ⟨given, none⟩, [] => .ok (given, [])
  | ⟨_, some flag⟩, [] => .error (.fault (.noValue flag))
  | ⟨given, some flag⟩, word :: rest =>
    match word.toList with
    | '-' :: _ :: _ => .error (.fault (.noValue flag))
    | _ => do readWords place ⟨← given.add flag word, none⟩ rest
  | ⟨given, none⟩, word :: rest =>
    match word.toList with
    | ['-', '-'] =>
      match place, rest with
      | none, word :: _ => .error (.fault (.unexpected word))
      | _, rest => .ok ({ given with words := given.words ++ rest }, [])
    | '-' :: '-' :: text => do readWords place (← readLong place given text) rest
    | '-' :: letter :: letters => do
      readWords place (← readLetters place given (letter :: letters)) rest
    | _ =>
      match place with
      | none => .ok (given, word :: rest)
      | some _ => readWords place ⟨given.addWord word, none⟩ rest

structure Invocation where
  config : Option String
  overrides : Overrides
  command : Command

def filterSource (given : Given) : Except Interrupt FilterSource :=
  match given.value? .filter, given.value? .filterFile with
  | none, none => .ok .absent
  | some text, none => .ok (.inline text)
  | none, some path => .ok (.file path)
  | some _, some _ => .error (.fault (.conflict .filter .filterFile))

def onlyWord : List String → Except Interrupt String
  | [] => .error (.fault .noEntity)
  | [word] => .ok word
  | _ :: word :: _ => .error (.fault (.unexpected word))

def noWord : List String → Except Interrupt Unit
  | [] => .ok ()
  | word :: _ => .error (.fault (.unexpected word))

def later (before behind : Given) (flag : Flag) : Option String :=
  (behind.value? flag).or (before.value? flag)

def commandOf (verb : Verb) (before behind : Given) : Except Interrupt Command :=
  match verb with
  | .compile => do
    let entity ← onlyWord behind.words
    return .compile entity (← filterSource behind) (behind.has .multiple)
  | .query => do
    let entity ← onlyWord behind.words
    return .query entity (← filterSource behind)
  | .check => (noWord behind.words).map fun _ => .check
  | .init => do
    noWord behind.words
    return .init (((later before behind .dialect).bind Dialect.parse).getD .sqlite)

/-- Reads the words of the command line. `environment` is the database that holds unless one is
given. -/
def read (environment : Option String) (words : List String) : Except Interrupt Invocation := do
  let (before, rest) ← readWords none ⟨{}, none⟩ words
  match rest with
  | [] => .error (.fault .noCommand)
  | "help" :: topic =>
    match topic with
    | [] => .error .help
    | [name] =>
      if name = "help" || (Keyed.find? name Verb.choices).isSome then .error .help
      else .error (.fault (.unexpected name))
    | _ :: name :: _ => .error (.fault (.unexpected name))
  | name :: rest =>
    match Keyed.find? name Verb.choices with
    | none => .error (.fault (.unexpected name))
    | some verb =>
      let (behind, _) ← readWords (some verb) ⟨{}, none⟩ rest
      let command ← commandOf verb before behind
      return {
        config := later before behind .config
        overrides :=
          { dialect := (later before behind .dialect).bind Dialect.parse
            schema := later before behind .schema
            database := (later before behind .database).or environment }
        command }

end Arguments

end NestedQuery
