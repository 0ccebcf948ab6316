import NestedQuery.Proofs.Sql.Token
import NestedQuery.Proofs.Truth

set_option autoImplicit false

/-!
The grammar of boolean expressions in SQL: OR binds weaker than AND, AND weaker than NOT, NOT
weaker than a comparison. A text has one reading only.
-/

namespace NestedQuery.Sql

inductive Scalar
  | column (table name : String)
  | number (negative : Bool) (digits : String)
  | truth (b : Bool)
  | text (s : String)
deriving DecidableEq

inductive Atom
  | compare (left : Scalar) (comparison : Comparison) (right : Scalar)
  | isNull (subject : Scalar)
  | isNotNull (subject : Scalar)
  | between (subject low high : Scalar)
  | isIn (subject : Scalar) (values : List Scalar)
  | isNotIn (subject : Scalar) (values : List Scalar)
  | matched (subject : Scalar) (operator : String) (pattern : Scalar)
  | call (function : String) (arguments : List Scalar)
deriving DecidableEq

inductive Expression
  | atom (atom : Atom)
  | not (expression : Expression)
  | join (connective : Connective) (left right : Expression)

-- The words that join expressions name neither a table nor a function.
def isReserved (word : String) : Bool := ["AND", "OR", "NOT"].contains word

def readScalar : List Token → Option (Scalar × List Token)
  | .string s :: rest => some (.text s, rest)
  | .number digits :: rest => some (.number false digits, rest)
  | .symbol "-" :: .number digits :: rest => some (.number true digits, rest)
  | .word "TRUE" :: rest => some (.truth true, rest)
  | .word "FALSE" :: rest => some (.truth false, rest)
  | .word table :: .symbol "." :: .name name :: rest =>
    if isReserved table then none else some (.column table name, rest)
  | _ => none

theorem readScalar_dotted {table : String} (notTrue : table ≠ "TRUE") (notFalse : table ≠ "FALSE")
    (free : isReserved table = false) (name : String) (rest : List Token) :
    readScalar (.word table :: .symbol "." :: .name name :: rest) =
      some (.column table name, rest) := by
  unfold readScalar
  split <;> simp_all

theorem readScalar_length {tokens rest : List Token} {scalar : Scalar}
    (h : readScalar tokens = some (scalar, rest)) : rest.length < tokens.length := by
  unfold readScalar at h
  split at h <;> simp_all
  all_goals omega

def readScalars (tokens : List Token) : Option (List Scalar × List Token) :=
  match _found : readScalar tokens with
  | some (scalar, .symbol "," :: rest) =>
    (readScalars rest).map fun read => (scalar :: read.1, read.2)
  | some (scalar, .symbol ")" :: rest) => some ([scalar], rest)
  | _ => none
termination_by tokens.length
decreasing_by
  have shorter := readScalar_length _found
  simp only [List.length_cons] at shorter
  omega

theorem readScalars_last {tokens rest : List Token} {scalar : Scalar}
    (h : readScalar tokens = some (scalar, .symbol ")" :: rest)) :
    readScalars tokens = some ([scalar], rest) := by
  rw [readScalars]
  split <;> simp_all

theorem readScalars_cons {tokens rest : List Token} {scalar : Scalar}
    (h : readScalar tokens = some (scalar, .symbol "," :: rest)) :
    readScalars tokens = (readScalars rest).map fun read => (scalar :: read.1, read.2) := by
  rw [readScalars]
  split <;> simp_all

def readOperator : List Token → Option (String × List Token)
  | .word "LIKE" :: .word "BINARY" :: rest => some ("LIKE BINARY", rest)
  | .word "LIKE" :: rest => some ("LIKE", rest)
  | .word "ILIKE" :: rest => some ("ILIKE", rest)
  | .word "GLOB" :: rest => some ("GLOB", rest)
  | .symbol "~" :: rest => some ("~", rest)
  | .symbol "~*" :: rest => some ("~*", rest)
  | _ => none

def readMatched (subject : Scalar) (tokens : List Token) : Option (Atom × List Token) :=
  (readOperator tokens).bind fun operator =>
    (readScalar operator.2).map fun pattern =>
      (.matched subject operator.1 pattern.1, pattern.2)

def readBetween (subject : Scalar) (tokens : List Token) : Option (Atom × List Token) :=
  (readScalar tokens).bind fun low =>
    match low.2 with
    | .word "AND" :: rest =>
      (readScalar rest).map fun high => (.between subject low.1 high.1, high.2)
    | _ => none

def readComparison (subject : Scalar) : List Token → Option (Atom × List Token)
  | .symbol symbol :: rest =>
    ([.eq, .neq, .gt, .gte, .lt, .lte].find? fun comparison : Comparison =>
      comparison.symbol = symbol).bind fun comparison =>
        (readScalar rest).map fun right => (.compare subject comparison right.1, right.2)
  | _ => none

def affirmed (read : Atom × List Token) : Expression × List Token := (.atom read.1, read.2)

def negated (read : Atom × List Token) : Expression × List Token := (.not (.atom read.1), read.2)

def readTest (subject : Scalar) (tokens : List Token) : Option (Expression × List Token) :=
  -- What is said of a subject. A negated pattern operator denies the pattern.
  match tokens with
  | .word "IS" :: .word "NULL" :: rest => some (.atom (.isNull subject), rest)
  | .word "IS" :: .word "NOT" :: .word "NULL" :: rest => some (.atom (.isNotNull subject), rest)
  | .word "BETWEEN" :: rest => (readBetween subject rest).map affirmed
  | .word "IN" :: .symbol "(" :: rest =>
    (readScalars rest).map fun read => (.atom (.isIn subject read.1), read.2)
  | .word "NOT" :: .word "IN" :: .symbol "(" :: rest =>
    (readScalars rest).map fun read => (.atom (.isNotIn subject read.1), read.2)
  | .word "NOT" :: rest => (readMatched subject rest).map negated
  | .symbol "!~" :: rest => (readMatched subject (.symbol "~" :: rest)).map negated
  | .symbol "!~*" :: rest => (readMatched subject (.symbol "~*" :: rest)).map negated
  | _ => ((readMatched subject tokens).or (readComparison subject tokens)).map affirmed

def readAtom (tokens : List Token) : Option (Expression × List Token) :=
  match tokens with
  | .word function :: .symbol "(" :: rest =>
    if isReserved function then none
    else (readScalars rest).map fun read => (.atom (.call function read.1), read.2)
  | _ => (readScalar tokens).bind fun subject => readTest subject.1 subject.2

inductive Level
  | disjunction
  | conjunction
  | negation

def memberLevel : Connective → Level
  -- What a connective joins; conjunctions are the members of a disjunction.
  | .any => .conjunction
  | .all => .negation

mutual

inductive Derives : Level → List Token → Expression → List Token → Prop
  | atom {tokens rest : List Token} {expression : Expression}
      (read : readAtom tokens = some (expression, rest)) :
      Derives .negation tokens expression rest
  | parentheses {tokens rest : List Token} {expression : Expression}
      (inner : Derives .disjunction tokens expression (.symbol ")" :: rest)) :
      Derives .negation (.symbol "(" :: tokens) expression rest
  | not {tokens rest : List Token} {expression : Expression}
      (inner : Derives .negation tokens expression rest) :
      Derives .negation (.word "NOT" :: tokens) (.not expression) rest
  | conjunction {tokens middle rest : List Token} {first expression : Expression}
      (head : Derives .negation tokens first middle)
      (tail : Joined .all first middle expression rest) :
      Derives .conjunction tokens expression rest
  | disjunction {tokens middle rest : List Token} {first expression : Expression}
      (head : Derives .conjunction tokens first middle)
      (tail : Joined .any first middle expression rest) :
      Derives .disjunction tokens expression rest

/-- What follows a first member; members are grouped from the left. -/
inductive Joined : Connective → Expression → List Token → Expression → List Token → Prop
  | done {connective : Connective} {first : Expression} {rest : List Token} :
      Joined connective first rest first rest
  | more {connective : Connective} {first second expression : Expression}
      {tokens middle rest : List Token}
      (next : Derives (memberLevel connective) tokens second middle)
      (tail : Joined connective (.join connective first second) middle expression rest) :
      Joined connective first (.word connective.keyword :: tokens) expression rest

end

def Ends (level : Level) (rest : List Token) : Prop :=
  match level with
  | .negation => True
  | .conjunction => rest.head? ≠ some (.word "AND")
  | .disjunction => rest.head? ≠ some (.word "AND") ∧ rest.head? ≠ some (.word "OR")

def joinLevel : Connective → Level
  | .any => .disjunction
  | .all => .conjunction

theorem Ends.member {connective : Connective} {rest : List Token}
    (ends : Ends (joinLevel connective) rest) : Ends (memberLevel connective) rest := by
  cases connective with
  | any => exact ends.1
  | all => trivial

theorem Ends.not_keyword {connective : Connective} {tokens : List Token}
    (ends : Ends (joinLevel connective) (.word connective.keyword :: tokens)) : False := by
  cases connective with
  | any => exact ends.2 rfl
  | all => exact ends rfl

theorem Joined.ends_member {connective : Connective} {first expression : Expression}
    {tokens rest : List Token} (joined : Joined connective first tokens expression rest)
    (ends : Ends (joinLevel connective) rest) : Ends (memberLevel connective) tokens := by
  cases joined with
  | done => exact ends.member
  | more next tail =>
    cases connective with
    | any => simp [memberLevel, Ends, Connective.keyword]
    | all => trivial

theorem readAtom_not (tokens : List Token) : readAtom (.word "NOT" :: tokens) = none := by
  unfold readAtom
  split
  next same =>
    cases same
    rfl
  next =>
    unfold readScalar
    split <;> simp_all [isReserved]

section Inversion

variable {tokens rest : List Token} {expression : Expression}

theorem Derives.of_readAtom {first : Expression} {behind : List Token}
    (read : readAtom tokens = some (first, behind))
    (derives : Derives .negation tokens expression rest) : first = expression ∧ behind = rest := by
  cases derives with
  | atom read' => simpa using read.symm.trans read'
  | parentheses inner => cases read
  | not inner =>
    rw [readAtom_not] at read
    cases read

theorem Derives.of_parentheses
    (derives : Derives .negation (.symbol "(" :: tokens) expression rest) :
    Derives .disjunction tokens expression (.symbol ")" :: rest) := by
  cases derives with
  | atom read => cases read
  | parentheses inner => exact inner

theorem Derives.of_not (derives : Derives .negation (.word "NOT" :: tokens) expression rest) :
    ∃ inner, Derives .negation tokens inner rest ∧ expression = .not inner := by
  cases derives with
  | atom read =>
    rw [readAtom_not] at read
    cases read
  | not inner => exact ⟨_, inner, rfl⟩

theorem Derives.of_conjunction (derives : Derives .conjunction tokens expression rest) :
    ∃ first middle, Derives .negation tokens first middle ∧
      Joined .all first middle expression rest := by
  cases derives with
  | conjunction head tail => exact ⟨_, _, head, tail⟩

theorem Derives.of_disjunction (derives : Derives .disjunction tokens expression rest) :
    ∃ first middle, Derives .conjunction tokens first middle ∧
      Joined .any first middle expression rest := by
  cases derives with
  | disjunction head tail => exact ⟨_, _, head, tail⟩

variable {connective : Connective} {first : Expression}

theorem Joined.of_ends (joined : Joined connective first tokens expression rest)
    (ends : Ends (joinLevel connective) tokens) : first = expression ∧ tokens = rest := by
  cases joined with
  | done => exact ⟨rfl, rfl⟩
  | more next tail => exact ends.not_keyword.elim

theorem Joined.of_more
    (joined : Joined connective first (.word connective.keyword :: tokens) expression rest)
    (ends : Ends (joinLevel connective) rest) :
    ∃ second middle, Derives (memberLevel connective) tokens second middle ∧
      Joined connective (.join connective first second) middle expression rest := by
  cases joined with
  | done => exact ends.not_keyword.elim
  | more next tail => exact ⟨_, _, next, tail⟩

end Inversion

theorem Derives.unique {level : Level} {tokens rest : List Token} {expression : Expression}
    (first : Derives level tokens expression rest) :
    Ends level rest → ∀ other rest', Derives level tokens other rest' → Ends level rest' →
      expression = other ∧ rest = rest' := by
  refine @Derives.rec
    (fun level tokens expression rest _ => Ends level rest → ∀ other rest',
      Derives level tokens other rest' → Ends level rest' → expression = other ∧ rest = rest')
    (fun connective start tokens expression rest _ => Ends (joinLevel connective) rest →
      ∀ other rest', Joined connective start tokens other rest' →
        Ends (joinLevel connective) rest' → expression = other ∧ rest = rest')
    ?atom ?parentheses ?not ?conjunction ?disjunction ?done ?more level tokens expression rest first
  case atom =>
    intro tokens rest expression read _ other rest' second _
    exact second.of_readAtom read
  case parentheses =>
    intro tokens rest expression _ inner _ other rest' second _
    have closed (rest : List Token) : Ends .disjunction (.symbol ")" :: rest) := by simp [Ends]
    obtain ⟨same, behind⟩ := inner (closed _) _ _ second.of_parentheses (closed _)
    exact ⟨same, (List.cons.inj behind).2⟩
  case not =>
    intro tokens rest expression _ inner _ other rest' second _
    obtain ⟨expression', inner', rfl⟩ := second.of_not
    obtain ⟨rfl, rfl⟩ := inner trivial _ _ inner' trivial
    exact ⟨rfl, rfl⟩
  case conjunction =>
    intro tokens middle rest start expression _ tail head joined ends other rest' second ends'
    obtain ⟨start', middle', head', tail'⟩ := second.of_conjunction
    obtain ⟨rfl, rfl⟩ := head trivial _ _ head' trivial
    exact joined ends _ _ tail' ends'
  case disjunction =>
    intro tokens middle rest start expression _ tail head joined ends other rest' second ends'
    obtain ⟨start', middle', head', tail'⟩ := second.of_disjunction
    obtain ⟨rfl, rfl⟩ := head (tail.ends_member ends) _ _ head' (tail'.ends_member ends')
    exact joined ends _ _ tail' ends'
  case done =>
    intro connective start rest ends other rest' second _
    exact second.of_ends ends
  case more =>
    intro connective start member expression tokens middle rest _ tail next joined ends other rest'
      second ends'
    obtain ⟨member', middle', next', tail'⟩ := second.of_more ends'
    obtain ⟨rfl, rfl⟩ := next (tail.ends_member ends) _ _ next' (tail'.ends_member ends')
    exact joined ends _ _ tail' ends'

def Means (dialect : Dialect) (text : String) (expression : Expression) : Prop :=
  ∃ tokens, lex dialect text.toList = some tokens ∧
    ∀ other, Derives .disjunction tokens other [] ↔ other = expression

theorem means_of_derives {dialect : Dialect} {text : String} {tokens : List Token}
    {expression : Expression} (lexed : lex dialect text.toList = some tokens)
    (derives : Derives .disjunction tokens expression []) : Means dialect text expression := by
  have ends : Ends .disjunction [] := by simp [Ends]
  refine ⟨tokens, lexed, fun other => ⟨fun derives' => ?_, fun same => same ▸ derives⟩⟩
  exact (derives'.unique ends _ _ derives ends).1

def Atom.truth (given : Atom → Truth) : Atom → Truth
  -- Two numerals compare as they are written; any other comparison has the truth it is given.
  | .compare (.number false a) .eq (.number false b) => if a = b then .holds else .fails
  | atom => given atom

def Expression.value (given : Atom → Truth) : Expression → Truth
  | .atom a => a.truth given
  | .not inner => (inner.value given).not
  | .join connective left right => .join connective (left.value given) (right.value given)

theorem value_foldl (given : Atom → Truth) (connective : Connective) (first : Expression)
    (rest : List Expression) :
    (rest.foldl (.join connective) first).value given =
      Truth.joinAll connective ((first :: rest).map (Expression.value given)) := by
  rw [List.map_cons, ← Truth.foldl_join]
  induction rest generalizing first with
  | nil => rfl
  | cons second rest ih => exact ih (.join connective first second)

end NestedQuery.Sql
