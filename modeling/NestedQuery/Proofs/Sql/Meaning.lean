import NestedQuery.Proofs.Plan
import NestedQuery.Proofs.Sql.ConditionSpelling
import NestedQuery.Proofs.Sql.Grammar

set_option autoImplicit false

namespace NestedQuery.Sql

def Column.scalar (column : Column) : Scalar := .column column.table.write column.name

def operandScalar : Operand → Scalar
  | .truth b => .truth b
  | .integer n => .number (n < 0) (toString n.natAbs)
  | .decimal x _ => .number (Decimal.isNegative x) (String.ofList (Decimal.Layout.plain.finite x))
  | .text s => .text s
  | .timestamp t => .text t.write

def matchAtom (dialect : Dialect) (column : Column) (pattern : Pattern) : Atom :=
  let text : Scalar := .text (patternText dialect pattern)
  match dialect, pattern with
  | .sqlite, .like _ true => .matched column.scalar "LIKE" text
  | .sqlite, .like _ false => .matched column.scalar "GLOB" text
  | .sqlite, .regex _ _ => .call "regexp" [text, column.scalar]
  | .postgresql, .like _ true => .matched column.scalar "ILIKE" text
  | .postgresql, .like _ false => .matched column.scalar "LIKE" text
  | .postgresql, .regex _ true => .matched column.scalar "~*" text
  | .postgresql, .regex _ false => .matched column.scalar "~" text
  | .mysql, .like _ true => .matched column.scalar "LIKE" text
  | .mysql, .like _ false => .matched column.scalar "LIKE BINARY" text
  | .mysql, .regex _ ignoreCase =>
    .call "REGEXP_LIKE" [column.scalar, text, .text (if ignoreCase then "i" else "c")]

def conditionExpression (dialect : Dialect) (condition : Condition Column Operand) : Expression :=
  let subject := condition.subject.scalar
  match condition.test with
  | .compare comparison value => .atom (.compare subject comparison (operandScalar value))
  | .isNull => .atom (.isNull subject)
  | .isNotNull => .atom (.isNotNull subject)
  | .between low high => .atom (.between subject (operandScalar low) (operandScalar high))
  | .oneOf [] => .atom (.compare (.number false "1") .eq (.number false "0"))
  | .oneOf values => .atom (.isIn subject (values.map operandScalar))
  | .noneOf [] => .atom (.compare (.number false "1") .eq (.number false "1"))
  | .noneOf values => .atom (.isNotIn subject (values.map operandScalar))
  | .like pattern => .atom (matchAtom dialect condition.subject pattern)
  | .notLike pattern => .not (.atom (matchAtom dialect condition.subject pattern))

def conditionTruth (dialect : Dialect) (given : Atom → Truth)
    (condition : Condition Column Operand) : Truth :=
  let subject := condition.subject.scalar
  match condition.test with
  | .compare comparison value => given (.compare subject comparison (operandScalar value))
  | .isNull => given (.isNull subject)
  | .isNotNull => given (.isNotNull subject)
  | .between low high => given (.between subject (operandScalar low) (operandScalar high))
  | .oneOf [] => .fails
  | .oneOf values => given (.isIn subject (values.map operandScalar))
  | .noneOf [] => .holds
  | .noneOf values => given (.isNotIn subject (values.map operandScalar))
  | .like pattern => given (matchAtom dialect condition.subject pattern)
  | .notLike pattern => (given (matchAtom dialect condition.subject pattern)).not

theorem truth_matchAtom (dialect : Dialect) (given : Atom → Truth) (column : Column)
    (pattern : Pattern) :
    (matchAtom dialect column pattern).truth given = given (matchAtom dialect column pattern) := by
  rcases pattern with ⟨_, _ | _⟩ | ⟨_, _ | _⟩ <;> cases dialect <;> rfl

theorem value_condition (dialect : Dialect) (given : Atom → Truth)
    (condition : Condition Column Operand) :
    (conditionExpression dialect condition).value given =
      conditionTruth dialect given condition := by
  obtain ⟨column, test⟩ := condition
  cases test with
  | oneOf values => cases values <;> rfl
  | noneOf values => cases values <;> rfl
  | like pattern => exact truth_matchAtom dialect given column pattern
  | notLike pattern => exact congrArg Truth.not (truth_matchAtom dialect given column pattern)
  | _ => rfl

theorem alias_ne (tableAlias : Alias) {word : String} (plain : word.toList.head? ≠ some '_') :
    tableAlias.write ≠ word := by
  rintro rfl
  simp [Alias.write] at plain

def tokensOf (pieces : List Piece) : List Token := pieces.map Piece.token

@[simp] theorem tokensOf_append (p q : List Piece) : tokensOf (p ++ q) = tokensOf p ++ tokensOf q :=
  List.map_append

theorem isReserved_alias (tableAlias : Alias) : isReserved tableAlias.write = false := by
  have notAnd : tableAlias.write ≠ "AND" := alias_ne tableAlias (by decide)
  have notOr : tableAlias.write ≠ "OR" := alias_ne tableAlias (by decide)
  have notNot : tableAlias.write ≠ "NOT" := alias_ne tableAlias (by decide)
  simp [isReserved, notAnd, notOr, notNot]

theorem readScalar_column (column : Column) (rest : List Token) :
    readScalar (tokensOf column.pieces ++ rest) = some (column.scalar, rest) := by
  have notTrue : column.table.write ≠ "TRUE" := alias_ne column.table (by decide)
  have notFalse : column.table.write ≠ "FALSE" := alias_ne column.table (by decide)
  exact readScalar_dotted notTrue notFalse (isReserved_alias column.table) column.name rest

theorem readScalar_operand (operand : Operand) (rest : List Token) :
    readScalar (tokensOf (operandPieces operand) ++ rest) =
      some (operandScalar operand, rest) := by
  have number (negative : Bool) (digits : String) :
      readScalar (tokensOf (signed negative digits) ++ rest) =
        some (.number negative digits, rest) := by
    cases negative <;> rfl
  cases operand with
  | truth b => cases b <;> rfl
  | integer n => exact number _ _
  | decimal x finite => exact number _ _
  | text s => rfl
  | timestamp t => rfl

theorem readScalars_operands (value : Operand) (values : List Operand) (rest : List Token) :
    readScalars (tokensOf ([.symbol ","].intercalate ((value :: values).map operandPieces)) ++
        .symbol ")" :: rest) =
      some ((value :: values).map operandScalar, rest) := by
  induction values generalizing value with
  | nil =>
    rw [List.map_singleton, List.intercalate_singleton]
    exact readScalars_last (readScalar_operand value _)
  | cons next values ih =>
    rw [List.map_cons, List.map_cons, List.intercalate_cons_cons, ← List.map_cons,
      tokensOf_append, tokensOf_append, List.append_assoc, List.append_assoc]
    have step := readScalars_cons (readScalar_operand value (.symbol "," ::
      (tokensOf ([.symbol ","].intercalate ((next :: values).map operandPieces)) ++
        .symbol ")" :: rest)))
    rw [ih] at step
    exact step

theorem tokensOf_list (values : List Operand) (rest : List Token) :
    tokensOf (listPieces values) ++ rest = .symbol "(" ::
      (tokensOf ([.symbol ","].intercalate (values.map operandPieces)) ++ .symbol ")" :: rest) := by
  simp [listPieces, tokensOf, Piece.token]

theorem readAtom_column (column : Column) (rest : List Token) :
    readAtom (tokensOf column.pieces ++ rest) = readTest column.scalar rest := by
  have subject := readScalar_column column rest
  have spelling : tokensOf column.pieces ++ rest =
      .word column.table.write :: .symbol "." :: .name column.name :: rest := rfl
  rw [spelling] at subject ⊢
  unfold readAtom
  split
  next same => simp at same
  next => rw [subject]; rfl

theorem readTest_compare (subject : Scalar) (comparison : Comparison) {tokens rest : List Token}
    {right : Scalar} (read : readScalar tokens = some (right, rest)) :
    readTest subject (.symbol comparison.symbol :: tokens) =
      some (.atom (.compare subject comparison right), rest) := by
  have compared : readTest subject (.symbol comparison.symbol :: tokens) =
      ((readScalar tokens).map fun right =>
        (Atom.compare subject comparison right.1, right.2)).map affirmed := by
    cases comparison <;> rfl
  rw [compared, read]
  rfl

theorem readTest_between (subject : Scalar) (low high : Operand) (rest : List Token) :
    readTest subject (.word "BETWEEN" :: (tokensOf (operandPieces low) ++
        .word "AND" :: (tokensOf (operandPieces high) ++ rest))) =
      some (.atom (.between subject (operandScalar low) (operandScalar high)), rest) := by
  have lower := readScalar_operand low (.word "AND" :: (tokensOf (operandPieces high) ++ rest))
  have upper := readScalar_operand high rest
  rw [readTest, readBetween, lower]
  simp [upper, affirmed]

theorem readTest_isIn (subject : Scalar) {tokens rest : List Token} {values : List Scalar}
    (listed : readScalars tokens = some (values, rest)) :
    readTest subject (.word "IN" :: .symbol "(" :: tokens) =
      some (.atom (.isIn subject values), rest) := by
  simp [readTest, listed]

theorem readTest_isNotIn (subject : Scalar) {tokens rest : List Token} {values : List Scalar}
    (listed : readScalars tokens = some (values, rest)) :
    readTest subject (.word "NOT" :: .word "IN" :: .symbol "(" :: tokens) =
      some (.atom (.isNotIn subject values), rest) := by
  simp [readTest, listed]

theorem readAtom_regexp (text : String) (column : Column) (rest : List Token) :
    readAtom (.word "regexp" :: .symbol "(" :: .string text :: .symbol "," ::
        (tokensOf column.pieces ++ .symbol ")" :: rest)) =
      some (.atom (.call "regexp" [.text text, column.scalar]), rest) := by
  have last := readScalars_last (readScalar_column column (.symbol ")" :: rest))
  have arguments : readScalars (.string text :: .symbol "," ::
      (tokensOf column.pieces ++ .symbol ")" :: rest)) =
      some ([.text text, column.scalar], rest) := by
    rw [readScalars_cons rfl, last]
    rfl
  simp [readAtom, isReserved, arguments]

theorem readAtom_regexpLike (column : Column) (text flag : String) (rest : List Token) :
    readAtom (.word "REGEXP_LIKE" :: .symbol "(" :: (tokensOf column.pieces ++
        .symbol "," :: .string text :: .symbol "," :: .string flag :: .symbol ")" :: rest)) =
      some (.atom (.call "REGEXP_LIKE" [column.scalar, .text text, .text flag]), rest) := by
  have first := readScalar_column column
    (.symbol "," :: .string text :: .symbol "," :: .string flag :: .symbol ")" :: rest)
  have last : readScalars (.string text :: .symbol "," :: .string flag :: .symbol ")" :: rest) =
      some ([.text text, .text flag], rest) := by
    rw [readScalars_cons rfl, readScalars_last rfl]
    rfl
  have arguments := readScalars_cons first
  rw [last] at arguments
  simp [readAtom, isReserved, arguments]

theorem readAtom_match (dialect : Dialect) (column : Column) (pattern : Pattern)
    (rest : List Token) :
    readAtom (tokensOf (matchPieces dialect false column pattern) ++ rest) =
      some (.atom (matchAtom dialect column pattern), rest) := by
  rcases pattern with ⟨text, _ | _⟩ | ⟨source, _ | _⟩ <;> cases dialect
  all_goals first
    | exact readAtom_column column _
    | exact readAtom_regexp _ column rest
    | exact readAtom_regexpLike column _ _ rest

theorem derives_notMatch (dialect : Dialect) (column : Column) (pattern : Pattern)
    (rest : List Token) :
    Derives .negation (tokensOf (matchPieces dialect true column pattern) ++ rest)
      (.not (.atom (matchAtom dialect column pattern))) rest := by
  -- Denied in front or in the operator, a pattern reads as denied.
  have affirmative := Derives.not (.atom (readAtom_match dialect column pattern rest))
  rcases pattern with ⟨text, _ | _⟩ | ⟨source, _ | _⟩ <;> cases dialect
  all_goals first
    | exact affirmative
    | exact .atom (readAtom_column column _)

theorem derives_condition (dialect : Dialect) (condition : Condition Column Operand)
    (rest : List Token) :
    Derives .negation (tokensOf (conditionPieces dialect condition) ++ rest)
      (conditionExpression dialect condition) rest := by
  obtain ⟨column, test⟩ := condition
  cases test with
  | compare comparison value =>
    have compared := readTest_compare column.scalar comparison (readScalar_operand value rest)
    refine .atom ?_
    simp only [conditionPieces, tokensOf_append, List.append_assoc]
    exact (readAtom_column column _).trans compared
  | isNull => exact .atom (readAtom_column column _)
  | isNotNull => exact .atom (readAtom_column column _)
  | between low high =>
    have bounded := readTest_between column.scalar low high rest
    refine .atom ?_
    simp only [conditionPieces, tokensOf_append, List.append_assoc]
    exact (readAtom_column column _).trans bounded
  | oneOf values =>
    cases values with
    | nil => exact .atom rfl
    | cons value values =>
      have listed := readScalars_operands value values rest
      refine .atom ?_
      simp only [conditionPieces, tokensOf_append, List.append_assoc, tokensOf_list]
      exact (readAtom_column column _).trans (readTest_isIn column.scalar listed)
  | noneOf values =>
    cases values with
    | nil => exact .atom rfl
    | cons value values =>
      have listed := readScalars_operands value values rest
      refine .atom ?_
      simp only [conditionPieces, tokensOf_append, List.append_assoc, tokensOf_list]
      exact (readAtom_column column _).trans (readTest_isNotIn column.scalar listed)
  | like pattern => exact .atom (readAtom_match dialect column pattern rest)
  | notLike pattern => exact derives_notMatch dialect column pattern rest

theorem derives_member {tokens rest : List Token} {expression : Expression}
    (derives : Derives .negation tokens expression rest) (connective : Connective) :
    Derives (memberLevel connective) tokens expression rest := by
  cases connective with
  | all => exact derives
  | any => exact .conjunction derives .done

theorem derives_joined {connective : Connective} {tokens middle rest : List Token}
    {first expression : Expression} (head : Derives .negation tokens first middle)
    (tail : Joined connective first middle expression rest) :
    Derives .disjunction tokens expression rest := by
  cases connective with
  | all => exact .disjunction (.conjunction head tail) .done
  | any => exact .disjunction (.conjunction head .done) tail

def ReadAs (pieces : List Piece) (expression : Expression) : Prop :=
  ∀ rest, Derives .negation (tokensOf pieces ++ rest) expression rest

theorem tokensOf_intercalate (keyword : String) (first : List Piece) (others : List (List Piece)) :
    tokensOf ([.word keyword].intercalate (first :: others)) =
      tokensOf first ++ others.flatMap fun pieces => .word keyword :: tokensOf pieces := by
  induction others generalizing first with
  | nil => simp
  | cons second others ih =>
    rw [List.intercalate_cons_cons, tokensOf_append, tokensOf_append, ih, List.flatMap_cons,
      List.append_assoc]
    rfl

theorem joined_members {connective : Connective} {pieces : List (List Piece)}
    {expressions : List Expression} (read : List.Forall₂ ReadAs pieces expressions)
    (start : Expression) (rest : List Token) :
    Joined connective start
      ((pieces.flatMap fun pieces => .word connective.keyword :: tokensOf pieces) ++ rest)
      (expressions.foldl (.join connective) start) rest := by
  induction read generalizing start with
  | nil => exact .done
  | cons first others ih =>
    rw [List.flatMap_cons, List.append_assoc]
    exact .more (derives_member (first _) connective) (ih _)

theorem readAs_group {connective : Connective} {first : List Piece}
    {pieces : List (List Piece)} {head : Expression} {expressions : List Expression}
    (read : ReadAs first head) (others : List.Forall₂ ReadAs pieces expressions) :
    ReadAs
      ([.symbol "("] ++ [.word connective.keyword].intercalate (first :: pieces) ++ [.symbol ")"])
      (expressions.foldl (.join connective) head) := by
  intro rest
  rw [tokensOf_append, tokensOf_append, tokensOf_intercalate]
  simp only [List.append_assoc]
  exact .parentheses (derives_joined (read _) (joined_members others head _))

def leafTruth (schema : Schema) (dialect : Dialect) (entity : String) (tableAlias : Alias)
    (given : Atom → Truth) (leaf : Condition String Literal) : Truth :=
  match Compile.resolveTest (Compile.operand schema entity leaf.subject) leaf.test with
  | .ok test =>
    conditionTruth dialect given ⟨Compile.column schema entity tableAlias leaf.subject, test⟩
  | .error _ => .unknown

variable {schema : Schema}

mutual

theorem resolved_readAs (dialect : Dialect) {entity : String} {tableAlias : Alias} {tree : Where}
    {predicate : Predicate} (resolved : Compile.Resolved schema entity tableAlias tree predicate) :
    ∃ expression, ReadAs (predicatePieces dialect predicate) expression ∧
      ∀ given, expression.value given =
        tree.value (leafTruth schema dialect entity tableAlias given) := by
  cases resolved with
  | leaf operands =>
    refine ⟨_, derives_condition dialect _, fun given => ?_⟩
    rw [value_condition, Formula.value, leafTruth, operands]
  | group somePart resolved =>
    obtain ⟨expressions, read, values⟩ := resolvedParts_readAs dialect resolved
    cases resolved with
    | nil => exact absurd rfl somePart
    | cons _ _ =>
      rw [partPieces] at read
      cases read with
      | cons first others =>
        refine ⟨_, readAs_group first others, fun given => ?_⟩
        rw [value_foldl, Formula.value, values]

theorem resolvedParts_readAs (dialect : Dialect) {entity : String} {tableAlias : Alias}
    {parts : List Where} {predicates : List Predicate}
    (resolved : Compile.ResolvedParts schema entity tableAlias parts predicates) :
    ∃ expressions, List.Forall₂ ReadAs (partPieces dialect predicates) expressions ∧
      ∀ given, expressions.map (Expression.value given) =
        partValues (leafTruth schema dialect entity tableAlias given) parts := by
  cases resolved with
  | nil => exact ⟨[], .nil, fun _ => rfl⟩
  | cons resolved others =>
    obtain ⟨expression, read, value⟩ := resolved_readAs dialect resolved
    obtain ⟨expressions, reads, values⟩ := resolvedParts_readAs dialect others
    refine ⟨expression :: expressions, .cons read reads, fun given => ?_⟩
    rw [List.map_cons, value, values, partValues]

end

variable {dialect : Dialect}

theorem readAtom_equality (left right : Column) (rest : List Token) :
    readAtom (tokensOf (equalityPieces left right) ++ rest) =
      some (.atom (.compare left.scalar .eq right.scalar), rest) := by
  have compared := readTest_compare left.scalar .eq (readScalar_column right rest)
  rw [equalityPieces, tokensOf_append, tokensOf_append, List.append_assoc, List.append_assoc,
    readAtom_column]
  exact compared

theorem means_of_readAs {text : String} {pieces : List Piece} {expression : Expression}
    (spelled : Spelled dialect text pieces) (read : ReadAs pieces expression) :
    Means dialect text expression := by
  have whole := read []
  rw [List.append_nil] at whole
  exact means_of_derives spelled (.disjunction (.conjunction whole .done) .done)

theorem means_correlated {text : String} {pieces : List Piece} {expression : Expression}
    (spelled : Spelled dialect text pieces) (read : ReadAs pieces expression)
    (left right : Column) :
    Means dialect (writeEquality dialect left right ++ " AND " ++ text)
      (.join .all (.atom (.compare left.scalar .eq right.scalar)) expression) := by
  have conjunction : Separator dialect " AND " [.word "AND"] := separator_connective dialect .all
  have whole := (spelled_equality dialect left right).separated conjunction spelled
  have behind := read []
  rw [List.append_nil] at behind
  have tokens : (equalityPieces left right ++ [Piece.word "AND"] ++ pieces).map Piece.token =
      tokensOf (equalityPieces left right) ++ .word "AND" :: tokensOf pieces := by
    simp [tokensOf, Piece.token]
  rw [Spelled, tokens] at whole
  have tie := Derives.atom (readAtom_equality left right (.word "AND" :: tokensOf pieces))
  exact means_of_derives whole (.disjunction (.conjunction tie (.more behind .done)) .done)

/-- The condition of a level has one reading, alone and behind what ties the level to the row
around it, and whatever the truth of its comparisons, that is worth what the tree is worth. -/
theorem condition_means (schema : Schema) (dialect : Dialect) (entity : String)
    (tableAlias : Alias) (tree : Where) {predicate : Predicate}
    (compiles : Compile.resolve schema entity tableAlias tree = .ok predicate) :
    ∃ expression,
      (∀ given, expression.value given =
        tree.value (leafTruth schema dialect entity tableAlias given)) ∧
      ∀ rows : Rows, rows.predicate = some predicate →
        (rows.correlation = none →
          Means dialect (" AND ".intercalate (rows.conditions (.ofDialect dialect))) expression) ∧
        ∀ left right, rows.correlation = some (.equal left right) →
          Means dialect (" AND ".intercalate (rows.conditions (.ofDialect dialect)))
            (.join .all (.atom (.compare left.scalar .eq right.scalar)) expression) := by
  obtain ⟨expression, read, value⟩ := resolved_readAs dialect (Compile.resolved_iff.2 compiles)
  have spelled := spelled_predicate dialect predicate
  refine ⟨expression, value, fun rows stated => ⟨fun untied => ?_, fun left right tied => ?_⟩⟩
  · rw [Rows.conditions, untied, stated]
    exact means_of_readAs spelled read
  · rw [Rows.conditions, tied, stated, dialect_ofDialect]
    exact means_correlated spelled read left right

def Sample.tree : Where :=
  .any
    [Where.test "name" .isNotNull,
      .all
        [Where.test "name" (.between (.text "A") (.text "M")),
          Where.test "name" (.notLike (.like "B%" false)),
          Where.test "name" (.oneOf [])]]

theorem condition_means_customers :
    ∃ predicate, Compile.resolve Sample.shop "Customer" .first Sample.tree = .ok predicate ∧
      ∃ expression,
        (∀ given, expression.value given =
          Sample.tree.value (leafTruth Sample.shop .sqlite "Customer" .first given)) ∧
        Means .sqlite (writePredicate .sqlite predicate) expression := by
  obtain ⟨predicate, compiles⟩ : ∃ predicate,
      Compile.resolve Sample.shop "Customer" .first Sample.tree = .ok predicate := ⟨_, rfl⟩
  obtain ⟨expression, value, means⟩ :=
    condition_means Sample.shop .sqlite "Customer" .first Sample.tree compiles
  exact ⟨predicate, compiles, expression, value,
    (means ⟨"customers", .first, none, none, some predicate, [], none⟩ rfl).1 rfl⟩

end NestedQuery.Sql
