import NestedQuery.Proofs.Sql.Spelling

set_option autoImplicit false

namespace NestedQuery.Sql

def patternText (dialect : Dialect) : Pattern → String
  -- The string that stands for a pattern; where case counts it is the `GLOB` one.
  | .like text ignoreCase =>
    if dialect = .sqlite && !ignoreCase then Pattern.likeToGlob text else text
  | .regex source ignoreCase =>
    if dialect = .sqlite && ignoreCase then "(?i)" ++ source else source

def negationPieces (negated : Bool) : List Piece := if negated then [.word "NOT"] else []

def operatorPieces (negated : Bool) : Pattern → List Piece
  | .like _ ignoreCase => negationPieces negated ++ [.word (if ignoreCase then "ILIKE" else "LIKE")]
  | .regex _ ignoreCase =>
    [.symbol ((if negated then "!~" else "~") ++ if ignoreCase then "*" else "")
      (by cases negated <;> cases ignoreCase <;> decide)]

def matchPieces (dialect : Dialect) (negated : Bool) (column : Column) (pattern : Pattern) :
    List Piece :=
  -- A dialect negates either the whole condition or its operator.
  let negation := negationPieces negated
  let text : Piece := .operand (patternText dialect pattern)
  match dialect, pattern with
  | .sqlite, .like _ ignoreCase =>
    negation ++ (column.pieces ++ [.word (if ignoreCase then "LIKE" else "GLOB"), text])
  | .sqlite, .regex _ _ =>
    negation ++
      ([.word "regexp", .symbol "(", text, .symbol ","] ++ column.pieces ++ [.symbol ")"])
  | .postgresql, pattern => column.pieces ++ operatorPieces negated pattern ++ [text]
  | .mysql, .like _ ignoreCase =>
    column.pieces ++ negation ++ [.word "LIKE"] ++ (if ignoreCase then [] else [.word "BINARY"]) ++
      [text]
  | .mysql, .regex _ ignoreCase =>
    negation ++
      ([.word "REGEXP_LIKE", .symbol "("] ++ column.pieces ++ [.symbol ",", text, .symbol ",",
        .constant (if ignoreCase then "i" else "c"), .symbol ")"])

theorem opening_not (dialect : Dialect) : Opening dialect "NOT " [.word "NOT"] :=
  ⟨by cases dialect <;> decide +kernel, by decide⟩

theorem spelled_sqliteMatching (column : Column) (pattern : Pattern) :
    Spelled .sqlite (Adapter.sqliteMatching (column.write .sqlite) pattern)
      (matchPieces .sqlite false column pattern) := by
  have subject := column.spelled .sqlite
  have text := spelled_quoteText .sqlite (patternText .sqlite pattern)
  cases pattern with
  | like source ignoreCase =>
    cases ignoreCase with
    | true =>
      have operator : Separator .sqlite " LIKE " [.word "LIKE"] :=
        .of_spelled (by decide +kernel) (by decide)
      have matched := subject.separated operator text
      exact matched
    | false =>
      have operator : Separator .sqlite " GLOB " [.word "GLOB"] :=
        .of_spelled (by decide +kernel) (by decide)
      have matched := subject.separated operator text
      exact matched
  | regex source ignoreCase =>
    have call : Opening .sqlite "regexp(" [.word "regexp", .symbol "("] :=
      ⟨by decide +kernel, by decide⟩
    have called := ((call.followed text).separated (separator_comma .sqlite) subject).ended
      (ending_close .sqlite)
    cases ignoreCase <;> exact called

theorem spelled_postgresqlOperator (negated : Bool) (pattern : Pattern) :
    Spelled .postgresql (Adapter.postgresqlOperator pattern negated)
      (operatorPieces negated pattern) := by
  cases pattern with
  | like source ignoreCase =>
    cases ignoreCase <;> cases negated <;>
      simp only [Adapter.postgresqlOperator, operatorPieces] <;> decide +kernel
  | regex source ignoreCase =>
    cases ignoreCase <;> cases negated <;>
      simp only [Adapter.postgresqlOperator, operatorPieces] <;> decide +kernel

theorem spelled_postgresqlMatching (negated : Bool) (column : Column) (pattern : Pattern) :
    Spelled .postgresql (Adapter.postgresqlMatching negated (column.write .postgresql) pattern)
      (matchPieces .postgresql negated column pattern) := by
  have subject := column.spelled .postgresql
  have text := spelled_quoteText .postgresql (patternText .postgresql pattern)
  have space := separator_space .postgresql
  have matched := (subject.separated space
    (spelled_postgresqlOperator negated pattern)).separated space text
  simp only [List.append_nil] at matched
  cases pattern <;> exact matched

theorem spelled_mysqlMatching (column : Column) (pattern : Pattern) :
    Spelled .mysql (Adapter.mysqlMatching (column.write .mysql) pattern)
      (matchPieces .mysql false column pattern) := by
  have subject := column.spelled .mysql
  have text := spelled_quoteText .mysql (patternText .mysql pattern)
  cases pattern with
  | like source ignoreCase =>
    cases ignoreCase with
    | true =>
      have operator : Separator .mysql " LIKE " [.word "LIKE"] :=
        .of_spelled (by decide +kernel) (by decide)
      have matched := subject.separated operator text
      exact matched
    | false =>
      have operator : Separator .mysql " LIKE BINARY " [.word "LIKE", .word "BINARY"] :=
        .of_spelled (by decide +kernel) (by decide)
      have matched := subject.separated operator text
      exact matched
  | regex source ignoreCase =>
    have call : Opening .mysql "REGEXP_LIKE(" [.word "REGEXP_LIKE", .symbol "("] :=
      ⟨by decide +kernel, by decide⟩
    have flag : Ending .mysql (", '" ++ (if ignoreCase then "i" else "c") ++ "')")
        [.symbol ",", .constant (if ignoreCase then "i" else "c"), .symbol ")"] := by
      cases ignoreCase <;> exact ⟨by decide +kernel, by decide⟩
    have called := ((call.followed subject).separated (separator_comma .mysql) text).ended flag
    simp only [← String.append_assoc] at called
    exact called

theorem spelled_mysqlNotMatching (column : Column) (pattern : Pattern) :
    Spelled .mysql (Adapter.mysqlNotMatching (column.write .mysql) pattern)
      (matchPieces .mysql true column pattern) := by
  have subject := column.spelled .mysql
  have text := spelled_quoteText .mysql (patternText .mysql pattern)
  cases pattern with
  | like source ignoreCase =>
    cases ignoreCase with
    | true =>
      have operator : Separator .mysql " NOT LIKE " [.word "NOT", .word "LIKE"] :=
        .of_spelled (by decide +kernel) (by decide)
      have matched := subject.separated operator text
      exact matched
    | false =>
      have operator : Separator .mysql " NOT LIKE BINARY "
          [.word "NOT", .word "LIKE", .word "BINARY"] :=
        .of_spelled (by decide +kernel) (by decide)
      have matched := subject.separated operator text
      exact matched
  | regex source ignoreCase =>
    exact (opening_not .mysql).followed (spelled_mysqlMatching column (.regex source ignoreCase))

theorem spelled_matching (dialect : Dialect) (column : Column) (pattern : Pattern) :
    Spelled dialect ((Adapter.ofDialect dialect).matching (column.write dialect) pattern)
      (matchPieces dialect false column pattern) :=
  match dialect with
  | .sqlite => spelled_sqliteMatching column pattern
  | .postgresql => spelled_postgresqlMatching false column pattern
  | .mysql => spelled_mysqlMatching column pattern

theorem spelled_notMatching (dialect : Dialect) (column : Column) (pattern : Pattern) :
    Spelled dialect ((Adapter.ofDialect dialect).notMatching (column.write dialect) pattern)
      (matchPieces dialect true column pattern) := by
  cases dialect with
  | sqlite =>
    have negated := (opening_not .sqlite).followed (spelled_sqliteMatching column pattern)
    cases pattern <;> exact negated
  | postgresql => exact spelled_postgresqlMatching true column pattern
  | mysql => exact spelled_mysqlNotMatching column pattern

@[simp] theorem dialect_ofDialect (dialect : Dialect) :
    (Adapter.ofDialect dialect).dialect = dialect := by
  cases dialect <;> rfl

def listPieces (values : List Operand) : List Piece :=
  [.symbol "("] ++ [.symbol ","].intercalate (values.map operandPieces) ++ [.symbol ")"]

theorem spelled_list (dialect : Dialect) (values : List Operand) :
    Spelled dialect ("(" ++ ", ".intercalate (values.map (Operand.write dialect)) ++ ")")
      (listPieces values) :=
  ((separator_comma dialect).intercalate_map fun value _ => spelled_operand dialect value).within
    (separator_open dialect).toOpening (ending_close dialect)

def conditionPieces (dialect : Dialect) (condition : Condition Column Operand) : List Piece :=
  let column := condition.subject
  match condition.test with
  | .compare comparison value =>
    column.pieces ++ [.symbol comparison.symbol (by cases comparison <;> decide)] ++
      operandPieces value
  | .isNull => column.pieces ++ [.word "IS", .word "NULL"]
  | .isNotNull => column.pieces ++ [.word "IS", .word "NOT", .word "NULL"]
  | .between low high =>
    column.pieces ++ [.word "BETWEEN"] ++ operandPieces low ++ [.word "AND"] ++ operandPieces high
  | .oneOf [] => [.number "1", .symbol "=", .number "0"]
  | .oneOf values => column.pieces ++ [.word "IN"] ++ listPieces values
  | .noneOf [] => [.number "1", .symbol "=", .number "1"]
  | .noneOf values => column.pieces ++ [.word "NOT", .word "IN"] ++ listPieces values
  | .like pattern => matchPieces dialect false column pattern
  | .notLike pattern => matchPieces dialect true column pattern

theorem spelled_condition (dialect : Dialect) (condition : Condition Column Operand) :
    Spelled dialect (writeCondition (.ofDialect dialect) condition)
      (conditionPieces dialect condition) := by
  obtain ⟨column, test⟩ := condition
  have subject := column.spelled dialect
  have space := separator_space dialect
  simp only [writeCondition, conditionPieces, dialect_ofDialect]
  cases test with
  | compare comparison value =>
    have operator : Spelled dialect comparison.symbol
          [.symbol comparison.symbol (by cases comparison <;> decide)] := by
      cases comparison <;> cases dialect <;> decide +kernel
    have compared := (subject.separated space operator).separated space
      (spelled_operand dialect value)
    simpa only [List.append_nil] using compared
  | isNull =>
    exact subject.ended ⟨by cases dialect <;> decide +kernel, by decide⟩
  | isNotNull =>
    exact subject.ended ⟨by cases dialect <;> decide +kernel, by decide⟩
  | between low high =>
    have lower : Separator dialect " BETWEEN " [.word "BETWEEN"] :=
      .of_spelled (by cases dialect <;> decide +kernel) (by decide)
    have upper : Separator dialect " AND " [.word "AND"] :=
      .of_spelled (by cases dialect <;> decide +kernel) (by decide)
    exact (subject.separated lower (spelled_operand dialect low)).separated upper
      (spelled_operand dialect high)
  | oneOf values =>
    cases values with
    | nil =>
      have nowhere : Spelled dialect "1 = 0" [.number "1", .symbol "=", .number "0"] := by
        cases dialect <;> decide +kernel
      exact nowhere
    | cons value values =>
      have operator : Separator dialect " IN " [.word "IN"] :=
        .of_spelled (by cases dialect <;> decide +kernel) (by decide)
      exact subject.separated operator (spelled_list dialect (value :: values))
  | noneOf values =>
    cases values with
    | nil =>
      have anywhere : Spelled dialect "1 = 1" [.number "1", .symbol "=", .number "1"] := by
        cases dialect <;> decide +kernel
      exact anywhere
    | cons value values =>
      have operator : Separator dialect " NOT IN " [.word "NOT", .word "IN"] :=
        .of_spelled (by cases dialect <;> decide +kernel) (by decide)
      exact subject.separated operator (spelled_list dialect (value :: values))
  | like pattern => exact spelled_matching dialect column pattern
  | notLike pattern => exact spelled_notMatching dialect column pattern

mutual

def predicatePieces (dialect : Dialect) : Predicate → List Piece
  | .leaf condition => conditionPieces dialect condition
  | .group connective parts =>
    [.symbol "("] ++ [.word connective.keyword].intercalate (partPieces dialect parts) ++
      [.symbol ")"]

def partPieces (dialect : Dialect) : List Predicate → List (List Piece)
  | [] => []
  | part :: rest => predicatePieces dialect part :: partPieces dialect rest

end

theorem separator_connective (dialect : Dialect) (connective : Connective) :
    Separator dialect (" " ++ connective.keyword ++ " ") [.word connective.keyword] := by
  cases connective <;> exact .of_spelled (by cases dialect <;> decide +kernel) (by decide)

theorem writeParts_eq_map (adapter : Adapter) (parts : List Predicate) :
    writeParts adapter parts = parts.map (writePredicate adapter) := by
  induction parts with
  | nil => rfl
  | cons part rest ih => rw [writeParts, ih, List.map_cons]

theorem partPieces_eq_map (dialect : Dialect) (parts : List Predicate) :
    partPieces dialect parts = parts.map (predicatePieces dialect) := by
  induction parts with
  | nil => rfl
  | cons part rest ih => rw [partPieces, ih, List.map_cons]

mutual

theorem spelled_predicate (dialect : Dialect) : ∀ predicate : Predicate,
    Spelled dialect (writePredicate (.ofDialect dialect) predicate)
      (predicatePieces dialect predicate)
  | .leaf condition => spelled_condition dialect condition
  | .group connective parts => by
    rw [writePredicate, predicatePieces, writeParts_eq_map, partPieces_eq_map]
    exact ((separator_connective dialect connective).intercalate_map
      (spelled_parts dialect parts)).within (separator_open dialect).toOpening
      (ending_close dialect)

theorem spelled_parts (dialect : Dialect) : ∀ parts : List Predicate, ∀ part ∈ parts,
    Spelled dialect (writePredicate (.ofDialect dialect) part) (predicatePieces dialect part)
  | [] => by simp
  | part :: rest => fun other mem => by
    rcases List.mem_cons.1 mem with first | mem
    · rw [first]
      exact spelled_predicate dialect part
    · exact spelled_parts dialect rest other mem

end

def equalityPieces (left right : Column) : List Piece :=
  left.pieces ++ [.symbol "="] ++ right.pieces

theorem spelled_equality (dialect : Dialect) (left right : Column) :
    Spelled dialect (writeEquality dialect left right) (equalityPieces left right) := by
  have operator : Separator dialect " = " [.symbol "="] :=
    .of_spelled (by cases dialect <;> decide +kernel) (by decide)
  exact (left.spelled dialect).separated operator (right.spelled dialect)

end NestedQuery.Sql
