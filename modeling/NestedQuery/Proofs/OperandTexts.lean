import NestedQuery.Proofs.SameShape

set_option autoImplicit false

namespace NestedQuery

def Literal.texts (type : FieldType) : Literal → List String
  | .text s =>
    match type with
    | .date => []
    | .scalar | .boolean => [s]
  | _ => []

def Test.texts (dialect : Dialect) (type : FieldType) : Test Literal → List String
  | .compare _ value => value.texts type
  | .isNull | .isNotNull => []
  | .between low high => low.texts type ++ high.texts type
  | .oneOf values | .noneOf values => values.flatMap (Literal.texts type)
  | .like pattern | .notLike pattern => [Sql.patternText dialect pattern]

mutual

def Where.texts (schema : Schema) (dialect : Dialect) (entity : String) : Where → List String
  | .leaf ⟨field, test⟩ => test.texts dialect (schema.fieldType entity field)
  | .group _ parts => partTexts schema dialect entity parts

def partTexts (schema : Schema) (dialect : Dialect) (entity : String) : List Where → List String
  | [] => []
  | part :: rest => Where.texts schema dialect entity part ++ partTexts schema dialect entity rest

end

mutual

/-- The texts of a filter's operands in the order of the statement, which has the relations of a
level before its conditions. -/
def Filter.texts (schema : Schema) (dialect : Dialect) (entity : String) : Filter → List String
  | ⟨condition, _, _, _, _, includes⟩ =>
    includedTexts schema dialect entity includes ++
      (condition.map (Where.texts schema dialect entity)).getD []

def includedTexts (schema : Schema) (dialect : Dialect) (entity : String) :
    List (Include Filter) → List String
  | [] => []
  | ⟨name, scope⟩ :: rest =>
    (match schema.relation entity name, scope with
      | .ok relation, some scope => scope.texts schema dialect relation.target
      | .ok _, none => []
      | .error _, _ => []) ++ includedTexts schema dialect entity rest

end

theorem includedTexts_cons {schema : Schema} {entity name : String} {dialect : Dialect}
    {relation : Relation}
    (related : schema.relation entity name = .ok relation) (scope : Option Filter)
    (rest : List (Include Filter)) :
    includedTexts schema dialect entity (⟨name, scope⟩ :: rest) =
      (scope.getD {}).texts schema dialect relation.target ++
        includedTexts schema dialect entity rest := by
  rw [includedTexts.eq_def]
  cases scope <;> simp [related, Filter.texts, includedTexts]

namespace Sql

@[simp] def Piece.text? : Piece → Option String
  | .operand text => some text
  | _ => none

end Sql

namespace Compile

open Sql

variable {schema : Schema} {dialect : Dialect}

def textsOf (pieces : List Piece) : List String := pieces.filterMap Piece.text?

@[simp] theorem textsOf_append (p q : List Piece) : textsOf (p ++ q) = textsOf p ++ textsOf q :=
  List.filterMap_append

@[simp] theorem textsOf_cons (piece : Piece) (rest : List Piece) :
    textsOf (piece :: rest) = piece.text?.toList ++ textsOf rest := by
  cases h : piece.text? with
  | none => exact List.filterMap_cons_none h
  | some text => exact List.filterMap_cons_some h

@[simp] theorem textsOf_nil : textsOf [] = [] := rfl

@[simp] theorem textsOf_column (column : Column) : textsOf column.pieces = [] := rfl

theorem textsOf_intercalate {r : List Piece} (constant : textsOf r = []) (ps : List (List Piece)) :
    textsOf (r.intercalate ps) = ps.flatMap textsOf := by
  induction ps with
  | nil => rfl
  | cons p rest ih =>
    cases rest with
    | nil => simp
    | cons q rest =>
      rw [List.intercalate_cons_cons, textsOf_append, textsOf_append, ih, constant]
      simp

theorem textsOf_signed (negative : Bool) (digits : String) :
    textsOf (signed negative digits) = [] := by
  cases negative <;> rfl

theorem textsOf_scalar {literal : Literal} {placed : Operand}
    (h : literal.toOperand .scalar = .ok placed) :
    textsOf (operandPieces placed) = literal.texts .scalar := by
  cases literal with
  | bool b =>
    cases h
    cases b <;> rfl
  | int n =>
    cases h
    exact textsOf_signed _ _
  | uint n =>
    cases h
    exact textsOf_signed _ _
  | float x =>
    simp only [Literal.toOperand] at h
    split at h
    · cases h
      exact textsOf_signed _ _
    · cases h
  | text s =>
    cases h
    rfl
  | timestamp t =>
    cases h
    rfl

theorem textsOf_toOperand {type : FieldType} {literal : Literal} {placed : Operand}
    (h : literal.toOperand type = .ok placed) :
    textsOf (operandPieces placed) = literal.texts type := by
  cases type with
  | date =>
    obtain ⟨t, -, rfl⟩ := map_eq_ok.1 h
    cases literal <;> rfl
  | scalar => exact textsOf_scalar h
  | boolean =>
    rw [textsOf_scalar h]
    cases literal <;> rfl

theorem textsOf_operand {entity field : String} {literal : Literal} {placed : Operand}
    (h : operand schema entity field literal = .ok placed) :
    textsOf (operandPieces placed) = literal.texts (schema.fieldType entity field) := by
  unfold operand at h
  split at h
  next resolved =>
    cases h
    exact textsOf_toOperand resolved
  · cases h

theorem textsOf_operands {entity field : String} {values : List Literal} {placed : List Operand}
    (h : values.mapM (operand schema entity field) = .ok placed) :
    placed.flatMap (fun value => textsOf (operandPieces value)) =
      values.flatMap (Literal.texts (schema.fieldType entity field)) := by
  induction values generalizing placed with
  | nil =>
    cases h
    rfl
  | cons value rest ih =>
    rw [List.mapM_cons] at h
    obtain ⟨first, resolved, h⟩ := bind_eq_ok.1 h
    obtain ⟨others, resolved', h⟩ := bind_eq_ok.1 h
    cases h
    rw [List.flatMap_cons, List.flatMap_cons, textsOf_operand resolved, ih resolved']

theorem textsOf_list (values : List Operand) :
    textsOf (listPieces values) = values.flatMap fun value => textsOf (operandPieces value) := by
  have comma : textsOf [.symbol ","] = [] := rfl
  rw [listPieces, textsOf_append, textsOf_append, textsOf_intercalate comma, List.flatMap_map]
  exact List.append_nil _

theorem textsOf_match (negated : Bool) (column : Column) (pattern : Pattern) :
    textsOf (matchPieces dialect negated column pattern) = [patternText dialect pattern] := by
  have negation : textsOf (negationPieces negated) = [] := by cases negated <;> rfl
  have binary (ignoreCase : Bool) :
      textsOf (if ignoreCase then [] else [.word "BINARY"]) = [] := by cases ignoreCase <;> rfl
  cases dialect <;> cases pattern <;>
    simp only [matchPieces, operatorPieces, textsOf_append, negation, binary] <;> rfl

theorem textsOf_condition {entity field : String} {test : Test Literal} {placed : Test Operand}
    (h : resolveTest (operand schema entity field) test = .ok placed) (column : Column) :
    textsOf (conditionPieces dialect ⟨column, placed⟩) =
      test.texts dialect (schema.fieldType entity field) := by
  cases test with
  | compare comparison value =>
    obtain ⟨resolved, found, rfl⟩ := map_eq_ok.1 h
    exact textsOf_operand found
  | isNull =>
    cases h
    rfl
  | isNotNull =>
    cases h
    rfl
  | between low high =>
    obtain ⟨lower, found, h⟩ := bind_eq_ok.1 h
    obtain ⟨upper, found', h⟩ := bind_eq_ok.1 h
    cases h
    rw [Test.texts, ← textsOf_operand found, ← textsOf_operand found']
    simp [conditionPieces]
  | oneOf values =>
    obtain ⟨resolved, found, rfl⟩ := map_eq_ok.1 h
    rw [Test.texts, ← textsOf_operands found]
    cases resolved with
    | nil => rfl
    | cons value rest =>
      rw [← textsOf_list]
      rfl
  | noneOf values =>
    obtain ⟨resolved, found, rfl⟩ := map_eq_ok.1 h
    rw [Test.texts, ← textsOf_operands found]
    cases resolved with
    | nil => rfl
    | cons value rest =>
      rw [← textsOf_list]
      rfl
  | like pattern =>
    cases h
    exact textsOf_match false column pattern
  | notLike pattern =>
    cases h
    exact textsOf_match true column pattern

mutual

theorem textsOf_predicate {entity : String} {tableAlias : Alias} {tree : Where}
    {predicate : Predicate} (resolved : Resolved schema entity tableAlias tree predicate) :
    textsOf (predicatePieces dialect predicate) = tree.texts schema dialect entity := by
  cases resolved with
  | leaf operands => exact textsOf_condition operands _
  | @group connective parts predicates somePart resolved =>
    have keyword : textsOf [.word connective.keyword] = [] := rfl
    rw [predicatePieces, Where.texts, textsOf_append, textsOf_append, textsOf_intercalate keyword,
      textsOf_parts resolved]
    exact List.append_nil _

theorem textsOf_parts {entity : String} {tableAlias : Alias} {parts : List Where}
    {predicates : List Predicate}
    (resolved : ResolvedParts schema entity tableAlias parts predicates) :
    (partPieces dialect predicates).flatMap textsOf = partTexts schema dialect entity parts := by
  cases resolved with
  | nil => rfl
  | cons resolved others =>
    rw [partPieces, partTexts, List.flatMap_cons, textsOf_predicate resolved, textsOf_parts others]

end

theorem textsOf_correlation (correlation : Correlation) :
    textsOf (correlationPieces correlation) = [] := by
  cases correlation <;> rfl

theorem textsOf_join (join : Option Join) : textsOf ((join.map joinPieces).getD []) = [] := by
  rcases join with _ | _ | _ <;> rfl

theorem textsOf_order (order : List OrderItem) : textsOf (orderPieces order) = [] := by
  have comma : textsOf [.symbol ","] = [] := rfl
  rw [orderPieces, textsOf_intercalate comma, List.flatMap_map, List.flatMap_eq_nil_iff]
  intro item _
  cases item with
  | mk column direction => cases direction <;> rfl

theorem textsOf_page (page : Option Page) : textsOf ((page.map pagePieces).getD []) = [] := by
  rcases page with _ | ⟨limit, offset⟩
  · rfl
  · cases offset <;> rfl

theorem textsOf_rows (rows : Rows) :
    textsOf (rowsPieces dialect rows) =
      (rows.predicate.map fun predicate => textsOf (predicatePieces dialect predicate)).getD [] := by
  have restriction : textsOf (restrictionPieces dialect rows) =
      (rows.predicate.map fun predicate => textsOf (predicatePieces dialect predicate)).getD [] := by
    unfold restrictionPieces
    cases rows.correlation with
    | none => cases rows.predicate <;> rfl
    | some correlation =>
      cases rows.predicate <;> simp only [textsOf_append, textsOf_correlation] <;> rfl
  have order : textsOf (if rows.order.isEmpty then []
      else [.word "ORDER", .word "BY"] ++ orderPieces rows.order) = [] := by
    split
    · rfl
    · exact textsOf_order rows.order
  rw [rowsPieces, textsOf_append, textsOf_append, textsOf_append, textsOf_append, restriction, order,
    textsOf_join, textsOf_page, List.append_nil, List.append_nil, List.append_nil]
  rfl

theorem textsOf_source (adapter : Adapter) (plural : Bool) (rows : Rows) :
    textsOf (sourcePieces dialect (sourceOf adapter plural rows)) =
      textsOf (rowsPieces dialect rows) := by
  unfold sourceOf
  split
  · rw [sourcePieces, textsOf_append, textsOf_append, textsOf_append]
    split <;> exact (List.append_nil _).trans (List.append_nil _)
  · rfl

theorem textsOf_pairs (fields : List (String × List Piece)) :
    textsOf (pairPieces fields) = fields.flatMap fun field => textsOf field.2 := by
  have comma : textsOf [.symbol ","] = [] := rfl
  rw [pairPieces, textsOf_intercalate comma, List.flatMap_map]
  rfl

theorem textsOf_array (pairs : List Piece) (order : List OrderItem) :
    textsOf (arrayPieces dialect pairs (if order.isEmpty then none else some (orderPieces order))) =
      textsOf pairs := by
  have noneOrdered := textsOf_order order
  split <;> cases dialect <;> simp [arrayPieces, noneOrdered]

theorem textsOf_object (pairs : List Piece) :
    textsOf (objectPieces dialect pairs) = textsOf pairs := by
  cases dialect <;> simp [objectPieces]

theorem textsOf_embed (pieces : List Piece) :
    textsOf (embedPieces dialect pieces) = textsOf pieces := by
  cases dialect <;> simp [embedPieces]

theorem textsOf_select (plural : Bool) (columns : List (String × Column))
    (relations : List (String × Select)) (source : Source) :
    textsOf (selectPieces dialect ⟨plural, columns, relations, source⟩) =
      (relationPieces dialect relations).flatMap (fun field => textsOf field.2) ++
        textsOf (sourcePieces dialect source) := by
  have own : (columns.map fun column => (column.1, column.2.pieces)).flatMap
      (fun field => textsOf field.2) = [] := by
    rw [List.flatMap_map, List.flatMap_eq_nil_iff]
    exact fun column _ => textsOf_column column.2
  have value (pairs : List Piece) : textsOf
      (if plural then
        arrayPieces dialect pairs
          (if source.rows.order.isEmpty then none else some (orderPieces source.rows.order))
      else objectPieces dialect pairs) = textsOf pairs := by
    cases plural with
    | true => exact textsOf_array pairs source.rows.order
    | false => exact textsOf_object pairs
  simp only [selectPieces, textsOf_append, value, textsOf_pairs, List.flatMap_append, own]
  simp

mutual

theorem textsOf_planned {entity : String} {place : Level} {filter : Filter} {select : Select}
    {last : Alias} (planned : Planned schema (.ofDialect dialect) entity place filter select last) :
    textsOf (selectPieces dialect select) = filter.texts schema dialect entity := by
  cases planned with
  | level named listed included supported resolved =>
    rw [textsOf_select, textsOf_source, textsOf_rows, textsOf_plannedIncludes included]
    obtain ⟨condition, order, limit, skip, fields, includes⟩ := filter
    rw [Filter.texts]
    rcases option_mapM_eq_ok.1 resolved with ⟨rfl, rfl⟩ | ⟨tree, placed, rfl, rfl, compiled⟩
    · rfl
    · exact congrArg _ (textsOf_predicate (resolved_iff.2 compiled))

theorem textsOf_plannedIncludes {entity : String} {parent last final : Alias}
    {includes : List (Include Filter)} {selects : List (String × Select)}
    (planned : PlannedIncludes schema (.ofDialect dialect) entity parent last includes selects
      final) :
    (relationPieces dialect selects).flatMap (fun field => textsOf field.2) =
      includedTexts schema dialect entity includes := by
  cases planned with
  | nil => rfl
  | cons related placed planned others =>
    rw [relationPieces, includedTexts_cons related, List.flatMap_cons, textsOf_embed,
      textsOf_planned planned, textsOf_plannedIncludes others]

end

end Compile

theorem Sql.Piece.token_inside (piece : Sql.Piece) :
    piece.token ≠ .symbol ";" ∧ piece.token ≠ .comment := by
  cases piece with
  | symbol text inside => simpa [Sql.Piece.token] using inside
  | _ => simp [Sql.Piece.token]

theorem compile_same {schema : Schema} {dialect : Dialect} {entity : String}
    {first second : Filter}
    (same : first.eraseTexts schema entity = second.eraseTexts schema entity) {options : Options}
    {text : String} (h : compile schema (.ofDialect dialect) entity first options = .ok text) :
    ∃ text', compile schema (.ofDialect dialect) entity second options = .ok text' := by
  obtain ⟨select, last, aggregates, supported, planned, -⟩ := compile_eq_ok.1 h
  obtain ⟨select', planned', -⟩ := Compile.planned_same same planned
  exact ⟨_, compile_eq_ok.2 ⟨select', last, aggregates, supported, planned', rfl⟩⟩

/-- The texts of operands and patterns decide neither whether a filter compiles nor any token of
the statement but the strings that hold them. -/
theorem compile_texts (schema : Schema) (dialect : Dialect) (entity : String)
    (first second : Filter)
    (same : first.eraseTexts schema entity = second.eraseTexts schema entity)
    (tableAlias : Alias) (plural : Bool) :
    ((∃ text, compile schema (.ofDialect dialect) entity first { tableAlias, plural } = .ok text) ↔
      ∃ text, compile schema (.ofDialect dialect) entity second { tableAlias, plural } = .ok text) ∧
    ∀ text text',
      compile schema (.ofDialect dialect) entity first { tableAlias, plural } = .ok text →
      compile schema (.ofDialect dialect) entity second { tableAlias, plural } = .ok text' →
      ∃ pieces pieces' : List Sql.Piece,
        Sql.lex dialect text.toList = some (pieces.map Sql.Piece.token) ∧
        Sql.lex dialect text'.toList = some (pieces'.map Sql.Piece.token) ∧
        pieces.map Sql.Piece.fixed? = pieces'.map Sql.Piece.fixed? ∧
        pieces.filterMap Sql.Piece.text? = first.texts schema dialect entity ∧
        pieces'.filterMap Sql.Piece.text? = second.texts schema dialect entity ∧
        ∀ token ∈ (pieces ++ pieces').map Sql.Piece.token,
          token ≠ .symbol ";" ∧ token ≠ .comment := by
  refine ⟨⟨fun ⟨_, h⟩ => compile_same same h, fun ⟨_, h⟩ => compile_same same.symm h⟩, ?_⟩
  intro text text' h h'
  obtain ⟨select, last, aggregates, supported, planned, rfl⟩ := compile_eq_ok.1 h
  obtain ⟨select', last', aggregates', supported', planned', rfl⟩ := compile_eq_ok.1 h'
  obtain ⟨other, replanned, shape⟩ := Compile.planned_same same planned
  obtain ⟨rfl, rfl⟩ : other = select' ∧ last = last' := by
    have once := (Compile.plan_of_planned replanned).symm.trans (Compile.plan_of_planned planned')
    simpa using once
  have composed : (Compile.Level.ofOptions { tableAlias, plural }).Composed :=
    ⟨fun _ => by simp [Compile.Level.ofOptions], fun _ => by simp [Compile.Level.ofOptions]⟩
  refine ⟨_, _, Compile.planned_spelled supported planned composed,
    Compile.planned_spelled supported' replanned composed, shape, Compile.textsOf_planned planned,
    Compile.textsOf_planned replanned, ?_⟩
  intro token mem
  obtain ⟨piece, -, rfl⟩ := List.mem_map.1 mem
  exact piece.token_inside

def Sample.named (name pattern : String) : Filter where
  condition := some (Where.eq "name" (.text name))
  includes :=
    [⟨"orders", some
      { includes := [⟨"items", some
        { condition := some (Where.test "sku" (.like (.like pattern false))) }⟩] }⟩]

theorem compile_texts_shop :
    ∃ text text',
      compile Sample.shop .mysql "Customer" (Sample.named "Ann" "A%") {} = .ok text ∧
      compile Sample.shop .mysql "Customer" (Sample.named "\\' OR 1 = 1; -- " "'") {} = .ok text' ∧
      ∃ pieces pieces' : List Sql.Piece,
        Sql.lex .mysql text.toList = some (pieces.map Sql.Piece.token) ∧
        Sql.lex .mysql text'.toList = some (pieces'.map Sql.Piece.token) ∧
        pieces.map Sql.Piece.fixed? = pieces'.map Sql.Piece.fixed? ∧
        pieces.filterMap Sql.Piece.text? = ["A%", "Ann"] ∧
        pieces'.filterMap Sql.Piece.text? = ["'", "\\' OR 1 = 1; -- "] := by
  obtain ⟨compiles, alike⟩ := compile_texts Sample.shop .mysql "Customer" (Sample.named "Ann" "A%")
    (Sample.named "\\' OR 1 = 1; -- " "'") rfl .first false
  have first : ∃ text,
      compile Sample.shop .mysql "Customer" (Sample.named "Ann" "A%") {} = .ok text := ⟨_, rfl⟩
  obtain ⟨text', h'⟩ := compiles.1 first
  obtain ⟨text, h⟩ := first
  obtain ⟨pieces, pieces', lexed, lexed', shape, texts, texts', -⟩ := alike text text' h h'
  exact ⟨text, text', h, h', pieces, pieces', lexed, lexed', shape, texts, texts'⟩

end NestedQuery
