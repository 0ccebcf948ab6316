import NestedQuery.Proofs.Plan
import NestedQuery.Proofs.Sql.ConditionSpelling

set_option autoImplicit false

namespace NestedQuery.Sql

def joinPieces : Join → List Piece
  | .inner table tableAlias left right =>
    [.word "INNER", .word "JOIN", .name table, .word "AS", .table tableAlias, .word "ON"] ++
      equalityPieces left right
  | .given _ => []

def correlationPieces : Correlation → List Piece
  | .equal left right => equalityPieces left right
  | .given _ => []

def orderItemPieces (item : OrderItem) : List Piece :=
  item.column.pieces ++ (item.direction.map fun direction => .word direction.keyword).toList

def orderPieces (order : List OrderItem) : List Piece :=
  [.symbol ","].intercalate (order.map orderItemPieces)

def pagePieces (page : Page) : List Piece :=
  [.word "LIMIT", .number (toString page.limit.toNat)] ++
    match page.offset with
    | some offset => [.word "OFFSET", .number (toString offset.toNat)]
    | none => []

structure Rows.Composed (rows : Rows) : Prop where
  join : ∀ text, rows.join ≠ some (.given text)
  correlation : ∀ text, rows.correlation ≠ some (.given text)

def restrictionPieces (dialect : Dialect) (rows : Rows) : List Piece :=
  match rows.correlation, rows.predicate with
  | none, none => []
  | some correlation, none => [.word "WHERE"] ++ correlationPieces correlation
  | none, some predicate => [.word "WHERE"] ++ predicatePieces dialect predicate
  | some correlation, some predicate =>
    [.word "WHERE"] ++ correlationPieces correlation ++ [.word "AND"] ++
      predicatePieces dialect predicate

def rowsPieces (dialect : Dialect) (rows : Rows) : List Piece :=
  [.name rows.table, .word "AS", .table rows.tableAlias] ++ (rows.join.map joinPieces).getD [] ++
    restrictionPieces dialect rows ++
    (if rows.order.isEmpty then [] else [.word "ORDER", .word "BY"] ++ orderPieces rows.order) ++
    (rows.page.map pagePieces).getD []

theorem separator_as (dialect : Dialect) : Separator dialect " AS " [.word "AS"] :=
  .of_spelled (by cases dialect <;> decide +kernel) (by decide)

theorem spelled_join (dialect : Dialect) {join : Join} (composed : ∀ text, join ≠ .given text) :
    Spelled dialect (join.write dialect) (joinPieces join) := by
  cases join with
  | given text => exact absurd rfl (composed text)
  | inner table tableAlias left right =>
    have opening : Opening dialect "INNER JOIN " [.word "INNER", .word "JOIN"] :=
      ⟨by cases dialect <;> decide +kernel, by decide⟩
    have on : Separator dialect " ON " [.word "ON"] :=
      .of_spelled (by cases dialect <;> decide +kernel) (by decide)
    exact ((opening.followed (spelled_quoteName dialect table)).separated (separator_as dialect)
      (spelled_alias dialect tableAlias)).separated on (spelled_equality dialect left right)

theorem spelled_correlation (dialect : Dialect) {correlation : Correlation}
    (composed : ∀ text, correlation ≠ .given text) :
    Spelled dialect (correlation.write dialect) (correlationPieces correlation) := by
  cases correlation with
  | given text => exact absurd rfl (composed text)
  | equal left right => exact spelled_equality dialect left right

theorem spelled_orderItem (dialect : Dialect) (item : OrderItem) :
    Spelled dialect (item.write dialect) (orderItemPieces item) := by
  obtain ⟨column, direction⟩ := item
  have subject := column.spelled dialect
  cases direction with
  | none => exact subject
  | some direction =>
    have keyword : Spelled dialect direction.keyword [.word direction.keyword] := by
      cases direction <;> cases dialect <;> decide +kernel
    exact subject.separated (separator_space dialect) keyword

theorem spelled_order (dialect : Dialect) (order : List OrderItem) :
    Spelled dialect (writeOrder dialect order) (orderPieces order) :=
  (separator_comma dialect).intercalate_map fun item _ => spelled_orderItem dialect item

theorem ending_page (dialect : Dialect) (page : Page) :
    Ending dialect page.write (pagePieces page) := by
  obtain ⟨limit, offset⟩ := page
  have first : Separator dialect " LIMIT " [.word "LIMIT"] :=
    .of_spelled (by cases dialect <;> decide +kernel) (by decide)
  have second : Separator dialect " OFFSET " [.word "OFFSET"] :=
    .of_spelled (by cases dialect <;> decide +kernel) (by decide)
  have limited := first.ending (spelled_toString dialect limit.toNat)
  cases offset with
  | none => exact limited.append (.empty dialect)
  | some offset => exact limited.append (second.ending (spelled_toString dialect offset.toNat))

theorem ending_restriction (dialect : Dialect) {rows : Rows} (composed : rows.Composed) :
    Ending dialect
      (if (rows.conditions (.ofDialect dialect)).isEmpty then ""
        else " WHERE " ++ " AND ".intercalate (rows.conditions (.ofDialect dialect)))
      (restrictionPieces dialect rows) := by
  have opening : Separator dialect " WHERE " [.word "WHERE"] :=
    .of_spelled (by cases dialect <;> decide +kernel) (by decide)
  have conjunction : Separator dialect " AND " [.word "AND"] :=
    .of_spelled (by cases dialect <;> decide +kernel) (by decide)
  obtain ⟨table, tableAlias, join, correlation, predicate, order, page⟩ := rows
  have tied := composed.correlation
  simp only [Rows.conditions, restrictionPieces, dialect_ofDialect] at tied ⊢
  cases correlation with
  | none =>
    cases predicate with
    | none => exact .empty dialect
    | some predicate => exact opening.ending (spelled_predicate dialect predicate)
  | some correlation =>
    have tie := spelled_correlation dialect fun text same => tied text (congrArg some same)
    cases predicate with
    | none => exact opening.ending tie
    | some predicate =>
      have both := tie.separated conjunction (spelled_predicate dialect predicate)
      have restricted := opening.ending both
      simp only [← List.append_assoc] at restricted
      exact restricted

theorem spelled_rows (dialect : Dialect) {rows : Rows} (composed : rows.Composed) :
    Spelled dialect (rows.write (.ofDialect dialect)) (rowsPieces dialect rows) := by
  have table := (spelled_quoteName dialect rows.table).separated (separator_as dialect)
    (spelled_alias dialect rows.tableAlias)
  have join : Ending dialect
      (rows.join.elim "" fun join => " " ++ join.write dialect)
      ((rows.join.map joinPieces).getD []) := by
    have joined := composed.join
    cases h : rows.join with
    | none => exact .empty dialect
    | some join =>
      exact (separator_space dialect).ending
        (spelled_join dialect fun text same => joined text (h.trans (congrArg some same)))
  have order : Ending dialect
      (if rows.order.isEmpty then "" else " ORDER BY " ++ writeOrder dialect rows.order)
      (if rows.order.isEmpty then [] else [.word "ORDER", .word "BY"] ++ orderPieces rows.order) := by
    have opening : Separator dialect " ORDER BY " [.word "ORDER", .word "BY"] :=
      .of_spelled (by cases dialect <;> decide +kernel) (by decide)
    split
    · exact .empty dialect
    · exact opening.ending (spelled_order dialect rows.order)
  have page : Ending dialect (rows.page.elim "" Page.write)
      ((rows.page.map pagePieces).getD []) := by
    cases rows.page with
    | none => exact .empty dialect
    | some page => exact ending_page dialect page
  have restriction := ending_restriction dialect composed
  have whole := (((table.ended join).ended restriction).ended order).ended page
  simp only [Rows.write, dialect_ofDialect]
  exact whole

def sourcePieces (dialect : Dialect) : Source → List Piece
  | .direct rows => rowsPieces dialect rows
  | .derived rows cutToOne =>
    [.symbol "(", .word "SELECT", .table rows.tableAlias, .symbol ".", .symbol "*",
        .word "FROM"] ++ rowsPieces dialect rows ++
      [.symbol ")", .word "AS", .table rows.tableAlias] ++
      if cutToOne then [.word "LIMIT", .number "1"] else []

theorem opening_star (dialect : Dialect) (tableAlias : Alias) :
    Opening dialect (tableAlias.write ++ ".* FROM ")
      [.table tableAlias, .symbol ".", .symbol "*", .word "FROM"] where
  spelled := by
    have star : Spelled dialect "* FROM " [.symbol "*", .word "FROM"] := by
      cases dialect <;> decide +kernel
    have dotted := spelled_dotted tableAlias star
    rw [String.append_assoc] at dotted
    exact dotted
  closed := by
    rw [String.toList_append]
    exact Closed.append_left (by decide) (by decide) _

theorem spelled_source (dialect : Dialect) {source : Source} (composed : source.rows.Composed) :
    Spelled dialect (source.write (.ofDialect dialect)) (sourcePieces dialect source) := by
  cases source with
  | direct rows => exact spelled_rows dialect composed
  | derived rows cutToOne =>
    have level : Spelled dialect (rows.write (.ofDialect dialect)) (rowsPieces dialect rows) :=
      spelled_rows dialect composed
    have opening : Opening dialect "(SELECT " [.symbol "(", .word "SELECT"] :=
      ⟨by cases dialect <;> decide +kernel, by decide⟩
    have closing : Separator dialect ") AS " [.symbol ")", .word "AS"] :=
      .of_spelled (by cases dialect <;> decide +kernel) (by decide)
    have cut : Ending dialect (if cutToOne then " LIMIT 1" else "")
        (if cutToOne then [.word "LIMIT", .number "1"] else []) := by
      cases cutToOne with
      | false => exact .empty dialect
      | true => exact ⟨by cases dialect <;> decide +kernel, by decide⟩
    have inner := (opening.append (opening_star dialect rows.tableAlias)).followed level
    have whole := (inner.separated closing (spelled_alias dialect rows.tableAlias)).ended cut
    simp only [Source.write]
    simp only [← String.append_assoc] at whole
    simpa only [sourcePieces, List.append_assoc, List.cons_append, List.nil_append] using whole

def arrayPieces (dialect : Dialect) (pairs : List Piece) (order : Option (List Piece)) :
    List Piece :=
  match dialect with
  | .sqlite =>
    [.word "json_group_array", .symbol "(", .word "json_object", .symbol "("] ++ pairs ++
      [.symbol ")", .symbol ")"]
  | .postgresql =>
    [.word "COALESCE", .symbol "(", .word "json_agg", .symbol "(", .word "json_build_object",
        .symbol "("] ++ pairs ++ [.symbol ")"] ++
      ((order.map fun order => [.word "ORDER", .word "BY"] ++ order).getD []) ++
      [.symbol ")", .symbol ",", .constant "[]", .symbol "::", .word "json", .symbol ")"]
  | .mysql =>
    [.word "JSON_ARRAYAGG", .symbol "(", .word "JSON_OBJECT", .symbol "("] ++ pairs ++
      [.symbol ")", .symbol ")"] ++
      ((order.map fun order =>
        [.word "OVER", .symbol "(", .word "ORDER", .word "BY"] ++ order ++
          [.word "ROWS", .word "BETWEEN", .word "UNBOUNDED", .word "PRECEDING", .word "AND",
            .word "UNBOUNDED", .word "FOLLOWING", .symbol ")"]).getD [])

def objectPieces (dialect : Dialect) (pairs : List Piece) : List Piece :=
  match dialect with
  | .sqlite => [.word "json_object", .symbol "("] ++ pairs ++ [.symbol ")"]
  | .postgresql => [.word "json_build_object", .symbol "("] ++ pairs ++ [.symbol ")"]
  | .mysql => [.word "JSON_OBJECT", .symbol "("] ++ pairs ++ [.symbol ")"]

def embedPieces (dialect : Dialect) (pieces : List Piece) : List Piece :=
  match dialect with
  | .sqlite => [.word "json", .symbol "(", .symbol "("] ++ pieces ++ [.symbol ")", .symbol ")"]
  | .postgresql | .mysql => [.symbol "("] ++ pieces ++ [.symbol ")"]

def pairPieces (fields : List (String × List Piece)) : List Piece :=
  [.symbol ","].intercalate (fields.map fun field => [.constant field.1, .symbol ","] ++ field.2)

theorem spelled_object {dialect : Dialect} {aggregates : Aggregates}
    (supported : (Adapter.ofDialect dialect).aggregates = some aggregates) {pairs : String}
    {pieces : List Piece} (spelled : Spelled dialect pairs pieces) :
    Spelled dialect (aggregates.object pairs) (objectPieces dialect pieces) := by
  have closing := ending_close dialect
  cases dialect <;> cases supported
  · have head : Opening .sqlite "json_object(" [.word "json_object", .symbol "("] :=
      ⟨by decide +kernel, by decide⟩
    exact spelled.within head closing
  · have head : Opening .postgresql "json_build_object(" [.word "json_build_object", .symbol "("] :=
      ⟨by decide +kernel, by decide⟩
    exact spelled.within head closing
  · have head : Opening .mysql "JSON_OBJECT(" [.word "JSON_OBJECT", .symbol "("] :=
      ⟨by decide +kernel, by decide⟩
    exact spelled.within head closing

theorem spelled_array {dialect : Dialect} {aggregates : Aggregates}
    (supported : (Adapter.ofDialect dialect).aggregates = some aggregates) {pairs : String}
    {pieces : List Piece} (spelled : Spelled dialect pairs pieces) (order : List OrderItem) :
    Spelled dialect
      (aggregates.array pairs (if order.isEmpty then none else some (writeOrder dialect order)))
      (arrayPieces dialect pieces (if order.isEmpty then none else some (orderPieces order))) := by
  have ordered := spelled_order dialect order
  cases dialect <;> cases supported
  · have head : Opening .sqlite "json_group_array(json_object(" [.word "json_group_array",
        .symbol "(", .word "json_object", .symbol "("] := ⟨by decide +kernel, by decide⟩
    have closing : Ending .sqlite "))" [.symbol ")", .symbol ")"] := ⟨by decide +kernel, by decide⟩
    exact spelled.within head closing
  · have head : Opening .postgresql "COALESCE(json_agg(json_build_object(" [.word "COALESCE",
        .symbol "(", .word "json_agg", .symbol "(", .word "json_build_object", .symbol "("] :=
      ⟨by decide +kernel, by decide⟩
    have inner := spelled.within head (ending_close .postgresql)
    have ending : Ending .postgresql "), '[]'::json)" [.symbol ")", .symbol ",", .constant "[]",
      .symbol "::", .word "json", .symbol ")"] := ⟨by decide +kernel, by decide⟩
    have ordering : Separator .postgresql " ORDER BY " [.word "ORDER", .word "BY"] :=
      .of_spelled (by decide +kernel) (by decide)
    split
    · exact (inner.ended (.empty .postgresql)).ended ending
    · exact (inner.ended (ordering.ending ordered)).ended ending
  · have head : Opening .mysql "JSON_ARRAYAGG(JSON_OBJECT(" [.word "JSON_ARRAYAGG", .symbol "(",
        .word "JSON_OBJECT", .symbol "("] := ⟨by decide +kernel, by decide⟩
    have closing : Ending .mysql "))" [.symbol ")", .symbol ")"] := ⟨by decide +kernel, by decide⟩
    have window : Separator .mysql " OVER (ORDER BY " [.word "OVER", .symbol "(", .word "ORDER",
      .word "BY"] := .of_spelled (by decide +kernel) (by decide)
    have frame : Ending .mysql " ROWS BETWEEN UNBOUNDED PRECEDING AND UNBOUNDED FOLLOWING)"
        [.word "ROWS", .word "BETWEEN", .word "UNBOUNDED", .word "PRECEDING", .word "AND",
          .word "UNBOUNDED", .word "FOLLOWING", .symbol ")"] := ⟨by decide +kernel, by decide⟩
    have inner := spelled.within head closing
    split
    · simpa only [arrayPieces, Option.map_none, Option.getD_none, List.append_nil] using inner
    · have windowed := (inner.separated window ordered).ended frame
      simpa only [arrayPieces, Option.map_some, Option.getD_some, List.append_assoc]
        using windowed

theorem spelled_embed {dialect : Dialect} {text : String} {pieces : List Piece}
    (spelled : Spelled dialect text pieces) :
    Spelled dialect ((Adapter.ofDialect dialect).embed text) (embedPieces dialect pieces) := by
  have opening := (separator_open dialect).toOpening
  have closing := ending_close dialect
  cases dialect with
  | sqlite =>
    have head : Opening .sqlite "json((" [.word "json", .symbol "(", .symbol "("] :=
      ⟨by decide +kernel, by decide⟩
    have tail : Ending .sqlite "))" [.symbol ")", .symbol ")"] := ⟨by decide +kernel, by decide⟩
    exact spelled.within head tail
  | postgresql => exact spelled.within opening closing
  | mysql => exact spelled.within opening closing

mutual

def selectPieces (dialect : Dialect) : Select → List Piece
  | ⟨plural, columns, relations, source⟩ =>
    let pairs := pairPieces (columns.map (fun column => (column.1, column.2.pieces)) ++
      relationPieces dialect relations)
    let order := source.rows.order
    let value :=
      if plural then
        arrayPieces dialect pairs (if order.isEmpty then none else some (orderPieces order))
      else objectPieces dialect pairs
    [.word "SELECT"] ++ value ++ [.word "AS", .word "data", .word "FROM"] ++
      sourcePieces dialect source

def relationPieces (dialect : Dialect) : List (String × Select) → List (String × List Piece)
  | [] => []
  | (name, select) :: rest =>
    (name, embedPieces dialect (selectPieces dialect select)) :: relationPieces dialect rest

end

def SpelledField (dialect : Dialect) (field : String × String) (pieces : String × List Piece) :
    Prop :=
  field.1 = pieces.1 ∧ Spelled dialect field.2 pieces.2

theorem spelled_pairs {dialect : Dialect} {fields : List (String × String)}
    {pieces : List (String × List Piece)} (each : List.Forall₂ (SpelledField dialect) fields pieces) :
    Spelled dialect ((Adapter.ofDialect dialect).pairs fields) (pairPieces pieces) := by
  have comma := separator_comma dialect
  refine comma.intercalate ?_
  rw [List.forall₂_map_left_iff, List.forall₂_map_right_iff]
  refine each.imp fun field pieces ⟨key, value⟩ => ?_
  rw [dialect_ofDialect, key]
  exact (spelled_constant dialect pieces.1).separated comma value

theorem spelled_select {dialect : Dialect} {aggregates : Aggregates}
    (supported : (Adapter.ofDialect dialect).aggregates = some aggregates) {plural : Bool}
    {columns : List (String × Column)} {relations : List (String × Select)} {source : Source}
    (composed : source.rows.Composed)
    (embedded : List.Forall₂ (SpelledField dialect)
      (writeRelations (.ofDialect dialect) aggregates relations)
      (relationPieces dialect relations)) :
    Spelled dialect (Select.write (.ofDialect dialect) aggregates ⟨plural, columns, relations, source⟩)
      (selectPieces dialect ⟨plural, columns, relations, source⟩) := by
  have own : List.Forall₂ (SpelledField dialect)
      (columns.map fun column => (column.1, column.2.write dialect))
      (columns.map fun column => (column.1, column.2.pieces)) := by
    rw [List.forall₂_map_left_iff, List.forall₂_map_right_iff, List.forall₂_same]
    exact fun column _ => ⟨rfl, column.2.spelled dialect⟩
  have pairs := spelled_pairs (List.rel_append own embedded)
  have opening : Opening dialect "SELECT " [.word "SELECT"] :=
    ⟨by cases dialect <;> decide +kernel, by decide⟩
  have named : Separator dialect " AS data FROM " [.word "AS", .word "data", .word "FROM"] :=
    .of_spelled (by cases dialect <;> decide +kernel) (by decide)
  have rows := spelled_source dialect composed
  simp only [Select.write, selectPieces, dialect_ofDialect]
  cases plural with
  | true =>
    exact (opening.followed (spelled_array supported pairs source.rows.order)).separated named rows
  | false => exact (opening.followed (spelled_object supported pairs)).separated named rows

end NestedQuery.Sql

namespace NestedQuery.Compile

open Sql

variable {schema : Schema} {dialect : Dialect}

structure Level.Composed (place : Level) : Prop where
  join : ∀ text, place.join ≠ some (.given text)
  correlation : ∀ text, place.correlation ≠ some (.given text)

theorem composed_levelOf {entity : String} {parent last : Alias} {relation : Relation}
    {place : Level} (placed : levelOf schema entity parent last relation = .ok place) :
    place.Composed := by
  rcases levelOf_eq_ok.1 placed with ⟨-, tableAlias, -, rfl⟩ |
    ⟨through, joinAlias, tableAlias, table, -, -, -, -, rfl⟩
  · constructor
    · simp [directLevel]
    · simp only [directLevel, correlationOf]
      split <;> simp
  · constructor <;> simp [throughLevel]

mutual

theorem planned_spelled {aggregates : Aggregates}
    (supported : (Adapter.ofDialect dialect).aggregates = some aggregates) {entity : String}
    {place : Level} {filter : Filter} {select : Select} {last : Alias}
    (planned : Planned schema (.ofDialect dialect) entity place filter select last)
    (composed : place.Composed) :
    Spelled dialect (select.write (.ofDialect dialect) aggregates) (selectPieces dialect select) := by
  cases planned with
  | level named listed included _ resolved =>
    refine spelled_select supported ?_ (plannedIncludes_spelled supported included)
    rw [rows_sourceOf]
    exact ⟨composed.join, composed.correlation⟩

theorem plannedIncludes_spelled {aggregates : Aggregates}
    (supported : (Adapter.ofDialect dialect).aggregates = some aggregates) {entity : String}
    {parent last final : Alias} {includes : List (Include Filter)}
    {selects : List (String × Select)}
    (planned : PlannedIncludes schema (.ofDialect dialect) entity parent last includes selects
      final) :
    List.Forall₂ (SpelledField dialect) (writeRelations (.ofDialect dialect) aggregates selects)
      (relationPieces dialect selects) := by
  cases planned with
  | nil => exact .nil
  | cons related placed planned others =>
    exact .cons ⟨rfl, spelled_embed (planned_spelled supported planned (composed_levelOf placed))⟩
      (plannedIncludes_spelled supported others)

end

end NestedQuery.Compile
