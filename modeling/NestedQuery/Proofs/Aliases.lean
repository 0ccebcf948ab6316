import NestedQuery.Proofs.Plan

set_option autoImplicit false

namespace NestedQuery

def Schema.tableOf (schema : Schema) (entity : String) : String :=
  (schema.tableName entity).toOption.getD entity

def Relation.tables (schema : Schema) (relation : Relation) : List String :=
  (relation.through.map fun through => schema.tableOf through.entity).toList ++
    [schema.tableOf relation.target]

mutual

def Filter.relations (schema : Schema) (entity : String) : Filter → List Relation
  | ⟨_, _, _, _, _, includes⟩ => includedRelations schema entity includes

def includedRelations (schema : Schema) (entity : String) : List (Include Filter) → List Relation
  | [] => []
  | ⟨name, scope⟩ :: rest =>
    match schema.relation entity name, scope with
    | .error _, _ => includedRelations schema entity rest
    | .ok relation, none => relation :: includedRelations schema entity rest
    | .ok relation, some scope =>
      relation :: scope.relations schema relation.target ++ includedRelations schema entity rest

end

def aliasCount (relations : List Relation) : Nat :=
  relations.countP (·.through.isNone) + 2 * relations.countP (·.through.isSome)

def Filter.includedTables (schema : Schema) (entity : String) (filter : Filter) : List String :=
  (filter.relations schema entity).flatMap (Relation.tables schema)

theorem includedRelations_cons {schema : Schema} {entity name : String} {relation : Relation}
    (related : schema.relation entity name = .ok relation) (scope : Option Filter)
    (rest : List (Include Filter)) :
    includedRelations schema entity (⟨name, scope⟩ :: rest) =
      relation :: (scope.getD {}).relations schema relation.target ++
        includedRelations schema entity rest := by
  rw [includedRelations.eq_def]
  cases scope <;> simp [related, Filter.relations, includedRelations]

theorem includedTables_eq (schema : Schema) (entity : String) (filter : Filter) :
    filter.includedTables schema entity =
      (includedRelations schema entity filter.includes).flatMap (Relation.tables schema) := by
  cases filter
  rfl

theorem length_tables_direct {relation : Relation} (direct : relation.through = none)
    (schema : Schema) : (relation.tables schema).length = 1 := by
  simp [Relation.tables, direct]

theorem length_tables_through {relation : Relation} {through : Through}
    (joined : relation.through = some through) (schema : Schema) :
    (relation.tables schema).length = 2 := by
  simp [Relation.tables, joined]

theorem length_tables (schema : Schema) (relations : List Relation) :
    (relations.flatMap (Relation.tables schema)).length = aliasCount relations := by
  induction relations with
  | nil => rfl
  | cons relation rest ih =>
    simp only [List.flatMap_cons, List.length_append, ih, aliasCount, List.countP_cons,
      Relation.tables]
    cases relation.through <;> simp <;> omega

theorem length_tables_cons {schema : Schema} {entity name : String} {relation : Relation}
    (related : schema.relation entity name = .ok relation) (scope : Option Filter)
    (rest : List (Include Filter)) :
    ((includedRelations schema entity (⟨name, scope⟩ :: rest)).flatMap
        (Relation.tables schema)).length =
      (relation.tables schema).length +
        ((scope.getD {}).includedTables schema relation.target).length +
        ((includedRelations schema entity rest).flatMap (Relation.tables schema)).length := by
  rw [includedRelations_cons related, List.flatMap_append, List.flatMap_cons, List.length_append,
    List.length_append, Filter.includedTables]

theorem Schema.tableOf_eq {schema : Schema} {entity table : String}
    (named : schema.tableName entity = .ok table) : schema.tableOf entity = table := by
  simp [Schema.tableOf, named, Except.toOption]

namespace Sql

def Join.tables : Join → List (String × Alias)
  | .inner table tableAlias _ _ => [(table, tableAlias)]
  | .given _ => []

def Rows.tables (rows : Rows) : List (String × Alias) :=
  rows.join.elim [] Join.tables ++ [(rows.table, rows.tableAlias)]

mutual

def Select.tables : Select → List (String × Alias)
  | ⟨_, _, relations, source⟩ => source.rows.tables ++ relationTables relations

def relationTables : List (String × Select) → List (String × Alias)
  | [] => []
  | (_, select) :: rest => select.tables ++ relationTables rest

end

def Numbered (first : Nat) (tables : List (String × Alias)) (names : List String) : Prop :=
  tables.map Prod.fst = names ∧ tables.map (·.2.index) = List.range' first names.length

theorem Numbered.append {first : Nat} {tables others : List (String × Alias)}
    {names more : List String} (left : Numbered first tables names)
    (right : Numbered (first + names.length) others more) :
    Numbered first (tables ++ others) (names ++ more) := by
  obtain ⟨named, counted⟩ := left
  obtain ⟨named', counted'⟩ := right
  constructor
  · rw [List.map_append, named, named']
  · rw [List.map_append, counted, counted', List.length_append, ← List.range'_append, Nat.one_mul]

end Sql

namespace Compile

open Sql

variable {schema : Schema} {adapter : Adapter}

def Level.tables (place : Level) (table : String) : List (String × Alias) :=
  place.join.elim [] Join.tables ++ [(table, place.tableAlias)]

theorem levelOf_numbered {entity : String} {parent last : Alias} {relation : Relation}
    {place : Level} (placed : levelOf schema entity parent last relation = .ok place) :
    Numbered (last.index + 1) (place.tables (schema.tableOf relation.target))
        (relation.tables schema) ∧
      place.tableAlias.index = last.index + (relation.tables schema).length := by
  rcases levelOf_eq_ok.1 placed with ⟨direct, tableAlias, first, rfl⟩ |
    ⟨through, joinAlias, tableAlias, table, indirect, first, second, named, rfl⟩
  · have index := next_eq_ok.1 first
    simp [Numbered, Level.tables, directLevel, Relation.tables, direct, index]
  · have index := next_eq_ok.1 first
    have index' := next_eq_ok.1 second
    simp [Numbered, Level.tables, throughLevel, Relation.tables, indirect, Join.tables,
      Schema.tableOf_eq named, index, index', List.range'_succ]

mutual

theorem planned_numbered {entity : String} {place : Level} {filter : Filter} {select : Select}
    {last : Alias} (planned : Planned schema adapter entity place filter select last) :
    ∃ nested, select.tables = place.tables (schema.tableOf entity) ++ nested ∧
      Numbered (place.tableAlias.index + 1) nested (filter.includedTables schema entity) ∧
      last.index = place.tableAlias.index + (filter.includedTables schema entity).length := by
  cases planned with
  | level named listed included supported resolved =>
    obtain ⟨numbered, index⟩ := plannedIncludes_numbered included
    rw [← includedTables_eq] at numbered index
    refine ⟨_, ?_, numbered, index⟩
    simp [Select.tables, Rows.tables, rowsOf, Level.tables, Schema.tableOf_eq named]

theorem plannedIncludes_numbered {entity : String} {parent last final : Alias}
    {includes : List (Include Filter)} {selects : List (String × Select)}
    (planned : PlannedIncludes schema adapter entity parent last includes selects final) :
    Numbered (last.index + 1) (relationTables selects)
        ((includedRelations schema entity includes).flatMap (Relation.tables schema)) ∧
      final.index = last.index +
        ((includedRelations schema entity includes).flatMap (Relation.tables schema)).length := by
  cases planned with
  | nil => simp [Numbered, relationTables, includedRelations]
  | @cons _ _ _ _ next _ scope rest relation place select selects related placed planned others =>
    obtain ⟨own, index⟩ := levelOf_numbered placed
    obtain ⟨nested, tables, within, index'⟩ := planned_numbered planned
    obtain ⟨behind, index''⟩ := plannedIncludes_numbered others
    rw [includedRelations_cons related, List.flatMap_append, List.flatMap_cons, relationTables,
      tables]
    have start : place.tableAlias.index + 1 =
        last.index + 1 + (relation.tables schema).length := by omega
    have start' : next.index + 1 = last.index + 1 +
        (relation.tables schema ++
          ((scope.getD {}).includedTables schema relation.target)).length := by
      rw [List.length_append]
      omega
    rw [start] at within
    rw [start'] at behind
    refine ⟨(own.append within).append behind, ?_⟩
    simp only [List.length_append, Filter.includedTables] at index' index'' ⊢
    omega

end

mutual

theorem Resolved.at_alias {entity : String} {tableAlias : Alias} {tree : Where}
    {predicate : Predicate} (resolved : Resolved schema entity tableAlias tree predicate)
    (other : Alias) : ∃ moved, Resolved schema entity other tree moved := by
  cases resolved with
  | leaf operands => exact ⟨_, .leaf operands⟩
  | group somePart resolved =>
    obtain ⟨moved, resolved⟩ := resolved.at_alias other
    exact ⟨_, .group somePart resolved⟩

theorem ResolvedParts.at_alias {entity : String} {tableAlias : Alias} {parts : List Where}
    {predicates : List Predicate}
    (resolved : ResolvedParts schema entity tableAlias parts predicates) (other : Alias) :
    ∃ moved, ResolvedParts schema entity other parts moved := by
  cases resolved with
  | nil => exact ⟨_, .nil⟩
  | cons resolved others =>
    obtain ⟨moved, resolved⟩ := resolved.at_alias other
    obtain ⟨moved', others⟩ := others.at_alias other
    exact ⟨_, .cons resolved others⟩

end

theorem condition_at_alias {entity : String} {tableAlias : Alias} {condition : Option Where}
    {predicate : Option Predicate}
    (resolved : condition.mapM (resolve schema entity tableAlias) = .ok predicate)
    (other : Alias) : ∃ moved, condition.mapM (resolve schema entity other) = .ok moved := by
  rcases option_mapM_eq_ok.1 resolved with ⟨rfl, -⟩ | ⟨tree, predicate, rfl, -, resolved⟩
  · exact ⟨none, rfl⟩
  · obtain ⟨moved, resolved⟩ := (resolved_iff.2 resolved).at_alias other
    exact ⟨some moved, option_mapM_eq_ok.2
      (.inr ⟨tree, moved, rfl, rfl, resolved_iff.1 resolved⟩)⟩

theorem next_in_range {last : Alias} (room : last.index + 1 < UInt32.size) :
    last.next = .ok ⟨last.index + 1, room⟩ :=
  next_eq_ok.2 rfl

theorem levelOf_at_alias {entity : String} {parent last : Alias} {relation : Relation}
    {place : Level} (placed : levelOf schema entity parent last relation = .ok place)
    (parent' last' : Alias) :
    (last'.index + (relation.tables schema).length < UInt32.size →
      ∃ place', levelOf schema entity parent' last' relation = .ok place') ∧
    (UInt32.size ≤ last'.index + (relation.tables schema).length →
      levelOf schema entity parent' last' relation =
        .error (.invalidFilter .aliasesExhausted)) := by
  rcases levelOf_eq_ok.1 placed with ⟨direct, -⟩ | ⟨through, -, -, table, indirect, -, -, named, -⟩
  · rw [length_tables_direct direct]
    constructor
    · intro room
      exact ⟨_, levelOf_eq_ok.2 (.inl ⟨direct, _, next_in_range room, rfl⟩)⟩
    · intro full
      simp [levelOf, direct, next_exhausted full]
  · rw [length_tables_through indirect]
    constructor
    · intro room
      have room' : last'.index + 1 < UInt32.size := by omega
      exact ⟨_, levelOf_eq_ok.2 (.inr ⟨through, _, _, table, indirect, next_in_range room',
        next_in_range room, named, rfl⟩)⟩
    · intro full
      by_cases room : last'.index + 1 < UInt32.size
      · have full' : UInt32.size ≤ (⟨last'.index + 1, room⟩ : Alias).index + 1 := full
        simp [levelOf, indirect, next_in_range room, next_exhausted full']
      · simp [levelOf, indirect, next_exhausted (Nat.not_lt.1 room)]

mutual

theorem planned_at_alias {entity : String} {place : Level} {filter : Filter} {select : Select}
    {last : Alias} (planned : Planned schema adapter entity place filter select last)
    (place' : Level) :
    (place'.tableAlias.index + (filter.includedTables schema entity).length < UInt32.size →
      ∃ select' last', Planned schema adapter entity place' filter select' last') ∧
    (UInt32.size ≤ place'.tableAlias.index + (filter.includedTables schema entity).length →
      plan schema adapter entity place' filter = .error (.invalidFilter .aliasesExhausted)) := by
  cases planned with
  | @level _ _ _ table names relations _ aggregates _ named listed included supported resolved =>
    obtain ⟨fits, exhausted⟩ :=
      plannedIncludes_at_alias included place'.tableAlias place'.tableAlias
    rw [← includedTables_eq] at fits exhausted
    constructor
    · intro room
      obtain ⟨selects, last, included⟩ := fits room
      obtain ⟨predicate, resolved⟩ := condition_at_alias resolved place'.tableAlias
      exact ⟨_, _, .level named listed included supported resolved⟩
    · intro full
      simp [plan_eq_level, level, named, listed, exhausted full]

theorem plannedIncludes_at_alias {entity : String} {parent last final : Alias}
    {includes : List (Include Filter)} {selects : List (String × Select)}
    (planned : PlannedIncludes schema adapter entity parent last includes selects final)
    (parent' last' : Alias) :
    (last'.index + ((includedRelations schema entity includes).flatMap
        (Relation.tables schema)).length < UInt32.size →
      ∃ selects' final',
        PlannedIncludes schema adapter entity parent' last' includes selects' final') ∧
    (UInt32.size ≤ last'.index + ((includedRelations schema entity includes).flatMap
        (Relation.tables schema)).length →
      planIncludes schema adapter entity parent' last' includes =
        .error (.invalidFilter .aliasesExhausted)) := by
  cases planned with
  | nil =>
    constructor
    · intro room
      exact ⟨_, _, .nil⟩
    · intro full
      exact absurd last'.inRange (Nat.not_lt.2 full)
  | @cons _ _ _ _ _ _ scope rest relation place select selects related placed planned others =>
    rw [length_tables_cons related]
    obtain ⟨fits, exhausted⟩ := levelOf_at_alias placed parent' last'
    by_cases room : last'.index + (relation.tables schema).length < UInt32.size
    next =>
      obtain ⟨place', placed'⟩ := fits room
      have index := (levelOf_numbered placed').2
      obtain ⟨fits, exhausted⟩ := planned_at_alias planned place'
      by_cases room' : place'.tableAlias.index +
          ((scope.getD {}).includedTables schema relation.target).length < UInt32.size
      next =>
        obtain ⟨select', next', planned'⟩ := fits room'
        obtain ⟨-, -, -, index'⟩ := planned_numbered planned'
        obtain ⟨fits, exhausted⟩ := plannedIncludes_at_alias others parent' next'
        constructor
        · intro room
          obtain ⟨selects', final', others'⟩ := fits (by omega)
          exact ⟨_, _, .cons related placed' planned' others'⟩
        · intro full
          simp [planIncludes_cons, related, placed', plan_of_planned planned',
            exhausted (by omega)]
      next =>
        have full' := exhausted (by omega)
        constructor
        · intro room
          omega
        · intro full
          simp [planIncludes_cons, related, placed', full']
    next =>
      have full := exhausted (by omega)
      constructor
      · intro room
        omega
      · intro _
        simp [planIncludes_cons, related, full]

end

end Compile

theorem ofOptions_tables (options : Options) (table : String) :
    Compile.Level.tables (.ofOptions options) table = [(table, options.tableAlias)] := by
  cases h : options.join <;> simp [Compile.Level.tables, Compile.Level.ofOptions, h, Sql.Join.tables]

open Compile in
/-- The table occurrences of a compiled statement have the aliases from the root's on, one each, in
the order of the include tree. What compiles at alias 0 compiles at every alias that leaves room for
them, and is refused at any other. -/
theorem compile_aliases (schema : Schema) (dialect : Dialect) (entity : String) (filter : Filter)
    (options : Options) :
    let adapter := Adapter.ofDialect dialect
    let count := aliasCount (filter.relations schema entity)
    (∀ text, compile schema adapter entity filter options = .ok text →
      ∃ select last aggregates,
        plan schema adapter entity (.ofOptions options) filter = .ok (select, last) ∧
        adapter.aggregates = some aggregates ∧ text = select.write adapter aggregates ∧
        select.tables.map Prod.fst =
          schema.tableOf entity :: filter.includedTables schema entity ∧
        select.tables.map (·.2.index) = List.range' options.tableAlias.index (count + 1) ∧
        (select.tables.map Prod.snd).Nodup ∧ (select.tables.map (·.2.write)).Nodup ∧
        last.index = options.tableAlias.index + count) ∧
    (∀ text,
      compile schema adapter entity filter { options with tableAlias := .first } = .ok text →
      ∀ first : Alias,
        (first.index + count ≤ UInt32.size - 1 → ∃ moved,
          compile schema adapter entity filter { options with tableAlias := first } = .ok moved) ∧
        (UInt32.size - 1 < first.index + count → ∃ error,
          compile schema adapter entity filter { options with tableAlias := first } =
            .error error ∧
          error = .invalidFilter .aliasesExhausted ∧
          error.message = "Invalid filter: alias range exhausted")) := by
  intro adapter count
  have length : (filter.includedTables schema entity).length = count := length_tables schema _
  constructor
  · intro text compiled
    obtain ⟨select, last, aggregates, supported, planned, written⟩ := compile_eq_ok.1 compiled
    obtain ⟨nested, tables, ⟨named, counted⟩, index⟩ := planned_numbered planned
    rw [ofOptions_tables] at tables
    have indices : select.tables.map (·.2.index) =
        List.range' options.tableAlias.index (count + 1) := by
      rw [tables, List.map_append, counted, length, List.range'_succ]
      rfl
    -- Two occurrences of one alias would share its index.
    have distinct : (select.tables.map Prod.snd).Nodup := by
      have distinct := List.nodup_range' (s := options.tableAlias.index) (n := count + 1) 1
      rw [← indices, ← Function.comp_def Alias.index Prod.snd, ← List.map_map] at distinct
      exact List.Pairwise.of_map Alias.index (fun _ _ ne same => ne (congrArg _ same)) distinct
    have texts : (select.tables.map (·.2.write)).Nodup := by
      rw [← Function.comp_def Alias.write Prod.snd, ← List.map_map]
      exact List.Pairwise.map Alias.write (fun _ _ ne same => ne (Alias.write_injective same))
        distinct
    refine ⟨select, last, aggregates, planned_iff.1 planned, supported, written, ?_, indices,
      distinct, texts, ?_⟩
    · rw [tables, List.map_append, named]
      rfl
    · rw [index, length]
      rfl
  · intro text compiled first
    obtain ⟨select, last, aggregates, supported, planned, -⟩ := compile_eq_ok.1 compiled
    obtain ⟨fits, exhausted⟩ :=
      planned_at_alias planned (.ofOptions { options with tableAlias := first })
    rw [length] at fits exhausted
    have index : (Level.ofOptions { options with tableAlias := first }).tableAlias.index =
      first.index := rfl
    have positive : 0 < UInt32.size := by decide
    constructor
    · intro room
      obtain ⟨moved, final, planned⟩ := fits (by omega)
      exact ⟨_, compile_eq_ok.2 ⟨moved, final, aggregates, supported, planned, rfl⟩⟩
    · intro full
      refine ⟨_, ?_, rfl, rfl⟩
      simp [compile, statement, adapter, exhausted (by omega), Except.map]

theorem compile_aliases_shop :
    let adapter := Adapter.ofDialect .mysql
    let options : Options := { tableAlias := ⟨7, by decide⟩ }
    (∃ text select last aggregates,
      compile Sample.shop adapter "Customer" Sample.nested options = .ok text ∧
      Compile.plan Sample.shop adapter "Customer" (.ofOptions options) Sample.nested =
        .ok (select, last) ∧
      text = Sql.Select.write adapter aggregates select ∧
      select.tables.map Prod.fst = ["customers", "orders", "items", "customer_tags", "tags"] ∧
      select.tables.map (·.2.index) = [7, 8, 9, 10, 11]) ∧
    ∃ error, compile Sample.shop adapter "Customer" Sample.nested
        { tableAlias := ⟨4294967292, by decide⟩ } = .error error ∧
      error.message = "Invalid filter: alias range exhausted" := by
  intro adapter options
  obtain ⟨counted, -⟩ := compile_aliases Sample.shop .mysql "Customer" Sample.nested options
  obtain ⟨-, moved⟩ := compile_aliases Sample.shop .mysql "Customer" Sample.nested {}
  constructor
  · obtain ⟨text, compiled⟩ :
      ∃ text, compile Sample.shop adapter "Customer" Sample.nested options = .ok text := ⟨_, rfl⟩
    obtain ⟨select, last, aggregates, planned, -, written, named, indices, -⟩ := counted _ compiled
    exact ⟨text, select, last, aggregates, compiled, planned, written, named, indices⟩
  · obtain ⟨error, refused, -, message⟩ := (moved _ rfl ⟨4294967292, by decide⟩).2 (by decide)
    exact ⟨error, refused, message⟩

end NestedQuery
