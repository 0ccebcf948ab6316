import NestedQuery.Proofs.Aliases
import NestedQuery.Proofs.Calendar
import NestedQuery.Proofs.IncludeTree

set_option autoImplicit false

namespace NestedQuery

open Calendar

def Literal.IsDate : Literal → Prop
  | .timestamp _ => True
  | .text s => ∃ t, Timestamp.read s = some t
  | .int n => Timestamp.Representable n.toInt
  | .uint n => Timestamp.Representable n.toNat
  | .float x => x.isFinite = true ∧ ¬ x < -9223372036854775808.0 ∧ ¬ 9223372036854775808.0 ≤ x ∧
      Timestamp.Representable (truncated x)
  | .bool _ => False

def Literal.Formats (type : FieldType) (literal : Literal) : Prop :=
  match type with
  | .date => literal.IsDate
  | .scalar | .boolean => ∀ x, literal = .float x → x.isFinite = true

structure Where.Meaningful (schema : Schema) (entity : String) (tree : Where) : Prop where
  grouped : ∀ connective, ¬ Formula.PartOf (.group connective []) tree
  formatted : ∀ field test, Formula.PartOf (.leaf ⟨field, test⟩) tree →
    ∀ literal ∈ test.operands, literal.Formats (schema.fieldType entity field)

structure Filter.Supported (schema : Schema) (owner : String) (scope : Filter) : Prop where
  defined : schema.entities.contains owner = true
  related : ∀ included ∈ scope.includes, ∃ relation,
    schema.relation owner included.relation = .ok relation ∧
    schema.entities.contains relation.target = true ∧
    ∀ through, relation.through = some through → schema.entities.contains through.entity = true
  meaningful : ∀ tree, scope.condition = some tree → tree.Meaningful schema owner

theorem ofMillis_succeeds (millis : Int) :
    (∃ t, Literal.ofMillis millis = .ok t) ↔ Timestamp.Representable millis := by
  rw [← Timestamp.exists_ofMillis?, Literal.ofMillis]
  cases Timestamp.ofMillis? millis <;> simp

theorem toTimestamp_succeeds (literal : Literal) :
    (∃ t, literal.toTimestamp = .ok t) ↔ literal.IsDate := by
  cases literal with
  | bool b => simp [Literal.toTimestamp, Literal.IsDate]
  | int n => exact ofMillis_succeeds n.toInt
  | uint n => exact ofMillis_succeeds n.toNat
  | float x =>
    rw [Literal.IsDate, ← ofMillis_succeeds, Literal.toTimestamp]
    by_cases finite : x.isFinite = true
    · by_cases below : x < -9223372036854775808.0
      · simp [finite, below]
      · by_cases above : 9223372036854775808.0 ≤ x <;> simp [finite, below, above]
    · simp [finite]
  | text s =>
    rw [Literal.IsDate, Literal.toTimestamp]
    cases Timestamp.read s <;> simp
  | timestamp t => simp [Literal.toTimestamp, Literal.IsDate]

theorem toOperand_succeeds (type : FieldType) (literal : Literal) :
    (∃ operand, literal.toOperand type = .ok operand) ↔ literal.Formats type := by
  have plain : (∃ operand, literal.toOperand .scalar = .ok operand) ↔
      ∀ x, literal = .float x → x.isFinite = true := by
    cases literal with
    | float x => by_cases finite : x.isFinite = true <;> simp [Literal.toOperand, finite]
    | _ => simp [Literal.toOperand]
  cases type with
  | scalar => exact plain
  | boolean => exact plain
  | date =>
    rw [Literal.Formats, ← toTimestamp_succeeds, Literal.toOperand]
    cases literal.toTimestamp <;> simp [Except.map]

namespace Compile

open Sql

variable {schema : Schema} {adapter : Adapter} {entity : String}

theorem operand_succeeds (field : String) (literal : Literal) :
    (∃ placed, operand schema entity field literal = .ok placed) ↔
      literal.Formats (schema.fieldType entity field) := by
  rw [← toOperand_succeeds, operand]
  cases literal.toOperand (schema.fieldType entity field) <;> simp

theorem resolveTest_succeeds {resolve : Literal → Except Error Operand} (test : Test Literal) :
    (∃ placed, resolveTest resolve test = .ok placed) ↔
      ∀ literal ∈ test.operands, ∃ placed, resolve literal = .ok placed := by
  have mapped {α : Type} {x : Except Error α} {f : α → Test Operand} :
      (∃ placed, x.map f = .ok placed) ↔ ∃ a, x = .ok a := by
    cases x <;> simp [Except.map]
  cases test with
  | compare comparison value => simp [resolveTest, Test.operands, mapped]
  | between low high =>
    simp only [resolveTest, Test.operands, bind_eq_ok, pure, Except.pure, Except.ok.injEq,
      List.forall_mem_cons, List.not_mem_nil, false_implies, implies_true, and_true]
    constructor
    · rintro ⟨_, first, low, second, high, rfl⟩
      exact ⟨⟨first, low⟩, second, high⟩
    · rintro ⟨⟨first, low⟩, second, high⟩
      exact ⟨_, first, low, second, high, rfl⟩
  | oneOf values => simp [resolveTest, Test.operands, mapped, mapM_succeeds]
  | noneOf values => simp [resolveTest, Test.operands, mapped, mapM_succeeds]
  | _ => simp [resolveTest, Test.operands]

theorem resolveParts_eq_mapM (tableAlias : Alias) (parts : List Where) :
    resolveParts schema entity tableAlias parts =
      parts.mapM (resolve schema entity tableAlias) := by
  induction parts with
  | nil => rfl
  | cons part rest ih => rw [resolveParts, ih, List.mapM_cons]

end Compile

theorem meaningful_leaf {schema : Schema} {entity field : String} {test : Test Literal} :
    Where.Meaningful schema entity (.leaf ⟨field, test⟩) ↔
      ∀ literal ∈ test.operands, literal.Formats (schema.fieldType entity field) := by
  constructor
  · intro meaningful
    exact meaningful.formatted field test .self
  · intro formats
    constructor
    · intro connective part
      cases Formula.partOf_leaf.1 part
    · intro field' test' part
      cases Formula.partOf_leaf.1 part
      exact formats

theorem meaningful_group {schema : Schema} {entity : String} {connective : Connective}
    {parts : List Where} :
    Where.Meaningful schema entity (.group connective parts) ↔
      parts ≠ [] ∧ ∀ part ∈ parts, Where.Meaningful schema entity part := by
  constructor
  · intro meaningful
    constructor
    · rintro rfl
      exact meaningful.grouped connective .self
    · intro part mem
      exact ⟨fun connective' inner => meaningful.grouped connective' (.member mem inner),
        fun field test inner => meaningful.formatted field test (.member mem inner)⟩
  · rintro ⟨somePart, each⟩
    constructor
    · intro connective' part
      rcases Formula.partOf_group.1 part with same | ⟨inner, mem, within⟩
      · cases same
        exact somePart rfl
      · exact (each inner mem).grouped connective' within
    · intro field test part
      rcases Formula.partOf_group.1 part with same | ⟨inner, mem, within⟩
      · cases same
      · exact (each inner mem).formatted field test within

namespace Compile

open Sql

variable {schema : Schema} {adapter : Adapter} {entity : String}

theorem resolve_succeeds (tableAlias : Alias) (tree : Where) :
    (∃ predicate, resolve schema entity tableAlias tree = .ok predicate) ↔
      tree.Meaningful schema entity := by
  induction tree using Formula.induction with
  | leaf condition =>
    obtain ⟨field, test⟩ := condition
    simp only [meaningful_leaf, ← operand_succeeds, ← resolveTest_succeeds, resolve, map_eq_ok]
    exact ⟨fun ⟨_, placed, done, _⟩ => ⟨placed, done⟩, fun ⟨placed, done⟩ => ⟨_, placed, done, rfl⟩⟩
  | group connective parts ih =>
    have each : (∀ part ∈ parts, Where.Meaningful schema entity part) ↔
        ∃ predicates, resolveParts schema entity tableAlias parts = .ok predicates := by
      rw [resolveParts_eq_mapM, mapM_succeeds]
      exact forall₂_congr fun part mem => (ih part mem).symm
    rw [meaningful_group, each, resolve]
    cases parts with
    | nil => simp
    | cons part rest =>
      simp only [List.isEmpty_cons, Bool.false_eq_true, if_false, map_eq_ok, ne_eq, reduceCtorEq,
        not_false_eq_true, true_and]
      exact ⟨fun ⟨_, placed, done, _⟩ => ⟨placed, done⟩,
        fun ⟨placed, done⟩ => ⟨_, placed, done, rfl⟩⟩

theorem condition_succeeds (tableAlias : Alias) (condition : Option Where) :
    (∃ predicate, condition.mapM (resolve schema entity tableAlias) = .ok predicate) ↔
      ∀ tree, condition = some tree → tree.Meaningful schema entity := by
  cases condition with
  | none => simp [pure, Except.pure]
  | some tree =>
    simp only [option_mapM_eq_ok, Option.some.injEq, forall_eq', ← resolve_succeeds tableAlias]
    constructor
    · rintro ⟨_, ⟨absent, -⟩ | ⟨_, predicate, rfl, -, resolved⟩⟩
      · cases absent
      · exact ⟨predicate, resolved⟩
    · rintro ⟨predicate, resolved⟩
      exact ⟨_, .inr ⟨tree, predicate, rfl, rfl, resolved⟩⟩

end Compile

namespace Schema

variable {schema : Schema} {entity : String}

theorem tableName_succeeds :
    (∃ table, schema.tableName entity = .ok table) ↔ schema.entities.contains entity = true := by
  unfold tableName Schema.entity Catalog.contains
  cases schema.entities.find? entity <;> simp [Except.map]

theorem fieldNames_succeeds :
    (∃ names, schema.fieldNames entity = .ok names) ↔ schema.entities.contains entity = true := by
  unfold fieldNames Schema.entity Catalog.contains
  cases schema.entities.find? entity <;> simp [Except.map]

end Schema

namespace Compile

open Sql

variable {schema : Schema} {adapter : Adapter} {entity : String} {filter : Filter}

theorem Planned.supported {place : Level} {select : Select} {last : Alias}
    (planned : Planned schema adapter entity place filter select last) :
    filter.Supported schema entity := by
  cases planned with
  | level named listed includes aggregated resolved =>
    refine ⟨Schema.tableName_succeeds.1 ⟨_, named⟩, fun included mem => ?_,
      (condition_succeeds _ _).1 ⟨_, resolved⟩⟩
    obtain ⟨i, there⟩ := List.mem_iff_getElem?.1 mem
    obtain ⟨relation, before, place, select, next, -, related, placed, own, -⟩ := includes.get there
    refine ⟨relation, related, ?_, fun through joined => ?_⟩
    · cases own with
      | level named => exact Schema.tableName_succeeds.1 ⟨_, named⟩
    · rcases levelOf_eq_ok.1 placed with ⟨direct, -⟩ |
        ⟨through', -, -, table, joined', -, -, named, -⟩
      · cases direct.symm.trans joined
      · cases joined.symm.trans joined'
        exact Schema.tableName_succeeds.1 ⟨table, named⟩

theorem levelOf_in_range (entity : String) (parent : Alias) {last : Alias} {relation : Relation}
    (joined : ∀ through, relation.through = some through →
      schema.entities.contains through.entity = true)
    (room : last.index + (relation.tables schema).length < UInt32.size) :
    ∃ place, levelOf schema entity parent last relation = .ok place := by
  simp only [levelOf_eq_ok]
  cases kind : relation.through with
  | none =>
    rw [length_tables_direct kind] at room
    exact ⟨_, .inl ⟨rfl, _, next_in_range room, rfl⟩⟩
  | some through =>
    rw [length_tables_through kind] at room
    have room' : last.index + 1 < UInt32.size := by omega
    obtain ⟨table, named⟩ := Schema.tableName_succeeds.2 (joined through kind)
    exact ⟨_, .inr ⟨through, _, _, table, rfl, next_in_range room', next_in_range room, named, rfl⟩⟩

structure Ready (schema : Schema) (adapter : Adapter) (entity : String) (included : Include Filter)
    (relation : Relation) : Prop where
  related : schema.relation entity included.relation = .ok relation
  joined : ∀ through, relation.through = some through →
    schema.entities.contains through.entity = true
  planned : ∀ place : Level, place.tableAlias.index +
      ((included.scope.getD {}).includedTables schema relation.target).length < UInt32.size →
    ∃ select last, Planned schema adapter relation.target place (included.scope.getD {}) select last

theorem plannedIncludes_of_ready {includes : List (Include Filter)}
    (ready : ∀ included ∈ includes, ∃ relation, Ready schema adapter entity included relation)
    (parent : Alias) {last : Alias}
    (room : last.index + ((includedRelations schema entity includes).flatMap
      (Relation.tables schema)).length < UInt32.size) :
    ∃ selects final,
      PlannedIncludes schema adapter entity parent last includes selects final := by
  induction includes generalizing last with
  | nil => exact ⟨_, _, .nil⟩
  | cons included rest ih =>
    obtain ⟨name, scope⟩ := included
    rw [List.forall_mem_cons] at ready
    obtain ⟨⟨relation, ⟨related, joined, planned⟩⟩, others⟩ := ready
    dsimp only at related planned
    rw [length_tables_cons related] at room
    have room' : last.index + (relation.tables schema).length < UInt32.size := by omega
    obtain ⟨place, placed⟩ := levelOf_in_range entity parent joined room'
    -- The room left shrinks by the tables of the level, and then by those below it.
    have index := (levelOf_numbered placed).2
    obtain ⟨select, next, own⟩ := planned place (by omega)
    obtain ⟨-, -, -, index'⟩ := planned_numbered own
    have room'' : next.index + ((includedRelations schema entity rest).flatMap
        (Relation.tables schema)).length < UInt32.size := by omega
    obtain ⟨selects, final, behind⟩ := ih others room''
    exact ⟨_, _, .cons related placed own behind⟩

theorem planned_of_supported {aggregates : Aggregates}
    (supported : adapter.aggregates = some aggregates)
    (levels : ∀ owner scope, filter.HasLevel schema entity owner scope →
      scope.Supported schema owner) (place : Level)
    (room : place.tableAlias.index + (filter.includedTables schema entity).length < UInt32.size) :
    ∃ select last, Planned schema adapter entity place filter select last := by
  induction filter using Filter.induction generalizing entity place with
  | level filter ih =>
    obtain ⟨defined, related, meaningful⟩ := levels entity filter .root
    rw [includedTables_eq] at room
    have ready : ∀ included ∈ filter.includes,
        ∃ relation, Ready schema adapter entity included relation := by
      intro included mem
      obtain ⟨relation, found, -, joined⟩ := related included mem
      exact ⟨relation, found, joined, fun place room => ih included mem
        (fun owner scope level => levels owner scope (.of_included mem found level)) place room⟩
    obtain ⟨selects, last, included⟩ := plannedIncludes_of_ready ready place.tableAlias room
    obtain ⟨table, named⟩ := Schema.tableName_succeeds.2 defined
    obtain ⟨names, listed⟩ := Schema.fieldNames_succeeds.2 defined
    obtain ⟨predicate, resolved⟩ := (condition_succeeds place.tableAlias _).2 meaningful
    exact ⟨_, _, .level named listed included supported resolved⟩

theorem Planned.aggregates {place : Level} {select : Select} {last : Alias}
    (planned : Planned schema adapter entity place filter select last) :
    adapter.aggregates ≠ none := by
  cases planned with
  | level named listed included supported resolved => simp [supported]

end Compile

theorem compile_succeeds_iff :
    (∀ (schema : Schema) (dialect : Dialect) (entity : String) (filter : Filter)
        (options : Options),
      (∃ text, compile schema (.ofDialect dialect) entity filter options = .ok text) ↔
        (∀ owner scope, filter.HasLevel schema entity owner scope →
          scope.Supported schema owner) ∧
        options.tableAlias.index + aliasCount (filter.relations schema entity) ≤
          UInt32.size - 1) ∧
    ∀ (adapter : Adapter), adapter.aggregates = none →
      ∀ (schema : Schema) (entity : String) (filter : Filter) (options : Options),
        (∀ select, statement schema adapter entity filter options ≠ .ok select) ∧
        ∀ text, compile schema adapter entity filter options ≠ .ok text := by
  constructor
  · intro schema dialect entity filter options
    have length := length_tables schema (filter.relations schema entity)
    have first : (Compile.Level.ofOptions options).tableAlias = options.tableAlias := rfl
    have positive : 0 < UInt32.size := by decide
    constructor
    · rintro ⟨text, compiled⟩
      obtain ⟨select, last, aggregates, -, planned, -⟩ := compile_eq_ok.1 compiled
      refine ⟨fun owner scope level => ?_, ?_⟩
      · obtain ⟨place, select, last, planned⟩ := planned.at_level level
        exact planned.supported
      · obtain ⟨-, -, -, index⟩ := Compile.planned_numbered planned
        have inRange := last.inRange
        rw [index, first, Filter.includedTables, length] at inRange
        omega
    · rintro ⟨levels, room⟩
      obtain ⟨aggregates, supported⟩ := Compile.ofDialect_aggregates dialect
      have room' : (Compile.Level.ofOptions options).tableAlias.index +
          (filter.includedTables schema entity).length < UInt32.size := by
        rw [first, Filter.includedTables, length]
        omega
      obtain ⟨select, last, planned⟩ := Compile.planned_of_supported supported levels _ room'
      exact ⟨_, compile_eq_ok.2 ⟨select, last, aggregates, supported, planned, rfl⟩⟩
  · intro adapter missing schema entity filter options
    have noneStated : ∀ select, statement schema adapter entity filter options ≠ .ok select := by
      intro select stated
      obtain ⟨⟨select, last⟩, planned, -⟩ := map_eq_ok.1 stated
      exact (Compile.planned_iff.2 planned).aggregates missing
    refine ⟨noneStated, fun text compiled => ?_⟩
    obtain ⟨select, stated, -⟩ := bind_eq_ok.1 compiled
    exact noneStated select stated

theorem compile_succeeds_iff_shop :
    (∃ text, compile Sample.shop (.ofDialect .postgresql) "Customer" Sample.nested
      { tableAlias := ⟨4294967291, by decide⟩ } = .ok text) ∧
    (¬ ∃ text, compile Sample.shop (.ofDialect .postgresql) "Customer" Sample.nested
      { tableAlias := ⟨4294967292, by decide⟩ } = .ok text) ∧
    ¬ ∃ text, compile Sample.shop { Adapter.sqlite with aggregates := none } "Customer" {} {} =
      .ok text := by
  obtain ⟨shipped, missing⟩ := compile_succeeds_iff
  have levels := ((shipped Sample.shop .postgresql "Customer" Sample.nested {}).1 ⟨_, rfl⟩).1
  refine ⟨(shipped _ _ _ _ _).2 ⟨levels, by decide⟩, fun compiled => ?_, ?_⟩
  · exact absurd ((shipped _ _ _ _ _).1 compiled).2 (by decide)
  · rintro ⟨text, compiled⟩
    exact (missing _ rfl Sample.shop "Customer" {} {}).2 text compiled

end NestedQuery
