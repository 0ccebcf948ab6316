import NestedQuery.Compile

set_option autoImplicit false

/-!
What a plan that succeeds consists of: one step for each level and one for each relation of the
include tree. Statements about all plans are inductions over these steps.
-/

namespace NestedQuery

theorem bind_eq_ok {ε α β : Type} {x : Except ε α} {f : α → Except ε β} {b : β} :
    (x >>= f) = .ok b ↔ ∃ a, x = .ok a ∧ f a = .ok b := by
  cases x <;> simp [bind, Except.bind]

theorem map_eq_ok {ε α β : Type} {x : Except ε α} {f : α → β} {b : β} :
    x.map f = .ok b ↔ ∃ a, x = .ok a ∧ f a = b := by
  cases x <;> simp [Except.map]

theorem mapM_succeeds {ε α β : Type} {f : α → Except ε β} {items : List α} :
    (∃ values, items.mapM f = .ok values) ↔ ∀ item ∈ items, ∃ value, f item = .ok value := by
  induction items with
  | nil => simp [pure, Except.pure]
  | cons item rest ih =>
    rw [List.forall_mem_cons, ← ih, List.mapM_cons]
    simp only [bind_eq_ok, pure, Except.pure, Except.ok.injEq]
    constructor
    · rintro ⟨_, value, own, values, others, rfl⟩
      exact ⟨⟨value, own⟩, values, others⟩
    · rintro ⟨⟨value, own⟩, values, others⟩
      exact ⟨_, value, own, values, others, rfl⟩

@[simp] theorem bind_ok {ε α β : Type} (a : α) (f : α → Except ε β) :
    (Except.ok a >>= f) = f a := rfl

@[simp] theorem bind_error {ε α β : Type} (e : ε) (f : α → Except ε β) :
    (Except.error e >>= f) = .error e := rfl

@[simp] theorem map_error {ε α β : Type} (e : ε) (f : α → β) :
    f <$> (Except.error e : Except ε α) = .error e := rfl

def FailsWith {ε α : Type} (property : ε → Prop) (x : Except ε α) : Prop :=
  ∀ e, x = .error e → property e

namespace FailsWith

variable {ε α β : Type} {property : ε → Prop}

theorem ok (a : α) : FailsWith property (.ok a) := by
  rintro e ⟨⟩

theorem error {e : ε} (holds : property e) : FailsWith property (.error e : Except ε α) := by
  rintro _ ⟨⟩
  exact holds

theorem bind {x : Except ε α} {f : α → Except ε β} (first : FailsWith property x)
    (next : ∀ a, x = .ok a → FailsWith property (f a)) : FailsWith property (x >>= f) := by
  cases x with
  | error e => exact .error (first e rfl)
  | ok a => exact next a rfl

theorem map {x : Except ε α} (f : α → β) (first : FailsWith property x) :
    FailsWith property (x.map f) := by
  cases x with
  | error e => exact .error (first e rfl)
  | ok a => exact .ok (f a)

theorem mapM {f : α → Except ε β} {items : List α}
    (each : ∀ item ∈ items, FailsWith property (f item)) : FailsWith property (items.mapM f) := by
  induction items with
  | nil => exact .ok []
  | cons item rest ih =>
    rw [List.forall_mem_cons] at each
    rw [List.mapM_cons]
    exact .bind each.1 fun value _ => .bind (ih each.2) fun values _ => .ok _

end FailsWith

def Yields {ε α : Type} (property : α → Prop) (x : Except ε α) : Prop :=
  ∀ a, x = .ok a → property a

namespace Yields

variable {ε α β : Type} {property : β → Prop}

theorem ok {b : β} (holds : property b) : Yields property (.ok b : Except ε β) := by
  rintro _ ⟨⟩
  exact holds

theorem error (e : ε) : Yields property (.error e) := by
  rintro b ⟨⟩

theorem bind {x : Except ε α} {f : α → Except ε β}
    (next : ∀ a, x = .ok a → Yields property (f a)) : Yields property (x >>= f) := by
  cases x with
  | error e => exact .error e
  | ok a => exact next a rfl

theorem map {x : Except ε α} {f : α → β} (next : ∀ a, x = .ok a → property (f a)) :
    Yields property (x.map f) := by
  cases x with
  | error e => exact .error e
  | ok a => exact .ok (next a rfl)

theorem mapM {f : α → Except ε β} {items : List α}
    (each : ∀ item ∈ items, Yields property (f item)) :
    Yields (∀ value ∈ ·, property value) (items.mapM f) := by
  induction items with
  | nil => exact .ok (by simp)
  | cons item rest ih =>
    rw [List.forall_mem_cons] at each
    rw [List.mapM_cons]
    refine .bind fun value own => .bind fun values others => .ok ?_
    exact List.forall_mem_cons.2 ⟨each.1 value own, ih each.2 values others⟩

theorem foldlM {f : β → α → Except ε β} {items : List α} {b : β}
    (step : ∀ item ∈ items, ∀ b, property b → Yields property (f b item)) (holds : property b) :
    Yields property (items.foldlM f b) := by
  induction items generalizing b with
  | nil => exact .ok holds
  | cons item rest ih =>
    rw [List.forall_mem_cons] at step
    rw [List.foldlM_cons]
    exact .bind fun next read => ih step.2 (step.1 b holds next read)

end Yields

namespace Compile

open Sql

variable {schema : Schema} {adapter : Adapter}

mutual

inductive Planned (schema : Schema) (adapter : Adapter) :
    String → Level → Filter → Select → Alias → Prop
  | level {entity : String} {place : Level} {filter : Filter} {table : String}
      {names : List String} {relations : List (String × Select)} {last : Alias}
      {aggregates : Aggregates} {predicate : Option Predicate}
      (named : schema.tableName entity = .ok table)
      (listed : schema.fieldNames entity = .ok names)
      (included : PlannedIncludes schema adapter entity place.tableAlias place.tableAlias
        filter.includes relations last)
      (supported : adapter.aggregates = some aggregates)
      (resolved : filter.condition.mapM (resolve schema entity place.tableAlias) = .ok predicate) :
      Planned schema adapter entity place filter
        ⟨place.plural, columnsOf schema entity filter place names, relations,
          sourceOf adapter place.plural (rowsOf schema entity filter place table predicate)⟩ last

inductive PlannedIncludes (schema : Schema) (adapter : Adapter) :
    String → Alias → Alias → List (Include Filter) → List (String × Select) → Alias → Prop
  -- An include without a filter is one with the empty filter.
  | nil {entity : String} {parent last : Alias} :
      PlannedIncludes schema adapter entity parent last [] [] last
  | cons {entity name : String} {parent last next final : Alias} {scope : Option Filter}
      {rest : List (Include Filter)} {relation : Relation} {place : Level} {select : Select}
      {selects : List (String × Select)}
      (related : schema.relation entity name = .ok relation)
      (placed : levelOf schema entity parent last relation = .ok place)
      (planned : Planned schema adapter relation.target place (scope.getD {}) select next)
      (others : PlannedIncludes schema adapter entity parent next rest selects final) :
      PlannedIncludes schema adapter entity parent last (⟨name, scope⟩ :: rest)
        ((name, select) :: selects) final

end

mutual

inductive Resolved (schema : Schema) (entity : String) (tableAlias : Alias) :
    Where → Predicate → Prop
  | leaf {field : String} {test : Test Literal} {placed : Test Operand}
      (operands : resolveTest (operand schema entity field) test = .ok placed) :
      Resolved schema entity tableAlias (.leaf ⟨field, test⟩)
        (.leaf ⟨column schema entity tableAlias field, placed⟩)
  | group {connective : Connective} {parts : List Where} {predicates : List Predicate}
      (somePart : parts ≠ [])
      (resolved : ResolvedParts schema entity tableAlias parts predicates) :
      Resolved schema entity tableAlias (.group connective parts) (.group connective predicates)

inductive ResolvedParts (schema : Schema) (entity : String) (tableAlias : Alias) :
    List Where → List Predicate → Prop
  | nil : ResolvedParts schema entity tableAlias [] []
  | cons {part : Where} {rest : List Where} {predicate : Predicate} {predicates : List Predicate}
      (resolved : Resolved schema entity tableAlias part predicate)
      (others : ResolvedParts schema entity tableAlias rest predicates) :
      ResolvedParts schema entity tableAlias (part :: rest) (predicate :: predicates)

end

mutual

theorem resolved_of_resolve (entity : String) (tableAlias : Alias) (predicate : Predicate) :
    ∀ tree : Where, resolve schema entity tableAlias tree = .ok predicate →
      Resolved schema entity tableAlias tree predicate
  | .leaf ⟨field, test⟩, h => by
    rw [resolve, map_eq_ok] at h
    obtain ⟨placed, operands, rfl⟩ := h
    exact .leaf operands
  | .group connective parts, h => by
    rw [resolve] at h
    split at h
    · cases h
    next somePart =>
      obtain ⟨predicates, resolved, rfl⟩ := map_eq_ok.1 h
      exact .group (by simpa using somePart)
        (resolvedParts_of_resolve entity tableAlias predicates parts resolved)

theorem resolvedParts_of_resolve (entity : String) (tableAlias : Alias)
    (predicates : List Predicate) :
    ∀ parts : List Where, resolveParts schema entity tableAlias parts = .ok predicates →
      ResolvedParts schema entity tableAlias parts predicates
  | [], h => by
    rw [resolveParts] at h
    cases h
    exact .nil
  | part :: rest, h => by
    simp only [resolveParts, bind_eq_ok, pure, Except.pure, Except.ok.injEq] at h
    obtain ⟨predicate, resolved, predicates, others, rfl⟩ := h
    exact .cons (resolved_of_resolve entity tableAlias predicate part resolved)
      (resolvedParts_of_resolve entity tableAlias predicates rest others)

end

mutual

theorem resolve_of_resolved {entity : String} {tableAlias : Alias} {tree : Where}
    {predicate : Predicate} (resolved : Resolved schema entity tableAlias tree predicate) :
    resolve schema entity tableAlias tree = .ok predicate := by
  cases resolved with
  | leaf operands => rw [resolve, operands, Except.map]
  | group somePart resolved =>
    rw [resolve, if_neg (by simpa using somePart), resolveParts_of_resolved resolved, Except.map]

theorem resolveParts_of_resolved {entity : String} {tableAlias : Alias} {parts : List Where}
    {predicates : List Predicate}
    (resolved : ResolvedParts schema entity tableAlias parts predicates) :
    resolveParts schema entity tableAlias parts = .ok predicates := by
  cases resolved with
  | nil => rfl
  | cons resolved others =>
    simp only [resolveParts, resolve_of_resolved resolved, resolveParts_of_resolved others, bind_ok]
    rfl

end

theorem resolved_iff {entity : String} {tableAlias : Alias} {tree : Where}
    {predicate : Predicate} : Resolved schema entity tableAlias tree predicate ↔
      resolve schema entity tableAlias tree = .ok predicate :=
  ⟨resolve_of_resolved, resolved_of_resolve entity tableAlias predicate tree⟩

theorem option_mapM_eq_ok {ε α β : Type} {f : α → Except ε β} {a? : Option α} {b? : Option β} :
    a?.mapM f = .ok b? ↔
      (a? = none ∧ b? = none) ∨ ∃ a b, a? = some a ∧ b? = some b ∧ f a = .ok b := by
  cases a? with
  | none => simp [pure, Except.pure, eq_comm]
  | some a => cases h : f a <;> simp [h, Functor.map, Except.map, eq_comm]

theorem next_eq_ok {last tableAlias : Alias} :
    last.next = .ok tableAlias ↔ tableAlias.index = last.index + 1 := by
  unfold Alias.next Alias.ofNat?
  split
  next following h =>
    split at h
    · cases h
      constructor
      · rintro ⟨⟩
        rfl
      · intro same
        cases tableAlias
        simp_all
    · cases h
  next h =>
    split at h
    · cases h
    next exhausted =>
      constructor
      · rintro ⟨⟩
      · intro same
        exact absurd (same ▸ tableAlias.inRange) exhausted

theorem next_exhausted {last : Alias} (full : UInt32.size ≤ last.index + 1) :
    last.next = .error (.invalidFilter .aliasesExhausted) := by
  unfold Alias.next Alias.ofNat?
  rw [dif_neg (Nat.not_lt.2 full)]

theorem levelOf_eq_ok {entity : String} {parent last : Alias} {relation : Relation}
    {place : Level} :
    levelOf schema entity parent last relation = .ok place ↔
      (relation.through = none ∧ ∃ tableAlias, last.next = .ok tableAlias ∧
        place = directLevel schema entity parent tableAlias relation) ∨
      ∃ through joinAlias tableAlias table, relation.through = some through ∧
        last.next = .ok joinAlias ∧ joinAlias.next = .ok tableAlias ∧
        schema.tableName through.entity = .ok table ∧
        place = throughLevel schema entity parent joinAlias tableAlias relation through table := by
  unfold levelOf
  cases h : relation.through with
  | none =>
    simp only [bind_eq_ok, pure, Except.pure, Except.ok.injEq, true_and, reduceCtorEq, false_and,
      exists_false, or_false]
    simp only [eq_comm]
  | some through =>
    simp only [bind_eq_ok, pure, Except.pure, Except.ok.injEq]
    constructor
    · rintro ⟨joinAlias, first, tableAlias, second, table, named, rfl⟩
      exact .inr ⟨through, joinAlias, tableAlias, table, rfl, first, second, named, rfl⟩
    · rintro (⟨absent, -⟩ | ⟨_, joinAlias, tableAlias, table, ⟨⟩, first, second, named, rfl⟩)
      · cases absent
      · exact ⟨joinAlias, first, tableAlias, second, table, named, rfl⟩

@[simp] theorem rows_sourceOf (plural : Bool) (rows : Rows) :
    (sourceOf adapter plural rows).rows = rows := by
  unfold sourceOf
  split <;> rfl

theorem require_eq_ok {feature : Feature} {aggregates : Aggregates} :
    adapter.require feature = .ok aggregates ↔ adapter.aggregates = some aggregates := by
  unfold Adapter.require
  cases adapter.aggregates <;> simp

theorem ofDialect_aggregates (dialect : Dialect) :
    ∃ aggregates, (Adapter.ofDialect dialect).aggregates = some aggregates := by
  cases dialect <;> exact ⟨_, rfl⟩

theorem plan_eq_level (entity : String) (place : Level) (filter : Filter) :
    plan schema adapter entity place filter =
      level schema adapter entity filter place
        (planIncludes schema adapter entity place.tableAlias place.tableAlias filter.includes) := by
  cases filter
  rw [plan]

theorem planIncludes_cons (entity : String) (parent last : Alias) (name : String)
    (scope : Option Filter) (rest : List (Include Filter)) :
    planIncludes schema adapter entity parent last (⟨name, scope⟩ :: rest) = do
      let relation ← schema.relation entity name
      let place ← levelOf schema entity parent last relation
      let (select, next) ← plan schema adapter relation.target place (scope.getD {})
      let (others, final) ← planIncludes schema adapter entity parent next rest
      return ((name, select) :: others, final) := by
  rw [planIncludes.eq_def]
  cases scope with
  | none => simp only [plan_eq_level, Option.getD_none, planIncludes]
  | some scope => rfl

theorem level_eq_ok {entity : String} {filter : Filter} {place : Level}
    {relations : Except Error (List (String × Select) × Alias)} {select : Select} {last : Alias} :
    level schema adapter entity filter place relations = .ok (select, last) ↔
      ∃ table names selects aggregates predicate, schema.tableName entity = .ok table ∧
        schema.fieldNames entity = .ok names ∧ relations = .ok (selects, last) ∧
        adapter.aggregates = some aggregates ∧
        filter.condition.mapM (resolve schema entity place.tableAlias) = .ok predicate ∧
        select = ⟨place.plural, columnsOf schema entity filter place names, selects,
          sourceOf adapter place.plural (rowsOf schema entity filter place table predicate)⟩ := by
  simp only [level, bind_eq_ok, require_eq_ok, Prod.exists, pure, Except.pure, Except.ok.injEq,
    Prod.mk.injEq]
  constructor
  · rintro ⟨table, named, names, listed, selects, next, included, aggregates, supported,
      predicate, resolved, rfl, rfl⟩
    exact ⟨table, names, selects, aggregates, predicate, named, listed, included, supported,
      resolved, rfl⟩
  · rintro ⟨table, names, selects, aggregates, predicate, named, listed, included, supported,
      resolved, rfl⟩
    exact ⟨table, named, names, listed, selects, last, included, aggregates, supported, predicate,
      resolved, rfl, rfl⟩

mutual

theorem planned_of_plan (entity : String) (place : Level) (select : Select) (last : Alias) :
    ∀ filter : Filter, plan schema adapter entity place filter = .ok (select, last) →
      Planned schema adapter entity place filter select last
  | ⟨condition, order, limit, skip, fields, includes⟩, h => by
    rw [plan_eq_level] at h
    obtain ⟨table, names, selects, aggregates, predicate, named, listed, included, supported,
      resolved, rfl⟩ := level_eq_ok.1 h
    exact .level named listed (plannedIncludes_of_plan entity _ _ selects last includes included)
      supported resolved

theorem plannedIncludes_of_plan (entity : String) (parent last : Alias)
    (selects : List (String × Select)) (final : Alias) :
    ∀ includes : List (Include Filter),
      planIncludes schema adapter entity parent last includes = .ok (selects, final) →
        PlannedIncludes schema adapter entity parent last includes selects final
  | [], h => by
    simp only [planIncludes, Except.ok.injEq, Prod.mk.injEq] at h
    obtain ⟨rfl, rfl⟩ := h
    exact .nil
  | ⟨name, none⟩ :: rest, h => by
    simp only [planIncludes_cons, bind_eq_ok, Prod.exists, pure, Except.pure, Except.ok.injEq,
      Prod.mk.injEq] at h
    obtain ⟨relation, related, place, placed, select, next, planned, others, last', included,
      rfl, rfl⟩ := h
    rw [plan_eq_level] at planned
    obtain ⟨table, names, selects, aggregates, predicate, named, listed, included', supported,
      resolved, rfl⟩ := level_eq_ok.1 planned
    simp only [Option.getD_none, planIncludes, Except.ok.injEq, Prod.mk.injEq] at included'
    obtain ⟨rfl, rfl⟩ := included'
    exact .cons related placed (.level named listed .nil supported resolved)
      (plannedIncludes_of_plan entity parent _ others _ rest included)
  | ⟨name, some scope⟩ :: rest, h => by
    simp only [planIncludes_cons, bind_eq_ok, Prod.exists, pure, Except.pure, Except.ok.injEq,
      Prod.mk.injEq] at h
    obtain ⟨relation, related, place, placed, select, next, planned, others, last', included,
      rfl, rfl⟩ := h
    exact .cons related placed (planned_of_plan relation.target place select next scope planned)
      (plannedIncludes_of_plan entity parent next others _ rest included)

end

mutual

theorem plan_of_planned {entity : String} {place : Level} {filter : Filter} {select : Select}
    {last : Alias} (planned : Planned schema adapter entity place filter select last) :
    plan schema adapter entity place filter = .ok (select, last) := by
  cases planned with
  | level named listed included supported resolved =>
    rw [plan_eq_level, planIncludes_of_planned included]
    exact level_eq_ok.2 ⟨_, _, _, _, _, named, listed, rfl, supported, resolved, rfl⟩

theorem planIncludes_of_planned {entity : String} {parent last final : Alias}
    {includes : List (Include Filter)} {selects : List (String × Select)}
    (planned : PlannedIncludes schema adapter entity parent last includes selects final) :
    planIncludes schema adapter entity parent last includes = .ok (selects, final) := by
  cases planned with
  | nil => rfl
  | cons related placed planned others =>
    simp only [planIncludes_cons, related, placed, plan_of_planned planned,
      planIncludes_of_planned others, bind_ok]
    rfl

end

theorem planned_iff {entity : String} {place : Level} {filter : Filter} {select : Select}
    {last : Alias} : Planned schema adapter entity place filter select last ↔
      plan schema adapter entity place filter = .ok (select, last) :=
  ⟨plan_of_planned, planned_of_plan entity place select last filter⟩

end Compile

def Sample.shop : Schema :=
  Schema.withEntity {} "Customer"
      (((EntityDef.ofTable "customers").withField "name").withRelation "orders"
        (.hasMany "Order" "customerId")
      |>.withRelation "tags" (.hasManyThrough "Tag" "CustomerTag" "customerId" "tagId"))
    |>.withEntity "Order" (((EntityDef.ofTable "orders").withTypedField "day" "day" .date)
      |>.withRelation "items" (.hasMany "Item" "orderId"))
    |>.withEntity "Item" ((EntityDef.ofTable "items").withField "sku")
    |>.withEntity "Tag" ((EntityDef.ofTable "tags").withField "label")
    |>.withEntity "CustomerTag" (.ofTable "customer_tags")

def Sample.nested : Filter where
  includes :=
    [⟨"orders", some
      { order := [⟨"day", some .desc⟩]
        limit := some 2
        includes := [⟨"items", none⟩] }⟩,
      ⟨"tags", none⟩]

theorem compile_eq_ok {schema : Schema} {dialect : Dialect} {entity : String} {filter : Filter}
    {options : Options} {text : String} :
    compile schema (.ofDialect dialect) entity filter options = .ok text ↔
      ∃ select last aggregates, (Adapter.ofDialect dialect).aggregates = some aggregates ∧
        Compile.Planned schema (.ofDialect dialect) entity (.ofOptions options) filter select
          last ∧
        text = select.write (.ofDialect dialect) aggregates := by
  simp only [compile, statement, bind_eq_ok, map_eq_ok, Compile.require_eq_ok, pure, Except.pure,
    Except.ok.injEq, Prod.exists, Compile.planned_iff]
  constructor
  · rintro ⟨select, ⟨_, last, planned, rfl⟩, aggregates, supported, rfl⟩
    exact ⟨_, last, aggregates, supported, planned, rfl⟩
  · rintro ⟨select, last, aggregates, supported, planned, rfl⟩
    exact ⟨select, ⟨select, last, planned, rfl⟩, aggregates, supported, rfl⟩

end NestedQuery
