import NestedQuery.Materialize
import NestedQuery.Proofs.Evaluation

set_option autoImplicit false

namespace NestedQuery

def Schema.fieldsOf (schema : Schema) (entity : String) : List String :=
  (schema.fieldNames entity).toOption.getD []

theorem Schema.fieldsOf_eq {schema : Schema} {entity : String} {names : List String}
    (listed : schema.fieldNames entity = .ok names) : schema.fieldsOf entity = names := by
  simp [fieldsOf, listed, Except.toOption]

section Reading

variable (db : Database) (schema : Schema)

def leafValue (entity : String) (record : Record) (leaf : Condition String Literal) : Truth :=
  match Compile.resolveTest (Compile.operand schema entity leaf.subject) leaf.test with
  | .ok test => db.truth test (record (schema.columnName entity leaf.subject))
  | .error _ => .unknown

def Filter.keeps (entity : String) (filter : Filter) (record : Record) : Bool :=
  match filter.condition with
  | none => true
  | some tree => tree.value (leafValue db schema entity record) = .holds

def Filter.sortKeys (entity : String) (filter : Filter) : List (Key Record) :=
  filter.order.map fun entry =>
    (entry.direction, fun record => record (schema.columnName entity entry.field))

def Filter.choose (entity : String) (filter : Filter) (implicitLimit : Option UInt64)
    (candidates : List Record) : List Record :=
  -- The records that the filter leaves of the candidates. What is skipped counts only together
  -- with a limit.
  Sql.Page.cut ((filter.limit.or implicitLimit).map fun limit => ⟨limit, filter.skip⟩)
    (db.sorted (filter.sortKeys schema entity)
      (candidates.filter (filter.keeps db schema entity)))

def Relation.ties (entity : String) (relation : Relation) (through : Through)
    (record target link : Record) : Bool :=
  db.sameKey (link (schema.columnName through.entity through.keyToTarget))
      (target (schema.columnName relation.target through.targetKey)) &&
    db.sameKey (link (schema.columnName through.entity through.keyToOwner))
      (record (schema.columnName entity relation.ownerKey))

def Relation.candidates (entity : String) (relation : Relation) (record : Record) : List Record :=
  -- The records that a relation leads to, through a join once for each record of the join.
  let targets := db.rows (schema.tableOf relation.target)
  let key := schema.columnName relation.target
  let own := schema.columnName entity
  match relation.through, relation.kind with
  | none, .belongsTo => targets.filter fun target =>
      db.sameKey (target (key relation.ownerKey)) (record (own relation.foreignKey))
  | none, .hasOne | none, .hasMany => targets.filter fun target =>
      db.sameKey (target (key relation.foreignKey)) (record (own relation.ownerKey))
  | some through, _ => targets.flatMap fun target =>
      ((db.rows (schema.tableOf through.entity)).filter
        (relation.ties db schema entity through record target)).map fun _ => target

def Relation.implicitLimit (relation : Relation) : Option UInt64 :=
  if relation.multiplicity = .many then none else some 1

end Reading

def entityRead (schema : Schema) (entity : String) (fields : Option Fields) (record : Record)
    (relations : List (String × Related Entity)) : Entity where
  model := entity
  attributes := (Catalog.ofList ((Fields.project fields (schema.fieldsOf entity)).map fun field =>
    (field, Materialize.coerce (schema.fieldType entity field)
      (record (schema.columnName entity field))))).entries
  relations := (Catalog.ofList relations).entries

/-- A relation to one entity is absent without one; of several entities the dialect may refuse to
choose. -/
def relatedRead (dialect : Dialect) (multiplicity : Multiplicity) (entities : List Entity) :
    Option (Option (Related Entity)) :=
  match multiplicity with
  | .many => some (some (.many entities))
  | .one => (Sql.single dialect entities).map (Option.map .one)

mutual

def Filter.read (db : Database) (schema : Schema) (dialect : Dialect) (entity : String) :
    Filter → Record → Option Entity
  | ⟨_, _, _, _, fields, includes⟩, record =>
    (readIncludes db schema dialect entity includes record).map
      (entityRead schema entity fields record)

def readIncludes (db : Database) (schema : Schema) (dialect : Dialect) (entity : String) :
    List (Include Filter) → Record → Option (List (String × Related Entity))
  | [], _ => some []
  | ⟨name, scope⟩ :: rest, record =>
    match schema.relation entity name with
    | .error _ => none
    | .ok relation =>
      let candidates := relation.candidates db schema entity record
      let entities := match scope with
        | none =>
          some ((Filter.choose db schema relation.target {} relation.implicitLimit candidates).map
            fun target => entityRead schema relation.target none target [])
        | some scope =>
          (scope.choose db schema relation.target relation.implicitLimit candidates).mapM
            (scope.read db schema dialect relation.target)
      (entities.bind (relatedRead dialect relation.multiplicity)).bind fun related =>
        (readIncludes db schema dialect entity rest record).map fun others =>
          (related.map fun related => (name, related)).toList ++ others

end

def Filter.readAll (db : Database) (schema : Schema) (dialect : Dialect) (entity : String)
    (filter : Filter) : Option (List Entity) :=
  (filter.choose db schema entity none (db.rows (schema.tableOf entity))).mapM
    (filter.read db schema dialect entity)

mutual

def Filter.DistinctNames (schema : Schema) (entity : String) : Filter → Prop
  | ⟨_, _, _, _, fields, includes⟩ =>
    (Fields.project fields (schema.fieldsOf entity) ++ includes.map Include.relation).Nodup ∧
      DistinctIncludes schema entity includes

def DistinctIncludes (schema : Schema) (entity : String) : List (Include Filter) → Prop
  | [] => True
  | ⟨name, scope⟩ :: rest =>
    (∀ relation, schema.relation entity name = .ok relation →
      match scope with
      | none => (schema.fieldsOf relation.target).Nodup
      | some scope => scope.DistinctNames schema relation.target) ∧
    DistinctIncludes schema entity rest

end

mutual

def Filter.AsksForOne (schema : Schema) (entity : String) : Filter → Prop
  | ⟨_, _, _, _, _, includes⟩ => IncludesAskForOne schema entity includes

def IncludesAskForOne (schema : Schema) (entity : String) : List (Include Filter) → Prop
  | [] => True
  | ⟨name, scope⟩ :: rest =>
    (∀ relation, schema.relation entity name = .ok relation →
      match scope with
      | none => True
      | some scope =>
        (relation.multiplicity = .one → ∀ limit ∈ scope.limit, limit ≤ 1) ∧
          scope.AsksForOne schema relation.target) ∧
    IncludesAskForOne schema entity rest

end

section Steps

variable {schema : Schema} {entity : String} {filter : Filter}

theorem read_eq (db : Database) (dialect : Dialect) (record : Record) :
    filter.read db schema dialect entity record =
      (readIncludes db schema dialect entity filter.includes record).map
        (entityRead schema entity filter.fields record) := by
  cases filter
  rw [Filter.read]

theorem readIncludes_cons (db : Database) {dialect : Dialect} {name : String}
    {relation : Relation} (related : schema.relation entity name = .ok relation)
    (scope : Option Filter) (rest : List (Include Filter)) (record : Record) :
    readIncludes db schema dialect entity (⟨name, scope⟩ :: rest) record =
      ((((scope.getD {}).choose db schema relation.target relation.implicitLimit
          (relation.candidates db schema entity record)).mapM
          ((scope.getD {}).read db schema dialect relation.target)).bind
        (relatedRead dialect relation.multiplicity)).bind fun related =>
          (readIncludes db schema dialect entity rest record).map fun others =>
            (related.map fun related => (name, related)).toList ++ others := by
  rw [readIncludes.eq_def]
  simp only [related]
  cases scope with
  | some scope => rfl
  | none =>
    have plain (records : List Record) :
        records.mapM (Filter.read db schema dialect relation.target {}) =
          some (records.map fun target => entityRead schema relation.target none target []) :=
      List.mapM_pure
    rw [Option.getD_none, plain]

theorem distinctNames_iff : filter.DistinctNames schema entity ↔
    (Fields.project filter.fields (schema.fieldsOf entity) ++
      filter.includes.map Include.relation).Nodup ∧
        DistinctIncludes schema entity filter.includes := by
  cases filter
  rw [Filter.DistinctNames]

theorem distinctIncludes_cons {name : String} {scope : Option Filter}
    {rest : List (Include Filter)} {relation : Relation}
    (related : schema.relation entity name = .ok relation)
    (distinct : DistinctIncludes schema entity (⟨name, scope⟩ :: rest)) :
    (scope.getD {}).DistinctNames schema relation.target ∧ DistinctIncludes schema entity rest := by
  rw [DistinctIncludes.eq_def] at distinct
  refine ⟨?_, distinct.2⟩
  have own := distinct.1 relation related
  cases scope with
  | none => simpa [Filter.DistinctNames, DistinctIncludes, Fields.project] using own
  | some scope => exact own

theorem includesAskForOne_cons {name : String} {scope : Option Filter}
    {rest : List (Include Filter)} {relation : Relation}
    (related : schema.relation entity name = .ok relation)
    (asks : IncludesAskForOne schema entity (⟨name, scope⟩ :: rest)) :
    (relation.multiplicity = .one → ∀ limit ∈ (scope.getD {}).limit, limit ≤ 1) ∧
      (scope.getD {}).AsksForOne schema relation.target ∧ IncludesAskForOne schema entity rest := by
  rw [IncludesAskForOne.eq_def] at asks
  have own := asks.1 relation related
  cases scope with
  | none => exact ⟨by simp, by simp [Filter.AsksForOne, IncludesAskForOne], asks.2⟩
  | some scope => exact ⟨own.1, own.2, asks.2⟩

theorem relatedRead_isSome {dialect : Dialect} {multiplicity : Multiplicity}
    {entities : List Entity}
    (few : multiplicity = .one → dialect = .sqlite ∨ entities.length ≤ 1) :
    (relatedRead dialect multiplicity entities).isSome := by
  cases multiplicity with
  | one =>
    rw [relatedRead, Option.isSome_map]
    exact Sql.single_isSome (few rfl)
  | many => rfl

theorem choose_short (db : Database) {relation : Relation} (one : relation.multiplicity = .one)
    (asked : ∀ limit ∈ filter.limit, limit ≤ 1) (candidates : List Record) :
    (filter.choose db schema entity relation.implicitLimit candidates).length ≤ 1 := by
  have cut (limit : UInt64) (small : limit ≤ 1) (rows : List Record) :
      (Sql.Page.cut (some ⟨limit, filter.skip⟩) rows).length ≤ 1 := by
    have bound : limit.toNat ≤ 1 := small
    simp only [Sql.Page.cut, List.length_take]
    omega
  unfold Filter.choose Relation.implicitLimit
  cases limited : filter.limit with
  | none =>
    simp only [one, Option.or, reduceCtorEq, if_false, Option.map_some]
    exact cut 1 (by decide) _
  | some limit => exact cut limit (asked limit limited) _

theorem mapM_some {α β : Type} {f : α → Option β} {items : List α}
    (each : ∀ item ∈ items, (f item).isSome) :
    ∃ values, items.mapM f = some values ∧ values.length = items.length := by
  induction items with
  | nil => exact ⟨[], rfl, rfl⟩
  | cons item rest ih =>
    obtain ⟨first, eq⟩ := Option.isSome_iff_exists.1 (each item List.mem_cons_self)
    obtain ⟨others, eq', length⟩ := ih fun other mem => each other (List.mem_cons_of_mem _ mem)
    refine ⟨first :: others, ?_, by simp [length]⟩
    rw [List.mapM_cons, eq, eq']
    rfl

theorem mapM_values {α β : Type} {f : α → Option β} {items : List α} {values : List β}
    (read : items.mapM f = some values) :
    values.length = items.length ∧ ∀ value ∈ values, ∃ item ∈ items, f item = some value := by
  induction items generalizing values with
  | nil =>
    cases read
    exact ⟨rfl, by simp⟩
  | cons item rest ih =>
    simp only [List.mapM_cons, Option.bind_eq_bind, Option.bind_eq_some_iff, Option.pure_def,
      Option.some.injEq] at read
    obtain ⟨first, own, others, read, rfl⟩ := read
    obtain ⟨length, each⟩ := ih read
    refine ⟨by rw [List.length_cons, List.length_cons, length], fun value mem => ?_⟩
    rcases List.mem_cons.1 mem with rfl | mem
    · exact ⟨item, List.mem_cons_self, own⟩
    · obtain ⟨other, there, given⟩ := each value mem
      exact ⟨other, List.mem_cons_of_mem _ there, given⟩

end Steps

namespace Compile

open Sql

variable {schema : Schema}

mutual

theorem planned_readable (db : Database) {adapter : Adapter} (dialect : Dialect) {entity : String}
    {place : Level} {filter : Filter} {select : Select} {last : Alias}
    (planned : Planned schema adapter entity place filter select last) :
    (dialect = .sqlite ∨ filter.AsksForOne schema entity) →
      ∀ record, (filter.read db schema dialect entity record).isSome := by
  cases planned with
  | level named listed included supported resolved =>
    intro asks record
    rw [read_eq, Option.isSome_map]
    cases filter
    exact plannedIncludes_readable db dialect included (by rwa [Filter.AsksForOne] at asks) record

theorem plannedIncludes_readable (db : Database) {adapter : Adapter} (dialect : Dialect)
    {entity : String} {parent last final : Alias} {includes : List (Include Filter)}
    {selects : List (String × Select)}
    (planned : PlannedIncludes schema adapter entity parent last includes selects final) :
    (dialect = .sqlite ∨ IncludesAskForOne schema entity includes) →
      ∀ record, (readIncludes db schema dialect entity includes record).isSome := by
  cases planned with
  | nil =>
    intro _ record
    rw [readIncludes]
    rfl
  | @cons _ name _ _ next _ scope rest relation place select selects related placed planned
      others =>
    intro asks record
    have permitted : dialect = .sqlite ∨
        ((relation.multiplicity = .one → ∀ limit ∈ (scope.getD {}).limit, limit ≤ 1) ∧
          (scope.getD {}).AsksForOne schema relation.target ∧
            IncludesAskForOne schema entity rest) :=
      asks.imp_right (includesAskForOne_cons related)
    have own := planned_readable db dialect planned (permitted.imp_right fun asks => asks.2.1)
    have behind := plannedIncludes_readable db dialect others
      (permitted.imp_right fun asks => asks.2.2) record
    let targets := (scope.getD {}).choose db schema relation.target relation.implicitLimit
      (relation.candidates db schema entity record)
    obtain ⟨entities, read, length⟩ : ∃ entities,
        targets.mapM ((scope.getD {}).read db schema dialect relation.target) = some entities ∧
          entities.length = targets.length :=
      mapM_some fun target _ => own target
    have few : relation.multiplicity = .one → dialect = .sqlite ∨ entities.length ≤ 1 :=
      fun one => permitted.imp_right fun asks =>
        length ▸ choose_short db one (asks.1 one) _
    obtain ⟨related', taken⟩ := Option.isSome_iff_exists.1 (relatedRead_isSome few)
    rw [readIncludes_cons db related, read, Option.bind_some, taken, Option.bind_some,
      Option.isSome_map]
    exact behind

end

end Compile

end NestedQuery
