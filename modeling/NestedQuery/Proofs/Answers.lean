import NestedQuery.Proofs.Values

set_option autoImplicit false

namespace NestedQuery

namespace Compile

open Sql Materialize

variable {schema : Schema} {entity : String} {filter : Filter}

def LevelAnswers (db : Database) (schema : Schema) (dialect : Dialect) (entity : String)
    (place : Level) (filter : Filter) (select : Select) : Prop :=
  filter.DistinctNames schema entity → ∀ (scope : Scope) (candidates : List Record),
    Leads db place (schema.tableOf entity) scope candidates → place.Fits (scope.map Prod.fst) →
      Option.Rel (Stands schema entity filter place.plural) (select.evaluate db dialect scope)
        ((filter.choose db schema entity place.implicitLimit candidates).mapM
          (filter.read db schema dialect entity))

def IncludesAnswer (db : Database) (schema : Schema) (dialect : Dialect) (entity : String)
    (parent last : Alias) (includes : List (Include Filter)) (selects : List (String × Select)) :
    Prop :=
  parent.index ≤ last.index → DistinctIncludes schema entity includes →
    (includes.map Include.relation).Nodup → ∀ (scope : Scope) (record : Record),
      Shows scope parent record →
        Option.Rel (Holds schema entity includes) (evaluateRelations db dialect selects scope)
          (readIncludes db schema dialect entity includes record)

theorem answers_level (db : Database) {dialect : Dialect} {place : Level} {table : String}
    {names : List String} {relations : List (String × Select)} {predicate : Option Predicate}
    (named : schema.tableName entity = .ok table) (listed : schema.fieldNames entity = .ok names)
    (resolved : filter.condition.mapM (resolve schema entity place.tableAlias) = .ok predicate)
    (included : IncludesAnswer db schema dialect entity place.tableAlias place.tableAlias
      filter.includes relations) :
    LevelAnswers db schema dialect entity place filter
      ⟨place.plural, columnsOf schema entity filter place names, relations,
        sourceOf (.ofDialect dialect) place.plural
          (rowsOf schema entity filter place table predicate)⟩ := by
  intro distinct scope candidates leads fits
  rw [Schema.tableOf_eq named] at leads
  obtain ⟨distinctNames, distinctIncludes⟩ := distinctNames_iff.1 distinct
  obtain ⟨chosen, h, arriving, records⟩ :=
    arriving_chosen db (.ofDialect dialect) resolved leads
  have objects : Option.Rel (List.Forall₂ (Reads schema entity filter))
      (chosen.mapM fun row => (evaluateRelations db dialect relations row.1).map fun members =>
        Json.object ((columnsOf schema entity filter place names).map
          (fun column => (column.1, row.1.value column.2)) ++ members))
      (chosen.mapM fun row => filter.read db schema dialect entity row.2) := by
    refine rel_mapM chosen fun row mem => ?_
    have shown := h.shown row mem
    rw [read_eq]
    exact rel_map (included (Nat.le_refl _) distinctIncludes
      (List.nodup_append.1 distinctNames).2.1 row.1 row.2 shown) fun _ _ holds =>
        object_reads listed distinct shown holds
  have resorted : db.sorted
      (orderKeys (rowsOf schema entity filter place table predicate).order)
      (chosen.map Prod.fst) = chosen.map Prod.fst := by
    rw [rowsOf, ← sorted_scopes db h.shown, h.sorted]
  rw [records, Select.evaluate, if_pos (isWellFormed_sourceOf resolved fits)]
  simp only [rows_sourceOf, arriving, resorted, ite_self, List.mapM_map]
  rw [← Option.map_id_apply (x := chosen.mapM (filter.read db schema dialect entity ∘ Prod.snd))]
  exact rel_map objects fun _ _ read => stands_of_reads dialect place table predicate read

theorem answer_cons (db : Database) {dialect : Dialect} {name : String} {parent last next : Alias}
    {scope : Option Filter} {rest : List (Include Filter)} {relation : Relation} {place : Level}
    {select : Select} {selects : List (String × Select)}
    (related : schema.relation entity name = .ok relation)
    (placed : levelOf schema entity parent last relation = .ok place)
    (later : place.tableAlias.index ≤ next.index)
    (level : LevelAnswers db schema dialect relation.target place (scope.getD {}) select)
    (others : IncludesAnswer db schema dialect entity parent next rest selects) :
    IncludesAnswer db schema dialect entity parent last (⟨name, scope⟩ :: rest)
      ((name, select) :: selects) := by
  intro bound distinct names outer record shown
  obtain ⟨distinct, distinct'⟩ := distinctIncludes_cons related distinct
  obtain ⟨fresh, names⟩ := List.nodup_cons.1 names
  have stands := level distinct outer _ (levelOf_leads db placed bound shown)
    (levelOf_fits placed shown.mem)
  rw [levelOf_implicitLimit placed] at stands
  have bound' : parent.index ≤ next.index := by
    have index := (levelOf_numbered placed).2
    omega
  have value : Option.Rel (ReadsAs schema entity name relation (scope.getD {}))
      ((select.evaluate db dialect outer).bind (single dialect))
      ((((scope.getD {}).choose db schema relation.target relation.implicitLimit
        (relation.candidates db schema entity record)).mapM
        ((scope.getD {}).read db schema dialect relation.target)).bind
      (relatedRead dialect relation.multiplicity)) :=
    rel_bind stands fun _ _ stands => single_readsAs (levelOf_plural placed) stands
  rw [evaluateRelations, readIncludes_cons db related]
  exact rel_bind value fun _ _ reads =>
    rel_map (others bound' distinct' names outer record shown) fun _ _ holds =>
      Holds.cons related reads.1 reads.2 holds fresh

mutual

theorem planned_answers (db : Database) {dialect : Dialect} {entity : String} {place : Level}
    {filter : Filter} {select : Select} {last : Alias}
    (planned : Planned schema (.ofDialect dialect) entity place filter select last) :
    LevelAnswers db schema dialect entity place filter select := by
  cases planned with
  | level named listed included supported resolved =>
    exact answers_level db named listed resolved (plannedIncludes_answer db included)

theorem plannedIncludes_answer (db : Database) {dialect : Dialect} {entity : String}
    {parent last final : Alias} {includes : List (Include Filter)}
    {selects : List (String × Select)}
    (planned : PlannedIncludes schema (.ofDialect dialect) entity parent last includes selects
      final) :
    IncludesAnswer db schema dialect entity parent last includes selects := by
  cases planned with
  | nil =>
    intro _ _ _ scope record _
    rw [evaluateRelations, readIncludes]
    exact .some .nil
  | cons related placed planned others =>
    obtain ⟨-, -, -, later⟩ := planned_numbered planned
    exact answer_cons db related placed (by omega) (planned_answers db planned)
      (plannedIncludes_answer db others)

end

theorem ofOptions_leads (db : Database) (plural : Bool) (table : String) :
    Leads db (.ofOptions { plural }) table [] (db.rows table) := by
  refine ⟨(db.rows table).map fun record => ([(.first, record)], record), ?_, ?_, ?_⟩
  · simp [Level.tied, Level.ofOptions, Function.comp_def]
  · simp [Function.comp_def]
  · intro row mem
    obtain ⟨record, -, rfl⟩ := List.mem_map.1 mem
    exact .front _ _ _

theorem ofOptions_fits (plural : Bool) : (Level.ofOptions { plural }).Fits [] := by
  constructor <;> simp [Level.ofOptions]

end Compile

/-- The compiled text is a statement whose rows, on any database, are read as the entities that the
filter selects there; where the filter cannot select, neither can the statement. -/
theorem compile_answers {schema : Schema} {dialect : Dialect} {entity : String} {filter : Filter}
    {plural : Bool} {text : String} (distinct : filter.DistinctNames schema entity)
    (compiled : compile schema (.ofDialect dialect) entity filter { plural } = .ok text) :
    ∃ (select : Sql.Select) (aggregates : Aggregates),
      statement schema (.ofDialect dialect) entity filter { plural } = .ok select ∧
      (Adapter.ofDialect dialect).aggregates = some aggregates ∧
      text = select.write (.ofDialect dialect) aggregates ∧
      ∀ db : Database,
        Option.Rel (fun values entities =>
            (values.mapM (Materialize.valueEntities schema entity filter)).map List.flatten =
              .ok entities ∧
            ∀ rows : List Row, List.Forall₂ Row.Gives rows values →
              materialize schema entity filter rows = .ok entities)
          (select.evaluate db dialect []) (filter.readAll db schema dialect entity) ∧
        (dialect = .sqlite ∨ filter.AsksForOne schema entity →
          (filter.readAll db schema dialect entity).isSome) := by
  obtain ⟨select, last, aggregates, supported, planned, rfl⟩ := compile_eq_ok.1 compiled
  have stated : statement schema (.ofDialect dialect) entity filter { plural } = .ok select :=
    map_eq_ok.2 ⟨_, Compile.planned_iff.1 planned, rfl⟩
  refine ⟨select, aggregates, stated, supported, rfl, fun db => ⟨?_, fun asks => ?_⟩⟩
  · have stands := Compile.planned_answers db planned distinct [] _
      (Compile.ofOptions_leads db plural _) (Compile.ofOptions_fits plural)
    refine rel_imp stands fun values entities stands => ?_
    have flat := Compile.entities_of_stands stands
    exact ⟨flat, fun rows given => (materialize_given given).trans flat⟩
  · obtain ⟨entities, read, -⟩ := mapM_some
      fun record _ => Compile.planned_readable db dialect planned asks record
    exact Option.isSome_iff_exists.2 ⟨entities, read⟩

theorem compile_answers_shop :
    ∃ (text : String) (select : Sql.Select) (aggregates : Aggregates) (values : List Json)
      (entities : List Entity),
      compile Sample.shop (.ofDialect .mysql) "Customer" Sample.nested { plural := true } =
        .ok text ∧
      text = select.write (.ofDialect .mysql) aggregates ∧
      select.evaluate Sample.ledger .mysql [] = some values ∧
      Sample.nested.readAll Sample.ledger Sample.shop .mysql "Customer" = some entities ∧
      (values.mapM (Materialize.valueEntities Sample.shop "Customer" Sample.nested)).map
        List.flatten = .ok entities := by
  have orders : Sample.shop.relation "Customer" "orders" = .ok (.hasMany "Order" "customerId") :=
    rfl
  have items : Sample.shop.relation "Order" "items" = .ok (.hasMany "Item" "orderId") := rfl
  have tags : Sample.shop.relation "Customer" "tags" =
      .ok (.hasManyThrough "Tag" "CustomerTag" "customerId" "tagId") := rfl
  have fields : Sample.shop.fieldsOf "Customer" = ["name"] ∧ Sample.shop.fieldsOf "Order" = ["day"] ∧
    Sample.shop.fieldsOf "Item" = ["sku"] ∧ Sample.shop.fieldsOf "Tag" = ["label"] :=
    ⟨rfl, rfl, rfl, rfl⟩
  have distinct : Sample.nested.DistinctNames Sample.shop "Customer" := by
    simp [Sample.nested, Filter.DistinctNames, DistinctIncludes, orders, items, tags, fields,
      Fields.project, Relation.hasMany, Relation.hasManyThrough]
  have asks : Sample.nested.AsksForOne Sample.shop "Customer" := by
    simp [Sample.nested, Filter.AsksForOne, IncludesAskForOne, orders, tags,
      Relation.hasMany, Relation.multiplicity]
  obtain ⟨text, compiled⟩ : ∃ text, compile Sample.shop (.ofDialect .mysql) "Customer"
      Sample.nested { plural := true } = .ok text := ⟨_, rfl⟩
  obtain ⟨select, aggregates, -, -, written, answers⟩ := compile_answers distinct compiled
  obtain ⟨related, readable⟩ := answers Sample.ledger
  obtain ⟨entities, read⟩ := Option.isSome_iff_exists.1 (readable (.inr asks))
  rw [read] at related
  generalize evaluated : select.evaluate Sample.ledger .mysql [] = result at related
  cases related with
  | some answered =>
    exact ⟨text, select, aggregates, _, entities, compiled, written, evaluated, read, answered.1⟩
end NestedQuery
