import NestedQuery.Proofs.Compilable
import NestedQuery.Proofs.Placement
import NestedQuery.Proofs.Separate
import NestedQuery.Proofs.Taking

set_option autoImplicit false

namespace NestedQuery

inductive Error.OfPayload : Error → Prop
  | malformed (fault : Json.Fault) : OfPayload (.malformedPayload fault)
  | shape (fault : PayloadFault) : OfPayload (.materialize fault)

namespace Materialize

def readWith (schema : Schema) (entity : String) (attributes : List String)
    (includes : List (Include Filter)) (payload : List (String × Json)) : Except Error Entity :=
  let taken := takeAttributes schema entity [] payload attributes
  (relationsOf schema entity includes [] taken.2).map fun relations =>
    { model := entity, attributes := taken.1, relations }

structure NeedsArray (schema : Schema) (entity : String) (included : Include Filter) : Prop where
  accepts : ∀ payload, relationPayload included.relation payload = .ok (.array []) →
    ∃ related, relationOf schema entity payload included = .ok related
  refuses : ∀ payload value related, relationPayload included.relation payload = .ok value →
    relationOf schema entity payload included = .ok related →
      value = .null ∨ ∃ items, value = .array items

variable {schema : Schema} {entity : String} {filter : Filter}

theorem entityOf_eq_readWith {names : List String} (listed : schema.fieldNames entity = .ok names)
    (payload : List (String × Json)) :
    entityOf schema entity filter (.object payload) =
      readWith schema entity (Fields.project filter.fields names) filter.includes payload := by
  obtain ⟨condition, order, limit, skip, fields, includes⟩ := filter
  simp only [entityOf, entityWith, listed, bind_ok, readWith]
  cases relationsOf schema entity includes []
    (takeAttributes schema entity [] payload (Fields.project fields names)).2 <;> rfl

theorem relationsOf_eq_bind (included : Include Filter) (includes : List (Include Filter))
    (accumulated : List (String × Related Entity)) (payload : List (String × Json)) :
    relationsOf schema entity (included :: includes) accumulated payload = (do
      let related ← relationOf schema entity payload included
      relationsOf schema entity includes
        (Keyed.insertAll (related.map fun related => (included.relation, related)).toList
          accumulated)
        (Keyed.erase included.relation payload)) := by
  obtain ⟨name, scope⟩ := included
  simp only [relationsOf_cons, relationOf, bind_assoc]

theorem relationOf_eq_bind {included : Include Filter} {relation : Relation}
    (found : schema.relation entity included.relation = .ok relation)
    (payload : List (String × Json)) :
    relationOf schema entity payload included = (do
      let value ← relationPayload included.relation payload
      relatedOf entity included.relation relation.multiplicity
        (entityOf schema relation.target (included.scope.getD {})) value) := by
  rw [relationOf, found, bind_ok]

theorem needsArray_iff {included : Include Filter} {relation : Relation}
    (found : schema.relation entity included.relation = .ok relation) :
    NeedsArray schema entity included ↔ relation.multiplicity = .many := by
  have read {payload : List (String × Json)} {value : Json} {related : Option (Related Entity)}
      (given : relationPayload included.relation payload = .ok value) :
      relationOf schema entity payload included = .ok related ↔
        Filled (entityOf schema relation.target (included.scope.getD {})) relation.multiplicity
          value related := by
    rw [relationOf_eq_bind found, given, bind_ok, ← filled_iff]
  constructor
  · intro needs
    have given : relationPayload included.relation [(included.relation, .array [])] =
        .ok (.array []) := relationPayload_cons (by simp) []
    obtain ⟨related, taken⟩ := needs.accepts _ given
    generalize relation.multiplicity = multiplicity at read
    cases (read given).1 taken with
    | many => rfl
  · intro many
    rw [many] at read
    constructor
    · intro payload given
      exact ⟨_, (read given).2 (.many rfl)⟩
    · intro payload value related given taken
      cases (read given).1 taken with
      | empty => exact .inl rfl
      | many => exact .inr ⟨_, rfl⟩

theorem parse_failsWith (text : String) : FailsWith Error.OfPayload (parse text) := by
  unfold parse
  cases Json.read text with
  | ok value => exact .ok value
  | error fault => exact .error (.malformed fault)

theorem relationPayload_failsWith (name : String) (payload : List (String × Json)) :
    FailsWith Error.OfPayload (relationPayload name payload) := by
  unfold relationPayload
  split
  · exact parse_failsWith _
  · exact .ok _
  · exact .ok _

theorem relatedOf_failsWith {name : String} {multiplicity : Multiplicity}
    {target : Json → Except Error Entity}
    (each : ∀ payload, FailsWith Error.OfPayload (target payload)) (value : Json) :
    FailsWith Error.OfPayload (relatedOf entity name multiplicity target value) := by
  unfold relatedOf
  split
  · exact .ok _
  · exact .map _ (.mapM fun item _ => each item)
  · exact .ok _
  · exact .map _ (each _)
  · exact .error (.shape _)

theorem relationsOf_failsWith {includes : List (Include Filter)}
    (each : ∀ included ∈ includes, ∀ payload,
      FailsWith Error.OfPayload (relationOf schema entity payload included))
    (accumulated : List (String × Related Entity)) (payload : List (String × Json)) :
    FailsWith Error.OfPayload (relationsOf schema entity includes accumulated payload) := by
  induction includes generalizing accumulated payload with
  | nil => exact .ok accumulated
  | cons included rest ih =>
    rw [List.forall_mem_cons] at each
    rw [relationsOf_eq_bind]
    exact .bind (each.1 payload) fun related _ => ih each.2 _ _

end Materialize

def Filter.Known (schema : Schema) (entity : String) (filter : Filter) : Prop :=
  ∀ owner scope, filter.HasLevel schema entity owner scope →
    (∃ names, schema.fieldNames owner = .ok names) ∧
    ∀ included ∈ scope.includes, ∃ relation, schema.relation owner included.relation = .ok relation

namespace Materialize

variable {schema : Schema} {entity : String} {filter : Filter}

theorem entityOf_failsWith (known : filter.Known schema entity) (payload : Json) :
    FailsWith Error.OfPayload (entityOf schema entity filter payload) := by
  induction filter using Filter.induction generalizing entity payload with
  | level filter ih =>
    obtain ⟨⟨names, listed⟩, relations⟩ := known entity filter .root
    cases payload with
    | object members =>
      rw [entityOf_eq_readWith listed]
      refine .map _ (relationsOf_failsWith (fun included mem payload => ?_) _ _)
      obtain ⟨relation, found⟩ := relations included mem
      have below : (included.scope.getD {}).Known schema relation.target :=
        fun owner scope level => known owner scope (.of_included mem found level)
      rw [relationOf_eq_bind found]
      exact .bind (relationPayload_failsWith _ _) fun value _ =>
        relatedOf_failsWith (ih included mem below) value
    | _ =>
      cases filter
      exact .error (.shape _)

theorem rowEntities_failsWith (known : filter.Known schema entity) (row : Row) :
    FailsWith Error.OfPayload (rowEntities schema entity filter row) := by
  cases row with
  | none => exact .ok []
  | some text =>
    refine .bind (parse_failsWith text) fun value _ => ?_
    cases value with
    | null => exact .ok []
    | array items => exact .mapM fun item _ => entityOf_failsWith known item
    | object members => exact .bind (entityOf_failsWith known _) fun e _ => .ok [e]
    | _ => exact .error (.shape _)

end Materialize

theorem materialize_failsWith {schema : Schema} {entity : String} {filter : Filter}
    (known : filter.Known schema entity) (rows : List Row) :
    FailsWith Error.OfPayload (materialize schema entity filter rows) :=
  .map _ (.mapM fun row _ => Materialize.rowEntities_failsWith known row)

namespace Sql

def Select.fields (adapter : Adapter) (aggregates : Aggregates) (select : Select) :
    List (String × String) :=
  select.columns.map (fun column => (column.1, column.2.write adapter.dialect)) ++
    select.relations.map (writeRelation adapter aggregates)

inductive Select.HasLevel (schema : Schema) (entity : String) (filter : Filter) (select : Select) :
    String → Filter → Select → Prop
  | root : HasLevel schema entity filter select entity filter select
  | included {owner : String} {scope : Filter} {level below : Select} {i : Nat}
      {included : Include Filter} {relation : Relation}
      (above : HasLevel schema entity filter select owner scope level)
      (listed : scope.includes[i]? = some included)
      (related : schema.relation owner included.relation = .ok relation)
      (placed : level.relations[i]? = some (included.relation, below)) :
      HasLevel schema entity filter select relation.target (included.scope.getD {}) below

end Sql

namespace Compile

open Sql

variable {schema : Schema} {adapter : Adapter} {aggregates : Aggregates} {entity : String}
  {filter : Filter}

structure Agrees (schema : Schema) (adapter : Adapter) (aggregates : Aggregates) (owner : String)
    (scope : Filter) (level : Select) : Prop where
  written : ∃ order, level.write adapter aggregates =
    "SELECT " ++ (if level.plural then
        aggregates.array (adapter.pairs (level.fields adapter aggregates)) order
      else aggregates.object (adapter.pairs (level.fields adapter aggregates))) ++
      " AS data FROM " ++ level.source.write adapter
  members : (level.fields adapter aggregates).map Prod.fst =
    Fields.project scope.fields (schema.fieldsOf owner) ++ scope.includes.map Include.relation
  read : ∀ payload, Materialize.entityOf schema owner scope (.object payload) =
    Materialize.readWith schema owner (Fields.project scope.fields (schema.fieldsOf owner))
      scope.includes payload
  -- The relations are read one after the other, each by what `NeedsArray` is about.
  inTurn : ∀ included rest accumulated payload,
    Materialize.relationsOf schema owner (included :: rest) accumulated payload = (do
      let related ← Materialize.relationOf schema owner payload included
      Materialize.relationsOf schema owner rest
        (Keyed.insertAll (related.map fun related => (included.relation, related)).toList
          accumulated)
        (Keyed.erase included.relation payload))
  relations : ∀ (i : Nat) (included : Include Filter), scope.includes[i]? = some included →
    ∃ relation below, schema.relation owner included.relation = .ok relation ∧
      level.relations[i]? = some (included.relation, below) ∧
      (below.plural = true ↔ Materialize.NeedsArray schema owner included)

theorem PlannedIncludes.names {parent last final : Alias} {includes : List (Include Filter)}
    {selects : List (String × Select)}
    (planned : PlannedIncludes schema adapter entity parent last includes selects final) :
    selects.map Prod.fst = includes.map Include.relation := by
  induction includes generalizing last selects with
  | nil =>
    cases planned
    rfl
  | cons included rest ih =>
    cases planned with
    | cons related placed own others => rw [List.map_cons, List.map_cons, ih others]

theorem Planned.plural {place : Level} {select : Select} {last : Alias}
    (planned : Planned schema adapter entity place filter select last) :
    select.plural = place.plural := by
  cases planned
  rfl

theorem Planned.agrees {place : Level} {select : Select} {last : Alias}
    (planned : Planned schema adapter entity place filter select last) :
    Agrees schema adapter aggregates entity filter select := by
  constructor
  · exact ⟨_, write_eq_around select⟩
  · cases planned with
    | @level _ _ _ _ names _ _ _ _ named listed included supported resolved =>
      rw [← included.names, Schema.fieldsOf_eq listed]
      simp [Select.fields, columnsOf, Function.comp_def, writeRelation]
  · cases planned with
    | @level _ _ _ _ names _ _ _ _ named listed included supported resolved =>
      rw [Schema.fieldsOf_eq listed]
      exact Materialize.entityOf_eq_readWith listed
  · exact Materialize.relationsOf_eq_bind
  · intro i included listed
    cases planned with
    | level named fields includes supported resolved =>
      obtain ⟨relation, before, place, below, next, -, related, placed, own, there⟩ :=
        includes.get listed
      refine ⟨relation, below, related, there, ?_⟩
      rw [own.plural, levelOf_plural placed, decide_eq_true_eq, Materialize.needsArray_iff related]

theorem Planned.at_select {place : Level} {select level : Select} {last : Alias} {owner : String}
    {scope : Filter} (planned : Planned schema adapter entity place filter select last)
    (there : select.HasLevel schema entity filter owner scope level) :
    ∃ place last, Planned schema adapter owner place scope level last := by
  induction there with
  | root => exact ⟨place, last, planned⟩
  | @included owner scope level below i included relation above listed related placed ih =>
    obtain ⟨place, last, planned⟩ := ih
    cases planned with
    | level named fields includes supported resolved =>
      obtain ⟨relation', _, place, below', last, -, related', -, own, there⟩ := includes.get listed
      cases related.symm.trans related'
      cases placed.symm.trans there
      exact ⟨place, last, own⟩

theorem Planned.known {place : Level} {select : Select} {last : Alias}
    (planned : Planned schema adapter entity place filter select last) :
    filter.Known schema entity := by
  intro owner scope level
  obtain ⟨place, select, last, planned⟩ := planned.at_level level
  obtain ⟨defined, relations, -⟩ := planned.supported
  refine ⟨Schema.fieldNames_succeeds.2 defined, fun included mem => ?_⟩
  obtain ⟨relation, related, -⟩ := relations included mem
  exact ⟨relation, related⟩

end Compile

/-- The rows of a filter that compiles are read, or are themselves at fault. At every level of the
statement the members are those that the reader takes, attributes before relations, and the subquery
of a relation is an array exactly where the reader needs one. -/
theorem compile_agrees {schema : Schema} {dialect : Dialect} {entity : String} {filter : Filter}
    {options : Options} {text : String}
    (compiled : compile schema (.ofDialect dialect) entity filter options = .ok text) :
    (∀ rows : List Row, (∃ entities, materialize schema entity filter rows = .ok entities) ∨
      (∃ fault, materialize schema entity filter rows = .error (.malformedPayload fault)) ∨
      ∃ fault, materialize schema entity filter rows = .error (.materialize fault)) ∧
    ∃ select aggregates,
      statement schema (.ofDialect dialect) entity filter options = .ok select ∧
      (Adapter.ofDialect dialect).aggregates = some aggregates ∧
      text = select.write (.ofDialect dialect) aggregates ∧
      ∀ (owner : String) (scope : Filter) (level : Sql.Select),
        select.HasLevel schema entity filter owner scope level →
          Compile.Agrees schema (.ofDialect dialect) aggregates owner scope level := by
  obtain ⟨select, last, aggregates, supported, planned, rfl⟩ := compile_eq_ok.1 compiled
  constructor
  · intro rows
    have fails := materialize_failsWith planned.known rows
    cases result : materialize schema entity filter rows with
    | ok entities => exact .inl ⟨entities, rfl⟩
    | error e =>
      cases fails e result with
      | malformed fault => exact .inr (.inl ⟨fault, rfl⟩)
      | shape fault => exact .inr (.inr ⟨fault, rfl⟩)
  · refine ⟨select, aggregates, ?_, supported, rfl, fun owner scope level there => ?_⟩
    · rw [statement, Compile.planned_iff.1 planned]
      rfl
    · obtain ⟨place, last, planned⟩ := planned.at_select there
      exact planned.agrees

/-- Labels are reached through a join, although their relation is of the kind that leads to one
entity. -/
def Sample.labelled : Schema :=
  Schema.withEntity {} "Note"
      ((EntityDef.ofTable "notes").withField "title"
        |>.withRelation "labels"
          { target := "Label"
            kind := .belongsTo
            through := some
              { entity := "Tagging", keyToOwner := "noteId", keyToTarget := "labelId" } }
        |>.withRelation "owner" (.belongsTo "User" "ownerId"))
    |>.withEntity "Label" ((EntityDef.ofTable "labels").withField "text")
    |>.withEntity "Tagging" (.ofTable "taggings")
    |>.withEntity "User" ((EntityDef.ofTable "users").withField "name")

theorem compile_agrees_labelled :
    let filter : Filter := { includes := [⟨"labels", some { limit := some 2 }⟩, ⟨"owner", none⟩] }
    ∃ (text : String) (select : Sql.Select) (aggregates : Aggregates) (labels owner : Sql.Select),
      compile Sample.labelled (.ofDialect .postgresql) "Note" filter {} = .ok text ∧
      text = select.write (.ofDialect .postgresql) aggregates ∧
      (select.fields (.ofDialect .postgresql) aggregates).map Prod.fst =
        ["title", "labels", "owner"] ∧
      select.relations = [("labels", labels), ("owner", owner)] ∧
      labels.plural = true ∧
      Materialize.NeedsArray Sample.labelled "Note" ⟨"labels", some { limit := some 2 }⟩ ∧
      owner.plural = false ∧
      ¬ Materialize.NeedsArray Sample.labelled "Note" ⟨"owner", none⟩ := by
  intro filter
  obtain ⟨text, compiled⟩ : ∃ text,
      compile Sample.labelled (.ofDialect .postgresql) "Note" filter {} = .ok text := ⟨_, rfl⟩
  obtain ⟨-, select, aggregates, stated, -, written, agrees⟩ := compile_agrees compiled
  have root := agrees "Note" filter select .root
  obtain ⟨_, labels, -, first, labelsIff⟩ := root.relations 0 _ rfl
  obtain ⟨_, owner, -, second, ownerIff⟩ := root.relations 1 _ rfl
  cases stated
  cases first
  cases second
  exact ⟨text, _, aggregates, _, _, compiled, written, root.members, rfl, rfl, labelsIff.1 rfl, rfl,
    fun needs => Bool.false_ne_true (ownerIff.2 needs)⟩

end NestedQuery
