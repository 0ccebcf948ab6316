import NestedQuery.Proofs.Placement
import NestedQuery.Proofs.Sql.References

set_option autoImplicit false

namespace NestedQuery

open Sql

structure Mention where
  seat : Seat
  entity : String
  -- All fields where there is none.
  field : Option String

def Mention.own (level : List Nat) (entity field : String) : Mention :=
  ⟨⟨level, false⟩, entity, some field⟩

def Relation.links (entity : String) (above level : List Nat) (relation : Relation) :
    List Mention :=
  let parent := Mention.own above entity
  let target := Mention.own level relation.target
  match relation.through, relation.kind with
  | none, .belongsTo => [target relation.ownerKey, parent relation.foreignKey]
  | none, .hasOne | none, .hasMany => [target relation.foreignKey, parent relation.ownerKey]
  | some through, _ =>
    let join := fun field => (⟨⟨level, true⟩, through.entity, some field⟩ : Mention)
    [join through.keyToTarget, target through.targetKey, join through.keyToOwner,
      parent relation.ownerKey]

section Mentions

variable (schema : Schema) (dialect : Dialect)

def Filter.orderMentions (level : List Nat) (entity : String) (filter : Filter) : List Mention :=
  filter.order.map fun entry => .own level entity entry.field

def Filter.rowMentions (links : List Mention) (level : List Nat) (entity : String)
    (filter : Filter) : List Mention :=
  links ++ (filter.condition.elim [] Formula.subjects).map (Mention.own level entity) ++
    filter.orderMentions level entity

def Filter.sourceMentions (plural : Bool) (links : List Mention) (level : List Nat)
    (entity : String) (filter : Filter) : List Mention :=
  -- A plural level that is ordered or cut selects all columns of its rows first.
  (if plural && (filter.limit.isSome || !filter.order.isEmpty) then [⟨⟨level, false⟩, entity, none⟩]
    else []) ++ filter.rowMentions links level entity

def levelMentions (plural : Bool) (links : List Mention) (level : List Nat) (entity : String)
    (filter : Filter) (included : List Mention) : List Mention :=
  (Fields.project filter.fields (schema.fieldsOf entity)).map (Mention.own level entity) ++
    included ++ (if plural && dialect ≠ .sqlite then filter.orderMentions level entity else []) ++
    filter.sourceMentions plural links level entity

mutual

def Filter.mentions (plural : Bool) (links : List Mention) (level : List Nat) (entity : String) :
    Filter → List Mention
  | ⟨condition, order, limit, skip, fields, includes⟩ =>
    levelMentions schema dialect plural links level entity
      ⟨condition, order, limit, skip, fields, includes⟩
      (includedMentions level 0 entity includes)

def includedMentions (above : List Nat) (position : Nat) (entity : String) :
    List (Include Filter) → List Mention
  | [] => []
  | ⟨name, scope⟩ :: rest =>
    let others := includedMentions above (position + 1) entity rest
    match schema.relation entity name with
    | .error _ => others
    | .ok relation =>
      let level := above ++ [position]
      let plural := relation.multiplicity = .many
      let links := relation.links entity above level
      (match scope with
        | none => levelMentions schema dialect plural links level relation.target {} []
        | some scope => scope.mentions plural links level relation.target) ++ others

end

end Mentions

theorem mentions_eq (schema : Schema) (dialect : Dialect) (plural : Bool) (links : List Mention)
    (level : List Nat) (entity : String) (filter : Filter) :
    filter.mentions schema dialect plural links level entity =
      levelMentions schema dialect plural links level entity filter
        (includedMentions schema dialect level 0 entity filter.includes) := by
  cases filter
  rw [Filter.mentions]

def Mention.placed (schema : Schema) (mention : Mention) : Option (String × Seat) × Option String :=
  (some (schema.tableOf mention.entity, mention.seat),
    mention.field.map (schema.columnName mention.entity))

theorem includedMentions_cons {schema : Schema} {dialect : Dialect} {entity name : String}
    {relation : Relation} (related : schema.relation entity name = .ok relation)
    (above : List Nat) (position : Nat) (scope : Option Filter) (rest : List (Include Filter)) :
    includedMentions schema dialect above position entity (⟨name, scope⟩ :: rest) =
      (scope.getD {}).mentions schema dialect (relation.multiplicity = .many)
          (relation.links entity above (above ++ [position])) (above ++ [position])
          relation.target ++
        includedMentions schema dialect above (position + 1) entity rest := by
  rw [includedMentions.eq_def]
  cases scope <;> simp [related, Filter.mentions, includedMentions]

namespace Sql

def locate (scopes : List (List Item)) (name : String) : Option (String × Seat) :=
  (resolve? name scopes).map fun item => (item.table, item.seat)

def Reference.placed (reference : Reference) : Option (String × Seat) × Option String :=
  (locate reference.scopes reference.written.1, reference.written.2)

section Locate

variable {items : List Item} {outer : List (List Item)} {tableAlias : Alias} {item : Item}

theorem locate_of_filter
    (single : (items.filter fun item => item.tableAlias = tableAlias) = [item]) :
    locate (items :: outer) tableAlias.write = some (item.table, item.seat) := by
  simp [locate, resolve?, single]

theorem locate_outer (absent : ∀ item ∈ items, item.tableAlias ≠ tableAlias) :
    locate (items :: outer) tableAlias.write = locate outer tableAlias.write := by
  have nothing : (items.filter fun item => item.tableAlias = tableAlias) = [] := by
    simpa [List.filter_eq_nil_iff] using absent
  simp [locate, resolve?, nothing]

theorem locate_past {between : List (List Item)}
    (absent : ∀ items ∈ between, ∀ item ∈ items, item.tableAlias ≠ tableAlias) :
    locate (between ++ outer) tableAlias.write = locate outer tableAlias.write := by
  induction between with
  | nil => rfl
  | cons items rest ih =>
    rw [List.cons_append, locate_outer (absent items List.mem_cons_self)]
    exact ih fun items mem => absent items (List.mem_cons_of_mem _ mem)

end Locate

end Sql

namespace Compile

variable {schema : Schema} {dialect : Dialect}

def Level.items (level : List Nat) (place : Level) (table : String) : List Item :=
  ⟨place.tableAlias, table, ⟨level, false⟩, false⟩ ::
    (place.join.elim [] Join.tables).map fun joined => ⟨joined.2, joined.1, ⟨level, true⟩, false⟩

def Level.ties (place : Level) : List Column :=
  place.join.elim [] Join.columns ++ place.correlation.elim [] Correlation.columns

structure Level.Linked (schema : Schema) (place : Level) (table : String) (level : List Nat)
    (outer : List (List Item)) (links : List Mention) : Prop where
  apart : ∀ joined ∈ place.join.elim [] Join.tables, joined.2 ≠ place.tableAlias
  unlimited : place.plural → place.implicitLimit = none
  linked : ∀ between : List (List Item),
    (∀ items ∈ between, ∀ item ∈ items, item.tableAlias = place.tableAlias) →
      (referTo (place.items level table :: (between ++ outer)) place.ties).map Reference.placed =
        links.map (Mention.placed schema)

section Level

variable {place : Level} {table : String} {level : List Nat} {outer : List (List Item)}
  {links : List Mention}

theorem locate_own
    (apart : ∀ joined ∈ place.join.elim [] Join.tables, joined.2 ≠ place.tableAlias) :
    locate (place.items level table :: outer) place.tableAlias.write =
      some (table, ⟨level, false⟩) := by
  have others : ((place.join.elim [] Join.tables).map fun joined =>
      (⟨joined.2, joined.1, ⟨level, true⟩, false⟩ : Item)).filter
        (fun item => item.tableAlias = place.tableAlias) = [] := by
    rw [List.filter_map, List.map_eq_nil_iff, List.filter_eq_nil_iff]
    simpa using apart
  have own : (place.items level table).filter (fun item => item.tableAlias = place.tableAlias) =
      [⟨place.tableAlias, table, ⟨level, false⟩, false⟩] := by
    simp only [Level.items, List.filter_cons_of_pos, decide_true, others]
  exact locate_of_filter own

theorem locate_above {parent : Alias} (different : place.tableAlias ≠ parent)
    (others : ∀ joined ∈ place.join.elim [] Join.tables, joined.2 ≠ parent)
    {between : List (List Item)}
    (alike : ∀ items ∈ between, ∀ item ∈ items, item.tableAlias = place.tableAlias) :
    locate (place.items level table :: (between ++ outer)) parent.write =
      locate outer parent.write := by
  rw [locate_outer, locate_past]
  · intro items mem item mem'
    rw [alike items mem item mem']
    exact different
  · intro item mem
    rcases List.mem_cons.1 mem with rfl | mem
    · exact different
    · obtain ⟨joined, joinedMem, rfl⟩ := List.mem_map.1 mem
      exact others joined joinedMem

theorem locate_join {joined : String} {joinAlias : Alias} {left right : Column}
    (join : place.join = some (.inner joined joinAlias left right))
    (apart : joinAlias ≠ place.tableAlias) :
    locate (place.items level table :: outer) joinAlias.write = some (joined, ⟨level, true⟩) := by
  have only : (place.items level table).filter (fun item => item.tableAlias = joinAlias) =
      [⟨joinAlias, joined, ⟨level, true⟩, false⟩] := by
    simp [Level.items, join, Join.tables, apart.symm]
  exact locate_of_filter only

theorem locate_items {adapter : Adapter} {entity : String} {filter : Filter}
    {predicate : Option Predicate}
    (apart : ∀ joined ∈ place.join.elim [] Join.tables, joined.2 ≠ place.tableAlias) :
    locate ((sourceOf adapter place.plural
        (rowsOf schema entity filter place table predicate)).items level :: outer)
      place.tableAlias.write = some (table, ⟨level, false⟩) := by
  unfold sourceOf
  split
  · have derived : [(rowsOf schema entity filter place table predicate).derivedItem level].filter
        (fun item => item.tableAlias = place.tableAlias) =
          [⟨place.tableAlias, table, ⟨level, false⟩, true⟩] := by
      simp [Rows.derivedItem, rowsOf]
    exact locate_of_filter derived
  · exact locate_own apart

section Own

variable {scopes : List (List Item)} {entity : String}
  (found : locate scopes place.tableAlias.write = some (schema.tableOf entity, ⟨level, false⟩))

include found

theorem placed_own (fields : List String) :
    (referTo scopes (fields.map (column schema entity place.tableAlias))).map Reference.placed =
      (fields.map (Mention.own level entity)).map (Mention.placed schema) := by
  simp [referTo, Reference.placed, Reference.written, Mention.placed, Mention.own, column, found]

theorem placed_order (filter : Filter) :
    (referTo scopes ((resolveOrder schema entity place.tableAlias filter.order).map
        OrderItem.column)).map Reference.placed =
      (filter.orderMentions level entity).map (Mention.placed schema) := by
  simp [referTo, resolveOrder, Filter.orderMentions, Reference.placed, Reference.written,
    Mention.placed, Mention.own, column, found]

end Own

theorem hasSubject_mapM {entity field : String} {values : List Literal} {placed : List Operand}
    (resolved : values.mapM (operand schema entity field) = .ok placed) :
    placed = [] ↔ values = [] := by
  cases values with
  | nil =>
    cases resolved
    simp
  | cons value rest =>
    rw [List.mapM_cons] at resolved
    obtain ⟨first, -, resolved⟩ := bind_eq_ok.1 resolved
    obtain ⟨others, -, resolved⟩ := bind_eq_ok.1 resolved
    cases resolved
    simp

theorem hasSubject_resolveTest {entity field : String} {test : Test Literal}
    {placed : Test Operand}
    (resolved : resolveTest (operand schema entity field) test = .ok placed) :
    placed.hasSubject = test.hasSubject := by
  cases test with
  | compare comparison value =>
    obtain ⟨_, -, rfl⟩ := map_eq_ok.1 resolved
    rfl
  | between low high =>
    obtain ⟨_, -, resolved⟩ := bind_eq_ok.1 resolved
    obtain ⟨_, -, resolved⟩ := bind_eq_ok.1 resolved
    cases resolved
    rfl
  | oneOf values =>
    obtain ⟨operands, found, rfl⟩ := map_eq_ok.1 resolved
    have alike := hasSubject_mapM found
    cases values <;> cases operands <;> simp_all [Test.hasSubject]
  | noneOf values =>
    obtain ⟨operands, found, rfl⟩ := map_eq_ok.1 resolved
    have alike := hasSubject_mapM found
    cases values <;> cases operands <;> simp_all [Test.hasSubject]
  | isNull | isNotNull | like pattern | notLike pattern =>
    cases resolved
    rfl

mutual

theorem resolved_fields {entity : String} {tableAlias : Alias} {tree : Where}
    {predicate : Predicate} (resolved : Resolved schema entity tableAlias tree predicate) :
    predicate.subjects = tree.subjects.map (column schema entity tableAlias) := by
  cases resolved with
  | leaf operands =>
    have alike := hasSubject_resolveTest operands
    simp only [Formula.subjects, Formula.leaves, List.filter_cons, List.filter_nil, alike]
    split <;> rfl
  | group somePart resolved =>
    rw [subjects_group, subjects_group, List.map_flatMap]
    exact resolvedParts_fields resolved

theorem resolvedParts_fields {entity : String} {tableAlias : Alias} {parts : List Where}
    {predicates : List Predicate}
    (resolved : ResolvedParts schema entity tableAlias parts predicates) :
    predicates.flatMap Formula.subjects =
      parts.flatMap fun part => part.subjects.map (column schema entity tableAlias) := by
  cases resolved with
  | nil => rfl
  | cons resolved others =>
    rw [List.flatMap_cons, List.flatMap_cons, resolved_fields resolved, resolvedParts_fields others]

end

theorem condition_fields {entity : String} {tableAlias : Alias} {condition : Option Where}
    {predicate : Option Predicate}
    (resolved : condition.mapM (resolve schema entity tableAlias) = .ok predicate) :
    predicate.elim [] Formula.subjects =
      (condition.elim [] Formula.subjects).map (column schema entity tableAlias) := by
  rcases option_mapM_eq_ok.1 resolved with ⟨rfl, rfl⟩ | ⟨tree, placed, rfl, rfl, compiled⟩
  · rfl
  · exact resolved_fields (resolved_iff.2 compiled)

theorem placed_rows {entity : String} {filter : Filter} {predicate : Option Predicate}
    (resolved : filter.condition.mapM (resolve schema entity place.tableAlias) = .ok predicate)
    (linked : place.Linked schema (schema.tableOf entity) level outer links)
    {between : List (List Item)}
    (alike : ∀ items ∈ between, ∀ item ∈ items, item.tableAlias = place.tableAlias) :
    let rows := rowsOf schema entity filter place (schema.tableOf entity) predicate
    (rows.references (rows.items level :: (between ++ outer))).map Reference.placed =
      (filter.rowMentions links level entity).map (Mention.placed schema) := by
  intro rows
  let scopes := place.items level (schema.tableOf entity) :: (between ++ outer)
  have found : locate scopes place.tableAlias.write =
      some (schema.tableOf entity, ⟨level, false⟩) := locate_own linked.apart
  have parts : rows.references (rows.items level :: (between ++ outer)) =
      referTo scopes (place.ties ++ predicate.elim [] Formula.subjects ++
        (resolveOrder schema entity place.tableAlias filter.order).map OrderItem.column) := rfl
  rw [parts, referTo_append, referTo_append, List.map_append, List.map_append,
    linked.linked between alike, condition_fields resolved, placed_own found, placed_order found,
    Filter.rowMentions, List.map_append, List.map_append]

theorem derives_iff (unlimited : place.plural → place.implicitLimit = none) {entity : String}
    {filter : Filter} {predicate : Option Predicate} :
    (place.plural && ((rowsOf schema entity filter place table predicate).page.isSome ||
        !(rowsOf schema entity filter place table predicate).order.isEmpty)) =
      (place.plural && (filter.limit.isSome || !filter.order.isEmpty)) := by
  cases plural : place.plural with
  | false => rfl
  | true =>
    have limit : filter.limit.or place.implicitLimit = filter.limit := by
      rw [unlimited plural, Option.or_none]
    simp [rowsOf, pageOf, limit, resolveOrder]

theorem placed_source (lateral : Bool) {entity : String} {filter : Filter}
    {predicate : Option Predicate}
    (resolved : filter.condition.mapM (resolve schema entity place.tableAlias) = .ok predicate)
    (linked : place.Linked schema (schema.tableOf entity) level outer links) :
    ((sourceOf (.ofDialect dialect) place.plural
        (rowsOf schema entity filter place (schema.tableOf entity) predicate)).references lateral
        level outer).map Reference.placed =
      (filter.sourceMentions place.plural links level entity).map (Mention.placed schema) := by
  let rows := rowsOf schema entity filter place (schema.tableOf entity) predicate
  rw [sourceOf, derives_iff linked.unlimited, Filter.sourceMentions]
  split
  next derived =>
    -- Seen from within, only the derived table itself can come between.
    obtain ⟨between, alike, scopes⟩ : ∃ between : List (List Item),
        (∀ items ∈ between, ∀ item ∈ items, item.tableAlias = place.tableAlias) ∧
        (if lateral then [rows.derivedItem level] :: outer else outer) = between ++ outer := by
      cases lateral with
      | false => exact ⟨[], by simp, rfl⟩
      | true => exact ⟨[[rows.derivedItem level]], by simp [rows, Rows.derivedItem, rowsOf], rfl⟩
    have star : Reference.placed ⟨rows.tableAlias, none, rows.items level :: (between ++ outer)⟩ =
        Mention.placed schema ⟨⟨level, false⟩, entity, none⟩ :=
      Prod.ext (locate_own linked.apart) rfl
    have inside := placed_rows resolved linked alike
    rw [List.map_append, ← inside, List.map_singleton, ← star]
    simp only [Source.references]
    rw [scopes]
    rfl
  next direct =>
    have nothing : ∀ items ∈ ([] : List (List Item)), ∀ item ∈ items,
        item.tableAlias = place.tableAlias := by simp
    exact placed_rows resolved linked nothing

end Level

section Placement

variable {entity : String} {parent tableAlias : Alias} {relation : Relation} {above : List Nat}
  {outer : List (List Item)}
  (found : locate outer parent.write = some (schema.tableOf entity, ⟨above, false⟩))
  (different : tableAlias ≠ parent)

include found different

theorem directLevel_linked (direct : relation.through = none) (level : List Nat) :
    (directLevel schema entity parent tableAlias relation).Linked schema
      (schema.tableOf relation.target) level outer (relation.links entity above level) := by
  have apart : ∀ joined ∈ (directLevel schema entity parent tableAlias relation).join.elim []
      Join.tables, joined.2 ≠ tableAlias := by simp [directLevel]
  refine ⟨apart, by simp +contextual [directLevel], fun between alike => ?_⟩
  let scopes := (directLevel schema entity parent tableAlias relation).items level
    (schema.tableOf relation.target) :: (between ++ outer)
  have own : locate scopes tableAlias.write =
      some (schema.tableOf relation.target, ⟨level, false⟩) := locate_own apart
  have around : locate scopes parent.write = some (schema.tableOf entity, ⟨above, false⟩) :=
    (locate_above different (by simp [directLevel]) alike).trans found
  have ties : (directLevel schema entity parent tableAlias relation).ties =
      (correlationOf schema entity parent tableAlias relation).columns := rfl
  rw [ties]
  unfold correlationOf Relation.links
  rw [direct]
  cases relation.kind <;>
    exact congrArg₂ (fun target parent => [(target, some _), (parent, some _)]) own around

theorem throughLevel_linked {through : Through} {joinAlias : Alias} {table : String}
    (indirect : relation.through = some through)
    (named : schema.tableName through.entity = .ok table) (apart : joinAlias ≠ tableAlias)
    (joinDifferent : joinAlias ≠ parent) (level : List Nat) :
    (throughLevel schema entity parent joinAlias tableAlias relation through table).Linked schema
      (schema.tableOf relation.target) level outer (relation.links entity above level) := by
  let place := throughLevel schema entity parent joinAlias tableAlias relation through table
  have joins : ∀ joined ∈ place.join.elim [] Join.tables, joined.2 = joinAlias := by
    simp [place, throughLevel, Join.tables]
  have joinsApart : ∀ joined ∈ place.join.elim [] Join.tables, joined.2 ≠ tableAlias :=
    fun joined mem => joins joined mem ▸ apart
  refine ⟨joinsApart, by simp [throughLevel], fun between alike => ?_⟩
  let scopes := place.items level (schema.tableOf relation.target) :: (between ++ outer)
  have own : locate scopes tableAlias.write =
      some (schema.tableOf relation.target, ⟨level, false⟩) := locate_own joinsApart
  have joined : locate scopes joinAlias.write =
      some (schema.tableOf through.entity, ⟨level, true⟩) := by
    rw [Schema.tableOf_eq named]
    exact locate_join rfl apart
  have around : locate scopes parent.write = some (schema.tableOf entity, ⟨above, false⟩) :=
    (locate_above different (fun joined mem => joins joined mem ▸ joinDifferent) alike).trans found
  have references : (referTo scopes place.ties).map Reference.placed =
      [(locate scopes joinAlias.write,
          some (schema.columnName through.entity through.keyToTarget)),
        (locate scopes tableAlias.write,
          some (schema.columnName relation.target through.targetKey)),
        (locate scopes joinAlias.write,
          some (schema.columnName through.entity through.keyToOwner)),
        (locate scopes parent.write, some (schema.columnName entity relation.ownerKey))] := rfl
  rw [references, own, joined, around, Relation.links, indirect]
  rfl

end Placement

theorem levelOf_linked {entity : String} {parent last : Alias} {relation : Relation}
    {place : Level} {above : List Nat} {outer : List (List Item)}
    (placed : levelOf schema entity parent last relation = .ok place)
    (later : parent.index ≤ last.index)
    (found : locate outer parent.write = some (schema.tableOf entity, ⟨above, false⟩))
    (level : List Nat) :
    place.Linked schema (schema.tableOf relation.target) level outer
      (relation.links entity above level) := by
  have neOfLt {a b : Alias} (lt : a.index < b.index) : b ≠ a := by
    rintro rfl
    omega
  rcases levelOf_eq_ok.1 placed with ⟨direct, tableAlias, first, rfl⟩ |
    ⟨through, joinAlias, tableAlias, table, indirect, first, second, named, rfl⟩
  · have index := next_eq_ok.1 first
    exact directLevel_linked found (neOfLt (by omega)) direct level
  · have index := next_eq_ok.1 first
    have index' := next_eq_ok.1 second
    exact throughLevel_linked found (neOfLt (by omega)) indirect named
      (neOfLt (by omega)).symm (neOfLt (by omega)) level

mutual

theorem planned_references (lateral : Bool) {entity : String} {place : Level} {filter : Filter}
    {select : Select} {last : Alias} {level : List Nat} {outer : List (List Item)}
    {links : List Mention}
    (planned : Planned schema (.ofDialect dialect) entity place filter select last)
    (linked : place.Linked schema (schema.tableOf entity) level outer links) :
    (select.references dialect lateral level outer).map Reference.placed =
      (filter.mentions schema dialect place.plural links level entity).map
        (Mention.placed schema) := by
  cases planned with
  | @level _ _ _ table names relations _ aggregates predicate named listed included supported
      resolved =>
    have tableEq := Schema.tableOf_eq named
    subst tableEq
    have fieldsEq := Schema.fieldsOf_eq listed
    let rows := rowsOf schema entity filter place (schema.tableOf entity) predicate
    have found : locate ((sourceOf (.ofDialect dialect) place.plural rows).items level :: outer)
        place.tableAlias.write = some (schema.tableOf entity, ⟨level, false⟩) :=
      locate_items linked.apart
    have included := plannedIncludes_references lateral included (Nat.le_refl _) found 0
    have fields := placed_own found (Fields.project filter.fields names)
    have order := placed_order found filter
    have columns : (columnsOf schema entity filter place names).map Prod.snd =
        (Fields.project filter.fields names).map (column schema entity place.tableAlias) := by
      simp [columnsOf]
    rw [mentions_eq, levelMentions, fieldsEq, List.map_append, List.map_append, List.map_append,
      ← included, ← placed_source lateral resolved linked, ← fields, Select.references,
      List.map_append, List.map_append, List.map_append, columns]
    congr 2
    by_cases ordered : place.plural && dialect ≠ .sqlite
    · rw [if_pos ordered, if_pos ordered, rows_sourceOf, ← order]
      rfl
    · rw [if_neg ordered, if_neg ordered]
      rfl

theorem plannedIncludes_references (lateral : Bool) {entity : String} {parent last final : Alias}
    {includes : List (Include Filter)} {selects : List (String × Select)} {above : List Nat}
    {outer : List (List Item)}
    (planned : PlannedIncludes schema (.ofDialect dialect) entity parent last includes selects
      final) (later : parent.index ≤ last.index)
    (found : locate outer parent.write = some (schema.tableOf entity, ⟨above, false⟩))
    (position : Nat) :
    (relationReferences dialect lateral above position outer selects).map Reference.placed =
      (includedMentions schema dialect above position entity includes).map
        (Mention.placed schema) := by
  cases planned with
  | nil => rfl
  | @cons _ _ _ _ next _ scope rest relation place select selects related placed planned others =>
    have linked := levelOf_linked placed later found (above ++ [position])
    have own := planned_references lateral planned linked
    obtain ⟨-, -, -, index⟩ := planned_numbered planned
    have index' := (levelOf_numbered placed).2
    have behind := plannedIncludes_references lateral others (by omega) found (position + 1)
    rw [relationReferences, List.map_append, includedMentions_cons related, List.map_append, own,
      behind, levelOf_plural placed]

end

theorem ofOptions_linked (tableAlias : Alias) (plural : Bool) (table : String) :
    (Level.ofOptions { tableAlias, plural }).Linked schema table [] [] [] :=
  ⟨by simp [Level.ofOptions], fun _ => rfl, fun _ _ => rfl⟩

theorem ofOptions_composed (tableAlias : Alias) (plural : Bool) :
    (Level.ofOptions { tableAlias, plural }).Composed :=
  ⟨by simp [Level.ofOptions], by simp [Level.ofOptions]⟩

end Compile

/-- Where the text of a compiled statement refers to a column, the scoping of SQL leads to the very
table that the filter means there, and the column is that of the field which it means. -/
theorem compile_references {schema : Schema} {dialect : Dialect} {entity : String}
    {filter : Filter} {tableAlias : Alias} {plural : Bool} {text : String}
    (compiled : compile schema (.ofDialect dialect) entity filter { tableAlias, plural } =
      .ok text) :
    ∃ (select : Select) (aggregates : Aggregates) (tokens : List Token),
      statement schema (.ofDialect dialect) entity filter { tableAlias, plural } = .ok select ∧
      (Adapter.ofDialect dialect).aggregates = some aggregates ∧
      text = select.write (.ofDialect dialect) aggregates ∧
      lex dialect text.toList = some tokens ∧
      ∀ lateral : Bool, let references := select.references dialect lateral [] []
        qualified tokens = references.map Reference.written ∧
        references.map Reference.placed =
          (filter.mentions schema dialect plural [] [] entity).map (Mention.placed schema) := by
  obtain ⟨select, last, aggregates, supported, planned, rfl⟩ := compile_eq_ok.1 compiled
  have stated : statement schema (.ofDialect dialect) entity filter { tableAlias, plural } =
      .ok select := map_eq_ok.2 ⟨_, Compile.planned_iff.1 planned, rfl⟩
  refine ⟨select, aggregates, _, stated, supported, rfl,
    Compile.planned_spelled supported planned (Compile.ofOptions_composed tableAlias plural),
    fun lateral => ⟨?_, ?_⟩⟩
  · exact (refers_select dialect lateral select [] []).qualified_eq
  · exact Compile.planned_references lateral planned
      (Compile.ofOptions_linked tableAlias plural _)

theorem compile_references_shop :
    ∃ (text : String) (select : Select) (tokens : List Token),
      compile Sample.shop (.ofDialect .mysql) "Customer" Sample.nested { plural := true } =
        .ok text ∧
      lex .mysql text.toList = some tokens ∧
      qualified tokens = (select.references .mysql true [] []).map Reference.written ∧
      (select.references .mysql true [] []).map Reference.placed =
        [(some ("customers", ⟨[], false⟩), some "name"),
          (some ("orders", ⟨[0], false⟩), some "day"),
          (some ("items", ⟨[0, 0], false⟩), some "sku"),
          (some ("items", ⟨[0, 0], false⟩), some "orderId"),
          (some ("orders", ⟨[0], false⟩), some "id"),
          (some ("orders", ⟨[0], false⟩), some "day"),
          (some ("orders", ⟨[0], false⟩), none),
          (some ("orders", ⟨[0], false⟩), some "customerId"),
          (some ("customers", ⟨[], false⟩), some "id"),
          (some ("orders", ⟨[0], false⟩), some "day"),
          (some ("tags", ⟨[1], false⟩), some "label"),
          (some ("customer_tags", ⟨[1], true⟩), some "tagId"),
          (some ("tags", ⟨[1], false⟩), some "id"),
          (some ("customer_tags", ⟨[1], true⟩), some "customerId"),
          (some ("customers", ⟨[], false⟩), some "id")] := by
  obtain ⟨text, compiled⟩ : ∃ text, compile Sample.shop (.ofDialect .mysql) "Customer"
      Sample.nested { plural := true } = .ok text := ⟨_, rfl⟩
  obtain ⟨select, aggregates, tokens, -, -, -, lexed, resolved⟩ := compile_references compiled
  obtain ⟨written, placed⟩ := resolved true
  exact ⟨text, select, tokens, compiled, lexed, written, placed.trans rfl⟩

end NestedQuery
