import Mathlib.Algebra.GroupWithZero.Nat
import NestedQuery.Proofs.Reading

set_option autoImplicit false

namespace NestedQuery

open Sql

def Include.aliasCount (schema : Schema) (entity : String) (included : Include Filter) : Nat :=
  NestedQuery.aliasCount (includedRelations schema entity [included])

def Alias.previous (tableAlias : Alias) : Alias :=
  ⟨tableAlias.index - 1, Nat.sub_lt_of_lt tableAlias.inRange⟩

theorem Alias.eq_of_index {tableAlias other : Alias} (same : tableAlias.index = other.index) :
    tableAlias = other := by
  cases tableAlias
  cases other
  cases same
  rfl

def Filter.asRoot (relation : Relation) (filter : Filter) : Filter :=
  -- The one target of a relation is one row even where the filter sets no limit.
  { filter with limit := filter.limit.or relation.implicitLimit }

def Relation.level (schema : Schema) (entity : String) (parent tableAlias : Alias)
    (relation : Relation) : Compile.Level :=
  match relation.through with
  | none => Compile.directLevel schema entity parent tableAlias relation
  | some through =>
    Compile.throughLevel schema entity parent tableAlias.previous tableAlias relation through
      (schema.tableOf through.entity)

def Compile.Level.options (dialect : Dialect) (place : Compile.Level) : Options where
  tableAlias := place.tableAlias
  join := place.join.map (Join.write dialect)
  restriction := place.correlation.map (Correlation.write dialect)
  plural := place.plural

def Relation.options (schema : Schema) (dialect : Dialect) (entity : String)
    (parent tableAlias : Alias) (relation : Relation) : Options :=
  (relation.level schema entity parent tableAlias).options dialect

/-- A filter but for one of its includes, of which it has the name. -/
structure Frame where
  others : Filter
  position : Nat
  name : String

def Frame.earlier (frame : Frame) : List (Include Filter) :=
  frame.others.includes.take frame.position

def Frame.later (frame : Frame) : List (Include Filter) :=
  frame.others.includes.drop frame.position

def Frame.plug (frame : Frame) (scope : Option Filter) : Filter :=
  { frame.others with includes := frame.earlier ++ ⟨frame.name, scope⟩ :: frame.later }

/-- The outermost frame comes first. -/
def surround : List Frame → Filter → Filter
  | [], filter => filter
  | frame :: inner, filter => frame.plug (some (surround inner filter))

def Schema.entityAt (schema : Schema) : String → List String → Except Error String
  | entity, [] => .ok entity
  | entity, name :: names => do schema.entityAt (← schema.relation entity name).target names

theorem aliasCount_append (relations others : List Relation) :
    aliasCount (relations ++ others) = aliasCount relations + aliasCount others := by
  simp only [aliasCount, List.countP_append]
  omega

theorem aliasCount_includes (schema : Schema) (entity : String) (includes : List (Include Filter)) :
    aliasCount (includedRelations schema entity includes) =
      (includes.map (Include.aliasCount schema entity)).sum := by
  induction includes with
  | nil => rfl
  | cons included rest ih =>
    obtain ⟨name, scope⟩ := included
    rw [List.map_cons, List.sum_cons, ← ih, Include.aliasCount, ← aliasCount_append]
    congr 1
    cases related : schema.relation entity name with
    | error fault =>
      rw [includedRelations.eq_def, includedRelations.eq_def schema entity [_]]
      simp [related, includedRelations]
    | ok relation =>
      rw [includedRelations_cons related, includedRelations_cons related, includedRelations,
        List.append_nil]

namespace Sql

def Encloses (write : String → String) : Prop :=
  ∃ before after, ∀ text, write text = before ++ text ++ after

namespace Encloses

variable {write outer : String → String}

theorem self : Encloses fun text => text := ⟨"", "", fun text => by simp⟩

theorem append_right (inside : Encloses write) (after : String) :
    Encloses fun text => write text ++ after := by
  obtain ⟨before, after', written⟩ := inside
  exact ⟨before, after' ++ after, fun text => by simp [written, String.append_assoc]⟩

theorem append_left (before : String) (inside : Encloses write) :
    Encloses fun text => before ++ write text := by
  obtain ⟨before', after, written⟩ := inside
  exact ⟨before ++ before', after, fun text => by simp [written, String.append_assoc]⟩

theorem comp (outside : Encloses outer) (inside : Encloses write) :
    Encloses fun text => outer (write text) := by
  obtain ⟨before, after, written⟩ := outside
  have enclosed := (inside.append_left before).append_right after
  simpa only [written] using enclosed

theorem intercalate (separator : String) (earlier later : List String) :
    Encloses fun text => separator.intercalate (earlier ++ text :: later) := by
  induction earlier with
  | nil =>
    cases later with
    | nil => simpa using Encloses.self
    | cons next rest =>
      simpa only [List.nil_append, String.intercalate_cons_cons, String.append_assoc] using
        Encloses.self.append_right (separator ++ separator.intercalate (next :: rest))
  | cons first rest ih =>
    have behind : ∀ text, separator.intercalate (first :: rest ++ text :: later) =
        first ++ separator ++ separator.intercalate (rest ++ text :: later) := by
      intro text
      exact String.intercalate_cons_of_ne_nil (by simp)
    simpa only [behind] using ih.append_left (first ++ separator)

end Encloses

end Sql

structure Adapter.Enclosing (adapter : Adapter) (aggregates : Aggregates) : Prop where
  embed : Encloses adapter.embed
  object : Encloses aggregates.object
  array : ∀ order, Encloses fun pairs => aggregates.array pairs order

theorem ofDialect_enclosing {dialect : Dialect} {aggregates : Aggregates}
    (supported : (Adapter.ofDialect dialect).aggregates = some aggregates) :
    (Adapter.ofDialect dialect).Enclosing aggregates := by
  cases dialect <;> cases supported
  case sqlite =>
    exact ⟨⟨"json((", "))", fun _ => rfl⟩, ⟨"json_object(", ")", fun _ => rfl⟩,
      fun _ => ⟨"json_group_array(json_object(", "))", fun _ => rfl⟩⟩
  case postgresql =>
    refine ⟨⟨"(", ")", fun _ => rfl⟩, ⟨"json_build_object(", ")", fun _ => rfl⟩, fun order => ?_⟩
    have object := (Encloses.self.append_left "COALESCE(json_agg(json_build_object(").append_right ")"
    exact (object.append_right _).append_right _
  case mysql =>
    refine ⟨⟨"(", ")", fun _ => rfl⟩, ⟨"JSON_OBJECT(", ")", fun _ => rfl⟩, fun order => ?_⟩
    have array := (Encloses.self.append_left "JSON_ARRAYAGG(JSON_OBJECT(").append_right "))"
    cases order with
    | none => exact array
    | some order => exact ((array.append_right _).append_right _).append_right _

theorem encloses_pairs (adapter : Adapter) (name : String) (earlier later : List (String × String)) :
    Encloses fun value => adapter.pairs (earlier ++ (name, value) :: later) := by
  let spell := fun field : String × String =>
    adapter.dialect.quoteText field.1 ++ ", " ++ field.2
  have value := Encloses.self.append_left (adapter.dialect.quoteText name ++ ", ")
  simpa [Adapter.pairs] using
    (Encloses.intercalate ", " (earlier.map spell) (later.map spell)).comp value

namespace Sql

section Given

variable {adapter : Adapter}

def Rows.given (dialect : Dialect) (rows : Rows) : Rows :=
  { rows with
    join := rows.join.map fun join => .given (join.write dialect)
    correlation := rows.correlation.map fun correlation => .given (correlation.write dialect) }

theorem write_given (rows : Rows) :
    (rows.given adapter.dialect).write adapter = rows.write adapter := by
  obtain ⟨table, tableAlias, join, correlation, predicate, order, page⟩ := rows
  cases join <;> cases correlation <;> rfl

end Given

section Around

variable {adapter : Adapter} {aggregates : Aggregates}

def Select.around (adapter : Adapter) (aggregates : Aggregates) (select : Select)
    (values : List (String × String)) : String :=
  let fields := select.columns.map (fun column => (column.1, column.2.write adapter.dialect))
  let pairs := adapter.pairs (fields ++ values)
  let order := select.source.rows.order
  let value :=
    if select.plural then
      aggregates.array pairs
        (if order.isEmpty then none else some (writeOrder adapter.dialect order))
    else aggregates.object pairs
  "SELECT " ++ value ++ " AS data FROM " ++ select.source.write adapter

def writeRelation (adapter : Adapter) (aggregates : Aggregates) (relation : String × Select) :
    String × String :=
  (relation.1, adapter.embed (relation.2.write adapter aggregates))

theorem writeRelations_eq_map (relations : List (String × Select)) :
    writeRelations adapter aggregates relations =
      relations.map (writeRelation adapter aggregates) := by
  induction relations with
  | nil => rfl
  | cons relation rest ih => rw [writeRelations, ih, List.map_cons, writeRelation]

theorem write_eq_around (select : Select) : select.write adapter aggregates =
    select.around adapter aggregates (select.relations.map (writeRelation adapter aggregates)) := by
  cases select
  rw [Select.write, writeRelations_eq_map]
  rfl

theorem encloses_around (enclosing : adapter.Enclosing aggregates) (select : Select)
    (name : String) (earlier later : List (String × String)) :
    Encloses fun value => select.around adapter aggregates (earlier ++ (name, value) :: later) := by
  have pairs := encloses_pairs adapter name
    (select.columns.map (fun column => (column.1, column.2.write adapter.dialect)) ++ earlier) later
  simp only [List.append_assoc] at pairs
  apply Encloses.append_right
  apply Encloses.append_right
  apply Encloses.append_left
  by_cases plural : select.plural
  · simpa only [if_pos plural] using (enclosing.array _).comp pairs
  · simpa only [if_neg plural] using enclosing.object.comp pairs

end Around

end Sql

namespace Compile

section Render

variable {schema : Schema} {adapter : Adapter} {aggregates : Aggregates}

def render (schema : Schema) (adapter : Adapter) (aggregates : Aggregates) (entity : String)
    (place : Level) (filter : Filter) : Except Error (String × Alias) :=
  (plan schema adapter entity place filter).map fun planned =>
    (planned.1.write adapter aggregates, planned.2)

theorem compile_eq_render (supported : adapter.aggregates = some aggregates) (entity : String)
    (filter : Filter) (options : Options) :
    compile schema adapter entity filter options =
      (render schema adapter aggregates entity (.ofOptions options) filter).map Prod.fst := by
  have required : adapter.require (if options.plural then .arrays else .objects) =
      .ok aggregates := require_eq_ok.2 supported
  rw [compile, statement, render]
  cases plan schema adapter entity (.ofOptions options) filter with
  | error fault => rfl
  | ok planned => simp [Except.map, required, pure, Except.pure]

theorem levelOf_eq_level {entity : String} {parent last : Alias} {relation : Relation}
    {place : Level} (placed : levelOf schema entity parent last relation = .ok place) :
    place = relation.level schema entity parent place.tableAlias := by
  rcases levelOf_eq_ok.1 placed with ⟨direct, tableAlias, first, rfl⟩ |
    ⟨through, joinAlias, tableAlias, table, indirect, first, second, named, rfl⟩
  · rw [Relation.level, direct]
    rfl
  · have previous : tableAlias.previous = joinAlias := by
      have index := next_eq_ok.1 second
      cases joinAlias
      simp_all [Alias.previous]
    rw [Relation.level, indirect]
    simp [throughLevel, previous, Schema.tableOf_eq named]

theorem rowsOf_root (entity table : String) (place : Level) (filter : Filter)
    (predicate : Option Predicate) :
    rowsOf schema entity { filter with limit := filter.limit.or place.implicitLimit }
        (.ofOptions (place.options adapter.dialect)) table predicate =
      (rowsOf schema entity filter place table predicate).given adapter.dialect := by
  simp [rowsOf, Rows.given, pageOf, Level.ofOptions, Level.options, Function.comp_def]

theorem write_sourceOf_given (plural : Bool) (rows : Rows) :
    (sourceOf adapter plural (rows.given adapter.dialect)).write adapter =
      (sourceOf adapter plural rows).write adapter := by
  have page : (rows.given adapter.dialect).page = rows.page := rfl
  have order : (rows.given adapter.dialect).order = rows.order := rfl
  have tableAlias : (rows.given adapter.dialect).tableAlias = rows.tableAlias := rfl
  unfold sourceOf
  rw [page, order]
  split
  · rw [Source.write, Source.write, write_given, tableAlias]
  · exact write_given rows

theorem render_root (entity : String) (place : Level) (filter : Filter) :
    render schema adapter aggregates entity (.ofOptions (place.options adapter.dialect))
        { filter with limit := filter.limit.or place.implicitLimit } =
      render schema adapter aggregates entity place filter := by
  have same : (Level.ofOptions (place.options adapter.dialect)).tableAlias = place.tableAlias := rfl
  simp only [render, plan_eq_level, level, same]
  rcases schema.tableName entity with fault | table
  · rfl
  rcases schema.fieldNames entity with fault | names
  · rfl
  rcases planIncludes schema adapter entity place.tableAlias place.tableAlias filter.includes with
    fault | ⟨relations, last⟩
  · rfl
  have required : (Level.ofOptions (place.options adapter.dialect)).plural = place.plural := rfl
  rw [required]
  rcases adapter.require (if place.plural then .arrays else .objects) with fault | _
  · rfl
  rcases filter.condition.mapM (resolve schema entity place.tableAlias) with fault | predicate
  · rfl
  simp only [bind_ok, Except.map, pure, Except.pure, rowsOf_root]
  rw [Select.write, Select.write, write_sourceOf_given]
  simp [Rows.given]
  rfl

theorem render_asRoot (entity owner : String) (parent tableAlias : Alias) (relation : Relation)
    (filter : Filter) :
    render schema adapter aggregates entity
        (.ofOptions (relation.options schema adapter.dialect owner parent tableAlias))
        (filter.asRoot relation) =
      render schema adapter aggregates entity (relation.level schema owner parent tableAlias)
        filter := by
  have implicit : (relation.level schema owner parent tableAlias).implicitLimit =
      relation.implicitLimit := by
    cases joined : relation.through <;>
      simp [Relation.level, joined, directLevel, throughLevel, Relation.implicitLimit,
        Relation.multiplicity]
  rw [Filter.asRoot, ← implicit]
  exact render_root entity _ filter

theorem compile_asRoot (supported : adapter.aggregates = some aggregates) (entity owner : String)
    (parent tableAlias : Alias) (relation : Relation) (filter : Filter) :
    compile schema adapter entity (filter.asRoot relation)
        (relation.options schema adapter.dialect owner parent tableAlias) =
      (render schema adapter aggregates entity (relation.level schema owner parent tableAlias)
        filter).map Prod.fst := by
  rw [compile_eq_render supported, render_asRoot]

theorem planIncludes_append (entity : String) (parent last : Alias)
    (earlier later : List (Include Filter)) :
    planIncludes schema adapter entity parent last (earlier ++ later) = do
      let (selects, last) ← planIncludes schema adapter entity parent last earlier
      let (others, last) ← planIncludes schema adapter entity parent last later
      return (selects ++ others, last) := by
  induction earlier generalizing last with
  | nil => simp [planIncludes]
  | cons included rest ih =>
    obtain ⟨name, scope⟩ := included
    simp only [List.cons_append, planIncludes_cons, ih, bind_assoc, pure_bind]

theorem planIncludes_split {entity : String} {parent last final : Alias}
    {earlier later : List (Include Filter)} {included : Include Filter}
    {selects : List (String × Select)}
    (planned : planIncludes schema adapter entity parent last (earlier ++ included :: later) =
      .ok (selects, final)) :
    ∃ before middle relation place select next after,
      planIncludes schema adapter entity parent last earlier = .ok (before, middle) ∧
      schema.relation entity included.relation = .ok relation ∧
      levelOf schema entity parent middle relation = .ok place ∧
      plan schema adapter relation.target place (included.scope.getD {}) = .ok (select, next) ∧
      planIncludes schema adapter entity parent next later = .ok (after, final) ∧
      selects = before ++ (included.relation, select) :: after := by
  obtain ⟨name, scope⟩ := included
  simp only [planIncludes_append, planIncludes_cons, bind_eq_ok, Prod.exists, pure, Except.pure,
    Except.ok.injEq, Prod.mk.injEq] at planned
  obtain ⟨before, middle, first, _, _, ⟨relation, related, place, placed, select, next, own, after, _,
    behind, rfl, rfl⟩, rfl, rfl⟩ := planned
  exact ⟨before, middle, relation, place, select, next, after, first, related, placed, own, behind,
    rfl⟩

theorem length_planIncludes {entity : String} {parent last final : Alias}
    {includes : List (Include Filter)} {selects : List (String × Select)}
    (planned : planIncludes schema adapter entity parent last includes = .ok (selects, final)) :
    selects.length = includes.length := by
  induction includes generalizing last selects final with
  | nil =>
    cases planned
    rfl
  | cons included rest ih =>
    rw [← List.nil_append (included :: rest)] at planned
    obtain ⟨_, _, _, _, _, _, _, first, -, -, -, behind, rfl⟩ := planIncludes_split planned
    cases first
    rw [List.nil_append, List.length_cons, List.length_cons, ih behind]

theorem last_of_render {entity text : String} {place : Level} {filter : Filter} {last : Alias}
    (rendered : render schema adapter aggregates entity place filter = .ok (text, last)) :
    last.index = place.tableAlias.index + aliasCount (filter.relations schema entity) := by
  obtain ⟨⟨select, _⟩, planned, same⟩ := map_eq_ok.1 rendered
  cases same
  obtain ⟨-, -, -, index⟩ := planned_numbered (planned_iff.2 planned)
  rw [index, Filter.includedTables, length_tables]

theorem planIncludes_plug {entity : String} {parent last final middle next : Alias} {frame : Frame}
    {before after : List (String × Select)} {relation : Relation} {place : Level}
    (first : planIncludes schema adapter entity parent last frame.earlier = .ok (before, middle))
    (related : schema.relation entity frame.name = .ok relation)
    (placed : levelOf schema entity parent middle relation = .ok place)
    (behind : planIncludes schema adapter entity parent next frame.later = .ok (after, final))
    {scope : Option Filter}
    (same : ∀ select other, plan schema adapter relation.target place (scope.getD {}) =
      .ok (select, other) → other = next) :
    planIncludes schema adapter entity parent last (frame.plug scope).includes =
      (plan schema adapter relation.target place (scope.getD {})).map fun planned =>
        (before ++ (frame.name, planned.1) :: after, final) := by
  simp only [Frame.plug, planIncludes_append, first, bind_ok, planIncludes_cons, related, placed]
  rcases own : plan schema adapter relation.target place (scope.getD {}) with fault | ⟨select, other⟩
  · rfl
  · cases same select other own
    simp only [bind_ok, behind]
    rfl

theorem level_eq_map {entity table : String} {names : List String} {filter : Filter}
    {place : Level} {predicate : Option Predicate} (named : schema.tableName entity = .ok table)
    (listed : schema.fieldNames entity = .ok names)
    (supported : adapter.aggregates = some aggregates)
    (resolved : filter.condition.mapM (resolve schema entity place.tableAlias) = .ok predicate)
    (relations : Except Error (List (String × Select) × Alias)) :
    level schema adapter entity filter place relations =
      relations.map fun included =>
        (⟨place.plural, columnsOf schema entity filter place names, included.1,
          sourceOf adapter place.plural (rowsOf schema entity filter place table predicate)⟩,
          included.2) := by
  have required : adapter.require (if place.plural then .arrays else .objects) =
      .ok aggregates := require_eq_ok.2 supported
  rw [level, named, listed]
  cases relations with
  | error fault => rfl
  | ok included => simp [required, resolved, Except.map, pure, Except.pure]

theorem render_plug (enclosing : adapter.Enclosing aggregates) {entity text : String}
    {place : Level} {frame : Frame} {scope : Option Filter} {last : Alias}
    (rendered : render schema adapter aggregates entity place (frame.plug scope) =
      .ok (text, last)) :
    ∃ relation inner sql next, ∃ write : String → String,
      schema.relation entity frame.name = .ok relation ∧
      inner = relation.level schema entity place.tableAlias inner.tableAlias ∧
      render schema adapter aggregates relation.target inner (scope.getD {}) = .ok (sql, next) ∧
      Encloses write ∧
      ∀ scope' : Option Filter,
        (∀ sql' next', render schema adapter aggregates relation.target inner (scope'.getD {}) =
          .ok (sql', next') → next' = next) →
        render schema adapter aggregates entity place (frame.plug scope') =
          (render schema adapter aggregates relation.target inner (scope'.getD {})).map
            fun inside => (write (adapter.embed inside.1), last) := by
  obtain ⟨⟨select, _⟩, planned, same⟩ := map_eq_ok.1 rendered
  cases same
  rw [plan_eq_level] at planned
  obtain ⟨table, names, selects, _, predicate, named, listed, included, supported, resolved, rfl⟩ :=
    level_eq_ok.1 planned
  obtain ⟨before, middle, relation, inner, select, next, after, first, related, placed, own,
    behind, rfl⟩ := planIncludes_split included
  let values := List.map (writeRelation adapter aggregates)
  let bare : Select := ⟨place.plural, columnsOf schema entity frame.others place names, [],
    sourceOf adapter place.plural (rowsOf schema entity frame.others place table predicate)⟩
  refine ⟨relation, inner, _, next,
    fun value =>
      bare.around adapter aggregates (values before ++ (frame.name, value) :: values after),
    related, levelOf_eq_level placed, map_eq_ok.2 ⟨_, own, rfl⟩,
    encloses_around enclosing bare frame.name _ _, fun scope' sameLast => ?_⟩
  have includes := planIncludes_plug first related placed behind
    fun select other own => sameLast _ other (map_eq_ok.2 ⟨_, own, rfl⟩)
  have resolved' : (frame.plug scope').condition.mapM
      (resolve schema entity place.tableAlias) = .ok predicate := resolved
  rw [render, plan_eq_level, includes, level_eq_map named listed supported resolved', render]
  cases plan schema adapter relation.target inner (scope'.getD {}) with
  | error fault => rfl
  | ok planned =>
    simp only [Except.map]
    rw [write_eq_around, List.map_append, List.map_cons]
    rfl

theorem render_surround (enclosing : adapter.Enclosing aggregates) {outer : List Frame}
    {frame : Frame} {scope : Option Filter} {entity text : String} {place : Level} {last : Alias}
    (rendered : render schema adapter aggregates entity place
      (surround outer (frame.plug scope)) = .ok (text, last)) :
    ∃ owner relation parent tableAlias, ∃ write : String → String,
      schema.entityAt entity (outer.map Frame.name) = .ok owner ∧
      schema.relation owner frame.name = .ok relation ∧
      Encloses write ∧
      ∀ scope' : Option Filter,
        aliasCount ((scope'.getD {}).relations schema relation.target) =
          aliasCount ((scope.getD {}).relations schema relation.target) →
        render schema adapter aggregates entity place (surround outer (frame.plug scope')) =
          (render schema adapter aggregates relation.target
            (relation.level schema owner parent tableAlias) (scope'.getD {})).map
              fun inside => (write (adapter.embed inside.1), last) := by
  induction outer generalizing entity place text last with
  | nil =>
    obtain ⟨relation, inner, sql, next, write, related, level, own, encloses, around⟩ :=
      render_plug enclosing rendered
    refine ⟨entity, relation, place.tableAlias, inner.tableAlias, write, rfl, related, encloses,
      fun scope' count => ?_⟩
    rw [← level]
    apply around
    intro sql' next' own'
    apply Alias.eq_of_index
    rw [last_of_render own, last_of_render own', count]
  | cons above rest ih =>
    obtain ⟨relation, inner, sql, next, write, related, -, own, encloses, around⟩ :=
      render_plug enclosing rendered
    obtain ⟨owner, relation', parent, tableAlias, write', reached, related', encloses', around'⟩ :=
      ih own
    refine ⟨owner, relation', parent, tableAlias,
      fun value => write (adapter.embed (write' value)), ?_, related',
      encloses.comp (enclosing.embed.comp encloses'), fun scope' count => ?_⟩
    · rw [List.map_cons, Schema.entityAt, related, bind_ok, reached]
    · have within := around' scope' count
      rw [surround, around, Option.getD_some, within]
      · cases render schema adapter aggregates relation'.target
          (relation'.level schema owner parent tableAlias) (scope'.getD {}) <;> rfl
      · intro sql' next' own'
        rw [Option.getD_some, within] at own'
        obtain ⟨_, -, same⟩ := map_eq_ok.1 own'
        cases same
        rfl

theorem planned_separately {entity : String} {parent final : Alias}
    {includes : List (Include Filter)} {selects : List (String × Select)}
    (planned : planIncludes schema adapter entity parent parent includes = .ok (selects, final))
    {i : Nat} {included : Include Filter} (listed : includes[i]? = some included) :
    ∃ relation tableAlias select last,
      schema.relation entity included.relation = .ok relation ∧
      tableAlias.index = parent.index +
        ((includes.take i).map (Include.aliasCount schema entity)).sum +
        (if relation.through.isSome then 2 else 1) ∧
      plan schema adapter relation.target (relation.level schema entity parent tableAlias)
        (included.scope.getD {}) = .ok (select, last) ∧
      selects[i]? = some (included.relation, select) := by
  obtain ⟨bound, rfl⟩ := List.getElem?_eq_some_iff.1 listed
  have split : includes = includes.take i ++ includes[i] :: includes.drop (i + 1) := by
    rw [← List.drop_eq_getElem_cons bound, List.take_append_drop]
  rw [split] at planned
  obtain ⟨before, middle, relation, place, select, next, after, first, related, placed, own, -,
    rfl⟩ := planIncludes_split planned
  have earlier := (plannedIncludes_numbered
    (plannedIncludes_of_plan entity parent parent before middle _ first)).2
  have ownIndex := (levelOf_numbered placed).2
  have tables : (relation.tables schema).length = if relation.through.isSome then 2 else 1 := by
    cases joined : relation.through <;> simp [Relation.tables, joined]
  refine ⟨relation, place.tableAlias, select, next, related, ?_, levelOf_eq_level placed ▸ own, ?_⟩
  · rw [length_tables, aliasCount_includes] at earlier
    omega
  · have length : before.length = i := by
      rw [length_planIncludes first, List.length_take]
      omega
    rw [List.getElem?_append_right (Nat.le_of_eq length), length, Nat.sub_self,
      List.getElem?_cons_zero]

end Render

end Compile

/-- The value under each include is the statement for its target alone, with an alias that follows
from the includes before it; and of a scope anywhere in the include tree, the text around its
subquery depends on the number of aliases alone. -/
theorem compile_separately {schema : Schema} {dialect : Dialect} {entity : String}
    {filter : Filter} {options : Options} {text : String}
    (compiled : compile schema (.ofDialect dialect) entity filter options = .ok text) :
    let adapter := Adapter.ofDialect dialect
    (∃ bare aggregates values,
      statement schema adapter entity { filter with includes := [] } options = .ok bare ∧
      adapter.aggregates = some aggregates ∧
      values.length = filter.includes.length ∧
      text = bare.around adapter aggregates values ∧
      ∀ (i : Nat) (included : Include Filter), filter.includes[i]? = some included →
        ∃ relation tableAlias sql,
          schema.relation entity included.relation = .ok relation ∧
          tableAlias.index = options.tableAlias.index +
            ((filter.includes.take i).map (Include.aliasCount schema entity)).sum +
            (if relation.through.isSome then 2 else 1) ∧
          compile schema adapter relation.target ((included.scope.getD {}).asRoot relation)
            (relation.options schema adapter.dialect entity options.tableAlias tableAlias) = .ok sql ∧
          values[i]? = some (included.relation, adapter.embed sql)) ∧
    ∀ (outer : List Frame) (frame : Frame) (scope : Option Filter),
      filter = surround outer (frame.plug scope) →
        ∃ owner relation parent tableAlias before after,
          schema.entityAt entity (outer.map Frame.name) = .ok owner ∧
          schema.relation owner frame.name = .ok relation ∧
          ∀ scope' : Option Filter,
            aliasCount ((scope'.getD {}).relations schema relation.target) =
              aliasCount ((scope.getD {}).relations schema relation.target) →
            compile schema adapter entity (surround outer (frame.plug scope')) options =
              (compile schema adapter relation.target ((scope'.getD {}).asRoot relation)
                (relation.options schema adapter.dialect owner parent tableAlias)).map
                  fun sql => before ++ adapter.embed sql ++ after := by
  intro adapter
  obtain ⟨select, last, aggregates, supported, planned, rfl⟩ := compile_eq_ok.1 compiled
  have planned := Compile.planned_iff.1 planned
  constructor
  · rw [Compile.plan_eq_level] at planned
    obtain ⟨table, names, selects, _, predicate, named, listed, included, -, resolved, rfl⟩ :=
      Compile.level_eq_ok.1 planned
    let bare : Select := ⟨options.plural,
      Compile.columnsOf schema entity filter (.ofOptions options) names, [],
      Compile.sourceOf adapter options.plural
        (Compile.rowsOf schema entity filter (.ofOptions options) table predicate)⟩
    have barePlanned : Compile.plan schema adapter entity (.ofOptions options)
        { filter with includes := [] } = .ok (bare, options.tableAlias) := by
      rw [Compile.plan_eq_level]
      exact Compile.level_eq_ok.2 ⟨table, names, [], aggregates, predicate, named, listed, rfl,
        supported, resolved, rfl⟩
    refine ⟨bare, aggregates, selects.map (writeRelation adapter aggregates),
      map_eq_ok.2 ⟨_, barePlanned, rfl⟩, supported, ?_, write_eq_around _,
      fun i _ present => ?_⟩
    · rw [List.length_map, Compile.length_planIncludes included]
    · obtain ⟨relation, tableAlias, select, next, related, index, own, there⟩ :=
        Compile.planned_separately included present
      refine ⟨relation, tableAlias, select.write adapter aggregates, related, index, ?_, ?_⟩
      · rw [Compile.compile_asRoot supported]
        exact map_eq_ok.2 ⟨_, map_eq_ok.2 ⟨_, own, rfl⟩, rfl⟩
      · rw [List.getElem?_map, there]
        rfl
  · rintro outer frame scope rfl
    obtain ⟨owner, relation, parent, tableAlias, write, reached, related, ⟨before, after, written⟩,
      around⟩ := Compile.render_surround (ofDialect_enclosing supported)
        (map_eq_ok.2 ⟨_, planned, rfl⟩)
    refine ⟨owner, relation, parent, tableAlias, before, after, reached, related,
      fun scope' count => ?_⟩
    rw [Compile.compile_eq_render supported, around scope' count, Compile.compile_asRoot supported]
    cases Compile.render schema adapter aggregates relation.target
      (relation.level schema owner parent tableAlias) (scope'.getD {}) with
    | error fault => rfl
    | ok inside =>
      simp only [Except.map, written]
      rfl

theorem compile_separately_shop :
    ∃ text text' tags bare aggregates values before after items items',
      compile Sample.shop (.ofDialect .mysql) "Customer" Sample.nested {} = .ok text ∧
      text = Select.around (.ofDialect .mysql) aggregates bare values ∧
      values[1]? = some ("tags", "(" ++ tags ++ ")") ∧
      compile Sample.shop (.ofDialect .mysql) "Tag" {}
          { tableAlias := ⟨4, by decide⟩
            join := some "INNER JOIN `customer_tags` AS _3 ON _3.`tagId` = _4.`id`"
            restriction := some "_3.`customerId` = _0.`id`"
            plural := true } = .ok tags ∧
      text = before ++ items ++ after ∧
      compile Sample.shop (.ofDialect .mysql) "Customer"
        { includes := [⟨"orders", some
            { order := [⟨"day", some .desc⟩]
              limit := some 2
              includes := [⟨"items", some { limit := some 5 }⟩] }⟩,
          ⟨"tags", none⟩] } {} = .ok text' ∧
      text' = before ++ items' ++ after := by
  obtain ⟨text, compiled⟩ : ∃ text, compile Sample.shop (.ofDialect .mysql) "Customer"
      Sample.nested {} = .ok text := ⟨_, rfl⟩
  obtain ⟨⟨bare, aggregates, values, -, -, -, written, each⟩, around⟩ := compile_separately compiled
  obtain ⟨relation, tableAlias, tags, related, index, alone, there⟩ := each 1 ⟨"tags", none⟩ rfl
  have relationEq : relation = .hasManyThrough "Tag" "CustomerTag" "customerId" "tagId" := by
    injection related.symm
  subst relationEq
  have index : tableAlias = ⟨4, by decide⟩ := Alias.eq_of_index index
  subst index
  let orders : Frame := ⟨{ includes := [⟨"tags", none⟩] }, 0, "orders"⟩
  let items : Frame := ⟨{ order := [⟨"day", some .desc⟩], limit := some 2 }, 0, "items"⟩
  obtain ⟨owner, item, parent, below, before, after, reached, found, plugged⟩ :=
    around [orders] items none rfl
  have ownerEq : owner = "Order" := by injection reached.symm
  subst ownerEq
  have itemEq : item = .hasMany "Item" "orderId" := by injection found.symm
  subst itemEq
  have given := plugged none rfl
  have changed := plugged (some { limit := some 5 }) rfl
  obtain ⟨text', compiled'⟩ : ∃ text, compile Sample.shop (.ofDialect .mysql) "Customer"
      (surround [orders] (items.plug (some { limit := some 5 }))) {} = .ok text := ⟨_, rfl⟩
  obtain ⟨sql, -, same⟩ := map_eq_ok.1 (given.symm.trans compiled)
  obtain ⟨sql', -, same'⟩ := map_eq_ok.1 (changed.symm.trans compiled')
  exact ⟨text, text', tags, bare, aggregates, values, before, after, _, _, compiled, written, there,
    alone, same.symm, compiled', same'.symm⟩

end NestedQuery
