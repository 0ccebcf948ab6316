import NestedQuery.Proofs.Reading

set_option autoImplicit false

namespace NestedQuery

open Sql

def Shows (scope : Scope) (tableAlias : Alias) (record : Record) : Prop :=
  (scope.find? fun row => row.1 = tableAlias) = some (tableAlias, record)

namespace Shows

variable {scope : Scope} {tableAlias other : Alias} {record : Record}

theorem front (tableAlias : Alias) (record : Record) (scope : Scope) :
    Shows ((tableAlias, record) :: scope) tableAlias record := by
  simp [Shows]

theorem behind (shown : Shows scope tableAlias record) (different : other ≠ tableAlias)
    (record' : Record) : Shows ((other, record') :: scope) tableAlias record := by
  simpa [Shows, different] using shown

theorem value (shown : Shows scope tableAlias record) (name : String) :
    scope.value ⟨tableAlias, name⟩ = record name := by
  unfold Scope.value
  rw [shown]

theorem record_eq (shown : Shows scope tableAlias record) : scope.record tableAlias = record :=
  funext shown.value

theorem mem (shown : Shows scope tableAlias record) : tableAlias ∈ scope.map Prod.fst :=
  List.mem_map.2 ⟨_, List.mem_of_find?_eq_some shown, rfl⟩

end Shows

theorem Truth.and_holds (a b : Truth) : a.and b = .holds ↔ a = .holds ∧ b = .holds := by
  cases a <;> cases b <;> simp [Truth.and]

theorem Truth.or_holds (a b : Truth) : a.or b = .holds ↔ a = .holds ∨ b = .holds := by
  cases a <;> cases b <;> simp [Truth.or]

namespace Compile

variable {schema : Schema} {dialect : Dialect} (db : Database)

mutual

theorem resolved_value {entity : String} {tableAlias : Alias} {tree : Where}
    {predicate : Predicate} (resolved : Resolved schema entity tableAlias tree predicate)
    {scope : Scope} {record : Record} (found : Shows scope tableAlias record) :
    predicate.value (conditionValue db scope) =
      tree.value (leafValue db schema entity record) := by
  cases resolved with
  | leaf operands =>
    rw [Formula.value, Formula.value, conditionValue_eq, leafValue, operands]
    exact congrArg (db.truth _) (found.value _)
  | group somePart resolved =>
    rw [Formula.value, Formula.value, resolvedParts_value resolved found]

theorem resolvedParts_value {entity : String} {tableAlias : Alias} {parts : List Where}
    {predicates : List Predicate}
    (resolved : ResolvedParts schema entity tableAlias parts predicates) {scope : Scope}
    {record : Record} (found : Shows scope tableAlias record) :
    partValues (conditionValue db scope) predicates =
      partValues (leafValue db schema entity record) parts := by
  cases resolved with
  | nil => rfl
  | cons resolved others =>
    rw [partValues, partValues, resolved_value resolved found, resolvedParts_value others found]

end

mutual

theorem resolved_subjects {entity : String} {tableAlias : Alias} {tree : Where}
    {predicate : Predicate} (resolved : Resolved schema entity tableAlias tree predicate) :
    ∀ condition ∈ predicate.leaves, condition.subject.table = tableAlias := by
  cases resolved with
  | leaf operands => simp [Formula.leaves, column]
  | group somePart resolved =>
    rw [Formula.leaves]
    exact resolvedParts_subjects resolved

theorem resolvedParts_subjects {entity : String} {tableAlias : Alias} {parts : List Where}
    {predicates : List Predicate}
    (resolved : ResolvedParts schema entity tableAlias parts predicates) :
    ∀ condition ∈ partLeaves predicates, condition.subject.table = tableAlias := by
  cases resolved with
  | nil => simp [partLeaves]
  | cons resolved others =>
    rw [partLeaves]
    intro condition mem
    rcases List.mem_append.1 mem with mem | mem
    · exact resolved_subjects resolved condition mem
    · exact resolvedParts_subjects others condition mem

end

def Level.tied (place : Level) (table : String) (outer : Scope) : List Scope :=
  let first := (db.rows table).map fun record => (place.tableAlias, record) :: outer
  let joined := match place.join with
    | some join => first.flatMap fun scope => join.extend db scope
    | none => first
  joined.filter fun scope =>
    (place.correlation.map (Correlation.value db scope)).getD .holds = .holds

theorem found_eq (entity : String) (filter : Filter) (place : Level) (table : String)
    (predicate : Option Predicate) (outer : Scope) :
    (rowsOf schema entity filter place table predicate).found db outer =
      (place.tied db table outer).filter fun scope =>
        (predicate.map (Formula.value (conditionValue db scope))).getD .holds = .holds := by
  unfold Rows.found Level.tied
  rw [List.filter_filter]
  refine List.filter_congr fun scope _ => ?_
  simp only [Rows.restriction, Truth.and_holds, rowsOf]
  rw [Bool.decide_and, Bool.and_comm]

def Leads (place : Level) (table : String) (outer : Scope) (candidates : List Record) : Prop :=
  ∃ tied : List (Scope × Record), place.tied db table outer = tied.map Prod.fst ∧
    candidates = tied.map Prod.snd ∧ ∀ row ∈ tied, Shows row.1 place.tableAlias row.2

def pairKeys (schema : Schema) (entity : String) (filter : Filter) : List (Key (Scope × Record)) :=
  filter.order.map fun entry =>
    (entry.direction, fun row => row.2 (schema.columnName entity entry.field))

structure Chosen (schema : Schema) (entity : String) (filter : Filter) (tableAlias : Alias)
    (rows : List (Scope × Record)) : Prop where
  shown : ∀ row ∈ rows, Shows row.1 tableAlias row.2
  sorted : db.sorted (pairKeys schema entity filter) rows = rows

theorem sorted_scopes {entity : String} {filter : Filter} {tableAlias : Alias}
    {rows : List (Scope × Record)} (shown : ∀ row ∈ rows, Shows row.1 tableAlias row.2) :
    (db.sorted (pairKeys schema entity filter) rows).map Prod.fst =
      db.sorted (orderKeys (resolveOrder schema entity tableAlias filter.order))
        (rows.map Prod.fst) := by
  rw [orderKeys, resolveOrder, List.map_map]
  exact db.map_sorted filter.order OrderBy.direction fun row mem entry _ =>
    ((shown row mem).value _).symm

theorem sorted_records (entity : String) (filter : Filter) (rows : List (Scope × Record)) :
    (db.sorted (pairKeys schema entity filter) rows).map Prod.snd =
      db.sorted (filter.sortKeys schema entity) (rows.map Prod.snd) :=
  db.map_sorted filter.order OrderBy.direction fun _ _ _ _ => rfl

theorem keeps_eq {entity : String} {filter : Filter} {tableAlias : Alias}
    {predicate : Option Predicate}
    (resolved : filter.condition.mapM (resolve schema entity tableAlias) = .ok predicate)
    {scope : Scope} {record : Record} (shown : Shows scope tableAlias record) :
    decide ((predicate.map (Formula.value (conditionValue db scope))).getD .holds = .holds) =
      filter.keeps db schema entity record := by
  unfold Filter.keeps
  rcases option_mapM_eq_ok.1 resolved with ⟨absent, rfl⟩ | ⟨tree, placed, present, rfl, compiled⟩
  · rw [absent]
    rfl
  · rw [present, Option.map_some, Option.getD_some,
      resolved_value db (resolved_iff.2 compiled) shown]

theorem cut_chosen {entity : String} {filter : Filter} {place : Level} {table : String}
    {predicate : Option Predicate} {outer : Scope} {candidates : List Record}
    (resolved : filter.condition.mapM (resolve schema entity place.tableAlias) = .ok predicate)
    (leads : Leads db place table outer candidates) :
    ∃ chosen, Chosen db schema entity filter place.tableAlias chosen ∧
      (rowsOf schema entity filter place table predicate).cut db outer = chosen.map Prod.fst ∧
      filter.choose db schema entity place.implicitLimit candidates = chosen.map Prod.snd := by
  obtain ⟨tied, scopes, rfl, shown⟩ := leads
  have kept : (tied.map Prod.fst).filter (fun scope =>
        (predicate.map (Formula.value (conditionValue db scope))).getD .holds = .holds) =
      (tied.filter fun row => filter.keeps db schema entity row.2).map Prod.fst := by
    rw [List.filter_map]
    refine congrArg _ (List.filter_congr fun row mem => ?_)
    exact keeps_eq db resolved (shown row mem)
  have kept' : (tied.map Prod.snd).filter (filter.keeps db schema entity) =
      (tied.filter fun row => filter.keeps db schema entity row.2).map Prod.snd := by
    rw [List.filter_map]
    rfl
  have shown' : ∀ row ∈ tied.filter (fun row => filter.keeps db schema entity row.2),
      Shows row.1 place.tableAlias row.2 := fun row mem =>
    shown row (List.mem_filter.1 mem).1
  refine ⟨Page.cut (pageOf filter place) (db.sorted (pairKeys schema entity filter)
    (tied.filter fun row => filter.keeps db schema entity row.2)), ⟨?_, ?_⟩, ?_, ?_⟩
  · intro row mem
    exact shown' row (List.mem_mergeSort.1 ((Page.cut_sublist _ _).mem mem))
  · exact db.sorted_cut _ (Page.cut_sublist _ _)
  · rw [Rows.cut, found_eq, scopes, kept, Page.map_cut, sorted_scopes db shown']
    rfl
  · rw [Filter.choose, kept', Page.map_cut, sorted_records]
    rfl

theorem cut_eq_found {rows : Rows} (outer : Scope) (noPage : rows.page = none)
    (noOrder : rows.order = []) : rows.cut db outer = rows.found db outer := by
  rw [Rows.cut, noPage, noOrder]
  exact db.sorted_nil _

theorem chosen_alone {entity : String} {filter : Filter} {tableAlias : Alias}
    {chosen : List (Scope × Record)} (h : Chosen db schema entity filter tableAlias chosen)
    (outer : Scope) :
    Chosen db schema entity filter tableAlias
      (chosen.map fun row => ((tableAlias, row.2) :: outer, row.2)) := by
  -- In a derived table the row of the level stands alone, with nothing else of its joins.
  constructor
  · intro row mem
    obtain ⟨_, _, rfl⟩ := List.mem_map.1 mem
    exact .front _ _ _
  · have moved : (db.sorted (pairKeys schema entity filter) chosen).map
          (fun row => ((tableAlias, row.2) :: outer, row.2)) =
        db.sorted (pairKeys schema entity filter)
          (chosen.map fun row => ((tableAlias, row.2) :: outer, row.2)) :=
      db.map_sorted filter.order OrderBy.direction fun _ _ _ _ => rfl
    rw [← moved, h.sorted]

theorem arriving_chosen (adapter : Adapter) {entity : String} {filter : Filter} {place : Level}
    {table : String} {predicate : Option Predicate} {outer : Scope} {candidates : List Record}
    (resolved : filter.condition.mapM (resolve schema entity place.tableAlias) = .ok predicate)
    (leads : Leads db place table outer candidates) :
    ∃ chosen, Chosen db schema entity filter place.tableAlias chosen ∧
      (sourceOf adapter place.plural
          (rowsOf schema entity filter place table predicate)).arriving db place.plural outer =
        chosen.map Prod.fst ∧
      filter.choose db schema entity place.implicitLimit candidates = chosen.map Prod.snd := by
  obtain ⟨chosen, h, scopes, records⟩ := cut_chosen db resolved leads
  unfold sourceOf
  split
  next derived =>
    refine ⟨_, chosen_alone db h outer, ?_, ?_⟩
    · simp only [Source.arriving, scopes, List.map_map]
      refine List.map_congr_left fun row mem => ?_
      simp only [Function.comp, rowsOf, (h.shown row mem).record_eq]
    · rw [records, List.map_map]
      rfl
  next direct =>
    refine ⟨chosen, h, ?_, records⟩
    rw [← scopes, Source.arriving]
    cases plural : place.plural with
    | false => rfl
    | true =>
      have nothing : (rowsOf schema entity filter place table predicate).page = none ∧
          (rowsOf schema entity filter place table predicate).order = [] := by
        simpa [plural] using direct
      rw [cut_eq_found db outer nothing.1 nothing.2]
      rfl

structure Level.Fits (place : Level) (visible : List Alias) : Prop where
  join : ∀ text, place.join ≠ some (.given text)
  correlation : ∀ text, place.correlation ≠ some (.given text)
  links : ∀ column ∈ place.join.elim [] Join.columns ++ place.correlation.elim [] Correlation.columns,
    column.table ∈ (place.join.elim [] Join.tables).map Prod.snd ++ place.tableAlias :: visible

theorem condition_subjects {entity : String} {tableAlias : Alias} {condition : Option Where}
    {predicate : Option Predicate}
    (resolved : condition.mapM (resolve schema entity tableAlias) = .ok predicate) :
    ∀ column ∈ predicate.elim [] (fun predicate => predicate.leaves.map Condition.subject),
      column.table = tableAlias := by
  rcases option_mapM_eq_ok.1 resolved with ⟨-, rfl⟩ | ⟨tree, placed, -, rfl, compiled⟩
  · simp
  · intro column mem
    obtain ⟨condition, leaf, rfl⟩ := List.mem_map.1 mem
    exact resolved_subjects (resolved_iff.2 compiled) condition leaf

theorem inSight_iff {visible : List Alias} {columns : List Column} :
    inSight visible columns = true ↔ ∀ column ∈ columns, column.table ∈ visible := by
  simp [inSight]

theorem isWellFormed_sourceOf {adapter : Adapter} {entity : String} {filter : Filter}
    {place : Level} {table : String} {names : List String} {predicate : Option Predicate}
    {visible : List Alias}
    (resolved : filter.condition.mapM (resolve schema entity place.tableAlias) = .ok predicate)
    (fits : place.Fits visible) :
    (sourceOf adapter place.plural
        (rowsOf schema entity filter place table predicate)).isWellFormed visible
      ((columnsOf schema entity filter place names).map Prod.snd) = true := by
  have own : place.tableAlias ∈
      (rowsOf schema entity filter place table predicate).aliases ++ visible := by
    simp [Rows.aliases, Rows.tables, rowsOf]
  have ordered : ∀ column ∈ (resolveOrder schema entity place.tableAlias filter.order).map
      OrderItem.column, column.table = place.tableAlias := by
    simp [resolveOrder, column]
  have selected : ∀ column ∈ (columnsOf schema entity filter place names).map Prod.snd,
      column.table = place.tableAlias := by
    simp [columnsOf, column]
  have composed : (rowsOf schema entity filter place table predicate).isComposed = true := by
    unfold Rows.isComposed
    split
    · exact absurd ‹_› (fits.join _)
    · exact absurd ‹_› (fits.correlation _)
    · rfl
  have within : ∀ column ∈ (rowsOf schema entity filter place table predicate).columns,
      column.table ∈ (rowsOf schema entity filter place table predicate).aliases ++ visible := by
    intro column mem
    simp only [Rows.columns, List.mem_append] at mem
    rcases mem with (mem | mem) | mem
    · have seen := fits.links column (List.mem_append.2 mem)
      simpa [Rows.aliases, Rows.tables, rowsOf] using seen
    · rw [condition_subjects resolved column mem]
      exact own
    · rw [ordered column mem]
      exact own
  have outside : place.tableAlias ∈ (sourceOf adapter place.plural
      (rowsOf schema entity filter place table predicate)).aliases ++ visible := by
    unfold sourceOf
    split
    · exact List.mem_append_left _ (List.mem_singleton.2 rfl)
    · exact own
  rw [Source.isWellFormed, rows_sourceOf, composed, Bool.true_and, Bool.and_eq_true, inSight_iff,
    inSight_iff]
  refine ⟨within, fun column mem => ?_⟩
  rcases List.mem_append.1 mem with mem | mem
  · rw [selected column mem]
    exact outside
  · rw [ordered column mem]
    exact outside

end Compile

end NestedQuery
