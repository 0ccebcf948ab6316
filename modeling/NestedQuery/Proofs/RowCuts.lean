import NestedQuery.Proofs.Shapes

set_option autoImplicit false

namespace NestedQuery

section Append

variable {schema : Schema} {entity : String} {filter : Filter}

theorem materialize_append (rows others : List Row) :
    materialize schema entity filter (rows ++ others) = do
      let entities ← materialize schema entity filter rows
      let behind ← materialize schema entity filter others
      return entities ++ behind := by
  unfold materialize
  rw [List.mapM_append]
  cases rows.mapM (Materialize.rowEntities schema entity filter) with
  | error e => rfl
  | ok first =>
    cases others.mapM (Materialize.rowEntities schema entity filter) with
    | error e => rfl
    | ok second => simp [Except.map, pure, Except.pure]

theorem materialize_append_eq_ok {rows others : List Row} {entities : List Entity} :
    materialize schema entity filter (rows ++ others) = .ok entities ↔
      ∃ first second, materialize schema entity filter rows = .ok first ∧
        materialize schema entity filter others = .ok second ∧ entities = first ++ second := by
  simp only [materialize_append, bind_eq_ok, pure, Except.pure, Except.ok.injEq]
  constructor
  · rintro ⟨first, read, second, behind, rfl⟩
    exact ⟨first, second, read, behind, rfl⟩
  · rintro ⟨first, second, read, behind, rfl⟩
    exact ⟨first, read, second, behind, rfl⟩

theorem materialize_of_error {before after : List Row} {row : Row} {e : Error}
    (readable : ∀ other ∈ before, ∃ entities, materialize schema entity filter [other] = .ok entities)
    (fails : materialize schema entity filter [row] = .error e) :
    materialize schema entity filter (before ++ row :: after) = .error e := by
  induction before with
  | nil => rw [List.nil_append, ← List.singleton_append, materialize_append, fails, bind_error]
  | cons other rest ih =>
    obtain ⟨⟨entities, read⟩, others⟩ := List.forall_mem_cons.1 readable
    rw [List.cons_append, ← List.singleton_append, materialize_append, read, bind_ok, ih others,
      bind_error]

theorem materialize_eq_error {rows : List Row} {e : Error} :
    materialize schema entity filter rows = .error e ↔
      ∃ before row after, rows = before ++ row :: after ∧
        (∀ other ∈ before, ∃ entities, materialize schema entity filter [other] = .ok entities) ∧
        materialize schema entity filter [row] = .error e := by
  constructor
  · intro failed
    induction rows with
    | nil => cases failed
    | cons row rest ih =>
      cases own : materialize schema entity filter [row] with
      | error e' =>
        rw [← List.singleton_append, materialize_append, own] at failed
        exact ⟨[], row, rest, rfl, by simp, own.trans failed⟩
      | ok entities =>
        rw [← List.singleton_append, materialize_append, own, bind_ok] at failed
        have later : materialize schema entity filter rest = .error e := by
          cases behind : materialize schema entity filter rest with
          | error e' =>
            rw [behind] at failed
            exact failed
          | ok others =>
            rw [behind] at failed
            cases failed
        obtain ⟨before, other, after, rfl, readable, fails⟩ := ih later
        exact ⟨row :: before, other, after, rfl,
          List.forall_mem_cons.2 ⟨⟨entities, own⟩, readable⟩, fails⟩
  · rintro ⟨before, row, after, rfl, readable, fails⟩
    exact materialize_of_error readable fails

end Append

/-- The same rows, cut differently: a row that holds nothing comes or goes, and an array of objects
stands for a row of each. -/
inductive Recut : List Row → List Row → Prop
  | refl (rows : List Row) : Recut rows rows
  | symm {rows others : List Row} (recut : Recut rows others) : Recut others rows
  | trans {rows others further : List Row} (first : Recut rows others)
      (second : Recut others further) : Recut rows further
  | append {rows others front back : List Row} (left : Recut rows front) (right : Recut others back) :
      Recut (rows ++ others) (front ++ back)
  | null {row : Row} (given : row.Gives .null) : Recut [row] []
  | array {row : Row} {objects : List Json} {rows : List Row} (given : row.Gives (.array objects))
      (each : ∀ value ∈ objects, ∃ members, value = .object members)
      (apart : List.Forall₂ Row.Gives rows objects) : Recut [row] rows

theorem Recut.materialize_eq (schema : Schema) (entity : String) (filter : Filter)
    {rows others : List Row} (recut : Recut rows others) :
    materialize schema entity filter rows = materialize schema entity filter others := by
  induction recut with
  | refl => rfl
  | symm _ ih => exact ih.symm
  | trans _ _ first second => exact first.trans second
  | append _ _ left right => rw [materialize_append, materialize_append, left, right]
  | null given =>
    rw [materialize_given (.cons given .nil)]
    rfl
  | array given each apart =>
    rw [materialize_given (.cons given .nil), materialize_given apart,
      Compile.mapM_valueEntities each, List.mapM_cons, Materialize.valueEntities]
    cases List.mapM (Materialize.entityOf schema entity filter) _ with
    | error e => rfl
    | ok entities => simp [Except.map, pure, Except.pure]

namespace Compile

open Sql

variable {schema : Schema} {entity : String} {filter : Filter}

theorem statement_eq_ok {adapter : Adapter} {options : Options} {select : Select} :
    statement schema adapter entity filter options = .ok select ↔
      ∃ table names relations last aggregates predicate,
        schema.tableName entity = .ok table ∧ schema.fieldNames entity = .ok names ∧
        planIncludes schema adapter entity options.tableAlias options.tableAlias filter.includes =
          .ok (relations, last) ∧
        adapter.aggregates = some aggregates ∧
        filter.condition.mapM (resolve schema entity options.tableAlias) = .ok predicate ∧
        select = ⟨options.plural, columnsOf schema entity filter (.ofOptions options) names,
          relations, sourceOf adapter options.plural
            (rowsOf schema entity filter (.ofOptions options) table predicate)⟩ := by
  rw [statement, plan_eq_level, map_eq_ok]
  constructor
  · rintro ⟨⟨select, last⟩, planned, rfl⟩
    obtain ⟨table, names, relations, aggregates, predicate, named, listed, included, supported,
      resolved, rfl⟩ := level_eq_ok.1 planned
    exact ⟨table, names, relations, last, aggregates, predicate, named, listed, included, supported,
      resolved, rfl⟩
  · rintro ⟨table, names, relations, last, aggregates, predicate, named, listed, included, supported,
      resolved, rfl⟩
    exact ⟨(_, last), level_eq_ok.2 ⟨table, names, relations, aggregates, predicate, named, listed,
      included, supported, resolved, rfl⟩, rfl⟩

section Alone

variable (db : Database) {rows : Rows} (alone : rows.join = none)

include alone

theorem cut_alone {scope : Scope} (mem : scope ∈ rows.cut db []) :
    ∃ record, scope = [(rows.tableAlias, record)] := by
  have found := List.mem_mergeSort.1 ((Page.cut_sublist _ _).mem mem)
  rw [Rows.found, alone] at found
  obtain ⟨record, -, rfl⟩ := List.mem_map.1 (List.mem_filter.1 found).1
  exact ⟨record, rfl⟩

theorem arriving_alone (adapter : Adapter) (plural : Bool) :
    (sourceOf adapter plural rows).arriving db plural [] = rows.cut db [] := by
  unfold sourceOf
  split
  next derived =>
    -- The derived table shows each row as it was found.
    refine (List.map_congr_left fun scope mem => ?_).trans (List.map_id _)
    obtain ⟨record, rfl⟩ := cut_alone db alone mem
    rw [(Shows.front rows.tableAlias record []).record_eq, id]
  next direct =>
    cases plural with
    | false => rfl
    | true =>
      have nothing : rows.page = none ∧ rows.order = [] := by simpa using direct
      exact (cut_eq_found db [] nothing.1 nothing.2).symm

theorem aliases_alone (adapter : Adapter) (plural : Bool) :
    (sourceOf adapter plural rows).aliases = [rows.tableAlias] := by
  unfold sourceOf
  split
  · rfl
  · rw [Source.aliases, Rows.aliases, Rows.tables, alone]
    rfl

end Alone

theorem evaluate_forms (db : Database) (dialect : Dialect) (columns : List (String × Column))
    (relations : List (String × Select)) {rows : Rows}
    (outermost : ∀ join, rows.join = some join → ∃ text, join = .given text) :
    let form (plural : Bool) : Select :=
      ⟨plural, columns, relations, sourceOf (.ofDialect dialect) plural rows⟩
    Option.Rel (fun objects values =>
        (∀ value ∈ objects, ∃ members, value = .object members) ∧ Aggregated objects values)
      ((form false).evaluate db dialect []) ((form true).evaluate db dialect []) := by
  intro form
  cases joined : rows.join with
  | some join =>
    -- Rows that a caller joins have no value here, in either form.
    obtain ⟨text, rfl⟩ := outermost join joined
    have given : rows.isComposed = false := by
      simp [Rows.isComposed, joined]
    simp only [form, Select.evaluate, Source.isWellFormed, rows_sourceOf, given, Bool.false_and]
    exact .none
  | none =>
    have cut : db.sorted (orderKeys rows.order) (rows.cut db []) = rows.cut db [] :=
      db.sorted_cut _ (Page.cut_sublist _ _)
    simp only [form, Select.evaluate, Source.isWellFormed, aliases_alone joined, rows_sourceOf,
      arriving_alone db joined, cut, ite_self]
    split
    · cases made : List.mapM (m := Option) _ (rows.cut db []) with
      | none => exact .none
      | some objects =>
        refine .some ⟨fun value mem => ?_, aggregated_cut dialect rows objects⟩
        obtain ⟨scope, -, own⟩ := (mapM_values made).2 value mem
        obtain ⟨members, -, rfl⟩ := Option.map_eq_some_iff.1 own
        exact ⟨_, rfl⟩
    · exact .none

theorem recut_of_aggregated {objects values : List Json} (aggregated : Aggregated objects values)
    (each : ∀ value ∈ objects, ∃ members, value = .object members) {rows others : List Row}
    (single : List.Forall₂ Row.Gives rows objects) (array : List.Forall₂ Row.Gives others values) :
    Recut others rows := by
  cases aggregated with
  | array =>
    obtain _ | ⟨given, _ | _⟩ := array
    exact .array given each single
  | null empty =>
    subst empty
    obtain _ | ⟨given, _ | _⟩ := array
    cases single
    exact .null given
  | nothing empty =>
    subst empty
    cases single
    cases array
    exact .refl []

end Compile

/-- Entities are read row after row, up to the first row that cannot be read, and are the same
however their rows are cut. So a statement gives the same entities whether it gives their objects
one by one or aggregated. -/
theorem materialize_recut (schema : Schema) (entity : String) (filter : Filter) :
    (∀ (rows others : List Row) (entities : List Entity),
      materialize schema entity filter (rows ++ others) = .ok entities ↔
        ∃ first second, materialize schema entity filter rows = .ok first ∧
          materialize schema entity filter others = .ok second ∧ entities = first ++ second) ∧
    (∀ (rows : List Row) (e : Error),
      materialize schema entity filter rows = .error e ↔
        ∃ before row after, rows = before ++ row :: after ∧
          (∀ other ∈ before, ∃ entities,
            materialize schema entity filter [other] = .ok entities) ∧
          materialize schema entity filter [row] = .error e) ∧
    (∀ rows others : List Row, Recut rows others →
      materialize schema entity filter rows = materialize schema entity filter others) ∧
    ∀ (dialect : Dialect) (options : Options) (single : Sql.Select),
      statement schema (.ofDialect dialect) entity filter { options with plural := false } =
          .ok single →
        ∃ array, statement schema (.ofDialect dialect) entity filter
            { options with plural := true } = .ok array ∧
          ∀ db : Database, Option.Rel (fun objects values => ∀ rows others : List Row,
              List.Forall₂ Row.Gives rows objects → List.Forall₂ Row.Gives others values →
                materialize schema entity filter rows = materialize schema entity filter others)
            (single.evaluate db dialect []) (array.evaluate db dialect []) := by
  refine ⟨fun _ _ _ => materialize_append_eq_ok, fun _ _ => materialize_eq_error,
    fun _ _ recut => recut.materialize_eq schema entity filter,
    fun dialect options single stated => ?_⟩
  obtain ⟨table, names, relations, last, aggregates, predicate, named, listed, included, supported,
    resolved, rfl⟩ := Compile.statement_eq_ok.1 stated
  refine ⟨_, Compile.statement_eq_ok.2 ⟨table, names, relations, last, aggregates, predicate, named,
    listed, included, supported, resolved, rfl⟩, fun db => ?_⟩
  have outermost (join : Sql.Join) (joined : options.join.map .given = some join) :
      ∃ text, join = .given text := by
    obtain ⟨text, -, rfl⟩ := Option.map_eq_some_iff.1 joined
    exact ⟨text, rfl⟩
  refine rel_imp (Compile.evaluate_forms db dialect _ relations outermost) ?_
  intro objects values ⟨each, aggregated⟩ rows others single array
  exact ((Compile.recut_of_aggregated aggregated each single array).materialize_eq ..).symm

def Sample.ann : String := "\x7b\"name\":\"Ann\"\x7d"

def Sample.bob : String := "\x7b\"name\":\"Bob\"\x7d"

theorem Sample.read_authors :
    Json.read ann = .ok (.object [("name", .string "Ann")]) ∧
      Json.read bob = .ok (.object [("name", .string "Bob")]) ∧
      Json.read ("[" ++ ann ++ "," ++ bob ++ "]") =
        .ok (.array [.object [("name", .string "Ann")], .object [("name", .string "Bob")]]) ∧
      Json.read "null" = .ok .null := by
  with_unfolding_all exact ⟨rfl, rfl, rfl, rfl⟩

theorem materialize_recut_authors :
    let entities : List Entity :=
      [{ model := "Author", attributes := [("name", .string "Ann")] },
        { model := "Author", attributes := [("name", .string "Bob")] }]
    let array : String := "[" ++ Sample.ann ++ "," ++ Sample.bob ++ "]"
    materialize Sample.blog "Author" {} [some Sample.ann, some Sample.bob] = .ok entities ∧
      materialize Sample.blog "Author" {} [none, some array, some "null"] = .ok entities := by
  intro entities array
  obtain ⟨first, second, both, null⟩ := Sample.read_authors
  have apart : materialize Sample.blog "Author" {} [some Sample.ann, some Sample.bob] =
      .ok entities := by
    rw [materialize_given (.cons (.text first) (.cons (.text second) .nil))]
    with_unfolding_all rfl
  have recut : Recut ([none] ++ [some array] ++ [some "null"])
      ([] ++ [some Sample.ann, some Sample.bob] ++ []) := by
    refine .append (.append (.null .null) (.array (.text both) (by simp) ?_)) (.null (.text null))
    exact .cons (.text first) (.cons (.text second) .nil)
  exact ⟨apart, ((materialize_recut _ _ _).2.2.1 _ _ recut).trans apart⟩

end NestedQuery
