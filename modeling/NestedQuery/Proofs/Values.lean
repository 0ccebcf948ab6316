import Mathlib.Data.List.Forall2
import NestedQuery.Proofs.Payload
import NestedQuery.Proofs.Placement

set_option autoImplicit false

namespace NestedQuery

section Related

variable {α β γ δ ι : Type} {R : α → β → Prop} {S : γ → δ → Prop} {a? : Option α} {b? : Option β}

theorem rel_cases (related : Option.Rel R a? b?) :
    (a? = none ∧ b? = none) ∨ ∃ a b, a? = some a ∧ b? = some b ∧ R a b := by
  cases related with
  | none => exact .inl ⟨rfl, rfl⟩
  | some related => exact .inr ⟨_, _, rfl, rfl, related⟩

theorem rel_imp {S : α → β → Prop} (related : Option.Rel R a? b?)
    (each : ∀ a b, R a b → S a b) : Option.Rel S a? b? := by
  cases related with
  | some related => exact .some (each _ _ related)
  | none => exact .none

theorem rel_map (related : Option.Rel R a? b?) {f : α → γ} {g : β → δ}
    (each : ∀ a b, R a b → S (f a) (g b)) : Option.Rel S (a?.map f) (b?.map g) := by
  cases related with
  | some related => exact .some (each _ _ related)
  | none => exact .none

theorem rel_bind (related : Option.Rel R a? b?) {f : α → Option γ} {g : β → Option δ}
    (each : ∀ a b, R a b → Option.Rel S (f a) (g b)) : Option.Rel S (a?.bind f) (b?.bind g) := by
  cases related with
  | some related => exact each _ _ related
  | none => exact .none

theorem rel_mapM (items : List ι) {f : ι → Option α} {g : ι → Option β}
    (each : ∀ item ∈ items, Option.Rel R (f item) (g item)) :
    Option.Rel (List.Forall₂ R) (items.mapM f) (items.mapM g) := by
  induction items with
  | nil => exact .some .nil
  | cons item rest ih =>
    have others := ih fun other mem => each other (List.mem_cons_of_mem _ mem)
    rw [List.mapM_cons, List.mapM_cons]
    exact rel_bind (each item List.mem_cons_self) fun a b related =>
      rel_bind others fun as bs others => .some (.cons related others)

end Related

namespace Compile

open Sql Materialize

variable {schema : Schema} {entity : String} {filter : Filter}

def Reads (schema : Schema) (entity : String) (filter : Filter) (value : Json) (read : Entity) :
    Prop :=
  (∃ members, value = .object members) ∧ entityOf schema entity filter value = .ok read

inductive Stands (schema : Schema) (entity : String) (filter : Filter) :
    Bool → List Json → List Entity → Prop
  | objects {values : List Json} {entities : List Entity}
      (read : List.Forall₂ (Reads schema entity filter) values entities) :
      Stands schema entity filter false values entities
  | array {values : List Json} {entities : List Entity}
      (read : List.Forall₂ (Reads schema entity filter) values entities) :
      Stands schema entity filter true [.array values] entities
  | null : Stands schema entity filter true [.null] []
  | nothing : Stands schema entity filter true [] []

inductive Aggregated (objects : List Json) : List Json → Prop
  | array : Aggregated objects [.array objects]
  | null (empty : objects = []) : Aggregated objects [.null]
  | nothing (empty : objects = []) : Aggregated objects []

theorem aggregated_unordered (dialect : Dialect) (objects : List Json) :
    Aggregated objects (arrayRows dialect false objects) := by
  cases dialect with
  | sqlite | postgresql => exact .array
  | mysql =>
    cases objects with
    | nil => exact .null rfl
    | cons first rest => exact .array

theorem aggregated_ordered (dialect : Dialect) (objects : List Json) :
    Aggregated objects
      (if (Adapter.ofDialect dialect).windowed then (arrayRows dialect true objects).take 1
        else arrayRows dialect true objects) := by
  -- A window repeats the array in each row, of which one is left.
  cases dialect with
  | sqlite | postgresql => exact .array
  | mysql =>
    cases objects with
    | nil => exact .nothing rfl
    | cons first rest => exact .array

theorem aggregated_cut (dialect : Dialect) (rows : Rows) (objects : List Json) :
    Aggregated objects ((sourceOf (.ofDialect dialect) true rows).cut true
      (arrayRows dialect (!rows.order.isEmpty) objects)) := by
  cases ordered : rows.order.isEmpty with
  | false =>
    simp only [sourceOf, ordered, Bool.not_false, Bool.or_true, Bool.and_true, Bool.true_and,
      if_true]
    exact aggregated_ordered dialect objects
  | true =>
    cases page : rows.page <;>
      simpa [sourceOf, ordered, page, Source.cut, Page.cut] using
        aggregated_unordered dialect objects

theorem stands_of_aggregated {objects values : List Json} {entities : List Entity}
    (aggregated : Aggregated objects values)
    (read : List.Forall₂ (Reads schema entity filter) objects entities) :
    Stands schema entity filter true values entities := by
  cases aggregated with
  | array => exact .array read
  | null empty =>
    subst empty
    cases read
    exact .null
  | nothing empty =>
    subst empty
    cases read
    exact .nothing

theorem stands_of_reads (dialect : Dialect) (place : Level) (table : String)
    (predicate : Option Predicate) {values : List Json} {entities : List Entity}
    (read : List.Forall₂ (Reads schema entity filter) values entities) :
    let rows := rowsOf schema entity filter place table predicate
    Stands schema entity filter place.plural
      ((sourceOf (.ofDialect dialect) place.plural rows).cut place.plural
        (if place.plural then arrayRows dialect (!rows.order.isEmpty) values else values))
      entities := by
  intro rows
  cases place.plural with
  | false => exact .objects read
  | true => exact stands_of_aggregated (aggregated_cut dialect rows values) read

theorem object_reads {place : Level} {names : List String} {scope : Scope} {record : Record}
    {members : List (String × Json)} {relations : List (String × Related Entity)}
    (listed : schema.fieldNames entity = .ok names)
    (distinct : filter.DistinctNames schema entity) (shown : Shows scope place.tableAlias record)
    (holds : Holds schema entity filter.includes members relations) :
    Reads schema entity filter
      (.object ((columnsOf schema entity filter place names).map
        (fun column => (column.1, scope.value column.2)) ++ members))
      (entityRead schema entity filter.fields record relations) := by
  have distinct' := (distinctNames_iff.1 distinct).1
  rw [Schema.fieldsOf_eq listed] at distinct'
  have columns : (columnsOf schema entity filter place names).map
        (fun column => (column.1, scope.value column.2)) =
      (Fields.project filter.fields names).map fun field =>
        (field, record (schema.columnName entity field)) := by
    rw [columnsOf, List.map_map]
    exact List.map_congr_left fun field _ => congrArg _ (shown.value _)
  rw [columns]
  exact ⟨⟨_, rfl⟩, entityOf_object listed holds distinct'⟩

def ReadsAs (schema : Schema) (entity name : String) (relation : Relation) (filter : Filter)
    (value : Option Json) (related : Option (Related Entity)) : Prop :=
  (∀ text, value.getD .null ≠ .string text) ∧
    relatedOf entity name relation.multiplicity (entityOf schema relation.target filter)
      (value.getD .null) = .ok related

theorem single_rel {α β : Type} {R : α → β → Prop} (dialect : Dialect) {as : List α} {bs : List β}
    (related : List.Forall₂ R as bs) :
    Option.Rel (Option.Rel R) (single dialect as) (single dialect bs) := by
  cases related with
  | nil => exact .some .none
  | cons first rest =>
    cases rest with
    | nil => exact .some (.some first)
    | cons second rest =>
      by_cases taken : dialect = .sqlite
      · simp only [single, taken, if_true]
        exact .some (.some first)
      · simp only [single, taken, if_false]
        exact .none

theorem mapM_reads {values : List Json} {entities : List Entity}
    (read : List.Forall₂ (Reads schema entity filter) values entities) :
    values.mapM (entityOf schema entity filter) = .ok entities := by
  induction read with
  | nil => rfl
  | cons first _ ih =>
    rw [List.mapM_cons, first.2, bind_ok, ih]
    rfl

theorem single_readsAs {dialect : Dialect} {name : String} {relation : Relation} {plural : Bool}
    (placed : plural = decide (relation.multiplicity = .many)) {values : List Json}
    {entities : List Entity} (stands : Stands schema relation.target filter plural values entities) :
    Option.Rel (ReadsAs schema entity name relation filter) (single dialect values)
      (relatedRead dialect relation.multiplicity entities) := by
  cases multiplicity : relation.multiplicity with
  | one =>
    have object : plural = false := by simpa [multiplicity] using placed
    subst object
    cases stands with
    | objects read =>
      rw [← Option.map_id_apply (x := single dialect values)]
      refine rel_map (single_rel dialect read) ?_
      rintro _ _ (⟨⟨⟨members, rfl⟩, first⟩⟩ | _)
      · refine ⟨by simp, ?_⟩
        rw [multiplicity, id, Option.getD_some, relatedOf, first]
        rfl
      · exact ⟨by simp, by rw [multiplicity]; rfl⟩
  | many =>
    have array : plural = true := by simpa [multiplicity] using placed
    subst array
    cases stands with
    | array read =>
      refine .some ⟨by simp, ?_⟩
      rw [multiplicity, Option.getD_some, relatedOf, mapM_reads read]
      rfl
    | null | nothing => exact .some ⟨by simp, by rw [multiplicity]; rfl⟩

theorem mapM_valueEntities {objects : List Json}
    (each : ∀ value ∈ objects, ∃ members, value = .object members) :
    (objects.mapM (valueEntities schema entity filter)).map List.flatten =
      objects.mapM (entityOf schema entity filter) := by
  induction objects with
  | nil => rfl
  | cons value rest ih =>
    obtain ⟨⟨members, rfl⟩, others⟩ := List.forall_mem_cons.1 each
    rw [List.mapM_cons, List.mapM_cons, ← ih others, valueEntities]
    cases entityOf schema entity filter (.object members) with
    | error e => rfl
    | ok own =>
      cases rest.mapM (valueEntities schema entity filter) <;> rfl

theorem objects_of_reads {values : List Json} {entities : List Entity}
    (read : List.Forall₂ (Reads schema entity filter) values entities) :
    ∀ value ∈ values, ∃ members, value = .object members := by
  induction read with
  | nil => simp
  | cons first _ ih => exact List.forall_mem_cons.2 ⟨first.1, ih⟩

theorem entities_of_stands {plural : Bool} {values : List Json} {entities : List Entity}
    (stands : Stands schema entity filter plural values entities) :
    (values.mapM (valueEntities schema entity filter)).map List.flatten = .ok entities := by
  cases stands with
  | objects read => rw [mapM_valueEntities (objects_of_reads read), mapM_reads read]
  | array read =>
    rw [List.mapM_cons, valueEntities, mapM_reads read]
    simp [Except.map, pure, Except.pure]
  | null | nothing => rfl

end Compile

inductive Row.Gives : Row → Json → Prop
  | null : Row.Gives none .null
  | text {text : String} {value : Json} (read : Json.read text = .ok value) :
      Row.Gives (some text) value

theorem rowEntities_given {schema : Schema} {entity : String} {filter : Filter} {row : Row}
    {value : Json} (given : row.Gives value) :
    Materialize.rowEntities schema entity filter row =
      Materialize.valueEntities schema entity filter value := by
  cases given with
  | null => rfl
  | text read =>
    rw [Materialize.rowEntities, Materialize.parse, read]
    rfl

theorem materialize_given {schema : Schema} {entity : String} {filter : Filter} {rows : List Row}
    {values : List Json} (given : List.Forall₂ Row.Gives rows values) :
    materialize schema entity filter rows =
      (values.mapM (Materialize.valueEntities schema entity filter)).map List.flatten := by
  have each : rows.mapM (Materialize.rowEntities schema entity filter) =
      values.mapM (Materialize.valueEntities schema entity filter) := by
    induction given with
    | nil => rfl
    | cons first rest ih => rw [List.mapM_cons, List.mapM_cons, ih, rowEntities_given first]
  rw [materialize, each]

end NestedQuery
