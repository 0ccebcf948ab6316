import NestedQuery.Proofs.Levels

set_option autoImplicit false

namespace NestedQuery

namespace Compile

open Sql

variable {schema : Schema} {entity : String} {parent last : Alias} {relation : Relation}
  {place : Level}

theorem levelOf_plural (placed : levelOf schema entity parent last relation = .ok place) :
    place.plural = decide (relation.multiplicity = .many) := by
  rcases levelOf_eq_ok.1 placed with ⟨-, tableAlias, -, rfl⟩ |
    ⟨through, joinAlias, tableAlias, table, indirect, -, -, -, rfl⟩
  · rfl
  · simp [throughLevel, Relation.multiplicity, indirect]

theorem levelOf_implicitLimit (placed : levelOf schema entity parent last relation = .ok place) :
    place.implicitLimit = relation.implicitLimit := by
  rcases levelOf_eq_ok.1 placed with ⟨-, tableAlias, -, rfl⟩ |
    ⟨through, joinAlias, tableAlias, table, indirect, -, -, -, rfl⟩
  · rfl
  · simp [throughLevel, Relation.implicitLimit, Relation.multiplicity, indirect]

theorem levelOf_fits (placed : levelOf schema entity parent last relation = .ok place)
    {visible : List Alias} (seen : parent ∈ visible) : place.Fits visible := by
  rcases levelOf_eq_ok.1 placed with ⟨-, tableAlias, -, rfl⟩ |
    ⟨through, joinAlias, tableAlias, table, -, -, -, -, rfl⟩
  · have equated : ∃ left right, correlationOf schema entity parent tableAlias relation =
        .equal ⟨tableAlias, left⟩ ⟨parent, right⟩ := by
      unfold correlationOf
      split <;> exact ⟨_, _, rfl⟩
    obtain ⟨left, right, equated⟩ := equated
    constructor <;> simp [directLevel, equated, Correlation.columns, seen]
  · constructor <;>
      simp [throughLevel, Join.columns, Correlation.columns, Join.tables, column, seen]

theorem equal_value (db : Database) {scope : Scope} {left right : Column} {a b : Json}
    (leftValue : scope.value left = a) (rightValue : scope.value right = b) :
    decide ((Correlation.equal left right).value db scope = .holds) = db.sameKey a b := by
  rw [Correlation.value, leftValue, rightValue, Bool.eq_iff_iff, decide_eq_true_iff,
    db.equal_holds]

variable (db : Database) {scope : Scope} {record : Record}

theorem candidates_direct (direct : relation.through = none) (shown : Shows scope parent record)
    {tableAlias : Alias} (different : tableAlias ≠ parent) :
    relation.candidates db schema entity record =
      (db.rows (schema.tableOf relation.target)).filter fun target =>
        (correlationOf schema entity parent tableAlias relation).value db
          ((tableAlias, target) :: scope) = .holds := by
  unfold Relation.candidates correlationOf
  rw [direct]
  cases relation.kind <;>
    exact List.filter_congr fun target _ =>
      (equal_value db ((Shows.front tableAlias target scope).value _)
        ((shown.behind different target).value _)).symm

theorem linked_rows {through : Through} (shown : Shows scope parent record)
    {joinAlias tableAlias : Alias} (joinDifferent : joinAlias ≠ parent)
    (different : tableAlias ≠ parent) (apart : joinAlias ≠ tableAlias) (table : String)
    (target : Record) :
    ((Join.inner table joinAlias (column schema through.entity joinAlias through.keyToTarget)
        (column schema relation.target tableAlias through.targetKey)).extend db
        ((tableAlias, target) :: scope)).filter (fun row =>
          (Correlation.equal (column schema through.entity joinAlias through.keyToOwner)
            (column schema entity parent relation.ownerKey)).value db row = .holds) =
      ((db.rows table).filter (relation.ties db schema entity through record target)).map
        fun link => (joinAlias, link) :: (tableAlias, target) :: scope := by
  -- The rows of a target behind its join, one for each record of the join that ties it.
  rw [Join.extend, List.filter_filter, List.filter_map]
  refine congrArg _ (List.filter_congr fun link _ => ?_)
  have front := Shows.front joinAlias link ((tableAlias, target) :: scope)
  have behind := (Shows.front tableAlias target scope).behind apart link
  have around := (shown.behind different target).behind joinDifferent link
  have joined := equal_value db
    (front.value (schema.columnName through.entity through.keyToTarget))
    (behind.value (schema.columnName relation.target through.targetKey))
  have tied := equal_value db
    (front.value (schema.columnName through.entity through.keyToOwner))
    (around.value (schema.columnName entity relation.ownerKey))
  rw [Relation.ties, ← joined, ← tied, Bool.and_comm]
  rfl

theorem levelOf_leads (placed : levelOf schema entity parent last relation = .ok place)
    (bound : parent.index ≤ last.index) (shown : Shows scope parent record) :
    Leads db place (schema.tableOf relation.target) scope
      (relation.candidates db schema entity record) := by
  rcases levelOf_eq_ok.1 placed with ⟨direct, tableAlias, first, rfl⟩ |
    ⟨through, joinAlias, tableAlias, table, indirect, first, second, named, rfl⟩
  · have index := next_eq_ok.1 first
    have different : tableAlias ≠ parent := by
      rintro rfl
      omega
    refine ⟨(relation.candidates db schema entity record).map fun target =>
      ((tableAlias, target) :: scope, target), ?_, ?_, ?_⟩
    · rw [candidates_direct db direct shown different, Level.tied, List.map_map]
      exact List.filter_map
    · simp [Function.comp_def]
    · intro row mem
      obtain ⟨target, -, rfl⟩ := List.mem_map.1 mem
      exact .front tableAlias target scope
  · have index := next_eq_ok.1 first
    have index' := next_eq_ok.1 second
    have joinDifferent : joinAlias ≠ parent := by
      rintro rfl
      omega
    have different : tableAlias ≠ parent := by
      rintro rfl
      omega
    have apart : joinAlias ≠ tableAlias := by
      rintro rfl
      omega
    refine ⟨(db.rows (schema.tableOf relation.target)).flatMap fun target =>
      ((db.rows table).filter (relation.ties db schema entity through record target)).map
        fun link => ((joinAlias, link) :: (tableAlias, target) :: scope, target), ?_, ?_, ?_⟩
    · simp only [Level.tied, throughLevel, Option.map_some, Option.getD_some, List.flatMap_map,
        List.filter_flatMap, List.map_flatMap, List.map_map]
      refine congrArg List.flatten (List.map_congr_left fun target _ => ?_)
      exact linked_rows db shown joinDifferent different apart table target
    · simp only [Relation.candidates, indirect, Schema.tableOf_eq named, List.map_flatMap,
        List.map_map]
      rfl
    · intro row mem
      obtain ⟨target, -, mem⟩ := List.mem_flatMap.1 mem
      obtain ⟨link, -, rfl⟩ := List.mem_map.1 mem
      exact (Shows.front tableAlias target scope).behind apart link

end Compile

end NestedQuery
