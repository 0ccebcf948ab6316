import NestedQuery.Proofs.Aliases

set_option autoImplicit false

namespace NestedQuery

namespace Formula

variable {α : Type} {part : Formula α}

@[elab_as_elim]
theorem induction {motive : Formula α → Prop} (leaf : ∀ a, motive (.leaf a))
    (group : ∀ connective parts, (∀ part ∈ parts, motive part) → motive (.group connective parts)) :
    ∀ formula, motive formula
  | .leaf a => leaf a
  | .group connective parts => group connective parts fun part _ => induction leaf group part

inductive PartOf (part : Formula α) : Formula α → Prop
  | self : PartOf part part
  | member {connective : Connective} {parts : List (Formula α)} {inner : Formula α}
      (mem : inner ∈ parts) (within : PartOf part inner) : PartOf part (.group connective parts)

theorem partOf_leaf {a : α} : PartOf part (.leaf a) ↔ part = .leaf a := by
  constructor
  · rintro ⟨⟩
    rfl
  · rintro rfl
    exact .self

theorem partOf_group {connective : Connective} {parts : List (Formula α)} :
    PartOf part (.group connective parts) ↔
      part = .group connective parts ∨ ∃ inner ∈ parts, PartOf part inner := by
  constructor
  · rintro (_ | ⟨mem, within⟩)
    · exact .inl rfl
    · exact .inr ⟨_, mem, within⟩
  · rintro (rfl | ⟨inner, mem, within⟩)
    · exact .self
    · exact .member mem within

end Formula

def Test.operands {ν : Type} : Test ν → List ν
  | .compare _ value => [value]
  | .between low high => [low, high]
  | .oneOf values | .noneOf values => values
  | .isNull | .isNotNull | .like _ | .notLike _ => []

namespace Filter

@[elab_as_elim]
theorem induction {motive : Filter → Prop}
    (level : ∀ filter, (∀ included ∈ filter.includes, motive (included.scope.getD {})) →
      motive filter) : ∀ filter, motive filter
  | ⟨condition, order, limit, skip, fields, includes⟩ => by
    apply level
    rintro ⟨name, scope⟩ mem
    cases scope with
    | none => exact level {} (by simp)
    | some scope => exact induction level scope
termination_by filter => sizeOf filter
decreasing_by
  have smaller := List.sizeOf_lt_of_mem mem
  simp only [Include.mk.sizeOf_spec, Option.some.sizeOf_spec] at smaller
  simp only [Filter.mk.sizeOf_spec]
  omega

inductive HasLevel (schema : Schema) (entity : String) (filter : Filter) : String → Filter → Prop
  | root : HasLevel schema entity filter entity filter
  | included {owner : String} {scope : Filter} {included : Include Filter} {relation : Relation}
      (above : HasLevel schema entity filter owner scope) (listed : included ∈ scope.includes)
      (related : schema.relation owner included.relation = .ok relation) :
      HasLevel schema entity filter relation.target (included.scope.getD {})

theorem HasLevel.of_included {schema : Schema} {entity owner : String} {filter scope : Filter}
    {included : Include Filter} {relation : Relation} (listed : included ∈ filter.includes)
    (related : schema.relation entity included.relation = .ok relation)
    (level : (included.scope.getD {}).HasLevel schema relation.target owner scope) :
    filter.HasLevel schema entity owner scope := by
  induction level with
  | root => exact .included .root listed related
  | included above listed' related' ih => exact .included ih listed' related'

end Filter

namespace Compile

open Sql

variable {schema : Schema} {adapter : Adapter} {entity : String}

theorem PlannedIncludes.get {parent last final : Alias} {includes : List (Include Filter)}
    {selects : List (String × Select)}
    (planned : PlannedIncludes schema adapter entity parent last includes selects final) {i : Nat}
    {included : Include Filter} (listed : includes[i]? = some included) :
    ∃ relation before place select next, last.index ≤ before.index ∧
      schema.relation entity included.relation = .ok relation ∧
      levelOf schema entity parent before relation = .ok place ∧
      Planned schema adapter relation.target place (included.scope.getD {}) select next ∧
      selects[i]? = some (included.relation, select) := by
  induction includes generalizing last selects i with
  | nil => simp at listed
  | cons first rest ih =>
    cases planned with
    | @cons _ _ _ _ _ _ _ _ relation place select _ related placed own others =>
      cases i with
      | zero =>
        cases listed
        exact ⟨relation, last, place, select, _, Nat.le_refl _, related, placed, own, rfl⟩
      | succ i =>
        have above := (levelOf_numbered placed).2
        obtain ⟨-, -, -, below⟩ := planned_numbered own
        obtain ⟨relation', before, place', select', next', later, there⟩ := ih others listed
        exact ⟨relation', before, place', select', next', by omega, there⟩

theorem Planned.at_level {place : Level} {filter : Filter} {select : Select} {last : Alias}
    (planned : Planned schema adapter entity place filter select last) {owner : String}
    {scope : Filter} (level : filter.HasLevel schema entity owner scope) :
    ∃ place select last, Planned schema adapter owner place scope select last := by
  induction level with
  | root => exact ⟨place, select, last, planned⟩
  | @included owner scope included relation above listed related ih =>
    obtain ⟨place, select, last, planned⟩ := ih
    cases planned with
    | level named fields includes supported resolved =>
      obtain ⟨i, listed⟩ := List.mem_iff_getElem?.1 listed
      obtain ⟨relation', _, place, select, last, -, related', -, below, -⟩ := includes.get listed
      cases related.symm.trans related'
      exact ⟨place, select, last, below⟩

end Compile

end NestedQuery
