import NestedQuery.Proofs.Compilable

set_option autoImplicit false

namespace NestedQuery

theorem FailsWith.mapM_option {ε α β : Type} {property : ε → Prop} {f : α → Except ε β}
    {a? : Option α} (each : ∀ a, a? = some a → FailsWith property (f a)) :
    FailsWith property (a?.mapM f) := by
  cases a? with
  | none => exact .ok none
  | some a => exact .map some (each a rfl)

namespace Schema

variable {schema : Schema} {entity : String} {property : Error → Prop}

theorem entity_failsWith
    (unknown : schema.entities.contains entity = false → property (.unknownEntity entity)) :
    FailsWith property (schema.entity entity) := by
  unfold Schema.entity
  unfold Catalog.contains at unknown
  cases found : schema.entities.find? entity with
  | none => exact .error (unknown (by rw [found]; rfl))
  | some definition => exact .ok definition

theorem relation_failsWith {name : String}
    (unknown : schema.entities.contains entity = false → property (.unknownEntity entity))
    (absent : schema.relation entity name = .error (.unknownRelation entity name) →
      property (.unknownRelation entity name)) :
    FailsWith property (schema.relation entity name) := by
  unfold relation at absent ⊢
  refine .bind (entity_failsWith unknown) fun definition found => ?_
  rw [found, bind_ok] at absent
  cases there : definition.relations.find? name with
  | none => exact .error (absent (by rw [there]))
  | some relation => exact .ok relation

end Schema

namespace Compile

open Sql

variable {schema : Schema} {adapter : Adapter} {entity : String} {filter : Filter}

/-- The errors of a compilation, each with its cause. A place in the include tree is to blame, or
`final`, the index that the last alias would have. -/
inductive Refused (schema : Schema) (entity : String) (filter : Filter) (final : Nat) : Error → Prop
  | undefined {owner : String} {scope : Filter} (level : filter.HasLevel schema entity owner scope)
      (unknown : schema.entities.contains owner = false) :
      Refused schema entity filter final (.unknownEntity owner)
  | join {owner : String} {scope : Filter} {included : Include Filter} {relation : Relation}
      {through : Through} (level : filter.HasLevel schema entity owner scope)
      (listed : included ∈ scope.includes)
      (related : schema.relation owner included.relation = .ok relation)
      (joined : relation.through = some through)
      (unknown : schema.entities.contains through.entity = false) :
      Refused schema entity filter final (.unknownEntity through.entity)
  | unrelated {owner : String} {scope : Filter} {included : Include Filter}
      (level : filter.HasLevel schema entity owner scope) (listed : included ∈ scope.includes)
      (absent : schema.relation owner included.relation =
        .error (.unknownRelation owner included.relation)) :
      Refused schema entity filter final (.unknownRelation owner included.relation)
  | group {owner : String} {scope : Filter} {tree : Where} {connective : Connective}
      (level : filter.HasLevel schema entity owner scope) (given : scope.condition = some tree)
      (part : Formula.PartOf (.group connective []) tree) :
      Refused schema entity filter final (.invalidFilter (.emptyGroup connective))
  | literal {owner field : String} {scope : Filter} {tree : Where} {test : Test Literal}
      {literal : Literal} {fault : LiteralFault}
      (level : filter.HasLevel schema entity owner scope) (given : scope.condition = some tree)
      (part : Formula.PartOf (.leaf ⟨field, test⟩) tree) (operand : literal ∈ test.operands)
      (formless : literal.toOperand (schema.fieldType owner field) = .error fault) :
      Refused schema entity filter final (.invalidLiteral field fault)
  | aliases (full : UInt32.size ≤ final) :
      Refused schema entity filter final (.invalidFilter .aliasesExhausted)

theorem Refused.of_included {included : Include Filter} {relation : Relation} {final : Nat}
    {error : Error} (listed : included ∈ filter.includes)
    (related : schema.relation entity included.relation = .ok relation)
    (refused : Refused schema relation.target (included.scope.getD {}) final error) :
    Refused schema entity filter final error := by
  cases refused with
  | undefined level unknown => exact .undefined (level.of_included listed related) unknown
  | join level listed' related' joined unknown =>
    exact .join (level.of_included listed related) listed' related' joined unknown
  | unrelated level listed' absent =>
    exact .unrelated (level.of_included listed related) listed' absent
  | group level given part => exact .group (level.of_included listed related) given part
  | literal level given part operand formless =>
    exact .literal (level.of_included listed related) given part operand formless
  | aliases full => exact .aliases full

theorem operand_failsWith {property : Error → Prop} {field : String} {literal : Literal}
    (formless : ∀ fault, literal.toOperand (schema.fieldType entity field) = .error fault →
      property (.invalidLiteral field fault)) :
    FailsWith property (operand schema entity field literal) := by
  unfold operand
  cases formed : literal.toOperand (schema.fieldType entity field) with
  | ok operand => exact .ok operand
  | error fault => exact .error (formless fault formed)

theorem resolveTest_failsWith {property : Error → Prop} {resolve : Literal → Except Error Operand}
    {test : Test Literal} (each : ∀ literal ∈ test.operands, FailsWith property (resolve literal)) :
    FailsWith property (resolveTest resolve test) := by
  cases test with
  | compare comparison value => exact .map _ (each value (by simp [Test.operands]))
  | between low high =>
    exact .bind (each low (by simp [Test.operands])) fun _ _ =>
      .bind (each high (by simp [Test.operands])) fun _ _ => .ok _
  | oneOf values => exact .map _ (.mapM each)
  | noneOf values => exact .map _ (.mapM each)
  | _ => exact .ok _

theorem resolve_failsWith {property : Error → Prop} (tableAlias : Alias) {tree : Where}
    (group : ∀ connective, Formula.PartOf (.group connective []) tree →
      property (.invalidFilter (.emptyGroup connective)))
    (literal : ∀ field test, Formula.PartOf (.leaf ⟨field, test⟩) tree →
      ∀ literal ∈ test.operands, ∀ fault,
        literal.toOperand (schema.fieldType entity field) = .error fault →
          property (.invalidLiteral field fault)) :
    FailsWith property (resolve schema entity tableAlias tree) := by
  induction tree using Formula.induction with
  | leaf condition =>
    obtain ⟨field, test⟩ := condition
    rw [resolve]
    exact .map _ (resolveTest_failsWith fun value mem =>
      operand_failsWith (literal field test .self value mem))
  | group connective parts ih =>
    rw [resolve, resolveParts_eq_mapM]
    split
    next empty =>
      rw [List.isEmpty_iff] at empty
      subst empty
      exact .error (group connective .self)
    next =>
      refine .map _ (.mapM fun part mem => ih part mem ?_ ?_)
      · exact fun connective inner => group connective (.member mem inner)
      · exact fun field test inner => literal field test (.member mem inner)

theorem levelOf_failsWith {property : Error → Prop} {relation : Relation} {last : Alias}
    {final : Nat}
    (aliases : UInt32.size ≤ final → property (.invalidFilter .aliasesExhausted))
    (join : ∀ through, relation.through = some through →
      schema.entities.contains through.entity = false → property (.unknownEntity through.entity))
    (parent : Alias) (within : last.index + (relation.tables schema).length ≤ final) :
    FailsWith property (levelOf schema entity parent last relation) := by
  have next {last : Alias} (within : last.index + 1 ≤ final) : FailsWith property last.next := by
    by_cases room : last.index + 1 < UInt32.size
    · rw [next_in_range room]
      exact .ok _
    · rw [next_exhausted (Nat.not_lt.1 room)]
      exact .error (aliases (by omega))
  unfold levelOf
  cases joined : relation.through with
  | none =>
    rw [length_tables_direct joined] at within
    exact .bind (next within) fun _ _ => .ok _
  | some through =>
    rw [length_tables_through joined] at within
    refine .bind (next (by omega)) fun joinAlias first => .bind (next ?_) fun _ _ => ?_
    · rw [next_eq_ok.1 first]
      exact within
    · exact .bind (.map _ (Schema.entity_failsWith (join through joined))) fun _ _ => .ok _

theorem level_failsWith {final : Nat} {aggregates : Aggregates}
    (supported : adapter.aggregates = some aggregates) (place : Level)
    {relations : Except Error (List (String × Select) × Alias)}
    (included : FailsWith (Refused schema entity filter final) relations) :
    FailsWith (Refused schema entity filter final)
      (level schema adapter entity filter place relations) := by
  have defined : FailsWith (Refused schema entity filter final) (schema.entity entity) :=
    Schema.entity_failsWith (.undefined .root)
  have required (feature : Feature) :
      FailsWith (Refused schema entity filter final) (adapter.require feature) := by
    rw [require_eq_ok.2 supported]
    exact .ok aggregates
  have resolved : FailsWith (Refused schema entity filter final)
      (filter.condition.mapM (resolve schema entity place.tableAlias)) := by
    refine .mapM_option fun tree given => resolve_failsWith _ ?_ ?_
    · exact fun connective part => .group .root given part
    · exact fun field test part literal mem fault formless =>
        .literal .root given part mem formless
  exact .bind (.map _ defined) fun _ _ => .bind (.map _ defined) fun _ _ =>
    .bind included fun _ _ => .bind (required _) fun _ _ => .bind resolved fun _ _ => .ok _

theorem planIncludes_failsWith {final : Nat}
    (below : ∀ included ∈ filter.includes, ∀ (entity : String) (place : Level),
      place.tableAlias.index +
          ((included.scope.getD {}).includedTables schema entity).length ≤ final →
        FailsWith (Refused schema entity (included.scope.getD {}) final)
          (plan schema adapter entity place (included.scope.getD {})))
    {includes : List (Include Filter)} (listed : ∀ included ∈ includes, included ∈ filter.includes)
    (parent : Alias) {last : Alias}
    (within : last.index + ((includedRelations schema entity includes).flatMap
      (Relation.tables schema)).length ≤ final) :
    FailsWith (Refused schema entity filter final)
      (planIncludes schema adapter entity parent last includes) := by
  induction includes generalizing last with
  | nil => exact .ok _
  | cons included rest ih =>
    obtain ⟨name, scope⟩ := included
    rw [List.forall_mem_cons] at listed
    obtain ⟨mem, others⟩ := listed
    rw [planIncludes_cons]
    refine .bind (Schema.relation_failsWith (.undefined .root) (.unrelated .root mem))
      fun relation related => ?_
    rw [length_tables_cons related] at within
    refine .bind (levelOf_failsWith .aliases (fun _ => .join .root mem related) parent (by omega))
      fun place placed => ?_
    -- What is planned so far has used up as many aliases as it has tables.
    have index := (levelOf_numbered placed).2
    have ownFailsWith := below _ mem relation.target place (by dsimp only; omega)
    refine .bind (fun error failed => ?_) fun planned own => ?_
    · exact .of_included mem related (ownFailsWith error failed)
    · obtain ⟨-, -, -, index'⟩ := planned_numbered (planned_iff.2 own)
      exact .bind (ih others (by omega)) fun _ _ => .ok _

theorem plan_failsWith {final : Nat} {aggregates : Aggregates}
    (supported : adapter.aggregates = some aggregates) (place : Level)
    (within : place.tableAlias.index + (filter.includedTables schema entity).length ≤ final) :
    FailsWith (Refused schema entity filter final) (plan schema adapter entity place filter) := by
  induction filter using Filter.induction generalizing entity place with
  | level filter ih =>
    rw [includedTables_eq] at within
    rw [plan_eq_level]
    exact level_failsWith supported place (planIncludes_failsWith
      (fun included mem entity place within => ih included mem place within) (fun _ mem => mem) _
      within)

end Compile

theorem compile_failsWith (schema : Schema) (dialect : Dialect) (entity : String) (filter : Filter)
    (options : Options) :
    FailsWith (Compile.Refused schema entity filter
        (options.tableAlias.index + aliasCount (filter.relations schema entity)))
      (compile schema (.ofDialect dialect) entity filter options) := by
  obtain ⟨aggregates, supported⟩ := Compile.ofDialect_aggregates dialect
  rw [← length_tables schema]
  refine .bind (.map _ (Compile.plan_failsWith supported _ (Nat.le_refl _))) fun select _ => ?_
  rw [Compile.require_eq_ok.2 supported]
  exact .ok _

end NestedQuery
