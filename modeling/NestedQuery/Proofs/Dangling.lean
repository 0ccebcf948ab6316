import NestedQuery.Proofs.Refusals
import NestedQuery.Proofs.Taking
import NestedQuery.Schema.Dangling

set_option autoImplicit false

namespace NestedQuery

namespace Schema

variable {schema : Schema} {entity name : String} {relation : Relation}

def Supplies (schema : Schema) (relation : Relation) : Prop :=
  schema.entities.contains relation.target = true ∧
    ∀ through, relation.through = some through → schema.entities.contains through.entity = true

def Closed (schema : Schema) : Prop :=
  ∀ entity name relation, schema.relation entity name = .ok relation → schema.Supplies relation

theorem relation_eq_ok : schema.relation entity name = .ok relation ↔
    ∃ definition, schema.entities.find? entity = some definition ∧
      definition.relations.find? name = some relation := by
  unfold Schema.relation Schema.entity
  cases schema.entities.find? entity with
  | none => simp
  | some definition =>
    cases found : definition.relations.find? name <;>
      simp [found, pure, Except.pure]

theorem mem_missingOf {missing : Missing} : missing ∈ schema.missingOf relation ↔
    (schema.entities.contains relation.target = false ∧ missing = .target relation.target) ∨
    ∃ through, relation.through = some through ∧
      schema.entities.contains through.entity = false ∧ missing = .join through.entity := by
  unfold missingOf
  rw [List.mem_append]
  apply or_congr
  · cases schema.entities.contains relation.target <;> simp
  · cases relation.through with
    | none => simp
    | some through => cases defined : schema.entities.contains through.entity <;> simp [defined]

theorem missingOf_eq_nil : schema.missingOf relation = [] ↔ schema.Supplies relation := by
  simp only [List.eq_nil_iff_forall_not_mem, mem_missingOf, Supplies]
  constructor
  · intro noneMissing
    constructor
    · by_contra undefined
      exact noneMissing _ (.inl ⟨by simpa using undefined, rfl⟩)
    · intro through joined
      by_contra undefined
      exact noneMissing _ (.inr ⟨through, joined, by simpa using undefined, rfl⟩)
  · rintro ⟨target, joined⟩ missing (⟨undefined, -⟩ | ⟨through, given, undefined, -⟩)
    · simp [target] at undefined
    · simp [joined through given] at undefined

theorem mem_dangling {problem : Dangling} : problem ∈ schema.dangling ↔
    ∃ relation, schema.relation problem.entity problem.relation = .ok relation ∧
      problem.missing ∈ schema.missingOf relation := by
  obtain ⟨entity, name, missing⟩ := problem
  simp only [dangling, List.mem_flatMap, List.mem_map, Prod.exists, Dangling.mk.injEq,
    relation_eq_ok]
  constructor
  · rintro ⟨_, definition, listed, _, relation, related, _, mem, rfl, rfl, rfl⟩
    have found := Keyed.find?_of_mem schema.entities.sorted.nodup listed
    have found' := Keyed.find?_of_mem definition.relations.sorted.nodup related
    exact ⟨relation, ⟨definition, found, found'⟩, mem⟩
  · rintro ⟨relation, ⟨definition, found, found'⟩, mem⟩
    exact ⟨entity, definition, Keyed.mem_of_find? found, name, relation,
      Keyed.mem_of_find? found', missing, mem, rfl, rfl, rfl⟩

theorem dangling_eq_nil : schema.dangling = [] ↔ schema.Closed := by
  simp only [List.eq_nil_iff_forall_not_mem, mem_dangling, Closed, ← missingOf_eq_nil]
  constructor
  · intro noneReported entity name relation related missing mem
    exact noneReported ⟨entity, name, missing⟩ ⟨relation, related, mem⟩
  · rintro closed problem ⟨relation, related, mem⟩
    exact closed _ _ relation related _ mem

end Schema

namespace Filter

variable {schema : Schema} {entity owner name : String} {filter scope : Filter}

theorem HasLevel.defined (closed : schema.Closed)
    (root : schema.entities.contains entity = true)
    (level : filter.HasLevel schema entity owner scope) :
    schema.entities.contains owner = true := by
  induction level with
  | root => exact root
  | included above listed related ih => exact (closed _ _ _ related).1

def single (name : String) : Filter := Filter.including {} name none

theorem HasLevel.of_single {relation : Relation}
    (related : schema.relation entity name = .ok relation)
    (level : (single name).HasLevel schema entity owner scope) :
    (owner = entity ∧ scope = single name) ∨ (owner = relation.target ∧ scope = {}) := by
  induction level with
  | root => exact .inl ⟨rfl, rfl⟩
  | included above listed related' ih =>
    right
    obtain ⟨rfl, rfl⟩ | ⟨rfl, rfl⟩ := ih
    · obtain rfl : _ = (⟨name, none⟩ : Include Filter) := by simpa [single, including] using listed
      cases related.symm.trans related'
      exact ⟨rfl, rfl⟩
    · simp at listed

end Filter

namespace Compile

variable {schema : Schema} {entity name : String} {filter : Filter} {final : Nat}

theorem Refused.known (closed : schema.Closed) (root : schema.entities.contains entity = true)
    (unknown : String) : ¬ Refused schema entity filter final (.unknownEntity unknown) := by
  intro refused
  cases refused with
  | undefined level undefined => simp [level.defined closed root] at undefined
  | join level listed related joined undefined =>
    simp [(closed _ _ _ related).2 _ joined] at undefined

theorem Refused.of_single {relation : Relation} {error : Error}
    (related : schema.relation entity name = .ok relation) (room : final < UInt32.size)
    (refused : Refused schema entity (Filter.single name) final error) :
    ∃ missing ∈ schema.missingOf relation, ∃ unknown, error = .unknownEntity unknown ∧
      (missing = .target unknown ∨ missing = .join unknown) := by
  obtain ⟨definition, found, -⟩ := Schema.relation_eq_ok.1 related
  have root : schema.entities.contains entity = true := by simp [Catalog.contains, found]
  cases refused with
  | undefined level undefined =>
    rcases level.of_single related with ⟨rfl, -⟩ | ⟨rfl, -⟩
    · simp [root] at undefined
    · exact ⟨_, Schema.mem_missingOf.2 (.inl ⟨undefined, rfl⟩), _, rfl, .inl rfl⟩
  | join level listed related' joined undefined =>
    rcases level.of_single related with ⟨rfl, rfl⟩ | ⟨-, rfl⟩
    · cases List.mem_singleton.1 listed
      cases related.symm.trans related'
      exact ⟨_, Schema.mem_missingOf.2 (.inr ⟨_, joined, undefined, rfl⟩), _, rfl, .inr rfl⟩
    · simp at listed
  | unrelated level listed absent =>
    rcases level.of_single related with ⟨rfl, rfl⟩ | ⟨-, rfl⟩
    · cases List.mem_singleton.1 listed
      cases related.symm.trans absent
    · simp at listed
  | group level given | literal level given =>
    -- Neither the root nor the target has a predicate.
    rcases level.of_single related with ⟨-, rfl⟩ | ⟨-, rfl⟩ <;> cases given
  | aliases full => omega

theorem aliasCount_single {relation : Relation}
    (related : schema.relation entity name = .ok relation) :
    aliasCount ((Filter.single name).relations schema entity) ≤ 2 := by
  have alone : (Filter.single name).relations schema entity = [relation] :=
    includedRelations_cons related none []
  rw [alone, aliasCount]
  cases joined : relation.through <;> simp [joined]

end Compile

theorem compile_single_of_dangling {schema : Schema} {problem : Dangling}
    (reported : problem ∈ schema.dangling) (dialect : Dialect) :
    ∃ missing unknown, ⟨problem.entity, problem.relation, missing⟩ ∈ schema.dangling ∧
      (missing = .target unknown ∨ missing = .join unknown) ∧
      compile schema (.ofDialect dialect) problem.entity (.single problem.relation) {} =
        .error (.unknownEntity unknown) := by
  obtain ⟨relation, related, lacks⟩ := Schema.mem_dangling.1 reported
  cases compiled : compile schema (.ofDialect dialect) problem.entity (.single problem.relation)
      {} with
  | ok text =>
    -- A plan has found the target and the join entity, so the relation lacks nothing.
    obtain ⟨select, last, aggregates, -, planned, -⟩ := compile_eq_ok.1 compiled
    have supported := planned.supported
    obtain ⟨relation', related', supplied⟩ := supported.related _ (List.mem_singleton_self _)
    cases related.symm.trans related'
    rw [Schema.missingOf_eq_nil.2 supplied] at lacks
    cases lacks
  | error error =>
    have refused := compile_failsWith schema dialect problem.entity (.single problem.relation) {}
      error compiled
    have few := Compile.aliasCount_single related
    have room : 0 + aliasCount ((Filter.single problem.relation).relations schema problem.entity) <
        UInt32.size := by
      simp only [UInt32.size]
      omega
    obtain ⟨missing, mem, unknown, rfl, names⟩ := refused.of_single related room
    exact ⟨missing, unknown, Schema.mem_dangling.2 ⟨relation, related, mem⟩, names, rfl⟩

/-- Nothing is reported exactly when no filter on a defined entity makes the compiler miss an
entity, at any depth; and each relation that is reported makes it miss one of those reported for it
as soon as it is included. -/
theorem dangling_exact (schema : Schema) (dialect : Dialect) :
    (schema.dangling = [] ↔
      ∀ entity, schema.entities.contains entity = true → ∀ filter options unknown,
        compile schema (.ofDialect dialect) entity filter options ≠
          .error (.unknownEntity unknown)) ∧
    ∀ problem ∈ schema.dangling, ∃ missing unknown,
      ⟨problem.entity, problem.relation, missing⟩ ∈ schema.dangling ∧
      (missing = .target unknown ∨ missing = .join unknown) ∧
      compile schema (.ofDialect dialect) problem.entity { includes := [⟨problem.relation, none⟩] }
        {} = .error (.unknownEntity unknown) := by
  constructor
  · constructor
    · intro noneReported entity root filter options unknown failed
      exact Compile.Refused.known (Schema.dangling_eq_nil.1 noneReported) root unknown
        (compile_failsWith schema dialect entity filter options _ failed)
    · intro never
      by_contra someReported
      obtain ⟨problem, reported⟩ := List.exists_mem_of_ne_nil _ someReported
      obtain ⟨relation, related, -⟩ := Schema.mem_dangling.1 reported
      obtain ⟨definition, found, -⟩ := Schema.relation_eq_ok.1 related
      obtain ⟨missing, unknown, -, -, failed⟩ := compile_single_of_dangling reported dialect
      exact never _ (by simp [Catalog.contains, found]) _ _ _ failed
  · intro problem reported
    exact compile_single_of_dangling reported dialect

/-- A shop whose orders lead back to customers, and whose tags lead to products through a join; both
the products and the join are undefined. -/
def Sample.unfinished : Schema :=
  Sample.shop.withEntity "Order" ((EntityDef.ofTable "orders").withRelation "customer"
      (.belongsTo "Customer" "customerId"))
    |>.withEntity "Tag" ((EntityDef.ofTable "tags").withRelation "products"
      (.hasManyThrough "Product" "ProductTag" "tagId" "productId"))

theorem dangling_exact_unfinished :
    Sample.unfinished.dangling =
      [⟨"Tag", "products", .target "Product"⟩, ⟨"Tag", "products", .join "ProductTag"⟩] ∧
    (∃ unknown, (unknown = "Product" ∨ unknown = "ProductTag") ∧
      compile Sample.unfinished (.ofDialect .mysql) "Tag" { includes := [⟨"products", none⟩] } {} =
        .error (.unknownEntity unknown)) ∧
    Sample.shop.dangling = [] ∧
    ∀ filter options unknown, compile Sample.shop (.ofDialect .mysql) "Customer" filter options ≠
      .error (.unknownEntity unknown) := by
  have reported : Sample.unfinished.dangling =
      [⟨"Tag", "products", .target "Product"⟩, ⟨"Tag", "products", .join "ProductTag"⟩] := by
    decide
  have settled : Sample.shop.dangling = [] := by decide
  refine ⟨reported, ?_, settled, (dangling_exact Sample.shop .mysql).1.1 settled "Customer" rfl⟩
  obtain ⟨missing, unknown, mem, names, failed⟩ :=
    (dangling_exact Sample.unfinished .mysql).2 ⟨"Tag", "products", .target "Product"⟩
      (by rw [reported]; simp)
  refine ⟨unknown, ?_, failed⟩
  rw [reported] at mem
  rcases names with rfl | rfl
  · exact .inl (by simpa using mem)
  · exact .inr (by simpa using mem)

end NestedQuery
