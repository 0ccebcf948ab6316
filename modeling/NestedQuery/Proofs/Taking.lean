import Mathlib.Data.List.Forall2
import Mathlib.Data.List.Sort
import NestedQuery.Proofs.Payload

set_option autoImplicit false

namespace NestedQuery

namespace Keyed

variable {α β : Type} {name other : String} {entries : List (String × α)}

theorem find?_eq_none : find? name entries = none ↔ name ∉ entries.map Prod.fst := by
  induction entries with
  | nil => simp [find?]
  | cons entry rest ih =>
    rw [List.map_cons, List.mem_cons, not_or, ← ih]
    by_cases same : entry.1 = name
    · simp [find?, same]
    · simp [find?, same, Ne.symm same]

theorem mem_of_find? {value : α} (found : find? name entries = some value) :
    (name, value) ∈ entries := by
  induction entries with
  | nil => cases found
  | cons entry rest ih =>
    obtain ⟨first, old⟩ := entry
    by_cases same : first = name
    · simp_all [find?]
    · exact List.mem_cons_of_mem _ (ih (by simpa [find?, same] using found))

theorem find?_of_mem {value : α} (distinct : (entries.map Prod.fst).Nodup)
    (mem : (name, value) ∈ entries) : find? name entries = some value := by
  induction entries with
  | nil => cases mem
  | cons entry rest ih =>
    obtain ⟨absent, distinct⟩ := List.nodup_cons.1 distinct
    rcases List.mem_cons.1 mem with rfl | mem
    · exact find?_cons_self name value rest
    · have apart : entry.1 ≠ name := fun same => absent (same ▸ List.mem_map_of_mem mem)
      simp only [find?, apart, if_false]
      exact ih distinct mem

theorem find?_erase (name other : String) (entries : List (String × α)) :
    find? other (erase name entries) = if other = name then none else find? other entries := by
  induction entries with
  | nil => simp [erase, find?]
  | cons entry rest ih =>
    obtain ⟨first, value⟩ := entry
    unfold erase at ih
    by_cases taken : first = name
    · by_cases same : other = name
      · simp_all [erase]
      · simp_all [erase, find?, Ne.symm same]
    · by_cases found : first = other
      · simp [erase, find?, ← found, taken]
      · simpa [erase, find?, taken, found] using ih

theorem find?_insert (name other : String) (value : α) (entries : List (String × α)) :
    find? other (insert name value entries) =
      if other = name then some value else find? other entries := by
  by_cases same : other = name
  · rw [if_pos same, same, find?_insert_self]
  · rw [if_neg same, find?_insert_of_ne same]

theorem find?_put (name other : String) (value : α) (entries : List (String × α)) :
    find? other (put name value entries) =
      if other = name then some value else find? other entries := by
  induction entries with
  | nil => simp [put, find?, eq_comm]
  | cons entry rest ih =>
    obtain ⟨first, old⟩ := entry
    by_cases taken : first = name
    · by_cases same : other = name
      · simp [put, taken, same]
      · simp [put, find?, taken, same, Ne.symm same]
    · by_cases found : first = other
      · simp [put, find?, ← found, taken]
      · simp [put, find?, taken, found, ih]

theorem notMem_of_nodup {value : α} {others : List (String × α)}
    (distinct : ((entries ++ (name, value) :: others).map Prod.fst).Nodup) :
    name ∉ entries.map Prod.fst := by
  rw [List.map_append, List.nodup_append] at distinct
  exact fun mem => distinct.2.2 name mem name List.mem_cons_self rfl

theorem put_of_notMem (absent : name ∉ entries.map Prod.fst) (value : α) :
    put name value entries = entries ++ [(name, value)] := by
  induction entries with
  | nil => rfl
  | cons entry rest ih =>
    rw [List.map_cons, List.mem_cons, not_or] at absent
    simp [put, Ne.symm absent.1, ih absent.2]

theorem find?_mapValues (f : α → β) (name : String) (entries : List (String × α)) :
    find? name (entries.map fun entry => (entry.1, f entry.2)) = (find? name entries).map f := by
  induction entries with
  | nil => rfl
  | cons entry rest ih => by_cases same : entry.1 = name <;> simp [find?, same, ih]

theorem Sorted.nodup (sorted : Sorted entries) : (entries.map Prod.fst).Nodup := by
  rw [List.Nodup, List.pairwise_map]
  apply sorted.imp
  intro entry other less same
  rw [same] at less
  exact String.lt_irrefl _ less

theorem Sorted.ext {first second : List (String × α)} (sorted : Sorted first)
    (sorted' : Sorted second) (same : ∀ name, find? name first = find? name second) :
    first = second := by
  have asymmetric : Std.Antisymm fun a b : String × α => a.1 < b.1 :=
    ⟨fun a b less greater => absurd (String.lt_trans less greater) (String.lt_irrefl a.1)⟩
  have irreflexive : Std.Irrefl fun a b : String × α => a.1 < b.1 :=
    ⟨fun a => String.lt_irrefl a.1⟩
  refine List.Pairwise.eq_of_mem_iff sorted sorted' fun entry => ?_
  constructor
  · intro mem
    exact mem_of_find? (same _ ▸ find?_of_mem sorted.nodup mem)
  · intro mem
    exact mem_of_find? (same _ ▸ find?_of_mem sorted'.nodup mem)

end Keyed

theorem mapM_eq_ok {ε α β : Type} {f : α → Except ε β} {items : List α} {values : List β} :
    items.mapM f = .ok values ↔ List.Forall₂ (fun item value => f item = .ok value) items values := by
  induction items generalizing values with
  | nil => simp [pure, Except.pure, eq_comm]
  | cons item rest ih =>
    simp only [List.mapM_cons, bind_eq_ok, ih, pure, Except.pure, Except.ok.injEq,
      List.forall₂_cons_left_iff]
    constructor
    · rintro ⟨value, own, values, others, rfl⟩
      exact ⟨value, values, own, others, rfl⟩
    · rintro ⟨value, values, own, others, rfl⟩
      exact ⟨value, own, values, others, rfl⟩

theorem exists_of_mem_mapM {ε α β : Type} {f : α → Except ε β} {items : List α} {values : List β}
    (each : items.mapM f = .ok values) {value : β} (mem : value ∈ values) :
    ∃ item ∈ items, f item = .ok value := by
  obtain ⟨i, bound, rfl⟩ := List.getElem_of_mem mem
  have each := mapM_eq_ok.1 each
  have bound' : i < items.length := each.length_eq ▸ bound
  exact ⟨items[i], List.getElem_mem bound', each.get bound' bound⟩

namespace Materialize

variable {schema : Schema} {entity : String}

theorem find?_taken (name : String) (names : List String)
    (accumulated payload : List (String × Json)) :
    Keyed.find? name (takeAttributes schema entity accumulated payload names).1 =
      if name ∈ names then
        ((Keyed.find? name payload).map (coerce (schema.fieldType entity name))).or
          (Keyed.find? name accumulated)
      else Keyed.find? name accumulated := by
  induction names generalizing accumulated payload with
  | nil => rfl
  | cons field rest ih =>
    rw [takeAttributes]
    cases found : Keyed.find? field payload with
    | none =>
      simp only [ih]
      by_cases same : name = field
      · subst same
        simp [found]
      · simp [same]
    | some value =>
      simp only [ih, Keyed.find?_erase, Keyed.find?_insert]
      by_cases same : name = field
      · subst same
        simp [found]
      · simp [same]

theorem find?_left (name : String) (names : List String)
    (accumulated payload : List (String × Json)) :
    Keyed.find? name (takeAttributes schema entity accumulated payload names).2 =
      if name ∈ names then none else Keyed.find? name payload := by
  induction names generalizing accumulated payload with
  | nil => rfl
  | cons field rest ih =>
    rw [takeAttributes]
    cases found : Keyed.find? field payload with
    | none =>
      simp only [ih]
      by_cases same : name = field
      · subst same
        simp [found]
      · simp [same]
    | some value =>
      simp only [ih, Keyed.find?_erase]
      by_cases same : name = field <;> simp [same]

theorem sorted_taken (names : List String) {accumulated : List (String × Json)}
    (sorted : Keyed.Sorted accumulated) (payload : List (String × Json)) :
    Keyed.Sorted (takeAttributes schema entity accumulated payload names).1 := by
  induction names generalizing accumulated payload with
  | nil => exact sorted
  | cons field rest ih =>
    rw [takeAttributes]
    cases Keyed.find? field payload with
    | none => exact ih sorted payload
    | some value => exact ih (sorted.insert field _) _

theorem coerced_of_mem_taken {names : List String} {payload : List (String × Json)}
    {field : String} {value : Json}
    (mem : (field, value) ∈ (takeAttributes schema entity [] payload names).1) :
    field ∈ names ∧ ∃ given, value = coerce (schema.fieldType entity field) given := by
  have found := Keyed.find?_of_mem (sorted_taken names .nil payload).nodup mem
  rw [find?_taken] at found
  by_cases named : field ∈ names
  · rw [if_pos named, Keyed.find?, Option.or_none, Option.map_eq_some_iff] at found
    obtain ⟨given, -, rfl⟩ := found
    exact ⟨named, given, rfl⟩
  · rw [if_neg named] at found
    cases found

theorem entityOf_eq_ok {filter : Filter} {payload : Json} {read : Entity} :
    entityOf schema entity filter payload = .ok read ↔
      ∃ members names relations, payload = .object members ∧
        schema.fieldNames entity = .ok names ∧
        relationsOf schema entity filter.includes []
          (takeAttributes schema entity [] members (Fields.project filter.fields names)).2 =
            .ok relations ∧
        read =
          { model := entity
            attributes :=
              (takeAttributes schema entity [] members (Fields.project filter.fields names)).1
            relations } := by
  obtain ⟨condition, order, limit, skip, fields, includes⟩ := filter
  cases payload with
  | object members =>
    simp only [entityOf, entityWith, bind_eq_ok, pure, Except.pure, Except.ok.injEq,
      Json.object.injEq]
    constructor
    · rintro ⟨names, listed, relations, others, rfl⟩
      exact ⟨members, names, relations, rfl, listed, others, rfl⟩
    · rintro ⟨_, names, relations, rfl, listed, others, rfl⟩
      exact ⟨names, listed, relations, others, rfl⟩
  | _ => simp [entityOf, entityWith]

inductive Filled (target : Json → Except Error Entity) :
    Multiplicity → Json → Option (Related Entity) → Prop
  | empty : Filled target .many .null (some (.many []))
  | many {items : List Json} {children : List Entity} (read : items.mapM target = .ok children) :
      Filled target .many (.array items) (some (.many children))
  | absent : Filled target .one .null none
  | one {members : List (String × Json)} {child : Entity}
      (read : target (.object members) = .ok child) :
      Filled target .one (.object members) (some (.one child))

theorem filled_iff {name : String} {multiplicity : Multiplicity}
    {target : Json → Except Error Entity} {payload : Json} {related : Option (Related Entity)} :
    Filled target multiplicity payload related ↔
      relatedOf entity name multiplicity target payload = .ok related := by
  constructor
  · rintro (_ | read | _ | read)
    · rfl
    · simp [relatedOf, read, Except.map]
    · rfl
    · simp [relatedOf, read, Except.map]
  · intro read
    cases multiplicity <;> cases payload <;>
      simp only [relatedOf, map_eq_ok, Except.ok.injEq, reduceCtorEq] at read
    case one.null =>
      subst read
      exact .absent
    case one.object =>
      obtain ⟨child, read, rfl⟩ := read
      exact .one read
    case many.null =>
      subst read
      exact .empty
    case many.array =>
      obtain ⟨children, read, rfl⟩ := read
      exact .many read

theorem Filled.array {target : Json → Except Error Entity} {multiplicity : Multiplicity}
    {items : List Json} {related : Option (Related Entity)}
    (filled : Filled target multiplicity (.array items) related) :
    ∃ children, related = some (.many children) ∧
      List.Forall₂ (fun item child => target item = .ok child) items children := by
  cases filled with
  | many read => exact ⟨_, rfl, mapM_eq_ok.1 read⟩

theorem Filled.object {target : Json → Except Error Entity} {multiplicity : Multiplicity}
    {members : List (String × Json)} {related : Option (Related Entity)}
    (filled : Filled target multiplicity (.object members) related) :
    ∃ child, related = some (.one child) ∧ target (.object members) = .ok child := by
  cases filled with
  | one read => exact ⟨_, rfl, read⟩

def relationOf (schema : Schema) (entity : String) (payload : List (String × Json))
    (included : Include Filter) : Except Error (Option (Related Entity)) := do
  let relation ← schema.relation entity included.relation
  let value ← relationPayload included.relation payload
  relatedOf entity included.relation relation.multiplicity
    (entityOf schema relation.target (included.scope.getD {})) value

variable {included : Include Filter} {includes : List (Include Filter)}
  {accumulated relations : List (String × Related Entity)} {payload : List (String × Json)}

theorem relationsOf_eq_ok : relationsOf schema entity (included :: includes) accumulated payload =
      .ok relations ↔
    ∃ related, relationOf schema entity payload included = .ok related ∧
      relationsOf schema entity includes
        (Keyed.insertAll (related.map fun related => (included.relation, related)).toList accumulated)
        (Keyed.erase included.relation payload) = .ok relations := by
  obtain ⟨name, scope⟩ := included
  simp only [relationsOf_cons, relationOf, bind_eq_ok]
  constructor
  · rintro ⟨relation, found, value, given, related, read, others⟩
    exact ⟨related, ⟨relation, found, value, given, read⟩, others⟩
  · rintro ⟨related, ⟨relation, found, value, given, read⟩, others⟩
    exact ⟨relation, found, value, given, related, read, others⟩

theorem relationOf_congr {payload' : List (String × Json)}
    (same : Keyed.find? included.relation payload = Keyed.find? included.relation payload') :
    relationOf schema entity payload included = relationOf schema entity payload' included := by
  simp only [relationOf, relationPayload, same]

theorem find?_insertAll_option (name other : String) (related : Option (Related Entity)) :
    Keyed.find? other
        (Keyed.insertAll (related.map fun related => (name, related)).toList accumulated) =
      if other = name then related.or (Keyed.find? other accumulated)
      else Keyed.find? other accumulated := by
  cases related with
  | none => simp [Keyed.insertAll]
  | some related =>
    by_cases same : other = name <;> simp [Keyed.insertAll, Keyed.find?_insert, same]

theorem sorted_relationsOf
    (read : relationsOf schema entity includes accumulated payload = .ok relations)
    (sorted : Keyed.Sorted accumulated) : Keyed.Sorted relations := by
  induction includes generalizing accumulated payload with
  | nil =>
    cases read
    exact sorted
  | cons included rest ih =>
    obtain ⟨related, -, others⟩ := relationsOf_eq_ok.1 read
    cases related with
    | none => exact ih others sorted
    | some related => exact ih others (sorted.insert _ related)

variable {name : String}

theorem find?_of_not_included (absent : name ∉ includes.map Include.relation)
    (read : relationsOf schema entity includes accumulated payload = .ok relations) :
    Keyed.find? name relations = Keyed.find? name accumulated := by
  induction includes generalizing accumulated payload with
  | nil =>
    cases read
    rfl
  | cons included rest ih =>
    rw [List.map_cons, List.mem_cons, not_or] at absent
    obtain ⟨related, -, others⟩ := relationsOf_eq_ok.1 read
    rw [ih absent.2 others, find?_insertAll_option, if_neg absent.1]

theorem relationOf_without_member {relation : Relation}
    (found : schema.relation entity included.relation = .ok relation)
    (missing : Keyed.find? included.relation payload = none) :
    relationOf schema entity payload included =
      .ok (if relation.multiplicity = .many then some (.many []) else none) := by
  simp only [relationOf, found, bind_ok, relationPayload, missing]
  cases relation.multiplicity <;> rfl

theorem find?_without_member {relation : Relation}
    (found : schema.relation entity name = .ok relation)
    (missing : Keyed.find? name payload = none)
    (read : relationsOf schema entity includes accumulated payload = .ok relations) :
    Keyed.find? name relations =
      if name ∈ includes.map Include.relation ∧ relation.multiplicity = .many then
        some (.many [])
      else Keyed.find? name accumulated := by
  induction includes generalizing accumulated payload with
  | nil =>
    cases read
    simp
  | cons included rest ih =>
    obtain ⟨related, own, others⟩ := relationsOf_eq_ok.1 read
    have missing' : Keyed.find? name (Keyed.erase included.relation payload) = none := by
      simp [Keyed.find?_erase, missing]
    rw [ih missing' others, find?_insertAll_option]
    by_cases same : name = included.relation
    · subst same
      have readNone := (relationOf_without_member found missing).symm.trans own
      cases readNone
      by_cases many : relation.multiplicity = .many <;> simp [many]
    · simp [same]

/-- Of the includes of one name the first reads the member. Of the others, those of a relation to
many entities replace what it read. -/
theorem find?_included {relation : Relation}
    (found : schema.relation entity name = .ok relation)
    (first : includes.find? (fun included => included.relation = name) = some included)
    (read : relationsOf schema entity includes accumulated payload = .ok relations) :
    ∃ related, relationOf schema entity payload included = .ok related ∧
      Keyed.find? name relations =
        if relation.multiplicity = .many ∧ (includes.map Include.relation).count name ≠ 1 then
          some (.many [])
        else related.or (Keyed.find? name accumulated) := by
  induction includes generalizing accumulated payload with
  | nil => cases first
  | cons head rest ih =>
    obtain ⟨related, own, others⟩ := relationsOf_eq_ok.1 read
    by_cases same : head.relation = name
    · subst same
      have headEq : head = included := by simpa using first
      subst headEq
      have erased : Keyed.find? head.relation (Keyed.erase head.relation payload) = none := by
        simp [Keyed.find?_erase]
      refine ⟨related, own, ?_⟩
      rw [find?_without_member found erased others, find?_insertAll_option, if_pos rfl]
      have count : ((head :: rest).map Include.relation).count head.relation ≠ 1 ↔
          head.relation ∈ rest.map Include.relation := by
        rw [List.map_cons, List.count_cons_self, ← List.count_pos_iff]
        omega
      simp only [count, and_comm]
    · have first' : rest.find? (fun included => included.relation = name) = some included := by
        simpa [same] using first
      have named : included.relation = name := by simpa using List.find?_some first'
      obtain ⟨related', own', eq⟩ := ih first' others
      refine ⟨related', ?_, ?_⟩
      · rw [← own']
        apply relationOf_congr
        simp [Keyed.find?_erase, named, Ne.symm same]
      · rw [eq, find?_insertAll_option, if_neg (Ne.symm same), List.map_cons,
          List.count_cons_of_ne same]

theorem relationsOf_succeeds (distinct : (includes.map Include.relation).Nodup) :
    (∃ relations, relationsOf schema entity includes accumulated payload = .ok relations) ↔
      ∀ included ∈ includes,
        ∃ related, relationOf schema entity payload included = .ok related := by
  induction includes generalizing accumulated payload with
  | nil => simp [relationsOf]
  | cons included rest ih =>
    obtain ⟨absent, distinct⟩ := List.nodup_cons.1 distinct
    have apart : ∀ other ∈ rest,
        relationOf schema entity (Keyed.erase included.relation payload) other =
          relationOf schema entity payload other := by
      intro other mem
      have ne : other.relation ≠ included.relation :=
        fun same => absent (same ▸ List.mem_map_of_mem mem)
      apply relationOf_congr
      simp [Keyed.find?_erase, ne]
    simp only [relationsOf_eq_ok, List.forall_mem_cons]
    constructor
    · rintro ⟨relations, related, own, others⟩
      refine ⟨⟨related, own⟩, fun other mem => ?_⟩
      rw [← apart other mem]
      exact (ih distinct).1 ⟨relations, others⟩ other mem
    · rintro ⟨⟨related, own⟩, others⟩
      obtain ⟨relations, read⟩ := (ih distinct).2 fun other mem => apart other mem ▸ others other mem
      exact ⟨relations, related, own, read⟩

end Materialize

end NestedQuery
