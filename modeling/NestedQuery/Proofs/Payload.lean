import NestedQuery.Proofs.Reading

set_option autoImplicit false

namespace NestedQuery

namespace Keyed

variable {α : Type}

def insertAll (entries accumulated : List (String × α)) : List (String × α) :=
  entries.foldl (fun accumulated entry => insert entry.1 entry.2 accumulated) accumulated

theorem erase_of_notMem {name : String} {entries : List (String × α)}
    (absent : name ∉ entries.map Prod.fst) : erase name entries = entries := by
  unfold erase
  rw [List.filter_eq_self]
  intro entry mem
  simp only [ne_eq, decide_not, Bool.not_eq_true', decide_eq_false_iff_not]
  rintro rfl
  exact absent (List.mem_map_of_mem mem)

theorem erase_cons {name : String} {value : α} {entries : List (String × α)}
    (absent : name ∉ entries.map Prod.fst) : erase name ((name, value) :: entries) = entries := by
  rw [← erase_of_notMem absent]
  simp [erase]

@[simp] theorem find?_cons_self (name : String) (value : α) (entries : List (String × α)) :
    find? name ((name, value) :: entries) = some value := by
  simp [find?]

end Keyed

theorem Catalog.entries_ofList {α : Type} (pairs : List (String × α)) :
    (Catalog.ofList pairs).entries = Keyed.insertAll pairs [] := by
  have general (catalog : Catalog α) :
      (pairs.foldl (fun catalog pair => catalog.insert pair.1 pair.2) catalog).entries =
        Keyed.insertAll pairs catalog.entries := by
    induction pairs generalizing catalog with
    | nil => rfl
    | cons pair rest ih => exact ih (catalog.insert pair.1 pair.2)
  exact general .empty

namespace Materialize

variable {schema : Schema} {entity : String}

theorem takeAttributes_eq (value : String → Json) (names : List String)
    (accumulated others : List (String × Json))
    (distinct : (names ++ others.map Prod.fst).Nodup) :
    takeAttributes schema entity accumulated
        (names.map (fun name => (name, value name)) ++ others) names =
      (Keyed.insertAll (names.map fun name =>
        (name, coerce (schema.fieldType entity name) (value name))) accumulated, others) := by
  induction names generalizing accumulated with
  | nil => rfl
  | cons name rest ih =>
    obtain ⟨absent, distinct⟩ := List.nodup_cons.1 distinct
    have absent' : name ∉ (rest.map (fun name => (name, value name)) ++ others).map Prod.fst := by
      simpa [Function.comp_def] using absent
    rw [List.map_cons, List.cons_append, takeAttributes, Keyed.find?_cons_self]
    simp only
    rw [Keyed.erase_cons absent', ih _ distinct]
    rfl

theorem entityOf_empty (target : String) :
    entityOf schema target {} = entityWith schema target none (fun _ => .ok []) := by
  rw [entityOf]
  rfl

theorem relationsOf_cons (name : String) (scope : Option Filter) (rest : List (Include Filter))
    (accumulated : List (String × Related Entity)) (payload : List (String × Json)) :
    relationsOf schema entity (⟨name, scope⟩ :: rest) accumulated payload =
      (do
        let relation ← schema.relation entity name
        let value ← relationPayload name payload
        let related ← relatedOf entity name relation.multiplicity
          (entityOf schema relation.target (scope.getD {})) value
        relationsOf schema entity rest
          (Keyed.insertAll (related.map fun related => (name, related)).toList accumulated)
          (Keyed.erase name payload)) := by
  have inserted (related : Option (Related Entity)) :
      Keyed.insertAll (related.map fun related => (name, related)).toList accumulated =
        related.elim accumulated fun related => Keyed.insert name related accumulated := by
    cases related <;> rfl
  rw [relationsOf.eq_def]
  cases scope with
  | none => simp only [Option.getD_none, entityOf_empty, inserted]
  | some scope => simp only [Option.getD_some, inserted]

def Holds (schema : Schema) (entity : String) (includes : List (Include Filter))
    (members : List (String × Json)) (relations : List (String × Related Entity)) : Prop :=
  members.map Prod.fst = includes.map Include.relation ∧
    ∀ accumulated, relationsOf schema entity includes accumulated members =
      .ok (Keyed.insertAll relations accumulated)

theorem Holds.nil : Holds schema entity [] [] [] := ⟨rfl, fun _ => rfl⟩

theorem relationPayload_cons {name : String} {value : Json} (plain : ∀ text, value ≠ .string text)
    (rest : List (String × Json)) : relationPayload name ((name, value) :: rest) = .ok value := by
  unfold relationPayload
  rw [Keyed.find?_cons_self]
  split
  next same => exact absurd (Option.some.inj same) (plain _)
  next same => rw [Option.some.inj same]
  next same => cases same

theorem insertAll_append {α : Type} (first second accumulated : List (String × α)) :
    Keyed.insertAll (first ++ second) accumulated =
      Keyed.insertAll second (Keyed.insertAll first accumulated) :=
  List.foldl_append

theorem Holds.cons {name : String} {scope : Option Filter} {rest : List (Include Filter)}
    {relation : Relation} {value : Json} {members : List (String × Json)}
    {related : Option (Related Entity)} {relations : List (String × Related Entity)}
    (found : schema.relation entity name = .ok relation) (plain : ∀ text, value ≠ .string text)
    (read : relatedOf entity name relation.multiplicity
      (entityOf schema relation.target (scope.getD {})) value = .ok related)
    (others : Holds schema entity rest members relations)
    (fresh : name ∉ rest.map Include.relation) :
    Holds schema entity (⟨name, scope⟩ :: rest) ((name, value) :: members)
      ((related.map fun related => (name, related)).toList ++ relations) := by
  obtain ⟨names, reads⟩ := others
  refine ⟨by rw [List.map_cons, List.map_cons, names], fun accumulated => ?_⟩
  rw [relationsOf_cons, found, bind_ok, relationPayload_cons plain, bind_ok, read, bind_ok,
    Keyed.erase_cons (names ▸ fresh), reads, insertAll_append]

theorem entityOf_object {filter : Filter} {record : Record} {members : List (String × Json)}
    {relations : List (String × Related Entity)} {names : List String}
    (listed : schema.fieldNames entity = .ok names)
    (holds : Holds schema entity filter.includes members relations)
    (distinct : (Fields.project filter.fields names ++
      filter.includes.map Include.relation).Nodup) :
    entityOf schema entity filter
        (.object ((Fields.project filter.fields names).map
          (fun field => (field, record (schema.columnName entity field))) ++ members)) =
      .ok (entityRead schema entity filter.fields record relations) := by
  obtain ⟨condition, order, limit, skip, fields, includes⟩ := filter
  obtain ⟨named, reads⟩ := holds
  rw [← named] at distinct
  have taken : takeAttributes schema entity []
        ((Fields.project fields names).map
          (fun field => (field, record (schema.columnName entity field))) ++ members)
        (Fields.project fields names) =
      (Keyed.insertAll ((Fields.project fields names).map fun field =>
        (field, coerce (schema.fieldType entity field)
          (record (schema.columnName entity field)))) [], members) :=
    takeAttributes_eq _ _ _ _ distinct
  simp only [entityOf, entityWith, listed, bind_ok, taken, reads]
  simp only [entityRead, Schema.fieldsOf_eq listed, Catalog.entries_ofList]
  rfl

end Materialize

end NestedQuery
