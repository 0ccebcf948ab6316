import NestedQuery.Json.Writer
import NestedQuery.Proofs.Shapes

set_option autoImplicit false

namespace NestedQuery

namespace Keyed

variable {α : Type}

def lastValues : List (String × α) → List (String × α)
  | [] => []
  | (name, value) :: rest =>
    (name, (find? name rest.reverse).getD value) :: erase name (lastValues rest)

theorem find?_append (name : String) (entries others : List (String × α)) :
    find? name (entries ++ others) = (find? name entries).or (find? name others) := by
  induction entries with
  | nil => rfl
  | cons entry rest ih =>
    by_cases same : entry.1 = name <;> simp [find?, same, ih]

theorem erase_cons_self (name : String) (value : α) (entries : List (String × α)) :
    erase name ((name, value) :: entries) = erase name entries := by
  simp [erase]

theorem erase_cons_of_ne {name other : String} (ne : other ≠ name) (value : α)
    (entries : List (String × α)) :
    erase name ((other, value) :: entries) = (other, value) :: erase name entries := by
  simp [erase, ne]

theorem erase_put (name other : String) (value : α) (entries : List (String × α)) :
    erase name (put other value entries) =
      if other = name then erase name entries else put other value (erase name entries) := by
  induction entries with
  | nil => by_cases same : other = name <;> simp [erase, put, same]
  | cons entry rest ih =>
    obtain ⟨first, old⟩ := entry
    by_cases found : first = other
    · subst found
      by_cases same : first = name
      · simp [put, same, erase_cons_self]
      · simp [put, same, erase_cons_of_ne]
    · by_cases same : first = name
      · subst same
        simpa [put, found, Ne.symm found, erase_cons_self] using ih
      · by_cases taken : other = name
        · simpa [put, found, same, taken, erase_cons_of_ne] using ih
        · simpa [put, found, same, taken, erase_cons_of_ne] using ih

end Keyed

namespace Entity

open Keyed

theorem putAll_put (members : List (String × Json)) (name : String) (value : Json)
    (additions : List (String × Json)) :
    putAll members ((name, value) :: additions) = putAll (put name value members) additions := rfl

theorem putAll_cons (name : String) (value : Json) (members additions : List (String × Json)) :
    putAll ((name, value) :: members) additions =
      (name, (find? name additions.reverse).getD value) ::
        putAll members (erase name additions) := by
  induction additions generalizing value members with
  | nil => rfl
  | cons addition rest ih =>
    obtain ⟨other, new⟩ := addition
    rw [putAll_put, List.reverse_cons, find?_append]
    by_cases same : name = other
    · subst same
      have replaced : put name new ((name, value) :: members) = (name, new) :: members := by
        simp [put]
      rw [replaced, ih, erase_cons_self]
      cases find? name rest.reverse <;> simp [find?]
    · have kept : put other new ((name, value) :: members) =
          (name, value) :: put other new members := by
        simp [put, same]
      rw [kept, ih, erase_cons_of_ne (Ne.symm same), putAll_put]
      simp [find?, Ne.symm same]

theorem erase_putAll (name : String) (members additions : List (String × Json)) :
    erase name (putAll members additions) =
      putAll (erase name members) (erase name additions) := by
  induction additions generalizing members with
  | nil => rfl
  | cons addition rest ih =>
    obtain ⟨other, value⟩ := addition
    rw [putAll_put, ih, erase_put]
    by_cases same : other = name
    · subst same
      rw [if_pos rfl, erase_cons_self]
    · rw [if_neg same, erase_cons_of_ne same, putAll_put]

theorem putAll_apart {members additions : List (String × Json)}
    (distinct : ((members ++ additions).map Prod.fst).Nodup) :
    putAll members additions = members ++ additions := by
  induction additions generalizing members with
  | nil => exact (List.append_nil members).symm
  | cons addition rest ih =>
    obtain ⟨name, value⟩ := addition
    rw [putAll_put, put_of_notMem (notMem_of_nodup distinct), ih (by simpa using distinct)]
    simp

theorem lastValues_eq_putAll (entries : List (String × Json)) :
    lastValues entries = putAll [] entries := by
  induction entries with
  | nil => rfl
  | cons entry rest ih =>
    obtain ⟨name, value⟩ := entry
    have single : putAll [] ((name, value) :: rest) = putAll [(name, value)] rest := rfl
    rw [lastValues, ih, erase_putAll, single, putAll_cons]
    rfl

theorem lastValues_of_nodup {entries : List (String × Json)}
    (distinct : (entries.map Prod.fst).Nodup) : lastValues entries = entries := by
  rw [lastValues_eq_putAll, putAll_apart (by simpa using distinct), List.nil_append]

theorem lastValues_append {members : List (String × Json)}
    (distinct : (members.map Prod.fst).Nodup) (additions : List (String × Json)) :
    lastValues (members ++ additions) = putAll members additions := by
  have single : putAll [] members = members := by
    rw [← lastValues_eq_putAll, lastValues_of_nodup distinct]
  rw [lastValues_eq_putAll, putAll, List.foldl_append]
  exact congrArg (putAll · additions) single

end Entity

namespace Json

mutual

def settled : Json → Json
  | .array items => .array (settledItems items)
  | .object members => .object (Keyed.lastValues (settledMembers members))
  | value => value

def settledItems : List Json → List Json
  | [] => []
  | item :: rest => settled item :: settledItems rest

def settledMembers : List (String × Json) → List (String × Json)
  | [] => []
  | (name, value) :: rest => (name, settled value) :: settledMembers rest

end

theorem settledItems_eq_map (items : List Json) : settledItems items = items.map settled := by
  induction items with
  | nil => rfl
  | cons item rest ih => rw [settledItems, ih, List.map_cons]

theorem settledMembers_append (members others : List (String × Json)) :
    settledMembers (members ++ others) = settledMembers members ++ settledMembers others := by
  induction members with
  | nil => rfl
  | cons member rest ih =>
    rw [List.cons_append, settledMembers, ih, settledMembers, List.cons_append]

mutual

theorem settled_of_distinct (value : Json) (distinct : value.Distinct) : value.settled = value := by
  cases value with
  | array items =>
    rw [Distinct] at distinct
    rw [settled, settledItems_of_distinct items distinct]
  | object members =>
    rw [Distinct] at distinct
    rw [settled, settledMembers_of_distinct members distinct.2,
      Entity.lastValues_of_nodup distinct.1]
  | _ => rw [settled] <;> simp

theorem settledItems_of_distinct (items : List Json) (distinct : DistinctItems items) :
    settledItems items = items := by
  cases items with
  | nil => rfl
  | cons item rest =>
    rw [DistinctItems] at distinct
    rw [settledItems, settled_of_distinct item distinct.1,
      settledItems_of_distinct rest distinct.2]

theorem settledMembers_of_distinct (members : List (String × Json))
    (distinct : DistinctMembers members) : settledMembers members = members := by
  cases members with
  | nil => rfl
  | cons member rest =>
    obtain ⟨name, value⟩ := member
    rw [DistinctMembers] at distinct
    rw [settledMembers, settled_of_distinct value distinct.1,
      settledMembers_of_distinct rest distinct.2]

end

end Json

namespace Entity

inductive Distinct : Entity → Prop
  | level {e : Entity} (attributes : (Json.object e.attributes).Distinct)
      (relations : (e.relations.map Prod.fst).Nodup)
      (below : ∀ name related, (name, related) ∈ e.relations →
        ∀ child ∈ related.entities, Distinct child) : Distinct e

def Apart (e : Entity) : Prop :=
  ∀ name ∈ e.relations.map Prod.fst, name ∉ e.attributes.map Prod.fst

def ApartThroughout (e : Entity) : Prop :=
  ∀ names below, e.Reaches names below → below.Apart

theorem Distinct.at {e below : Entity} {names : List String} (distinct : e.Distinct)
    (reaches : e.Reaches names below) : below.Distinct := by
  induction reaches with
  | self => exact distinct
  | through held mem _ ih =>
    cases distinct with
    | level attributes relations children => exact ih (children _ _ held _ mem)

theorem ApartThroughout.child {e child : Entity} {name : String} {related : Related Entity}
    (apart : e.ApartThroughout) (held : (name, related) ∈ e.relations)
    (mem : child ∈ related.entities) : child.ApartThroughout :=
  fun names below reaches => apart (name :: names) below (.through held mem reaches)

def relatedMembers : Related Entity → Json
  | .one e => .object e.members
  | .many entities => .array (entities.map fun e => .object e.members)

theorem allMembers_eq_map (entities : List Entity) :
    allMembers entities = entities.map fun e => .object e.members := by
  induction entities with
  | nil => rfl
  | cons e rest ih => rw [allMembers, ih, List.map_cons]

theorem relationMembers_eq_map (relations : List (String × Related Entity)) :
    relationMembers relations =
      relations.map fun relation => (relation.1, relatedMembers relation.2) := by
  induction relations with
  | nil => rfl
  | cons relation rest ih =>
    obtain ⟨name, related⟩ := relation
    cases related <;> simp [relationMembers, ih, relatedMembers, allMembers_eq_map]

theorem members_eq (e : Entity) :
    e.members = e.attributes ++
      e.relations.map fun relation => (relation.1, relatedMembers relation.2) := by
  obtain ⟨model, attributes, relations⟩ := e
  rw [members, relationMembers_eq_map]

theorem toJson_eq (e : Entity) :
    e.toJson = .object (putAll e.attributes
      (e.relations.map fun relation => (relation.1, relatedToJson relation.2))) := by
  obtain ⟨model, attributes, relations⟩ := e
  rw [toJson, relationsToJson_eq_map]

theorem toJson_apart {e : Entity} (distinct : e.Distinct) (apart : e.Apart) :
    e.toJson = .object (e.attributes ++
      e.relations.map fun relation => (relation.1, relatedToJson relation.2)) := by
  cases distinct with
  | level attributes relations below =>
    rw [Json.Distinct] at attributes
    rw [toJson_eq, putAll_apart]
    rw [List.map_append, List.map_map, List.nodup_append]
    refine ⟨attributes.1, relations, fun name mem other mem' same => ?_⟩
    exact apart other mem' (same ▸ mem)

theorem settled_relatedMembers {related : Related Entity}
    (each : ∀ child ∈ related.entities, (Json.object child.members).settled = child.toJson) :
    (relatedMembers related).settled = relatedToJson related := by
  cases related with
  | one child => exact each child List.mem_cons_self
  | many children =>
    rw [relatedMembers, Json.settled, Json.settledItems_eq_map, List.map_map, relatedToJson]
    exact congrArg _ (List.map_congr_left each)

theorem settledMembers_relations {relations : List (String × Related Entity)}
    (each : ∀ name related, (name, related) ∈ relations →
      (relatedMembers related).settled = relatedToJson related) :
    Json.settledMembers (relations.map fun relation => (relation.1, relatedMembers relation.2)) =
      relations.map fun relation => (relation.1, relatedToJson relation.2) := by
  induction relations with
  | nil => rfl
  | cons relation rest ih =>
    obtain ⟨name, related⟩ := relation
    rw [List.map_cons, Json.settledMembers, each name related List.mem_cons_self,
      ih fun name related mem => each name related (List.mem_cons_of_mem _ mem), List.map_cons]

theorem settled_members {e : Entity} (distinct : e.Distinct) :
    (Json.object e.members).settled = e.toJson := by
  induction distinct with
  | @level e attributes relations below ih =>
    have own := attributes
    rw [Json.Distinct] at own
    have each (name : String) (related : Related Entity) (held : (name, related) ∈ e.relations) :
        (relatedMembers related).settled = relatedToJson related :=
      settled_relatedMembers (ih name related held)
    rw [members_eq, Json.settled, Json.settledMembers_append, settledMembers_relations each,
      Json.settledMembers_of_distinct _ own.2, lastValues_append own.1, toJson_eq]

theorem relatedMembers_eq {related : Related Entity}
    (each : ∀ child ∈ related.entities, Json.object child.members = child.toJson) :
    relatedMembers related = relatedToJson related := by
  cases related with
  | one child => exact each child List.mem_cons_self
  | many children => exact congrArg _ (List.map_congr_left each)

theorem members_eq_toJson {e : Entity} (distinct : e.Distinct) (apart : e.ApartThroughout) :
    Json.object e.members = e.toJson := by
  induction distinct with
  | @level e attributes relations below ih =>
    rw [toJson_apart (.level attributes relations below) (apart [] e .self), members_eq]
    refine congrArg (fun relations => Json.object (e.attributes ++ relations))
      (List.map_congr_left fun relation held => ?_)
    rw [relatedMembers_eq fun child mem =>
      ih relation.1 relation.2 held child mem (apart.child held mem)]

/-- The sequence of all members, read with the last value of each name where the name first stands,
is the one object. At a level where no relation has the name of an attribute, both have the same
members in the same order, and their texts differ at most in relations below which some relation
has the name of an attribute. -/
theorem views_agree {e : Entity} (distinct : e.Distinct) :
    (Json.object e.members).settled = e.toJson ∧
    ∀ names below, e.Reaches names below →
      (below.Apart → ∃ members, below.toJson = .object members ∧
        List.Forall₂ (fun written viewed => written.1 = viewed.1 ∧
            ((∀ related, below.related? written.1 = some related →
              ∀ child ∈ related.entities, child.ApartThroughout) →
                written.2.write = viewed.2.write))
          below.members members) ∧
      (below.ApartThroughout → (Json.object below.members).write = below.toJson.write) := by
  refine ⟨settled_members distinct, fun names below reaches => ⟨fun apart => ?_, fun apart => ?_⟩⟩
  · refine ⟨_, toJson_apart (distinct.at reaches) apart, ?_⟩
    rw [members_eq]
    refine List.rel_append (List.forall₂_same.2 fun member _ => ⟨rfl, fun _ => rfl⟩) ?_
    rw [List.forall₂_map_left_iff, List.forall₂_map_right_iff, List.forall₂_same]
    rintro ⟨name, related⟩ held
    refine ⟨rfl, fun apart => congrArg Json.write (relatedMembers_eq fun child mem => ?_)⟩
    cases distinct.at reaches with
    | level attributes relations children =>
      have found : below.related? name = some related := Keyed.find?_of_mem relations held
      exact members_eq_toJson (children name related held child mem) (apart related found child mem)
  · exact congrArg Json.write (members_eq_toJson (distinct.at reaches) apart)

end Entity

def Sample.order : Entity where
  model := "Order"
  attributes := [("day", .string "1"), ("items", .number (.int 5))]
  relations := [("items", .many [])]

def Sample.buyer : Entity where
  model := "Customer"
  attributes := [("name", .string "Ann")]
  relations := [("orders", .many [Sample.order])]

theorem Sample.distinct_buyer : Sample.buyer.Distinct := by
  have order : Sample.order.Distinct := by
    refine .level ?_ (by simp [Sample.order]) ?_
    · simp [Sample.order, Json.Distinct, Json.DistinctMembers]
    · simp [Sample.order, Related.entities]
  refine .level ?_ (by simp [Sample.buyer]) ?_
  · simp [Sample.buyer, Json.Distinct, Json.DistinctMembers]
  · simpa [Sample.buyer, Related.entities] using order

theorem Sample.apart_buyer : Sample.buyer.Apart := by
  simp [Sample.buyer, Entity.Apart]

theorem Entity.views_agree_buyer :
    Sample.buyer.Distinct ∧
      (Json.object Sample.buyer.members).settled = Sample.buyer.toJson ∧
      ∃ members, Sample.buyer.toJson = .object members ∧
        List.Forall₂ (fun written viewed => written.1 = viewed.1) Sample.buyer.members members := by
  obtain ⟨settled, levels⟩ := Entity.views_agree Sample.distinct_buyer
  obtain ⟨members, object, alike⟩ := (levels [] Sample.buyer .self).1 Sample.apart_buyer
  exact ⟨Sample.distinct_buyer, settled, members, object, alike.imp fun _ _ same => same.1⟩

theorem Entity.views_differ :
    ∃ written viewed : Json, Sample.buyer.Apart ∧
      Sample.buyer.members = [("name", .string "Ann"), ("orders", written)] ∧
      Sample.buyer.toJson = .object [("name", .string "Ann"), ("orders", viewed)] ∧
      written.write ≠ viewed.write := by
  refine ⟨_, _, Sample.apart_buyer, rfl, rfl, ?_⟩
  decide

end NestedQuery
