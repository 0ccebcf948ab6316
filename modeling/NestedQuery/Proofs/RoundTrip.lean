import NestedQuery.Proofs.JsonText
import NestedQuery.Proofs.Kept

set_option autoImplicit false

namespace NestedQuery

inductive Filter.WellNamed (schema : Schema) : String → Filter → Prop
  | level {entity : String} {filter : Filter} {names : List String}
      (listed : schema.fieldNames entity = .ok names)
      (distinct : (filter.includes.map Include.relation).Nodup)
      (apart : ∀ name ∈ filter.includes.map Include.relation,
        name ∉ Fields.project filter.fields names)
      (known : ∀ included ∈ filter.includes,
        ∃ relation, schema.relation entity included.relation = .ok relation)
      (scopes : ∀ included ∈ filter.includes, ∀ relation,
        schema.relation entity included.relation = .ok relation →
          WellNamed schema relation.target (included.scope.getD {})) :
      WellNamed schema entity filter

theorem Filter.WellNamed.of_no_includes {schema : Schema} {entity : String} {filter : Filter}
    {names : List String} (listed : schema.fieldNames entity = .ok names)
    (plain : filter.includes = []) : filter.WellNamed schema entity := by
  apply Filter.WellNamed.level listed <;> simp [plain]

def Related.entities : Related Entity → List Entity
  | .one entity => [entity]
  | .many entities => entities

def Multiplicity.Fits : Multiplicity → Option (Related Entity) → Prop
  | .many, some (.many _) => True
  | .one, none => True
  | .one, some (.one _) => True
  | _, _ => False

def FieldType.Settled (type : FieldType) (value : Json) : Prop :=
  type = .boolean → value ≠ .number (.int 0) ∧ value ≠ .number (.int 1)

structure Entity.Shaped (schema : Schema) (entity : String) (filter : Filter) (e : Entity) : Prop
    where
  model : e.model = entity
  attributesSorted : Keyed.Sorted e.attributes
  relationsSorted : Keyed.Sorted e.relations
  projected : ∀ field ∈ e.attributes.map Prod.fst,
    field ∈ Fields.project filter.fields (schema.fieldsOf entity)
  settled : ∀ field value, (field, value) ∈ e.attributes →
    (schema.fieldType entity field).Settled value
  included : ∀ name ∈ e.relations.map Prod.fst, name ∈ filter.includes.map Include.relation
  fits : ∀ included ∈ filter.includes, ∀ relation,
    schema.relation entity included.relation = .ok relation →
      relation.multiplicity.Fits (e.related? included.relation)

inductive Entity.Conforms (schema : Schema) : String → Filter → Entity → Prop
  | level {entity : String} {filter : Filter} {e : Entity}
      (shaped : e.Shaped schema entity filter)
      (below : ∀ included ∈ filter.includes, ∀ relation related child,
        schema.relation entity included.relation = .ok relation →
          e.related? included.relation = some related → child ∈ related.entities →
            Conforms schema relation.target (included.scope.getD {}) child) :
      Conforms schema entity filter e

theorem coerce_boolean (n : Int64) : Materialize.coerce .boolean (.number (.int n)) =
    if n = 0 then .bool false else if n = 1 then .bool true else .number (.int n) := rfl

theorem coerce_other {type : FieldType} {value : Json}
    (other : ∀ n, type = .boolean → value ≠ .number (.int n)) :
    Materialize.coerce type value = value := by
  unfold Materialize.coerce
  split
  · exact absurd rfl (other _ rfl)
  · rfl

theorem coerce_settled (type : FieldType) (value : Json) :
    type.Settled (Materialize.coerce type value) := by
  intro boolean
  subst boolean
  by_cases whole : ∃ n, value = .number (.int n)
  · obtain ⟨n, rfl⟩ := whole
    rw [coerce_boolean]
    by_cases zero : n = 0
    · simp [zero]
    · by_cases one : n = 1
      · simp [one]
      · simp [zero, one]
  · rw [coerce_other fun n _ same => whole ⟨n, same⟩]
    exact ⟨fun same => whole ⟨0, same⟩, fun same => whole ⟨1, same⟩⟩

theorem coerce_eq_self {type : FieldType} {value : Json} (settled : type.Settled value) :
    Materialize.coerce type value = value := by
  by_cases whole : ∃ n, type = .boolean ∧ value = .number (.int n)
  · obtain ⟨n, rfl, rfl⟩ := whole
    obtain ⟨zero, one⟩ := settled rfl
    simp only [ne_eq, Json.number.injEq, Json.Number.int.injEq] at zero one
    rw [coerce_boolean, if_neg zero, if_neg one]
  · exact coerce_other fun n boolean same => whole ⟨n, boolean, same⟩

namespace Entity

def relatedToJson : Related Entity → Json
  | .one e => e.toJson
  | .many entities => .array (entities.map toJson)

theorem allToJson_eq_map (entities : List Entity) : allToJson entities = entities.map toJson := by
  induction entities with
  | nil => rfl
  | cons e rest ih => rw [allToJson, ih, List.map_cons]

theorem relationsToJson_eq_map (relations : List (String × Related Entity)) :
    relationsToJson relations =
      relations.map fun relation => (relation.1, relatedToJson relation.2) := by
  induction relations with
  | nil => rfl
  | cons relation rest ih =>
    obtain ⟨name, related⟩ := relation
    cases related <;> simp [relationsToJson, ih, relatedToJson, allToJson_eq_map]

theorem find?_putAll (name : String) {additions : List (String × Json)}
    (distinct : (additions.map Prod.fst).Nodup) (members : List (String × Json)) :
    Keyed.find? name (putAll members additions) =
      (Keyed.find? name additions).or (Keyed.find? name members) := by
  induction additions generalizing members with
  | nil => rfl
  | cons addition rest ih =>
    obtain ⟨other, value⟩ := addition
    obtain ⟨absent, distinct⟩ := List.nodup_cons.1 distinct
    have step : putAll members ((other, value) :: rest) =
        putAll (Keyed.put other value members) rest := rfl
    rw [step, ih distinct, Keyed.find?_put]
    by_cases same : name = other
    · subst same
      simp [Keyed.find?, Keyed.find?_eq_none.2 absent]
    · simp [Keyed.find?, same, Ne.symm same]

theorem toJson_object (e : Entity) : ∃ members, e.toJson = .object members := by
  cases e
  exact ⟨_, by rw [toJson]⟩

theorem toJson_members {e : Entity} (sorted : Keyed.Sorted e.relations) :
    ∃ members, e.toJson = .object members ∧ ∀ name, Keyed.find? name members =
      ((e.related? name).map relatedToJson).or (e.get? name) := by
  obtain ⟨model, attributes, relations⟩ := e
  refine ⟨putAll attributes (relationsToJson relations), by rw [toJson], fun name => ?_⟩
  rw [relationsToJson_eq_map, find?_putAll, Keyed.find?_mapValues]
  · rfl
  · rw [List.map_map]
    exact sorted.nodup

end Entity

namespace Materialize

variable {schema : Schema} {entity : String} {filter : Filter}

theorem find?_first {includes : List (Include Filter)} {included : Include Filter}
    (distinct : (includes.map Include.relation).Nodup) (mem : included ∈ includes) :
    includes.find? (fun other => other.relation = included.relation) = some included := by
  induction includes with
  | nil => cases mem
  | cons first rest ih =>
    obtain ⟨absent, distinct⟩ := List.nodup_cons.1 distinct
    rcases List.mem_cons.1 mem with rfl | mem
    · simp
    · have apart : first.relation ≠ included.relation :=
        fun same => absent (same ▸ List.mem_map_of_mem mem)
      rw [List.find?_cons_of_neg (by simpa using apart)]
      exact ih distinct mem

theorem relationOf_distinct {includes : List (Include Filter)} {included : Include Filter}
    {payload : List (String × Json)} {relations : List (String × Related Entity)}
    {relation : Relation} (found : schema.relation entity included.relation = .ok relation)
    (distinct : (includes.map Include.relation).Nodup) (mem : included ∈ includes)
    (read : relationsOf schema entity includes [] payload = .ok relations) :
    relationOf schema entity payload included =
      .ok (Keyed.find? included.relation relations) := by
  obtain ⟨related, own, there⟩ := find?_included found (find?_first distinct mem) read
  have once : (includes.map Include.relation).count included.relation = 1 :=
    List.count_eq_one_of_mem distinct (List.mem_map_of_mem mem)
  rw [own, there, if_neg (by simp [once]), Keyed.find?, Option.or_none]

theorem relationPayload_toJson {name : String} {payload : List (String × Json)}
    {related : Option (Related Entity)}
    (held : Keyed.find? name payload = related.map Entity.relatedToJson) :
    relationPayload name payload = .ok ((related.map Entity.relatedToJson).getD .null) := by
  rw [relationPayload, held]
  rcases related with _ | child | children
  · rfl
  · obtain ⟨members, object⟩ := child.toJson_object
    simp [Entity.relatedToJson, object]
  · rfl

theorem filled_toJson {target : Json → Except Error Entity} {multiplicity : Multiplicity}
    {related : Option (Related Entity)} (fits : multiplicity.Fits related)
    (each : ∀ held, related = some held → ∀ child ∈ held.entities,
      target child.toJson = .ok child) :
    Filled target multiplicity ((related.map Entity.relatedToJson).getD .null) related := by
  rcases related with _ | child | children <;> cases multiplicity
  case none.one => exact .absent
  case none.many => exact fits.elim
  case some.one.one =>
    obtain ⟨members, object⟩ := child.toJson_object
    have read := each _ rfl child (List.mem_singleton.2 rfl)
    rw [object] at read
    simpa [Entity.relatedToJson, object] using Filled.one read
  case some.one.many => exact fits.elim
  case some.many.one => exact fits.elim
  case some.many.many =>
    apply Filled.many
    rw [mapM_eq_ok, List.forall₂_map_left_iff, List.forall₂_same]
    exact each _ rfl

theorem attributes_toJson {e : Entity} (shaped : e.Shaped schema entity filter)
    (apart : ∀ name ∈ filter.includes.map Include.relation,
      name ∉ Fields.project filter.fields (schema.fieldsOf entity))
    {members : List (String × Json)}
    (membersEq : ∀ name, Keyed.find? name members =
      ((e.related? name).map Entity.relatedToJson).or (e.get? name)) :
    (takeAttributes schema entity [] members
      (Fields.project filter.fields (schema.fieldsOf entity))).1 = e.attributes := by
  apply Keyed.Sorted.ext (sorted_taken _ .nil _) shaped.attributesSorted
  intro name
  rw [find?_taken]
  by_cases projected : name ∈ Fields.project filter.fields (schema.fieldsOf entity)
  · have noRelation : e.related? name = none :=
      Keyed.find?_eq_none.2 fun mem => apart name (shaped.included name mem) projected
    rw [if_pos projected, membersEq, noRelation, Option.map_none, Option.none_or, Keyed.find?,
      Option.or_none, Entity.get?]
    cases found : Keyed.find? name e.attributes with
    | none => rfl
    | some value =>
      rw [Option.map_some, coerce_eq_self (shaped.settled name value (Keyed.mem_of_find? found))]
  · rw [if_neg projected, Keyed.find?, eq_comm, Keyed.find?_eq_none]
    exact fun mem => projected (shaped.projected name mem)

theorem entityOf_toJson {e : Entity} (conforms : e.Conforms schema entity filter)
    (named : filter.WellNamed schema entity) :
    entityOf schema entity filter e.toJson = .ok e := by
  induction conforms with
  | @level entity filter e shaped below ih =>
    cases named with
    | @level _ _ names listed distinct apart known scopes =>
      have fields := Schema.fieldsOf_eq listed
      subst fields
      obtain ⟨members, same, membersEq⟩ := Entity.toJson_members shaped.relationsSorted
      let left := (takeAttributes schema entity [] members
        (Fields.project filter.fields (schema.fieldsOf entity))).2
      have each : ∀ included ∈ filter.includes,
          relationOf schema entity left included = .ok (e.related? included.relation) := by
        intro included mem
        obtain ⟨relation, found⟩ := known included mem
        have unprojected := apart included.relation (List.mem_map_of_mem mem)
        have noAttribute : e.get? included.relation = none :=
          Keyed.find?_eq_none.2 fun mem => unprojected (shaped.projected _ mem)
        have held : Keyed.find? included.relation left =
            (e.related? included.relation).map Entity.relatedToJson := by
          rw [find?_left, if_neg unprojected, membersEq, noAttribute, Option.or_none]
        simp only [relationOf, found, relationPayload_toJson held, bind_ok]
        apply filled_iff.1
        apply filled_toJson (shaped.fits included mem relation found)
        intro related holds child there
        exact ih included mem relation related child found holds there
          (scopes included mem relation found)
      obtain ⟨relations, read⟩ : ∃ relations,
          relationsOf schema entity filter.includes [] left = .ok relations :=
        (relationsOf_succeeds distinct).2 fun included mem => ⟨_, each included mem⟩
      have relationsEq : relations = e.relations := by
        apply Keyed.Sorted.ext (sorted_relationsOf read .nil) shaped.relationsSorted
        intro name
        by_cases there : name ∈ filter.includes.map Include.relation
        · obtain ⟨included, mem, rfl⟩ := List.mem_map.1 there
          obtain ⟨relation, found⟩ := known included mem
          have own := relationOf_distinct found distinct mem read
          exact Except.ok.inj (own.symm.trans (each included mem))
        · rw [find?_of_not_included there read, Keyed.find?, eq_comm, Keyed.find?_eq_none]
          exact fun mem => there (shaped.included name mem)
      refine entityOf_eq_ok.2 ⟨members, _, relations, same, listed, read, ?_⟩
      rw [attributes_toJson shaped apart membersEq, relationsEq, ← shaped.model]
      cases e
      rfl

theorem fits_of_filled {target : Json → Except Error Entity} {multiplicity : Multiplicity}
    {value : Json} {related : Option (Related Entity)}
    (filled : Filled target multiplicity value related) :
    multiplicity.Fits related ∧ ∀ held, related = some held → ∀ child ∈ held.entities,
      ∃ payload, target payload = .ok child := by
  cases filled with
  | empty =>
    refine ⟨trivial, ?_⟩
    rintro _ ⟨⟩ child ⟨⟩
  | many read =>
    refine ⟨trivial, ?_⟩
    rintro _ ⟨⟩ child mem
    obtain ⟨item, -, read⟩ := exists_of_mem_mapM read mem
    exact ⟨item, read⟩
  | absent =>
    refine ⟨trivial, ?_⟩
    rintro _ ⟨⟩
  | one read =>
    refine ⟨trivial, ?_⟩
    rintro _ ⟨⟩ child mem
    cases List.mem_singleton.1 mem
    exact ⟨_, read⟩

theorem conforms_of_entityOf (named : filter.WellNamed schema entity) {payload : Json} {e : Entity}
    (read : entityOf schema entity filter payload = .ok e) : e.Conforms schema entity filter := by
  induction named generalizing payload e with
  | @level entity filter names listed distinct apart known scopes ih =>
    obtain ⟨members, names', relations, rfl, listed', others, rfl⟩ := entityOf_eq_ok.1 read
    cases listed.symm.trans listed'
    have fields := Schema.fieldsOf_eq listed
    subst fields
    have filled : ∀ included ∈ filter.includes, ∀ relation,
        schema.relation entity included.relation = .ok relation → ∃ value,
          Filled (entityOf schema relation.target (included.scope.getD {})) relation.multiplicity
            value (Keyed.find? included.relation relations) := by
      intro included mem relation found
      have own := relationOf_distinct found distinct mem others
      simp only [relationOf, found, bind_ok, bind_eq_ok] at own
      obtain ⟨value, -, own⟩ := own
      exact ⟨value, filled_iff.2 own⟩
    refine .level ⟨rfl, sorted_taken _ .nil _, sorted_relationsOf others .nil, ?_, ?_, ?_, ?_⟩ ?_
    · intro field there
      obtain ⟨⟨_, value⟩, mem, rfl⟩ := List.mem_map.1 there
      exact (coerced_of_mem_taken mem).1
    · intro field value mem
      obtain ⟨-, given, rfl⟩ := coerced_of_mem_taken mem
      exact coerce_settled _ given
    · intro name mem
      by_contra absent
      exact Keyed.find?_eq_none.1 (find?_of_not_included absent others) mem
    · intro included mem relation found
      obtain ⟨value, filled⟩ := filled included mem relation found
      exact (fits_of_filled filled).1
    · intro included mem relation related child found held there
      obtain ⟨value, filled⟩ := filled included mem relation found
      obtain ⟨payload, read⟩ := (fits_of_filled filled).2 related held child there
      exact ih included mem relation found read

end Materialize

def Entity.ReadsBack (schema : Schema) (entity : String) (filter : Filter) (e : Entity) : Prop :=
  Materialize.valueEntities schema entity filter e.toJson = .ok [e] ∧
    (∀ text, Json.read text = .ok e.toJson →
      materialize schema entity filter [some text] = .ok [e]) ∧
    (Json.Legible Json.maxDepth e.toJson →
      materialize schema entity filter [some e.toJson.write] = .ok [e])

theorem readsBack_of_conforms {schema : Schema} {entity : String} {filter : Filter} {e : Entity}
    (named : filter.WellNamed schema entity) (conforms : e.Conforms schema entity filter) :
    e.ReadsBack schema entity filter := by
  have read := Materialize.entityOf_toJson conforms named
  obtain ⟨members, object⟩ := e.toJson_object
  have value : Materialize.valueEntities schema entity filter e.toJson = .ok [e] := by
    rw [object] at read ⊢
    rw [Materialize.valueEntities, read]
    rfl
  have given : ∀ text, Json.read text = .ok e.toJson →
      materialize schema entity filter [some text] = .ok [e] := by
    intro text spelled
    rw [materialize_given (.cons (.text spelled) .nil), List.mapM_cons, value]
    rfl
  exact ⟨value, given, fun legible => given _ (Json.read_write legible)⟩

theorem materialize_toJson {schema : Schema} {entity : String} {filter : Filter}
    (named : filter.WellNamed schema entity) :
    (∀ e : Entity, e.Conforms schema entity filter → e.ReadsBack schema entity filter) ∧
    ∀ (rows : List Row) (entities : List Entity),
      materialize schema entity filter rows = .ok entities →
        ∀ e ∈ entities, e.Conforms schema entity filter ∧ e.ReadsBack schema entity filter := by
  refine ⟨fun e => readsBack_of_conforms named, fun rows entities result e mem => ?_⟩
  obtain ⟨_, _, _, -, -, -, read⟩ := materialize_mem result mem
  have conforms := Materialize.conforms_of_entityOf named read
  exact ⟨conforms, readsBack_of_conforms named conforms⟩

theorem materialize_toJson_shop :
    let item : Entity := { model := "Item" }
    let order : Entity :=
      { model := "Order"
        attributes := [("day", .null)]
        relations := [("items", .many [item, item])] }
    let customer : Entity :=
      { model := "Customer"
        attributes := [("name", .string "Ann")]
        relations := [("orders", .many [order]), ("tags", .many [])] }
    Sample.nested.WellNamed Sample.shop "Customer" ∧
      materialize Sample.shop "Customer" Sample.nested [some Sample.payload] = .ok [customer] ∧
      customer.Conforms Sample.shop "Customer" Sample.nested ∧
      customer.ReadsBack Sample.shop "Customer" Sample.nested ∧
      materialize Sample.shop "Customer" Sample.nested [some customer.toJson.write] =
        .ok [customer] := by
  intro item order customer
  have named : Sample.nested.WellNamed Sample.shop "Customer" := by
    have orders : Sample.shop.relation "Customer" "orders" = .ok (.hasMany "Order" "customerId") :=
      rfl
    have tags : Sample.shop.relation "Customer" "tags" =
        .ok (.hasManyThrough "Tag" "CustomerTag" "customerId" "tagId") := rfl
    have items : Sample.shop.relation "Order" "items" = .ok (.hasMany "Item" "orderId") := rfl
    have item : Filter.WellNamed Sample.shop "Item" {} := .of_no_includes rfl rfl
    have tag : Filter.WellNamed Sample.shop "Tag" {} := .of_no_includes rfl rfl
    have order : Filter.WellNamed Sample.shop "Order"
        { order := [⟨"day", some .desc⟩], limit := some 2, includes := [⟨"items", none⟩] } := by
      have fields : Sample.shop.fieldNames "Order" = .ok ["day"] := rfl
      apply Filter.WellNamed.level fields <;>
        simp [items, item, Fields.project, Relation.hasMany]
    have fields : Sample.shop.fieldNames "Customer" = .ok ["name"] := rfl
    apply Filter.WellNamed.level fields <;>
      simp [Sample.nested, orders, tags, order, tag, Fields.project, Relation.hasMany,
        Relation.hasManyThrough]
  have result : materialize Sample.shop "Customer" Sample.nested [some Sample.payload] =
      .ok [customer] := (Sample.materialize_payload Sample.nested).trans rfl
  have conforms := ((materialize_toJson named).2 _ _ result customer List.mem_cons_self).1
  have back := (materialize_toJson named).1 customer conforms
  have itemsLegible : Json.Legible 124 (.array [.object [], .object []]) :=
    .array (by simp [Json.Legible.object])
  have orderLegible : Json.Legible 125
      (.object [("day", .null), ("items", .array [.object [], .object []])]) :=
    .object (by decide) (by simp [Json.Legible.null, itemsLegible])
  have spelled : customer.toJson = .object [("name", .string "Ann"),
      ("orders", .array [.object [("day", .null), ("items", .array [.object [], .object []])]]),
      ("tags", .array [])] := rfl
  have legible : Json.Legible Json.maxDepth customer.toJson := by
    rw [spelled]
    exact .object (by decide) (by simp [Json.Legible.string, Json.Legible.array, orderLegible])
  exact ⟨named, result, conforms, back, back.2.2 legible⟩

end NestedQuery
