import NestedQuery.Proofs.Taking
import NestedQuery.Proofs.Values

set_option autoImplicit false

namespace NestedQuery

namespace Materialize

variable {schema : Schema} {entity name : String} {filter : Filter} {relation : Relation}
  {included : Include Filter} {members : List (String × Json)} {read : Entity}

/-- What the first include of a name reads is not what the entity ends up with. -/
def Loses (schema : Schema) (entity : String) (filter : Filter) (name : String)
    (relation : Relation) : Prop :=
  name ∈ Fields.project filter.fields (schema.fieldsOf entity) ∨
    relation.multiplicity = .many ∧ (filter.includes.map Include.relation).count name ≠ 1

theorem related_of_loses (result : entityOf schema entity filter (.object members) = .ok read)
    (found : schema.relation entity name = .ok relation)
    (first : filter.includes.find? (fun included => included.relation = name) = some included)
    (loses : Loses schema entity filter name relation) :
    read.related? name = if relation.multiplicity = .many then some (.many []) else none := by
  obtain ⟨_, names, relations, same, listed, others, rfl⟩ := entityOf_eq_ok.1 result
  cases same
  have fields : schema.fieldsOf entity = names := by simp [Schema.fieldsOf, listed, Except.toOption]
  rcases loses with projected | ⟨many, repeated⟩
  · rw [fields] at projected
    have missing : Keyed.find? name (takeAttributes schema entity [] members
        (Fields.project filter.fields names)).2 = none := by
      rw [find?_left, if_pos projected]
    have mem : name ∈ filter.includes.map Include.relation := by
      have named : included.relation = name := by simpa using List.find?_some first
      exact named ▸ List.mem_map_of_mem (List.mem_of_find?_eq_some first)
    rw [Entity.related?, find?_without_member found missing others]
    simp [mem, Keyed.find?]
  · obtain ⟨related, -, there⟩ := find?_included found first others
    rw [Entity.related?, there, if_pos ⟨many, repeated⟩, if_pos many]

theorem related_of_not_loses
    (result : entityOf schema entity filter (.object members) = .ok read)
    (found : schema.relation entity name = .ok relation)
    (first : filter.includes.find? (fun included => included.relation = name) = some included)
    (keeps : ¬ Loses schema entity filter name relation) {value : Json}
    (given : relationPayload name members = .ok value) :
    Filled (entityOf schema relation.target (included.scope.getD {})) relation.multiplicity value
      (read.related? name) := by
  obtain ⟨_, names, relations, same, listed, others, rfl⟩ := entityOf_eq_ok.1 result
  cases same
  have fields : schema.fieldsOf entity = names := by simp [Schema.fieldsOf, listed, Except.toOption]
  rw [Loses, not_or, fields] at keeps
  obtain ⟨unprojected, once⟩ := keeps
  obtain ⟨related, own, there⟩ := find?_included found first others
  have named : included.relation = name := by simpa using List.find?_some first
  subst named
  have left : Keyed.find? included.relation (takeAttributes schema entity [] members
      (Fields.project filter.fields names)).2 = Keyed.find? included.relation members := by
    rw [find?_left, if_neg unprojected]
  rw [relationOf_congr left] at own
  simp only [relationOf, found, bind_ok, given] at own
  rw [Entity.related?, there, if_neg once, Keyed.find?, Option.or_none]
  exact filled_iff.2 own

inductive Within (schema : Schema) (entity : String) (filter : Filter)
    (members : List (String × Json)) (read : Entity) :
    String → Filter → List (String × Json) → Entity → Prop
  | root : Within schema entity filter members read entity filter members read
  | many {owner name : String} {scope : Filter} {payload object : List (String × Json)}
      {parent child : Entity} {included : Include Filter} {relation : Relation}
      {items : List Json} {children : List Entity} {i : Nat}
      (above : Within schema entity filter members read owner scope payload parent)
      (found : schema.relation owner name = .ok relation)
      (first : scope.includes.find? (fun included => included.relation = name) = some included)
      (given : relationPayload name payload = .ok (.array items))
      (kept : parent.related? name = some (.many children))
      (item : items[i]? = some (.object object)) (there : children[i]? = some child) :
      Within schema entity filter members read relation.target (included.scope.getD {}) object child
  | one {owner name : String} {scope : Filter} {payload object : List (String × Json)}
      {parent child : Entity} {included : Include Filter} {relation : Relation}
      (above : Within schema entity filter members read owner scope payload parent)
      (found : schema.relation owner name = .ok relation)
      (first : scope.includes.find? (fun included => included.relation = name) = some included)
      (given : relationPayload name payload = .ok (.object object))
      (kept : parent.related? name = some (.one child)) :
      Within schema entity filter members read relation.target (included.scope.getD {}) object child

theorem Within.entityOf_eq_ok {owner : String} {scope : Filter} {payload : List (String × Json)}
    {below : Entity}
    (within : Within schema entity filter members read owner scope payload below)
    (result : entityOf schema entity filter (.object members) = .ok read) :
    entityOf schema owner scope (.object payload) = .ok below := by
  induction within with
  | root => exact result
  | @many owner name scope payload object parent child included relation items children i above
      found first given kept item there ih =>
    by_cases loses : Loses schema owner scope name relation
    · rw [related_of_loses ih found first loses] at kept
      -- Where the member is lost there are no children.
      have noneLeft : children = [] := by
        by_cases many : relation.multiplicity = .many <;> simp_all
      simp [noneLeft] at there
    · obtain ⟨children', same, each⟩ := (related_of_not_loses ih found first loses given).array
      cases kept.symm.trans same
      obtain ⟨bound, item⟩ := List.getElem?_eq_some_iff.1 item
      obtain ⟨bound', there⟩ := List.getElem?_eq_some_iff.1 there
      rw [← item, ← there]
      exact each.get bound bound'
  | @one owner name scope payload object parent child included relation above found first given
      kept ih =>
    by_cases loses : Loses schema owner scope name relation
    · rw [related_of_loses ih found first loses] at kept
      by_cases many : relation.multiplicity = .many <;> simp [many] at kept
    · obtain ⟨child', same, read⟩ := (related_of_not_loses ih found first loses given).object
      cases kept.symm.trans same
      exact read

end Materialize

theorem materialize_mem {schema : Schema} {entity : String} {filter : Filter} {rows : List Row}
    {entities : List Entity} (result : materialize schema entity filter rows = .ok entities)
    {read : Entity} (mem : read ∈ entities) :
    ∃ text value members, some text ∈ rows ∧ Json.read text = .ok value ∧
      (value = .object members ∨ ∃ items, value = .array items ∧ .object members ∈ items) ∧
      Materialize.entityOf schema entity filter (.object members) = .ok read := by
  obtain ⟨lists, each, rfl⟩ := map_eq_ok.1 result
  obtain ⟨list, there, mem⟩ := List.mem_flatten.1 mem
  obtain ⟨row, given, own⟩ := exists_of_mem_mapM each there
  cases row with
  | none =>
    cases own
    cases mem
  | some text =>
    obtain ⟨value, parsed, own⟩ := bind_eq_ok.1 own
    have parsed : Json.read text = .ok value := by
      cases h : Json.read text <;> simp_all [Materialize.parse]
    refine ⟨text, value, ?_⟩
    cases value with
    | null =>
      cases own
      cases mem
    | array items =>
      obtain ⟨item, there, own⟩ := exists_of_mem_mapM own mem
      obtain ⟨members, -, -, rfl, -⟩ := Materialize.entityOf_eq_ok.1 own
      exact ⟨members, given, parsed, .inr ⟨items, rfl, there⟩, own⟩
    | object members =>
      rw [Materialize.valueEntities] at own
      obtain ⟨only, readOnly, same⟩ := bind_eq_ok.1 own
      cases same
      rw [List.mem_singleton.1 mem]
      exact ⟨members, given, parsed, .inl rfl, readOnly⟩
    | _ => cases own

/-- At every level of what is read, an included relation keeps what the payload has for it if and
only if its name is no projected field's and, where it leads to many entities, it is included once.
-/
theorem materialize_keeps_iff {schema : Schema} {entity : String} {filter : Filter}
    {rows : List Row} {entities : List Entity}
    (result : materialize schema entity filter rows = .ok entities) {read : Entity}
    (mem : read ∈ entities) :
    ∃ text value members, some text ∈ rows ∧ Json.read text = .ok value ∧
      (value = .object members ∨ ∃ items, value = .array items ∧ .object members ∈ items) ∧
      Materialize.entityOf schema entity filter (.object members) = .ok read ∧
      ∀ (owner : String) (scope : Filter) (payload : List (String × Json)) (below : Entity),
        Materialize.Within schema entity filter members read owner scope payload below →
        ∀ (name : String) (included : Include Filter) (relation : Relation),
          scope.includes.find? (fun included => included.relation = name) = some included →
          schema.relation owner name = .ok relation →
          let target := Materialize.entityOf schema relation.target (included.scope.getD {})
          let projected := Fields.project scope.fields (schema.fieldsOf owner)
          (relation.multiplicity = .many →
            ∀ items, Materialize.relationPayload name payload = .ok (.array items) → items ≠ [] →
              ((∃ children, below.related? name = some (.many children) ∧
                  List.Forall₂ (fun item child => target item = .ok child) items children) ↔
                name ∉ projected ∧ (scope.includes.map Include.relation).count name = 1)) ∧
          (relation.multiplicity = .one →
            ∀ object, Materialize.relationPayload name payload = .ok (.object object) →
              ((∃ child, below.related? name = some (.one child) ∧
                  target (.object object) = .ok child) ↔
                name ∉ projected)) := by
  obtain ⟨text, value, members, given, parsed, there, root⟩ := materialize_mem result mem
  refine ⟨text, value, members, given, parsed, there, root,
    fun owner scope payload below within name included relation first found => ?_⟩
  have result := within.entityOf_eq_ok root
  constructor
  · intro many items given nonempty
    have keeps : ¬ Materialize.Loses schema owner scope name relation ↔
        name ∉ Fields.project scope.fields (schema.fieldsOf owner) ∧
          (scope.includes.map Include.relation).count name = 1 := by
      simp [Materialize.Loses, many]
    rw [← keeps]
    constructor
    · rintro ⟨children, kept, each⟩ loses
      rw [Materialize.related_of_loses result found first loses, if_pos many] at kept
      cases kept
      cases each
      exact nonempty rfl
    · intro keeps
      exact (Materialize.related_of_not_loses result found first keeps given).array
  · intro one object given
    have keeps : ¬ Materialize.Loses schema owner scope name relation ↔
        name ∉ Fields.project scope.fields (schema.fieldsOf owner) := by
      simp [Materialize.Loses, one]
    rw [← keeps]
    constructor
    · rintro ⟨child, kept, -⟩ loses
      rw [Materialize.related_of_loses result found first loses] at kept
      simp [one] at kept
    · intro keeps
      exact (Materialize.related_of_not_loses result found first keeps given).object

def Sample.payload : String :=
  "\x7b\"name\":\"Ann\",\"orders\":[\x7b\"day\":null,\"items\":[\x7b\x7d,\x7b\x7d]\x7d]\x7d"

theorem Sample.read_payload : Json.read Sample.payload = .ok (.object
    [("name", .string "Ann"),
      ("orders", .array
        [.object [("day", .null), ("items", .array [.object [], .object []])]])]) := by
  with_unfolding_all rfl

theorem Sample.materialize_payload (filter : Filter) :
    materialize Sample.shop "Customer" filter [some Sample.payload] =
      ([.object
        [("name", .string "Ann"),
          ("orders", .array
            [.object [("day", .null), ("items", .array [.object [], .object []])]])]].mapM
        (Materialize.valueEntities Sample.shop "Customer" filter)).map List.flatten :=
  materialize_given (.cons (.text Sample.read_payload) .nil)

theorem materialize_keeps_iff_shop :
    ∃ read order items,
      materialize Sample.shop "Customer" Sample.nested [some Sample.payload] = .ok [read] ∧
      read.related? "orders" = some (.many [order]) ∧
      order.related? "items" = some (.many items) ∧ items.length = 2 := by
  obtain ⟨read, result⟩ : ∃ read,
      materialize Sample.shop "Customer" Sample.nested [some Sample.payload] = .ok [read] :=
    ⟨_, (Sample.materialize_payload _).trans rfl⟩
  obtain ⟨_, _, _, given, parsed, there, -, kept⟩ :=
    materialize_keeps_iff result List.mem_cons_self
  cases List.mem_singleton.1 given
  cases Sample.read_payload.symm.trans parsed
  rcases there with same | ⟨_, array, -⟩
  · cases same
    obtain ⟨orders, held, each⟩ := ((kept _ _ _ _ .root "orders" _ _ rfl rfl).1 rfl
      _ rfl (by simp)).2 ⟨by decide, by decide⟩
    obtain ⟨order, rest, own, noneBehind, rfl⟩ := List.forall₂_cons_left_iff.1 each
    cases noneBehind
    obtain ⟨items, held', each'⟩ := ((kept _ _ _ order
      (.many (i := 0) .root rfl rfl rfl held rfl rfl) "items" _ _ rfl rfl).1 rfl _ rfl (by simp)).2
        ⟨by decide, by decide⟩
    exact ⟨read, order, items, result, held, held', each'.length_eq.symm⟩
  · cases array

/-- The compiler takes a filter that includes a relation twice, or next to a projected field of its
name; the entities of that relation are lost. -/
theorem relation_lost :
    let once : Filter := { includes := [⟨"orders", none⟩] }
    let twice : Filter := { includes := [⟨"orders", none⟩, ⟨"orders", none⟩] }
    let shadowed : Filter := { fields := some (.only ["orders"]), includes := [⟨"orders", none⟩] }
    let order : Entity := { model := "Order", attributes := [("day", .null)] }
    let customer (orders : List Entity) : Entity :=
      { model := "Customer"
        attributes := [("name", .string "Ann")]
        relations := [("orders", .many orders)] }
    (∃ text, compile Sample.shop (.ofDialect .sqlite) "Customer" twice {} = .ok text) ∧
    (∃ text, compile Sample.shop (.ofDialect .sqlite) "Customer" shadowed {} = .ok text) ∧
    materialize Sample.shop "Customer" once [some Sample.payload] = .ok [customer [order]] ∧
    materialize Sample.shop "Customer" twice [some Sample.payload] = .ok [customer []] ∧
    ∃ read, materialize Sample.shop "Customer" shadowed [some Sample.payload] = .ok [read] ∧
      read.many "orders" = [] := by
  intro once twice shadowed order customer
  refine ⟨⟨_, rfl⟩, ⟨_, rfl⟩, ?_, ?_, ?_⟩
  · exact (Sample.materialize_payload once).trans rfl
  · exact (Sample.materialize_payload twice).trans rfl
  · exact ⟨_, (Sample.materialize_payload shadowed).trans rfl, rfl⟩

end NestedQuery
