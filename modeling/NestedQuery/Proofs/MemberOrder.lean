import Mathlib.Data.List.Perm.Basic
import NestedQuery.Compile
import NestedQuery.Proofs.Shorthands

set_option autoImplicit false

namespace NestedQuery

theorem toOption_eq_iff {ε α : Type} {x y : Except ε α} :
    x.toOption = y.toOption ↔ ∀ a, x = .ok a ↔ y = .ok a := by
  rw [Option.ext_iff]
  cases x <;> cases y <;> simp [Except.toOption]

theorem toOption_map {ε α β : Type} (f : α → β) (x : Except ε α) :
    (x.map f).toOption = x.toOption.map f := by
  cases x <;> rfl

theorem toOption_bind {ε α β : Type} (x : Except ε α) (f : α → Except ε β) :
    (x >>= f).toOption = x.toOption.bind fun a => (f a).toOption := by
  cases x <;> rfl

theorem toOption_mapM {ε α β : Type} (f : α → Except ε β) (items : List α) :
    (items.mapM f).toOption = items.mapM fun item => (f item).toOption := by
  induction items with
  | nil => rfl
  | cons item rest ih =>
    rw [List.mapM_cons, List.mapM_cons, ← ih, toOption_bind]
    cases f item with
    | error e => rfl
    | ok value => cases rest.mapM f <;> rfl

theorem foldlM_map {ε α β σ : Type} (read : α → Except ε β) (put : σ → β → σ) (items : List α)
    (start : σ) : (items.foldlM (fun state item => (read item).map (put state)) start) =
      (items.mapM read).map (List.foldl put start) := by
  induction items generalizing start with
  | nil => rfl
  | cons item rest ih =>
    rw [List.foldlM_cons, List.mapM_cons]
    cases read item with
    | error e => rfl
    | ok value =>
      have behind := ih (put start value)
      cases others : rest.mapM read <;> rw [others] at behind <;> exact behind

theorem mapM_perm {ε α β : Type} {f : α → Except ε β} {items items' : List α} {values : List β}
    (perm : items.Perm items') (read : items.mapM f = .ok values) :
    ∃ values', items'.mapM f = .ok values' ∧ values.Perm values' := by
  obtain ⟨values', read', perm'⟩ := List.perm_comp_forall₂ perm.symm (mapM_eq_ok.1 read)
  exact ⟨values', mapM_eq_ok.2 read', perm'.symm⟩

namespace Filter

inductive Component
  | condition (condition : Option Where)
  | order (order : List OrderBy)
  | limit (limit : Option UInt64)
  | skip (skip : Option UInt64)
  | fields (fields : Option Fields)
  | includes (includes : List (Include Filter))

namespace Component

def name : Component → String
  | .condition _ => "where"
  | .order _ => "order"
  | .limit _ => "limit"
  | .skip _ => "skip"
  | .fields _ => "fields"
  | .includes _ => "include"

def put (filter : Filter) : Component → Filter
  | .condition value => { filter with condition := value }
  | .order value => { filter with order := value }
  | .limit value => { filter with limit := value }
  | .skip value => { filter with skip := value }
  | .fields value => { filter with fields := value }
  | .includes value => { filter with includes := value }

theorem put_comm (filter : Filter) {a b : Component} (different : a.name ≠ b.name) :
    put (put filter a) b = put (put filter b) a := by
  cases a <;> cases b <;> first | rfl | exact absurd rfl different

theorem foldl_put_perm {components components' : List Component}
    (perm : components.Perm components') (distinct : (components.map name).Nodup)
    (filter : Filter) : components.foldl put filter = components'.foldl put filter := by
  apply perm.foldl_eq'
  intro a first b second state
  by_cases same : a = b
  · rw [same]
  · exact put_comm state fun named => same (List.inj_on_of_nodup_map distinct first second named)

end Component

def componentOf (member : String × Json) : Except Error Component :=
  match member.1 with
  | "where" => (Where.ofJson member.2).map .condition
  | "order" => (orderOf member.2).map .order
  | "limit" => (countOf member.1 member.2).map .limit
  | "skip" | "offset" => (countOf member.1 member.2).map .skip
  | "fields" => (fieldsOf member.2).map .fields
  | "include" => (includesOf member.2).map .includes
  | other => refused (.unknownKey other)

def componentName (key : String) : String := if key = "offset" then "skip" else key

theorem ofMember_eq (filter : Filter) (member : String × Json) :
    ofMember filter member = (componentOf member).map (Component.put filter) := by
  obtain ⟨key, value⟩ := member
  unfold ofMember
  dsimp only
  split
  case h_8 =>
    unfold componentOf
    dsimp only
    split
    case h_8 => rfl
    all_goals contradiction
  all_goals dsimp only [componentOf]
  case h_1 => cases Where.ofJson value <;> rfl
  case h_2 => cases orderOf value <;> rfl
  case h_3 | h_4 | h_5 => cases countOf _ value <;> rfl
  case h_6 => cases fieldsOf value <;> rfl
  case h_7 => cases includesOf value <;> rfl

theorem ofJson_object (members : List (String × Json)) : ofJson (.object members) =
    (members.mapM componentOf).map fun components => components.foldl Component.put {} := by
  have steps : ofMember = fun filter member => (componentOf member).map (Component.put filter) :=
    funext fun filter => funext (ofMember_eq filter)
  rw [ofJson, ofMembers_eq_foldlM, steps, foldlM_map]

theorem name_of_componentOf {member : String × Json} {component : Component}
    (read : componentOf member = .ok component) : component.name = componentName member.1 := by
  unfold componentOf at read
  split at read
  case h_8 => cases read
  all_goals
    rw [map_eq_ok] at read
    obtain ⟨value, -, rfl⟩ := read
    simp [*, Component.name, componentName]

def EachOnce (members : List (String × Json)) : Prop :=
  (members.map Prod.fst).Nodup ∧
    ¬ ("skip" ∈ members.map Prod.fst ∧ "offset" ∈ members.map Prod.fst)

theorem EachOnce.perm {members members' : List (String × Json)} (once : EachOnce members)
    (perm : members.Perm members') : EachOnce members' := by
  have keys := perm.map Prod.fst
  unfold EachOnce
  rwa [← keys.nodup_iff, ← keys.mem_iff, ← keys.mem_iff]

theorem EachOnce.components_nodup {members : List (String × Json)} {components : List Component}
    (once : EachOnce members) (read : members.mapM componentOf = .ok components) :
    (components.map Component.name).Nodup := by
  have names : (members.map Prod.fst).map componentName = components.map Component.name := by
    rw [← List.forall₂_eq_eq_eq, List.forall₂_map_left_iff, List.forall₂_map_left_iff,
      List.forall₂_map_right_iff]
    exact (mapM_eq_ok.1 read).imp fun _ _ own => (name_of_componentOf own).symm
  obtain ⟨distinct, single⟩ := once
  rw [← names]
  refine List.Nodup.map_on ?_ distinct
  intro first mem second mem' same
  unfold componentName at same
  split at same
  next firstOffset =>
    split at same
    next secondOffset => rw [firstOffset, secondOffset]
    next => exact absurd ⟨same ▸ mem', firstOffset ▸ mem⟩ single
  next =>
    split at same
    next secondOffset => exact absurd ⟨same ▸ mem, secondOffset ▸ mem'⟩ single
    next => exact same

theorem ofJson_perm {members members' : List (String × Json)} (perm : members.Perm members')
    (once : EachOnce members) {filter : Filter} (read : ofJson (.object members) = .ok filter) :
    ofJson (.object members') = .ok filter := by
  rw [ofJson_object, map_eq_ok] at read ⊢
  obtain ⟨components, read, rfl⟩ := read
  obtain ⟨components', read', perm'⟩ := mapM_perm perm read
  exact ⟨components', read', (Component.foldl_put_perm perm' (once.components_nodup read) {}).symm⟩

end Filter

/-- The places of a value at which a filter stands: what is around it, as a function of the filter.
-/
inductive ScopeIn : Place → (Json → Json) → Prop
  | root : ScopeIn .filter id
  | includes {before after : List (String × Json)} {around : Json → Json}
      (inner : ScopeIn .includes around) :
      ScopeIn .filter fun value => .object (before ++ ("include", around value) :: after)
  | item {earlier later : List Json} {around : Json → Json} (inner : ScopeIn .includes around) :
      ScopeIn .includes fun value => .array (earlier ++ around value :: later)
  | scope {before after : List (String × Json)} {around : Json → Json}
      (named : Keyed.NamesRelation (before ++ after)) (inner : ScopeIn .filter around) :
      ScopeIn .includes fun value => .object (before ++ ("scope", around value) :: after)
  | relation {before after : List (String × Json)} {name : String} {around : Json → Json}
      (unnamed : ∀ value, ¬ Keyed.NamesRelation (before ++ (name, around value) :: after))
      (inner : ScopeIn .includes around) :
      ScopeIn .includes fun value => .object (before ++ (name, around value) :: after)

namespace ScopeIn

variable {around : Json → Json}

theorem includes_nested (scope : ScopeIn .includes around) (value : Json) :
    around value ≠ .null ∧ around value ≠ .bool true := by
  cases scope <;> simp

theorem filter_given (scope : ScopeIn .filter around) {value : Json} (given : value ≠ .null) :
    around value ≠ .null := by
  cases scope with
  | root => exact given
  | includes inner => simp

theorem toOption_item {value value' : Json}
    (same : (Filter.includesOf value).toOption = (Filter.includesOf value').toOption)
    (earlier later : List Json) :
    (Filter.includesOf (.array (earlier ++ value :: later))).toOption =
      (Filter.includesOf (.array (earlier ++ value' :: later))).toOption := by
  rw [Filter.includesOf_array, Filter.includesOf_array, toOption_map, toOption_map, toOption_mapM,
    toOption_mapM]
  exact congrArg (Option.map List.flatten)
    (mapM_replaced (f := fun item => (Filter.includesOf item).toOption) same earlier later)

theorem toOption_includes {value value' : Json}
    (same : (Filter.includesOf value).toOption = (Filter.includesOf value').toOption)
    (before after : List (String × Json)) :
    (Filter.ofJson (.object (before ++ ("include", value) :: after))).toOption =
      (Filter.ofJson (.object (before ++ ("include", value') :: after))).toOption := by
  have member : (Filter.componentOf ("include", value)).toOption =
      (Filter.componentOf ("include", value')).toOption := by
    simp only [Filter.componentOf, toOption_map, same]
  rw [Filter.ofJson_object, Filter.ofJson_object, toOption_map, toOption_map, toOption_mapM,
    toOption_mapM]
  exact congrArg (Option.map fun components => components.foldl Filter.Component.put {})
    (mapM_replaced (f := fun member => (Filter.componentOf member).toOption) member before after)

theorem toOption_scope {value value' : Json}
    (same : (Filter.scopeOf (some value)).toOption = (Filter.scopeOf (some value')).toOption)
    {before after : List (String × Json)} (named : Keyed.NamesRelation (before ++ after)) :
    (Filter.includesOf (.object (before ++ ("scope", value) :: after))).toOption =
      (Filter.includesOf (.object (before ++ ("scope", value') :: after))).toOption := by
  have scope := @Filter.find?_replaced _ (fun scope? => (Filter.scopeOf scope?).toOption) _ _ same
    "scope" before after
  rw [Filter.includesOf, Filter.includesOf, Filter.scopeIn_eq, Filter.scopeIn_eq,
    Filter.relationIn_scope, Filter.relationIn_scope]
  cases read : Filter.relationIn (before ++ after) with
  | none => exact (Filter.relationIn_eq_none_iff.1 read named).elim
  | some relation =>
    cases relation with
    | string name => simp only [toOption_map, scope]
    | _ => rfl

theorem toOption_relation {value value' : Json}
    (same : (Filter.nestedScope value).toOption = (Filter.nestedScope value').toOption)
    {before after : List (String × Json)} {name : String}
    (unnamed : ¬ Keyed.NamesRelation (before ++ (name, value) :: after))
    (unnamed' : ¬ Keyed.NamesRelation (before ++ (name, value') :: after)) :
    (Filter.includesOf (.object (before ++ (name, value) :: after))).toOption =
      (Filter.includesOf (.object (before ++ (name, value') :: after))).toOption := by
  rw [Filter.includesOf, Filter.includesOf, Filter.relationIn_eq_none_iff.2 unnamed,
    Filter.relationIn_eq_none_iff.2 unnamed', Filter.shorthandIncludes_eq_mapM,
    Filter.shorthandIncludes_eq_mapM, toOption_mapM, toOption_mapM]
  apply mapM_replaced
  simp only [toOption_map, same]

theorem toOption_eq {place : Place} (scope : ScopeIn place around) {value value' : Json}
    (given : value ≠ .null) (given' : value' ≠ .null)
    (same : (Filter.ofJson value).toOption = (Filter.ofJson value').toOption) :
    (place.read (around value)).toOption = (place.read (around value')).toOption := by
  induction scope with
  | root => exact same
  | includes inner ih => exact toOption_includes ih _ _
  | item inner ih => exact toOption_item ih _ _
  | scope named inner ih =>
    apply toOption_scope _ named
    rw [Filter.scopeOf_some (inner.filter_given given),
      Filter.scopeOf_some (inner.filter_given given'), toOption_map, toOption_map]
    exact congrArg _ ih
  | relation unnamed inner ih =>
    refine toOption_relation ?_ (unnamed value) (unnamed value')
    have nested := inner.includes_nested
    rw [Filter.nestedScope_eq (nested value).1 (nested value).2,
      Filter.nestedScope_eq (nested value').1 (nested value').2, toOption_map, toOption_map]
    exact congrArg _ ih

end ScopeIn

theorem Filter.toOption_perm {members members' : List (String × Json)}
    (perm : members.Perm members') (once : EachOnce members) :
    (ofJson (.object members)).toOption = (ofJson (.object members')).toOption :=
  toOption_eq_iff.2 fun _ => ⟨ofJson_perm perm once, ofJson_perm perm.symm (once.perm perm)⟩

theorem Filter.ofJson_reordered {around : Json → Json} (scope : ScopeIn .filter around)
    {members members' : List (String × Json)} (perm : members.Perm members')
    (once : EachOnce members) :
    (∀ filter, ofJson (around (.object members)) = .ok filter ↔
      ofJson (around (.object members')) = .ok filter) ∧
    ∀ (schema : Schema) (adapter : Adapter) (entity : String) (options : Options)
      (text : String),
      (ofJson (around (.object members)) >>= fun filter =>
          compile schema adapter entity filter options) = .ok text ↔
        (ofJson (around (.object members')) >>= fun filter =>
          compile schema adapter entity filter options) = .ok text := by
  have same := scope.toOption_eq (by simp) (by simp) (toOption_perm perm once)
  refine ⟨toOption_eq_iff.1 same, fun schema adapter entity options => ?_⟩
  rw [← toOption_eq_iff, toOption_bind, toOption_bind]
  exact congrArg (Option.bind · _) same

/-- The later of the two names of the number of rows to skip counts, so here the order matters. -/
example : (Filter.ofJson (.object [("skip", .ofInt 1), ("offset", .ofInt 2)])).map Filter.skip =
      .ok (some 2) ∧
    (Filter.ofJson (.object [("offset", .ofInt 2), ("skip", .ofInt 1)])).map Filter.skip =
      .ok (some 1) :=
  ⟨rfl, rfl⟩

def Sample.scopeMembers : List (String × Json) :=
  [("skip", .ofInt 5), ("where", .object [("name", .string "Ann")]), ("limit", .ofInt 2)]

def Sample.withScope (scope : Json) : Json :=
  .object
    [("fields", .array [.string "id"]),
      ("include", .array
        [.string "tags", .object [("relation", .string "orders"), ("scope", scope)]])]

theorem ofJson_reordered_scope :
    Sample.scopeMembers.Perm Sample.scopeMembers.reverse ∧
      Filter.EachOnce Sample.scopeMembers ∧
      ∀ filter, Filter.ofJson (Sample.withScope (.object Sample.scopeMembers)) = .ok filter ↔
        Filter.ofJson (Sample.withScope (.object Sample.scopeMembers.reverse)) = .ok filter := by
  have perm : Sample.scopeMembers.Perm Sample.scopeMembers.reverse :=
    (List.reverse_perm Sample.scopeMembers).symm
  have once : Filter.EachOnce Sample.scopeMembers := by
    unfold Filter.EachOnce
    decide
  have scope : ScopeIn .filter Sample.withScope :=
    @ScopeIn.includes [("fields", .array [.string "id"])] [] _
      (@ScopeIn.item [.string "tags"] [] _
        (@ScopeIn.scope [("relation", .string "orders")] [] _ (.inl (by decide)) .root))
  exact ⟨perm, once, (Filter.ofJson_reordered scope perm once).1⟩

end NestedQuery
