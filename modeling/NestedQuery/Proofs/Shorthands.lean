import NestedQuery.Proofs.FilterForm

set_option autoImplicit false

namespace NestedQuery

inductive Place
  | filter
  | condition
  | order
  | includes

def Place.Reading : Place → Type
  | .filter => Filter
  | .condition => Option Where
  | .order => List OrderBy
  | .includes => List (Include Filter)

def Place.read : (place : Place) → Json → Except Error place.Reading
  | .filter => Filter.ofJson
  | .condition => Where.ofJson
  | .order => Filter.orderOf
  | .includes => Filter.includesOf

def askedOf (operators : List (String × Json)) : List (String × Json) :=
  operators.filter fun entry => entry.1 ≠ "options"

def optionsIn (operators : List (String × Json)) : List (String × Json) :=
  operators.filter fun entry => entry.1 = "options"

def Keyed.NamesRelation (members : Keyed Json) : Prop :=
  "relation" ∈ members.map Prod.fst ∨ "rel" ∈ members.map Prod.fst

def longInclude (relation : String) : Json → Json
  | .null | .bool true => .object [("relation", .string relation)]
  | nested => .object [("relation", .string relation), ("scope", .object [("include", nested)])]

inductive Flattened : List Json → List Json → Prop
  | nil : Flattened [] []
  | kept {items flat : List Json} (item : Json) (rest : Flattened items flat) :
      Flattened (item :: items) (item :: flat)
  | opened {inner flatInner items flat : List Json} (own : Flattened inner flatInner)
      (rest : Flattened items flat) : Flattened (.array inner :: items) (flatInner ++ flat)

inductive Lengthens : Place → Json → Json → Prop
  | members {members : List (String × Json)} (several : 2 ≤ members.length) :
      Lengthens .condition (.object members)
        (.object [("and", .array (members.map fun member => .object [member]))])
  | operators {field : String} {operators : List (String × Json)}
      (apart : field ≠ "and" ∧ field ≠ "or")
      (several : 2 ≤ (askedOf operators).length) :
      Lengthens .condition (.object [(field, .object operators)])
        (.object [("and", .array ((askedOf operators).map fun operator =>
          .object [(field, .object (operator :: optionsIn operators))]))])
  | order (text : String) :
      Lengthens .order (.string text)
        (.array ((text.toList.splitOn ',').map fun piece => .string (String.ofList piece)))
  | name (relation : String) :
      Lengthens .includes (.string relation) (.object [("relation", .string relation)])
  | flattened {items flat : List Json} (flattened : Flattened items flat) :
      Lengthens .includes (.array items) (.array flat)
  | relations {members : List (String × Json)} (unnamed : ¬ Keyed.NamesRelation members) :
      Lengthens .includes (.object members)
        (.array (members.map fun member => longInclude member.1 member.2))
  -- The places at which a shorthand may stand.
  | inCondition {before after : List (String × Json)} {value long : Json}
      (inner : Lengthens .condition value long) :
      Lengthens .filter (.object (before ++ ("where", value) :: after))
        (.object (before ++ ("where", long) :: after))
  | inOrder {before after : List (String × Json)} {value long : Json}
      (inner : Lengthens .order value long) :
      Lengthens .filter (.object (before ++ ("order", value) :: after))
        (.object (before ++ ("order", long) :: after))
  | inIncludes {before after : List (String × Json)} {value long : Json}
      (inner : Lengthens .includes value long) :
      Lengthens .filter (.object (before ++ ("include", value) :: after))
        (.object (before ++ ("include", long) :: after))
  | inGroup {before after : List (String × Json)} {earlier later : List Json} {value long : Json}
      (connective : Connective) (inner : Lengthens .condition value long) :
      Lengthens .condition
        (.object (before ++ (connective.key, .array (earlier ++ value :: later)) :: after))
        (.object (before ++ (connective.key, .array (earlier ++ long :: later)) :: after))
  | inItem {earlier later : List Json} {value long : Json} (inner : Lengthens .includes value long) :
      Lengthens .includes (.array (earlier ++ value :: later)) (.array (earlier ++ long :: later))
  | inScope {before after : List (String × Json)} {value long : Json}
      (named : Keyed.NamesRelation (before ++ after)) (inner : Lengthens .filter value long) :
      Lengthens .includes (.object (before ++ ("scope", value) :: after))
        (.object (before ++ ("scope", long) :: after))
  | inRelation {before after : List (String × Json)} {name : String} {value long : Json}
      (unnamed : ¬ Keyed.NamesRelation (before ++ (name, value) :: after))
      (inner : Lengthens .includes value long) :
      Lengthens .includes (.object (before ++ (name, value) :: after))
        (.object (before ++ (name, long) :: after))

theorem mapM_replaced {m : Type → Type} [Monad m] [LawfulMonad m] {α β : Type} {f : α → m β}
    {a a' : α} (same : f a = f a') (before after : List α) :
    (before ++ a :: after).mapM f = (before ++ a' :: after).mapM f := by
  simp only [List.mapM_append, List.mapM_cons, same]

theorem foldlM_replaced {ε α σ : Type} {step : σ → α → Except ε σ} {a a' : α}
    (same : ∀ state, step state a = step state a') (before after : List α) (start : σ) :
    (before ++ a :: after).foldlM step start = (before ++ a' :: after).foldlM step start := by
  simp only [List.foldlM_append, List.foldlM_cons, same]

theorem map_eq_map {ε α β : Type} {x : Except ε α} {f g : α → β}
    (same : ∀ a, x = .ok a → f a = g a) : x.map f = x.map g := by
  cases x with
  | error e => rfl
  | ok a => exact congrArg Except.ok (same a rfl)

theorem mapM_map_ok {ε α β γ : Type} {f : α → Except ε β} {g : β → γ} (items : List α) :
    items.mapM (fun item => (f item).map g) = (items.mapM f).map (List.map g) := by
  induction items with
  | nil => rfl
  | cons item rest ih =>
    rw [List.mapM_cons, List.mapM_cons, ih]
    cases f item with
    | error e => rfl
    | ok value => cases rest.mapM f <;> rfl

theorem mapM_congr_mem {ε α β : Type} {f g : α → Except ε β} {items : List α}
    (same : ∀ item ∈ items, f item = g item) : items.mapM f = items.mapM g := by
  induction items with
  | nil => rfl
  | cons item rest ih =>
    rw [List.forall_mem_cons] at same
    rw [List.mapM_cons, List.mapM_cons, same.1, ih same.2]

theorem bind_eq_map {ε α β : Type} {x : Except ε α} {f : α → Except ε β} {g : α → β}
    (same : ∀ a, x = .ok a → f a = .ok (g a)) : x >>= f = x.map g := by
  cases x with
  | error e => rfl
  | ok a => exact same a rfl

theorem mapM_shared {ε α β γ : Type} {x : Except ε α} {f : γ → α → Except ε β} {items : List γ}
    (someItem : items ≠ []) :
    items.mapM (fun item => x >>= f item) = x >>= fun a => items.mapM fun item => f item a := by
  cases x with
  | ok a => rfl
  | error e =>
    cases items with
    | nil => exact absurd rfl someItem
    | cons item rest => rw [List.mapM_cons]; rfl

namespace Where

theorem ofItem_object (connective : Connective) (key : String) (value : Json) :
    ofItem connective (.object [(key, value)]) = ofMember key value := by
  rw [ofItem, ofJson, ofMembers_eq_mapM, List.mapM_cons]
  cases ofMember key value <;> rfl

theorem ofJson_and {items : List Json} (someItem : items ≠ []) :
    ofJson (.object [("and", .array items)]) =
      (items.mapM (ofItem .all)).map fun parts => some (all parts) := by
  have group : ofMember "and" (.array items) = (items.mapM (ofItem .all)).map all := by
    cases items with
    | nil => exact absurd rfl someItem
    | cons item rest => rw [← ofItems_eq_mapM]; rfl
  rw [ofJson, ofMembers_eq_mapM, List.mapM_cons, group]
  cases items.mapM (ofItem .all) <;> rfl

theorem ofParts_several {parts : List Where} (several : 2 ≤ parts.length) :
    ofParts parts = some (all parts) := by
  rcases parts with _ | ⟨first, _ | ⟨second, rest⟩⟩
  · simp at several
  · simp at several
  · rfl

theorem ofJson_members {members : List (String × Json)} (several : 2 ≤ members.length) :
    ofJson (.object members) =
      ofJson (.object [("and", .array (members.map fun member => .object [member]))]) := by
  have someItem : members.map (fun member => Json.object [member]) ≠ [] := by
    rintro noneLeft
    simp_all
  have items : (members.map fun member => Json.object [member]).mapM (ofItem .all) =
      members.mapM fun member => ofMember member.1 member.2 := by
    rw [List.mapM_map]
    exact congrArg (List.mapM · members) (funext fun member => ofItem_object .all member.1 member.2)
  rw [ofJson_and someItem, items, ofJson, ofMembers_eq_mapM]
  apply map_eq_map
  intro parts read
  apply ofParts_several
  rw [← (mapM_eq_ok.1 read).length_eq]
  exact several

theorem find?_optionsIn (operators : List (String × Json)) :
    Keyed.find? "options" (optionsIn operators) = Keyed.find? "options" operators := by
  induction operators with
  | nil => rfl
  | cons operator rest ih =>
    rw [optionsIn] at ih ⊢
    by_cases options : operator.1 = "options"
    · simp [Keyed.find?, options]
    · simp [Keyed.find?, options, ih]

theorem ignoresCase_operator (field : String) {operators : List (String × Json)}
    {operator : String × Json} (asked : operator ∈ askedOf operators) :
    ignoresCase field (operator :: optionsIn operators) = ignoresCase field operators := by
  have other : operator.1 ≠ "options" := by simp_all [askedOf]
  rw [ignoresCase, ignoresCase, Keyed.find?, if_neg other, find?_optionsIn]

theorem askedOf_operator {operators : List (String × Json)} {operator : String × Json}
    (asked : operator ∈ askedOf operators) :
    askedOf (operator :: optionsIn operators) = [operator] := by
  have other : operator.1 ≠ "options" := by simp_all [askedOf]
  simp [askedOf, optionsIn, other]

def joined (field : String) (value : Json) (parts : List Where) : Except Error Where :=
  match ofParts parts with
  | none => .error (.unsupportedPredicate field "\x7b\x7d" value)
  | some tree => .ok tree

theorem ofField_object (field : String) (operators : List (String × Json)) :
    ofField field (.object operators) = ignoresCase field operators >>= fun ignoreCase =>
      ((askedOf operators).mapM fun operator =>
        (testOf field operator.1 operator.2 ignoreCase).map (test field)) >>=
          joined field (.object operators) := by
  rw [ofField]
  apply congrArg (ignoresCase field operators >>= ·)
  funext ignoreCase
  rw [mapM_map_ok, askedOf]
  cases (operators.filter fun entry => entry.1 ≠ "options").mapM fun operator =>
      testOf field operator.1 operator.2 ignoreCase with
  | error e => rfl
  | ok tests => rcases tests with _ | ⟨first, _ | ⟨second, rest⟩⟩ <;> rfl

theorem ofField_operator {field : String} {operators : List (String × Json)}
    {operator : String × Json} (asked : operator ∈ askedOf operators) :
    ofField field (.object (operator :: optionsIn operators)) =
      ignoresCase field operators >>= fun ignoreCase =>
        (testOf field operator.1 operator.2 ignoreCase).map (test field) := by
  rw [ofField_object, ignoresCase_operator field asked, askedOf_operator asked]
  apply congrArg (ignoresCase field operators >>= ·)
  funext ignoreCase
  rw [List.mapM_cons]
  cases testOf field operator.1 operator.2 ignoreCase <;> rfl

theorem ofJson_operators {field : String} {operators : List (String × Json)}
    (apart : field ≠ "and" ∧ field ≠ "or") (several : 2 ≤ (askedOf operators).length) :
    ofJson (.object [(field, .object operators)]) =
      ofJson (.object [("and", .array ((askedOf operators).map fun operator =>
        .object [(field, .object (operator :: optionsIn operators))]))]) := by
  have own (value : Json) : ofMember field value = ofField field value :=
    (if_neg apart.1).trans (if_neg apart.2)
  have someOperator : askedOf operators ≠ [] := by
    rintro noneLeft
    simp [noneLeft] at several
  have someItem : (askedOf operators).map (fun operator =>
      Json.object [(field, .object (operator :: optionsIn operators))]) ≠ [] := by
    simpa using someOperator
  have items : ((askedOf operators).map fun operator =>
        Json.object [(field, .object (operator :: optionsIn operators))]).mapM (ofItem .all) =
      (askedOf operators).mapM fun operator => ignoresCase field operators >>= fun ignoreCase =>
        (testOf field operator.1 operator.2 ignoreCase).map (test field) := by
    rw [List.mapM_map]
    apply mapM_congr_mem
    intro operator asked
    rw [Function.comp, ofItem_object, own, ofField_operator asked]
  have together : ofField field (.object operators) =
      (((askedOf operators).mapM fun operator => ignoresCase field operators >>= fun ignoreCase =>
        (testOf field operator.1 operator.2 ignoreCase).map (test field)).map all) := by
    rw [ofField_object, mapM_shared someOperator]
    cases ignoresCase field operators with
    | error e => rfl
    | ok ignoreCase =>
      rw [bind_ok, bind_ok]
      apply bind_eq_map
      intro parts read
      rw [(mapM_eq_ok.1 read).length_eq] at several
      rw [joined, ofParts_several several]
  rw [ofJson_and someItem, items, ofJson, ofMembers_eq_mapM, List.mapM_cons, own, together]
  cases (askedOf operators).mapM fun operator => ignoresCase field operators >>= fun ignoreCase =>
    (testOf field operator.1 operator.2 ignoreCase).map (test field) <;> rfl

theorem ofJson_item {connective : Connective} {value long : Json}
    (same : ofJson value = ofJson long) (before after : List (String × Json))
    (earlier later : List Json) :
    ofJson (.object (before ++ (connective.key, .array (earlier ++ value :: later)) :: after)) =
      ofJson (.object (before ++ (connective.key, .array (earlier ++ long :: later)) :: after)) := by
  have item : ofItem connective value = ofItem connective long := by rw [ofItem, ofItem, same]
  have group : ofGroup connective (.array (earlier ++ value :: later)) =
      ofGroup connective (.array (earlier ++ long :: later)) := by
    simp [ofGroup, ofItems_eq_mapM, mapM_replaced item]
  have member : ofMember connective.key (.array (earlier ++ value :: later)) =
      ofMember connective.key (.array (earlier ++ long :: later)) := by
    cases connective <;> exact group
  rw [ofJson, ofJson, ofMembers_eq_mapM, ofMembers_eq_mapM]
  exact congrArg (Except.map ofParts)
    (mapM_replaced (f := fun member => ofMember member.1 member.2) member before after)

end Where

namespace Filter

theorem orderOf_texts (texts : List String) :
    orderOf (.array (texts.map .string)) = texts.mapM OrderBy.parse := by
  have read : texts.mapM (fun text => (Except.ok text : Except Error String)) = .ok texts := by
    rw [mapM_eq_ok, List.forall₂_same]
    exact fun text _ => rfl
  simp only [orderOf, List.mapM_map, Function.comp_def, read, bind_ok]

theorem orderOf_pieces (text : String) : orderOf (.string text) =
    orderOf (.array ((text.toList.splitOn ',').map fun piece => .string (String.ofList piece))) := by
  have texts := orderOf_texts ((text.toList.splitOn ',').map String.ofList)
  rw [List.map_map] at texts
  rw [orderOf_text, Text.pieces_eq_splitOn]
  exact texts.symm

theorem relationIn_eq_none_iff {members : List (String × Json)} :
    relationIn members = none ↔ ¬ Keyed.NamesRelation members := by
  rw [relationIn_eq_none, Keyed.find?_eq_none, Keyed.find?_eq_none, Keyed.NamesRelation, not_or]

theorem includesOf_array (items : List Json) :
    includesOf (.array items) = (items.mapM includesOf).map List.flatten := by
  rw [includesOf, includesOfItems_eq_mapM]

theorem includesOf_cons (item : Json) (items : List Json) :
    includesOf (.array (item :: items)) = includesOf item >>= fun includes =>
      (includesOf (.array items)).map (includes ++ ·) := by
  rw [includesOf_array, includesOf_array, List.mapM_cons]
  cases includesOf item with
  | error e => rfl
  | ok includes => cases items.mapM includesOf <;> rfl

theorem includesOf_append (items others : List Json) :
    includesOf (.array (items ++ others)) = includesOf (.array items) >>= fun includes =>
      (includesOf (.array others)).map (includes ++ ·) := by
  induction items with
  | nil =>
    have first : includesOf (.array []) = .ok [] := rfl
    rw [List.nil_append, first, bind_ok]
    cases includesOf (.array others) <;> rfl
  | cons item items ih =>
    rw [List.cons_append, includesOf_cons, includesOf_cons, ih]
    cases includesOf item with
    | error e => rfl
    | ok first =>
      cases includesOf (.array items) with
      | error e => rfl
      | ok second => cases includesOf (.array others) <;> simp [Except.map]

theorem includesOf_flattened {items flat : List Json} (flattened : Flattened items flat) :
    includesOf (.array items) = includesOf (.array flat) := by
  induction flattened with
  | nil => rfl
  | kept item rest ih => rw [includesOf_cons, includesOf_cons, ih]
  | opened own rest inner ih => rw [includesOf_cons, includesOf_append, inner, ih]

theorem scopeOf_some {value : Json} (given : value ≠ .null) :
    scopeOf (some value) = (ofJson value).map some := by
  cases value <;> first | rfl | exact absurd rfl given

theorem nestedScope_eq {nested : Json} (notNull : nested ≠ .null)
    (notBare : nested ≠ .bool true) :
    nestedScope nested = (includesOf nested).map fun includes => some { includes } := by
  unfold nestedScope
  split <;> first | rfl | contradiction

theorem includesOf_named (relation : String) (members : List (String × Json)) :
    includesOf (.object (("relation", .string relation) :: members)) =
      (scopeOf (Keyed.find? "scope" members)).map fun scope => [⟨relation, scope⟩] := by
  rw [includesOf, scopeIn_eq]
  rfl

theorem ofJson_include (nested : Json) :
    ofJson (.object [("include", nested)]) =
      (includesOf nested).map fun includes => { includes } := by
  rw [ofJson, ofMembers_eq_foldlM, List.foldlM_cons]
  cases h : includesOf nested <;> simp [ofMember, h, Except.map]

theorem includesOf_longInclude (relation : String) (nested : Json) :
    includesOf (longInclude relation nested) =
      (nestedScope nested).map fun scope => [⟨relation, scope⟩] := by
  unfold longInclude
  split
  next => rfl
  next => rfl
  next notNull notBare =>
    have scope : Keyed.find? "scope" [("scope", Json.object [("include", nested)])] =
        some (.object [("include", nested)]) := rfl
    rw [includesOf_named, scope, scopeOf_some (by simp), ofJson_include,
      nestedScope_eq notNull notBare]
    cases includesOf nested <;> rfl

theorem includesOf_relations {members : List (String × Json)}
    (unnamed : ¬ Keyed.NamesRelation members) :
    includesOf (.object members) =
      includesOf (.array (members.map fun member => longInclude member.1 member.2)) := by
  have own : includesOf (.object members) = shorthandIncludes members := by
    rw [includesOf, relationIn_eq_none_iff.2 unnamed]
  have single (includes : List (Include Filter)) :
      (includes.map fun one => [one]).flatten = includes := by
    rw [← List.flatMap_def, List.flatMap_singleton']
  have each (member : String × Json) : includesOf (longInclude member.1 member.2) =
      ((nestedScope member.2).map (Include.mk member.1)).map fun one => [one] := by
    rw [includesOf_longInclude]
    cases nestedScope member.2 <;> rfl
  rw [own, shorthandIncludes_eq_mapM, includesOf_array, List.mapM_map, Function.comp_def]
  simp only [each]
  rw [mapM_map_ok]
  cases members.mapM fun member => (nestedScope member.2).map (Include.mk member.1) with
  | error e => rfl
  | ok includes => exact congrArg Except.ok (single includes).symm

theorem find?_replaced {α : Type} {read : Option Json → α} {value long : Json}
    (same : read (some value) = read (some long)) (name : String)
    (before after : List (String × Json)) :
    read (Keyed.find? name (before ++ (name, value) :: after)) =
      read (Keyed.find? name (before ++ (name, long) :: after)) := by
  induction before with
  | nil => simpa [Keyed.find?] using same
  | cons member before ih =>
    by_cases found : member.1 = name
    · simp [Keyed.find?, found]
    · simpa [Keyed.find?, found] using ih

theorem find?_apart {name other : String} (apart : other ≠ name) (value : Json)
    (before after : List (String × Json)) :
    Keyed.find? name (before ++ (other, value) :: after) =
      Keyed.find? name (before ++ after) := by
  induction before with
  | nil => simp [Keyed.find?, apart]
  | cons member before ih =>
    by_cases found : member.1 = name
    · simp [Keyed.find?, found]
    · simpa [Keyed.find?, found] using ih

theorem relationIn_scope (value : Json) (before after : List (String × Json)) :
    relationIn (before ++ ("scope", value) :: after) = relationIn (before ++ after) := by
  rw [relationIn, relationIn, find?_apart (by decide), find?_apart (by decide)]

theorem includesOf_scope {value long : Json}
    (same : scopeOf (some value) = scopeOf (some long)) {before after : List (String × Json)}
    (named : Keyed.NamesRelation (before ++ after)) :
    includesOf (.object (before ++ ("scope", value) :: after)) =
      includesOf (.object (before ++ ("scope", long) :: after)) := by
  have scope := find?_replaced same "scope" before after
  rw [includesOf, includesOf, scopeIn_eq, scopeIn_eq, relationIn_scope, relationIn_scope, scope]
  cases read : relationIn (before ++ after) with
  | none => exact (relationIn_eq_none_iff.1 read named).elim
  | some relation => cases relation <;> rfl

theorem includesOf_relation {value long : Json} (same : nestedScope value = nestedScope long)
    {before after : List (String × Json)} {name : String}
    (unnamed : ¬ Keyed.NamesRelation (before ++ (name, value) :: after)) :
    includesOf (.object (before ++ (name, value) :: after)) =
      includesOf (.object (before ++ (name, long) :: after)) := by
  have unnamed' : ¬ Keyed.NamesRelation (before ++ (name, long) :: after) := by
    rw [Keyed.NamesRelation, List.map_append, List.map_cons] at unnamed ⊢
    exact unnamed
  rw [includesOf, includesOf, relationIn_eq_none_iff.2 unnamed, relationIn_eq_none_iff.2 unnamed',
    shorthandIncludes_eq_mapM, shorthandIncludes_eq_mapM]
  apply mapM_replaced
  exact congrArg (Except.map (Include.mk name)) same

theorem ofJson_member {value long : Json} {name : String}
    (same : ∀ filter, ofMember filter (name, value) = ofMember filter (name, long))
    (before after : List (String × Json)) :
    ofJson (.object (before ++ (name, value) :: after)) =
      ofJson (.object (before ++ (name, long) :: after)) := by
  rw [ofJson, ofJson, ofMembers_eq_foldlM, ofMembers_eq_foldlM]
  exact foldlM_replaced same before after {}

theorem includesOf_item {value long : Json} (same : includesOf value = includesOf long)
    (earlier later : List Json) :
    includesOf (.array (earlier ++ value :: later)) =
      includesOf (.array (earlier ++ long :: later)) := by
  rw [includesOf_array, includesOf_array, mapM_replaced same]

end Filter

namespace Lengthens

variable {value long : Json}

theorem filter_objects (lengthens : Lengthens .filter value long) :
    value ≠ .null ∧ long ≠ .null := by
  cases lengthens <;> simp

theorem includes_nested (lengthens : Lengthens .includes value long) :
    (value ≠ .null ∧ value ≠ .bool true) ∧ long ≠ .null ∧ long ≠ .bool true := by
  cases lengthens <;> simp

theorem scopeOf_eq (lengthens : Lengthens .filter value long)
    (same : Filter.ofJson value = Filter.ofJson long) :
    Filter.scopeOf (some value) = Filter.scopeOf (some long) := by
  obtain ⟨given, given'⟩ := lengthens.filter_objects
  rw [Filter.scopeOf_some given, Filter.scopeOf_some given', same]

theorem nestedScope_eq (lengthens : Lengthens .includes value long)
    (same : Filter.includesOf value = Filter.includesOf long) :
    Filter.nestedScope value = Filter.nestedScope long := by
  obtain ⟨⟨notNull, notBare⟩, notNull', notBare'⟩ := lengthens.includes_nested
  rw [Filter.nestedScope_eq notNull notBare, Filter.nestedScope_eq notNull' notBare', same]

theorem read_eq {place : Place} (lengthens : Lengthens place value long) :
    place.read value = place.read long := by
  -- The long forms are read like the shorthands, and what holds a part reads it once.
  induction lengthens with
  | members several => exact Where.ofJson_members several
  | operators apart several => exact Where.ofJson_operators apart several
  | order text => exact Filter.orderOf_pieces text
  | name relation => rfl
  | flattened flattened => exact Filter.includesOf_flattened flattened
  | relations unnamed => exact Filter.includesOf_relations unnamed
  | inCondition _ ih | inOrder _ ih | inIncludes _ ih =>
    apply Filter.ofJson_member
    intro filter
    exact congrArg (Except.map _) ih
  | inGroup connective _ ih => exact Where.ofJson_item ih _ _ _ _
  | inItem _ ih => exact Filter.includesOf_item ih _ _
  | inScope named inner ih => exact Filter.includesOf_scope (inner.scopeOf_eq ih) named
  | inRelation unnamed inner ih => exact Filter.includesOf_relation (inner.nestedScope_eq ih) unnamed

end Lengthens

theorem Filter.ofJson_lengthened {value long : Json} (lengthens : Lengthens .filter value long) :
    ofJson value = ofJson long :=
  lengthens.read_eq

def Sample.scoped (condition : Json) : Json :=
  .object
    [("limit", .null),
      ("include", .array
        [.string "tags",
          .object [("relation", .string "orders"), ("scope", .object [("where", condition)])]])]

def Sample.bounds : Json :=
  .object [("name", .object [("like", .string "a%"), ("options", .string "i"), ("near", .null)])]

def Sample.boundsApart : Json :=
  .object
    [("and", .array
      [.object [("name", .object [("like", .string "a%"), ("options", .string "i")])],
        .object [("name", .object [("near", .null), ("options", .string "i")])]])]

theorem ofJson_lengthened_scope :
    Lengthens .filter (Sample.scoped Sample.bounds) (Sample.scoped Sample.boundsApart) ∧
      Filter.ofJson (Sample.scoped Sample.bounds) =
        Filter.ofJson (Sample.scoped Sample.boundsApart) := by
  have operators : Lengthens .condition Sample.bounds Sample.boundsApart :=
    .operators (by decide) (by decide)
  have scope : Lengthens .filter (.object [("where", Sample.bounds)])
      (.object [("where", Sample.boundsApart)]) := @Lengthens.inCondition [] [] _ _ operators
  have included : Lengthens .includes
      (.object [("relation", .string "orders"), ("scope", .object [("where", Sample.bounds)])])
      (.object
        [("relation", .string "orders"), ("scope", .object [("where", Sample.boundsApart)])]) :=
    @Lengthens.inScope [("relation", .string "orders")] [] _ _ (.inl (by decide)) scope
  have place : Lengthens .filter (Sample.scoped Sample.bounds)
      (Sample.scoped Sample.boundsApart) :=
    @Lengthens.inIncludes [("limit", .null)] [] _ _
      (@Lengthens.inItem [.string "tags"] [] _ _ included)
  exact ⟨place, Filter.ofJson_lengthened place⟩

end NestedQuery
