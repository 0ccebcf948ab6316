import NestedQuery.Filter.OfJson
import NestedQuery.Proofs.Taking

set_option autoImplicit false

namespace NestedQuery

@[elab_as_elim]
theorem Json.induction {motive : Json → Prop} (null : motive .null) (bool : ∀ b, motive (.bool b))
    (number : ∀ n, motive (.number n)) (string : ∀ s, motive (.string s))
    (array : ∀ items, (∀ item ∈ items, motive item) → motive (.array items))
    (object : ∀ members, (∀ member ∈ members, motive member.2) → motive (.object members)) :
    ∀ value, motive value
  | .null => null
  | .bool b => bool b
  | .number n => number n
  | .string s => string s
  | .array items => array items fun item _ => induction null bool number string array object item
  | .object members =>
    object members fun ⟨_, value⟩ _ => induction null bool number string array object value
termination_by value => sizeOf value
decreasing_by
  all_goals
    have smaller := List.sizeOf_lt_of_mem ‹_ ∈ _›
    simp only [Json.array.sizeOf_spec, Json.object.sizeOf_spec, Prod.mk.sizeOf_spec] at smaller ⊢
    omega

theorem mapM_eq_ok_iff {ε α β : Type} {f : α → Except ε β} {g : β → α}
    (undoes : ∀ a b, f a = .ok b ↔ a = g b) {items : List α} {values : List β} :
    items.mapM f = .ok values ↔ items = values.map g := by
  rw [mapM_eq_ok]
  simp only [undoes]
  rw [← List.forall₂_map_right_iff (R := Eq), List.forall₂_eq_eq_eq]

namespace Where

def ofMember (key : String) (value : Json) : Except Error Where :=
  if key = Connective.all.key then ofGroup .all value
  else if key = Connective.any.key then ofGroup .any value
  else ofField key value

theorem ofMembers_eq_mapM (members : List (String × Json)) :
    ofMembers members = members.mapM fun member => ofMember member.1 member.2 := by
  induction members with
  | nil => rfl
  | cons member rest ih =>
    obtain ⟨key, value⟩ := member
    rw [List.mapM_cons, ← ih, ofMembers, ofMember]
    split
    · rfl
    · split <;> rfl

def ofItem (connective : Connective) (item : Json) : Except Error Where := do
  match ← ofJson item with
  | none => refused (.emptyClause connective)
  | some part => return part

theorem ofItems_eq_mapM (connective : Connective) (items : List Json) :
    ofItems connective items = items.mapM (ofItem connective) := by
  induction items with
  | nil => rfl
  | cons item rest ih =>
    rw [List.mapM_cons, ← ih, ofItems, ofItem]
    cases ofJson item with
    | error e => rfl
    | ok part? => cases part? <;> rfl

end Where

namespace Filter

theorem texts_eq_ok {fault : Json → FilterFault} {read : Json → Except Error String}
    (step : ∀ item, read item = match item with
      | .string text => .ok text
      | other => refused (fault other)) {items : List Json} {texts : List String} :
    items.mapM read = .ok texts ↔ items = texts.map .string := by
  apply mapM_eq_ok_iff
  intro item text
  rw [step]
  cases item <;> simp [refused]

theorem orderOf_text (text : String) : orderOf (.string text) =
    ((Text.pieces ',' text.toList).map String.ofList).mapM OrderBy.parse := rfl

theorem orderOf_array {items : List Json} {order : List OrderBy} :
    orderOf (.array items) = .ok order ↔
      ∃ texts : List String, items = texts.map .string ∧ texts.mapM OrderBy.parse = .ok order := by
  unfold orderOf
  rw [bind_eq_ok]
  exact exists_congr fun texts => and_congr (texts_eq_ok fun item => by cases item <;> rfl) Iff.rfl

theorem fieldsOf_array {items : List Json} {fields : Option Fields} :
    fieldsOf (.array items) = .ok fields ↔ ∃ names : List String, items = names.map .string ∧
      (if names.isEmpty then none else some (.only names)) = fields := by
  unfold fieldsOf
  rw [bind_eq_ok]
  apply exists_congr
  intro names
  apply and_congr
  · exact texts_eq_ok fun item => by cases item <;> rfl
  · simp only [pure, Except.pure, Except.ok.injEq]

def fieldsOfFlags (flags : List (String × Bool)) : Option Fields :=
  let only := (flags.filter Prod.snd).map Prod.fst
  if !only.isEmpty then some (.only only)
  else if !flags.isEmpty then some (.except (flags.map Prod.fst))
  else none

theorem fieldsOf_object {members : List (String × Json)} {fields : Option Fields} :
    fieldsOf (.object members) = .ok fields ↔
      ∃ flags : List (String × Bool), members = flags.map (fun flag => (flag.1, .bool flag.2)) ∧
        fieldsOfFlags flags = fields := by
  unfold fieldsOf
  rw [bind_eq_ok]
  apply exists_congr
  intro flags
  apply and_congr
  · apply mapM_eq_ok_iff
    intro member flag
    obtain ⟨name, value⟩ := member
    cases value <;> simp [refused, Prod.ext_iff, eq_comm]
  · simp only [fieldsOfFlags, pure, Except.pure, Except.ok.injEq]

def ofMember (filter : Filter) (member : String × Json) : Except Error Filter :=
  match member.1 with
  | "where" => (Where.ofJson member.2).map fun condition => { filter with condition }
  | "order" => (orderOf member.2).map fun order => { filter with order }
  | "limit" => (countOf member.1 member.2).map fun limit => { filter with limit }
  | "skip" | "offset" => (countOf member.1 member.2).map fun skip => { filter with skip }
  | "fields" => (fieldsOf member.2).map fun fields => { filter with fields }
  | "include" => (includesOf member.2).map fun includes => { filter with includes }
  | other => refused (.unknownKey other)

theorem ofMembers_eq_foldlM (filter : Filter) (members : List (String × Json)) :
    ofMembers filter members = members.foldlM ofMember filter := by
  induction members generalizing filter with
  | nil => rfl
  | cons member rest ih =>
    obtain ⟨key, value⟩ := member
    rw [List.foldlM_cons]
    unfold ofMembers
    simp only [ih]
    split
    case h_8 =>
      have unknown : ofMember filter (key, value) = refused (.unknownKey key) := by
        unfold ofMember
        split <;> simp_all
      rw [unknown]
    all_goals rfl

theorem includesOfItems_eq_mapM (items : List Json) :
    includesOfItems items = (items.mapM includesOf).map List.flatten := by
  induction items with
  | nil => rfl
  | cons item rest ih =>
    rw [List.mapM_cons, includesOfItems, ih]
    cases includesOf item with
    | error e => rfl
    | ok includes => cases rest.mapM includesOf <;> rfl

def scopeOf (scope? : Option Json) : Except Error (Option Filter) :=
  match scope? with
  | none | some .null => .ok none
  | some value => (ofJson value).map some

theorem scopeIn_eq (members : List (String × Json)) :
    scopeIn members = scopeOf (Keyed.find? "scope" members) := by
  induction members with
  | nil => rfl
  | cons member rest ih =>
    obtain ⟨key, value⟩ := member
    rw [scopeIn, ih]
    by_cases named : key = "scope"
    · cases value <;> simp [named, Keyed.find?, scopeOf, Json.isNull]
    · simp [named, Keyed.find?]

def nestedScope (nested : Json) : Except Error (Option Filter) :=
  match nested with
  | .null => .ok none
  | .bool true => .ok none
  | nested => (includesOf nested).map fun includes => some { includes }

theorem shorthandIncludes_eq_mapM (members : List (String × Json)) :
    shorthandIncludes members = members.mapM fun member =>
      (nestedScope member.2).map (Include.mk member.1) := by
  induction members with
  | nil => rfl
  | cons member rest ih =>
    obtain ⟨name, nested⟩ := member
    rw [List.mapM_cons]
    unfold shorthandIncludes
    simp only [ih]
    split
    · rfl
    · rfl
    next notNull notBare =>
      have filtered : nestedScope nested =
          (includesOf nested).map fun includes => some { includes } := by
        unfold nestedScope
        split <;> simp_all
      rw [filtered]
      cases includesOf nested <;> rfl

end Filter

end NestedQuery
