import NestedQuery.Proofs.OrderEntries

set_option autoImplicit false

namespace NestedQuery

theorem map_succeeds {ε α β : Type} {x : Except ε α} {f : α → β} :
    (∃ b, x.map f = .ok b) ↔ ∃ a, x = .ok a := by
  cases x <;> simp [Except.map]

theorem bind_succeeds {ε α β : Type} {x : Except ε α} {f : α → Except ε β} {first next : Prop}
    (own : (∃ a, x = .ok a) ↔ first) (others : ∀ a, x = .ok a → ((∃ b, f a = .ok b) ↔ next)) :
    (∃ b, (x >>= f) = .ok b) ↔ first ∧ next := by
  rw [← own]
  cases x with
  | error e => simp
  | ok a => simpa using others a rfl

namespace Json

inductive IsScalar : Json → Prop
  | bool (b : Bool) : IsScalar (.bool b)
  | number (n : Number) : IsScalar (.number n)
  | string (s : String) : IsScalar (.string s)

inductive IsText : Json → Prop
  | string (s : String) : IsText (.string s)

end Json

namespace Where

inductive Takes : String → Json → Prop
  | equality {operator : String} {operand : Json} (named : operator ∈ ["eq", "neq", "ne"])
      (fits : operand = .null ∨ operand.IsScalar) : Takes operator operand
  | comparison {operator : String} {operand : Json} (named : operator ∈ ["gt", "gte", "lt", "lte"])
      (fits : operand.IsScalar) : Takes operator operand
  | range {low high : Json} (fromLow : low.IsScalar) (toHigh : high.IsScalar) :
      Takes "between" (.array [low, high])
  | membership {operator : String} {items : List Json}
      (named : operator ∈ ["in", "inq", "nin", "notIn"]) (each : ∀ item ∈ items, item.IsScalar) :
      Takes operator (.array items)
  | pattern {operator : String} {operand : Json}
      (named : operator ∈ ["like", "nlike", "notLike", "ilike", "nilike", "regexp"])
      (fits : operand.IsText) : Takes operator operand

mutual

inductive Form : Json → Prop
  | null : Form .null
  | object {members : List (String × Json)} (each : ∀ member ∈ members, Clause member.1 member.2) :
      Form (.object members)

inductive Clause : String → Json → Prop
  | group {key : String} {items : List Json} (connective : key = "and" ∨ key = "or")
      (someItem : items ≠ []) (each : ∀ item ∈ items, Form item)
      (full : ∀ item ∈ items, item ≠ .null ∧ item ≠ .object []) : Clause key (.array items)
  | null {field : String} (apart : field ≠ "and" ∧ field ≠ "or") : Clause field .null
  | scalar {field : String} {value : Json} (apart : field ≠ "and" ∧ field ≠ "or")
      (fits : value.IsScalar) : Clause field value
  | operators {field : String} {operators : List (String × Json)}
      (apart : field ≠ "and" ∧ field ≠ "or")
      (options : ∀ value, Keyed.find? "options" operators = some value → value.IsText)
      (someOperator : ∃ entry ∈ operators, entry.1 ≠ "options")
      (each : ∀ entry ∈ operators, entry.1 ≠ "options" → Takes entry.1 entry.2) :
      Clause field (.object operators)

end

theorem form_iff {value : Json} : Form value ↔
    value = .null ∨ ∃ members, value = .object members ∧
      ∀ member ∈ members, Clause member.1 member.2 := by
  constructor
  · intro form
    cases form with
    | null => exact .inl rfl
    | object each => exact .inr ⟨_, rfl, each⟩
  · rintro (rfl | ⟨members, rfl, each⟩)
    · exact .null
    · exact .object each

theorem literalOf_succeeds (field operator : String) {operand : Json} :
    (∃ literal, literalOf field operator operand = .ok literal) ↔ operand.IsScalar := by
  unfold literalOf
  cases operand with
  | bool b => simpa [Literal.ofJson?] using Json.IsScalar.bool b
  | number n => cases n <;> simpa [Literal.ofJson?] using Json.IsScalar.number _
  | string s => simpa [Literal.ofJson?] using Json.IsScalar.string s
  | null | array _ | object _ =>
    simp only [Literal.ofJson?, reduceCtorEq, exists_false, false_iff]
    rintro ⟨⟩

theorem patternOf_succeeds {field operator : String} {operand : Json} {ignoreCase : Bool} :
    (∃ pattern, patternOf field operator operand ignoreCase = .ok pattern) ↔ operand.IsText := by
  cases operand with
  | string s => simpa [patternOf] using Json.IsText.string s
  | _ =>
    simp only [patternOf, reduceCtorEq, exists_false, false_iff]
    rintro ⟨⟩

theorem equalityOf_succeeds {field operator : String} {operand : Json} {comparison : Comparison}
    {ofNull : Test Literal} :
    (∃ test, equalityOf field operator operand comparison ofNull = .ok test) ↔
      operand = .null ∨ operand.IsScalar := by
  cases operand with
  | null => simp [equalityOf, Json.isNull]
  | _ => simp [equalityOf, Json.isNull, map_succeeds, literalOf_succeeds]

theorem literalsOf_eq_ok {field operator : String} {operand : Json} {literals : List Literal} :
    literalsOf field operator operand = .ok literals ↔
      ∃ items, operand = .array items ∧
        List.Forall₂ (fun item literal => literalOf field operator item = .ok literal) items
          literals := by
  cases operand with
  | array items => simp [literalsOf, mapM_eq_ok]
  | _ => simp [literalsOf]

theorem literalsOf_succeeds {field operator : String} {operand : Json} :
    (∃ literals, literalsOf field operator operand = .ok literals) ↔
      ∃ items, operand = .array items ∧ ∀ item ∈ items, item.IsScalar := by
  cases operand with
  | array items => simp [literalsOf, mapM_succeeds, literalOf_succeeds]
  | _ => simp [literalsOf]

theorem testOf_between {field : String} {operand : Json} {ignoreCase : Bool} {test : Test Literal} :
    testOf field "between" operand ignoreCase = .ok test ↔
      ∃ low high, literalsOf field "between" operand = .ok [low, high] ∧
        test = .between low high := by
  simp only [testOf, bind_eq_ok]
  constructor
  · rintro ⟨literals, read, shape⟩
    split at shape <;> cases shape
    exact ⟨_, _, read, rfl⟩
  · rintro ⟨low, high, read, rfl⟩
    exact ⟨_, read, rfl⟩

theorem between_succeeds {field : String} {operand : Json} {ignoreCase : Bool} :
    (∃ test, testOf field "between" operand ignoreCase = .ok test) ↔
      ∃ low high, operand = .array [low, high] ∧ low.IsScalar ∧ high.IsScalar := by
  simp only [testOf_between, literalsOf_eq_ok, List.forall₂_cons_right_iff,
    List.forall₂_nil_right_iff, ← literalOf_succeeds field "between"]
  constructor
  · rintro ⟨_, low, high, ⟨_, rfl, first, _, fromLow, ⟨second, _, toHigh, rfl, rfl⟩, rfl⟩, rfl⟩
    exact ⟨first, second, rfl, ⟨low, fromLow⟩, high, toHigh⟩
  · rintro ⟨first, second, rfl, ⟨low, fromLow⟩, high, toHigh⟩
    exact ⟨_, low, high, ⟨_, rfl, first, _, fromLow, ⟨second, _, toHigh, rfl, rfl⟩, rfl⟩, rfl⟩

theorem takes_iff {operator : String} {operand : Json} : Takes operator operand ↔
    (operator ∈ ["eq", "neq", "ne"] ∧ (operand = .null ∨ operand.IsScalar)) ∨
    (operator ∈ ["gt", "gte", "lt", "lte"] ∧ operand.IsScalar) ∨
    (operator = "between" ∧ ∃ low high, operand = .array [low, high] ∧ low.IsScalar ∧
      high.IsScalar) ∨
    (operator ∈ ["in", "inq", "nin", "notIn"] ∧ ∃ items, operand = .array items ∧
      ∀ item ∈ items, item.IsScalar) ∨
    (operator ∈ ["like", "nlike", "notLike", "ilike", "nilike", "regexp"] ∧ operand.IsText) := by
  constructor
  · intro takes
    cases takes with
    | equality named fits => exact .inl ⟨named, fits⟩
    | comparison named fits => exact .inr (.inl ⟨named, fits⟩)
    | range fromLow toHigh => exact .inr (.inr (.inl ⟨rfl, _, _, rfl, fromLow, toHigh⟩))
    | membership named each => exact .inr (.inr (.inr (.inl ⟨named, _, rfl, each⟩)))
    | pattern named fits => exact .inr (.inr (.inr (.inr ⟨named, fits⟩)))
  · rintro (⟨named, fits⟩ | ⟨named, fits⟩ | ⟨rfl, low, high, rfl, fromLow, toHigh⟩ |
      ⟨named, items, rfl, each⟩ | ⟨named, fits⟩)
    · exact .equality named fits
    · exact .comparison named fits
    · exact .range fromLow toHigh
    · exact .membership named each
    · exact .pattern named fits

theorem testOf_succeeds {field operator : String} {operand : Json} {ignoreCase : Bool} :
    (∃ test, testOf field operator operand ignoreCase = .ok test) ↔ Takes operator operand := by
  rw [takes_iff]
  by_cases range : operator = "between"
  · subst range
    simp [between_succeeds]
  unfold testOf
  split
  -- Equality, comparisons, `between`, lists and patterns, in the order of the operators.
  case h_1 | h_2 | h_3 => simp [equalityOf_succeeds]
  case h_4 | h_5 | h_6 | h_7 => simp [map_succeeds, literalOf_succeeds]
  case h_8 => exact absurd rfl range
  case h_9 | h_10 | h_11 | h_12 => simp [map_succeeds, literalsOf_succeeds]
  case h_13 | h_14 | h_15 | h_16 | h_17 | h_18 => simp [map_succeeds, patternOf_succeeds]
  case h_19 => simp_all

theorem ignoresCase_succeeds (field : String) {operators : List (String × Json)} :
    (∃ flag, ignoresCase field operators = .ok flag) ↔
      ∀ value, Keyed.find? "options" operators = some value → value.IsText := by
  unfold ignoresCase
  cases Keyed.find? "options" operators with
  | none => simp
  | some value =>
    cases value with
    | string flags => simpa using Json.IsText.string flags
    | _ =>
      simp only [reduceCtorEq, exists_false, Option.some.injEq, forall_eq', false_iff]
      rintro ⟨⟩

theorem ofOperators_succeeds {field : String} {operators : List (String × Json)} :
    (∃ part, ofField field (.object operators) = .ok part) ↔
      (∀ value, Keyed.find? "options" operators = some value → value.IsText) ∧
        (∀ entry ∈ operators, entry.1 ≠ "options" → Takes entry.1 entry.2) ∧
        ∃ entry ∈ operators, entry.1 ≠ "options" := by
  rw [← ignoresCase_succeeds field]
  apply bind_succeeds Iff.rfl
  intro ignoreCase _
  have each : (∃ tests, (operators.filter fun entry => entry.1 ≠ "options").mapM
        (fun entry => testOf field entry.1 entry.2 ignoreCase) = .ok tests) ↔
      ∀ entry ∈ operators, entry.1 ≠ "options" → Takes entry.1 entry.2 := by
    simp [mapM_succeeds, testOf_succeeds]
  apply bind_succeeds each
  intro tests read
  -- There are as many tests as operators.
  have length := (mapM_eq_ok.1 read).length_eq
  have someTest : tests ≠ [] ↔ ∃ entry ∈ operators, entry.1 ≠ "options" := by
    rw [← List.length_pos_iff, ← length, List.length_pos_iff]
    simp
  rw [← someTest]
  rcases tests with - | ⟨first, - | ⟨second, rest⟩⟩ <;> simp [pure, Except.pure]

theorem ofField_succeeds {field : String} (apart : field ≠ "and" ∧ field ≠ "or") {value : Json} :
    (∃ part, ofField field value = .ok part) ↔ Clause field value := by
  have scalar {value : Json} (other : ∀ operators, value ≠ .object operators)
      (given : value ≠ .null) : Clause field value ↔ value.IsScalar := by
    constructor
    · intro clause
      cases clause with
      | group connective => simp [apart] at connective
      | null => exact absurd rfl given
      | scalar apart fits => exact fits
      | operators => exact absurd rfl (other _)
    · exact .scalar apart
  cases value with
  | null => simpa [ofField, pure, Except.pure] using Clause.null apart
  | object operators =>
    rw [ofOperators_succeeds]
    constructor
    · rintro ⟨options, each, someOperator⟩
      exact .operators apart options someOperator each
    · intro clause
      cases clause with
      | scalar apart fits => cases fits
      | operators apart options someOperator each => exact ⟨options, each, someOperator⟩
  | _ =>
    rw [scalar (by simp) (by simp), ← literalOf_succeeds field "eq"]
    simp [ofField, bind_eq_ok, pure, Except.pure]

theorem ofJson_eq_none {value : Json} :
    ofJson value = .ok none ↔ value = .null ∨ value = .object [] := by
  cases value with
  | null => simp [ofJson]
  | object members =>
    simp only [ofJson, map_eq_ok, ofMembers_eq_mapM, reduceCtorEq, false_or, Json.object.injEq]
    constructor
    · intro silent
      obtain ⟨parts, read, noneLeft⟩ := silent
      have length := (mapM_eq_ok.1 read).length_eq
      unfold ofParts at noneLeft
      split at noneLeft <;> cases noneLeft
      exact List.length_eq_zero_iff.1 length
    · rintro rfl
      exact ⟨[], rfl, rfl⟩
  | _ => simp [ofJson, refused]

theorem ofItem_succeeds {connective : Connective} {item : Json} :
    (∃ part, ofItem connective item = .ok part) ↔
      (∃ condition, ofJson item = .ok condition) ∧ item ≠ .null ∧ item ≠ .object [] := by
  rw [← not_or, ← ofJson_eq_none, ofItem]
  cases ofJson item with
  | error e => simp
  | ok part? => cases part? <;> simp [refused, pure, Except.pure]

theorem clause_connective {connective : Connective} {value : Json} :
    Clause connective.key value ↔ ∃ items, value = .array items ∧ items ≠ [] ∧
      ∀ item ∈ items, Form item ∧ item ≠ .null ∧ item ≠ .object [] := by
  have key : connective.key = "and" ∨ connective.key = "or" := by
    cases connective
    · exact .inl rfl
    · exact .inr rfl
  constructor
  · intro clause
    cases clause with
    | group _ someItem each full =>
      exact ⟨_, rfl, someItem, fun item mem => ⟨each item mem, full item mem⟩⟩
    | null apart | scalar apart | operators apart => simp [apart] at key
  · rintro ⟨items, rfl, someItem, each⟩
    exact .group key someItem (fun item mem => (each item mem).1) fun item mem => (each item mem).2

theorem ofGroup_succeeds {connective : Connective} {value : Json}
    (each : ∀ items, value = .array items → ∀ item ∈ items,
      ((∃ condition, ofJson item = .ok condition) ↔ Form item)) :
    (∃ part, ofGroup connective value = .ok part) ↔ Clause connective.key value := by
  rw [clause_connective]
  cases value with
  | array items =>
    have itemsSucceed : (∃ parts, ofItems connective items = .ok parts) ↔
        ∀ item ∈ items, Form item ∧ item ≠ .null ∧ item ≠ .object [] := by
      rw [ofItems_eq_mapM, mapM_succeeds]
      apply forall₂_congr
      intro item mem
      rw [ofItem_succeeds, each items rfl item mem]
    cases items with
    | nil => simp [ofGroup, refused]
    | cons item rest => simpa [ofGroup, map_succeeds] using itemsSucceed
  | _ => simp [ofGroup, refused]

theorem ofMember_succeeds {key : String} {value : Json}
    (groups : ∀ connective, (∃ part, ofGroup connective value = .ok part) ↔
      Clause connective.key value) :
    (∃ part, ofMember key value = .ok part) ↔ Clause key value := by
  unfold ofMember
  by_cases all : key = Connective.all.key
  · rw [if_pos all, groups, all]
  · by_cases any : key = Connective.any.key
    · rw [if_neg all, if_pos any, groups, any]
    · rw [if_neg all, if_neg any, ofField_succeeds ⟨all, any⟩]

theorem ofJson_succeeds (value : Json) :
    ((∃ condition, ofJson value = .ok condition) ↔ Form value) ∧
      ∀ connective, (∃ part, ofGroup connective value = .ok part) ↔
        Clause connective.key value := by
  induction value using Json.induction with
  | object members ih =>
    have membersSucceed : (∃ parts, ofMembers members = .ok parts) ↔
        ∀ member ∈ members, Clause member.1 member.2 := by
      rw [ofMembers_eq_mapM, mapM_succeeds]
      apply forall₂_congr
      intro member mem
      exact ofMember_succeeds (ih member mem).2
    refine ⟨?_, fun _ => ofGroup_succeeds (by simp)⟩
    rw [ofJson, map_succeeds, membersSucceed, form_iff]
    simp
  | array items ih =>
    refine ⟨by simp [ofJson, refused, form_iff], fun _ => ofGroup_succeeds ?_⟩
    intro _ same item mem
    cases same
    exact (ih item mem).1
  | null | bool | number | string =>
    exact ⟨by simp [ofJson, refused, form_iff], fun _ => ofGroup_succeeds (by simp)⟩

end Where

inductive OrderBy.Form (text : String) : Prop
  | field {name : List Char} (words : Text.HasWords text.toList [name])
  | directed {name direction : List Char} (words : Text.HasWords text.toList [name, direction])
      (known : direction.map Char.toLower = "asc".toList ∨
        direction.map Char.toLower = "desc".toList)

theorem Direction.exists_spelledBy {word : List Char} :
    (∃ direction : Direction, direction.SpelledBy word) ↔
      word.map Char.toLower = "asc".toList ∨ word.map Char.toLower = "desc".toList := by
  have asc : Direction.asc.keyword.toList.map Char.toLower = "asc".toList := by decide
  have desc : Direction.desc.keyword.toList.map Char.toLower = "desc".toList := by decide
  rw [← asc, ← desc]
  constructor
  · intro ⟨direction, spells⟩
    cases direction with
    | asc => exact .inl (spelledBy_iff.1 spells)
    | desc => exact .inr (spelledBy_iff.1 spells)
  · intro either
    cases either with
    | inl same => exact ⟨.asc, spelledBy_iff.2 same⟩
    | inr same => exact ⟨.desc, spelledBy_iff.2 same⟩

theorem orderBy_succeeds {text : String} :
    (∃ entry, OrderBy.parse text = .ok entry) ↔ OrderBy.Form text := by
  simp only [OrderBy.parse_eq_ok_iff]
  constructor
  · intro ⟨entry, spelled⟩
    cases spelled with
    | field words => exact .field words
    | directed words spells =>
      exact .directed words (Direction.exists_spelledBy.1 ⟨_, spells⟩)
  · intro form
    cases form with
    | @field name words => exact ⟨⟨String.ofList name, none⟩, .field (by simpa using words)⟩
    | @directed name word words known =>
      obtain ⟨direction, spells⟩ := Direction.exists_spelledBy.2 known
      exact ⟨⟨String.ofList name, some direction⟩, .directed (by simpa using words) spells⟩

namespace Filter

inductive CountForm : Json → Prop
  | null : CountForm .null
  | int (n : Int64) : CountForm (.number (.int n))
  | uint (n : UInt64) (large : Int64.maxValue.toInt < n.toNat) : CountForm (.number (.uint n large))

inductive OrderForm : Json → Prop
  | null : OrderForm .null
  | text {entries : List String} (someEntry : entries ≠ [])
      (apart : ∀ entry ∈ entries, ',' ∉ entry.toList)
      (each : ∀ entry ∈ entries, OrderBy.Form entry) : OrderForm (.string (",".intercalate entries))
  | list {entries : List String} (each : ∀ entry ∈ entries, OrderBy.Form entry) :
      OrderForm (.array (entries.map .string))

inductive FieldsForm : Json → Prop
  | null : FieldsForm .null
  | names (names : List String) : FieldsForm (.array (names.map .string))
  | flags (flags : List (String × Bool)) :
      FieldsForm (.object (flags.map fun flag => (flag.1, .bool flag.2)))

mutual

inductive Form : Json → Prop
  | null : Form .null
  | object {members : List (String × Json)} (each : ∀ member ∈ members, Clause member.1 member.2) :
      Form (.object members)

inductive Clause : String → Json → Prop
  | condition {value : Json} (form : Where.Form value) : Clause "where" value
  | order {value : Json} (form : OrderForm value) : Clause "order" value
  | count {key : String} {value : Json} (named : key ∈ ["limit", "skip", "offset"])
      (form : CountForm value) : Clause key value
  | fields {value : Json} (form : FieldsForm value) : Clause "fields" value
  | includes {value : Json} (form : IncludeForm value) : Clause "include" value

inductive IncludeForm : Json → Prop
  | null : IncludeForm .null
  | none : IncludeForm (.bool false)
  | name (relation : String) : IncludeForm (.string relation)
  | list {items : List Json} (each : ∀ item ∈ items, IncludeForm item) : IncludeForm (.array items)
  | relation {members : List (String × Json)} {relation : String}
      (named : Keyed.find? "relation" members = some (.string relation) ∨
        Keyed.find? "relation" members = Option.none ∧
          Keyed.find? "rel" members = some (.string relation))
      (scope : ∀ value, Keyed.find? "scope" members = some value → Form value) :
      IncludeForm (.object members)
  | shorthand {members : List (String × Json)}
      (unnamed : Keyed.find? "relation" members = Option.none ∧
        Keyed.find? "rel" members = Option.none)
      (each : ∀ member ∈ members, member.2 ≠ .bool true → IncludeForm member.2) :
      IncludeForm (.object members)

end

theorem countOf_succeeds {key : String} {value : Json} :
    (∃ count, countOf key value = .ok count) ↔ CountForm value := by
  have refused {value : Json} (error : ∃ e, countOf key value = .error e)
      (none : ¬ CountForm value) : (∃ count, countOf key value = .ok count) ↔ CountForm value := by
    obtain ⟨e, failed⟩ := error
    simp [failed, none]
  cases value with
  | null => exact iff_of_true ⟨_, rfl⟩ .null
  | number n =>
    cases n with
    | int n => exact iff_of_true ⟨_, rfl⟩ (.int n)
    | uint n large => exact iff_of_true ⟨_, rfl⟩ (.uint n large)
    | double x finite => exact refused ⟨_, rfl⟩ (by rintro ⟨⟩)
  | _ => exact refused ⟨_, rfl⟩ (by rintro ⟨⟩)

theorem orderForm_text {text : String} : OrderForm (.string text) ↔
    ∀ piece ∈ (Text.pieces ',' text.toList).map String.ofList, OrderBy.Form piece := by
  obtain ⟨someEntry, apart, joined⟩ := Text.map_pieces_eq_iff.1 (Eq.refl
    ((Text.pieces ',' text.toList).map String.ofList))
  constructor
  · intro form
    cases form with
    | @text entries someEntry' apart' each =>
      have split : (Text.pieces ',' (",".intercalate entries).toList).map String.ofList = entries :=
        Text.map_pieces_eq_iff.2 ⟨someEntry', apart', rfl⟩
      rw [split]
      exact each
  · intro each
    rw [joined]
    exact .text someEntry apart each

theorem orderForm_list {items : List Json} : OrderForm (.array items) ↔
    ∃ entries : List String, items = entries.map .string ∧
      ∀ entry ∈ entries, OrderBy.Form entry := by
  constructor
  · intro form
    cases form with
    | list each => exact ⟨_, rfl, each⟩
  · rintro ⟨entries, rfl, each⟩
    exact .list each

theorem orderOf_succeeds {value : Json} :
    (∃ order, orderOf value = .ok order) ↔ OrderForm value := by
  cases value with
  | null => exact iff_of_true ⟨_, rfl⟩ .null
  | string text =>
    rw [orderForm_text, orderOf_text, mapM_succeeds]
    simp only [orderBy_succeeds]
  | array items =>
    rw [orderForm_list]
    simp only [orderOf_array, ← orderBy_succeeds, ← mapM_succeeds]
    exact exists_comm.trans (exists_congr fun texts => exists_and_left)
  | _ => exact iff_of_false (by simp [orderOf, refused]) (by rintro ⟨⟩)

theorem fieldsOf_succeeds {value : Json} :
    (∃ fields, fieldsOf value = .ok fields) ↔ FieldsForm value := by
  cases value with
  | null => exact iff_of_true ⟨_, rfl⟩ .null
  | array items =>
    constructor
    · rintro ⟨fields, read⟩
      obtain ⟨names, rfl, -⟩ := fieldsOf_array.1 read
      exact .names names
    · intro form
      cases form with
      | names names => exact ⟨_, fieldsOf_array.2 ⟨names, rfl, rfl⟩⟩
  | object members =>
    constructor
    · rintro ⟨fields, read⟩
      obtain ⟨flags, rfl, -⟩ := fieldsOf_object.1 read
      exact .flags flags
    · intro form
      cases form with
      | flags flags => exact ⟨_, fieldsOf_object.2 ⟨flags, rfl, rfl⟩⟩
  | _ => exact iff_of_false (by simp [fieldsOf, refused]) (by rintro ⟨⟩)

theorem clause_iff {key : String} {value : Json} : Clause key value ↔
    (key = "where" ∧ Where.Form value) ∨ (key = "order" ∧ OrderForm value) ∨
    (key ∈ ["limit", "skip", "offset"] ∧ CountForm value) ∨
    (key = "fields" ∧ FieldsForm value) ∨ (key = "include" ∧ IncludeForm value) := by
  constructor
  · intro clause
    cases clause with
    | condition form => exact .inl ⟨rfl, form⟩
    | order form => exact .inr (.inl ⟨rfl, form⟩)
    | count named form => exact .inr (.inr (.inl ⟨named, form⟩))
    | fields form => exact .inr (.inr (.inr (.inl ⟨rfl, form⟩)))
    | includes form => exact .inr (.inr (.inr (.inr ⟨rfl, form⟩)))
  · rintro (⟨rfl, form⟩ | ⟨rfl, form⟩ | ⟨named, form⟩ | ⟨rfl, form⟩ | ⟨rfl, form⟩)
    · exact .condition form
    · exact .order form
    · exact .count named form
    · exact .fields form
    · exact .includes form

theorem ofMember_succeeds {filter : Filter} {member : String × Json}
    (included : (∃ includes, includesOf member.2 = .ok includes) ↔ IncludeForm member.2) :
    (∃ next, ofMember filter member = .ok next) ↔ Clause member.1 member.2 := by
  obtain ⟨key, value⟩ := member
  dsimp only at included
  rw [clause_iff]
  unfold ofMember
  dsimp only
  split
  case h_1 => simp [map_succeeds, (Where.ofJson_succeeds value).1]
  case h_2 => simp [map_succeeds, orderOf_succeeds]
  case h_3 | h_4 | h_5 => simp [map_succeeds, countOf_succeeds]
  case h_6 => simp [map_succeeds, fieldsOf_succeeds]
  case h_7 => simp [map_succeeds, included]
  case h_8 => simp_all [refused]

theorem foldlM_succeeds {ε α β : Type} {f : β → α → Except ε β} {items : List α}
    (property : α → Prop)
    (each : ∀ item ∈ items, ∀ b, (∃ next, f b item = .ok next) ↔ property item) (b : β) :
    (∃ last, items.foldlM f b = .ok last) ↔ ∀ item ∈ items, property item := by
  induction items generalizing b with
  | nil => simp [pure, Except.pure]
  | cons item rest ih =>
    rw [List.forall_mem_cons] at each ⊢
    rw [List.foldlM_cons]
    exact bind_succeeds (each.1 b) fun next _ => ih each.2 next

theorem form_iff {value : Json} : Form value ↔
    value = .null ∨ ∃ members, value = .object members ∧
      ∀ member ∈ members, Clause member.1 member.2 := by
  constructor
  · intro form
    cases form with
    | null => exact .inl rfl
    | object each => exact .inr ⟨_, rfl, each⟩
  · rintro (rfl | ⟨members, rfl, each⟩)
    · exact .null
    · exact .object each

theorem includeForm_list {items : List Json} :
    IncludeForm (.array items) ↔ ∀ item ∈ items, IncludeForm item := by
  constructor
  · intro form
    cases form with
    | list each => exact each
  · exact .list

theorem scopeOf_succeeds {scope? : Option Json}
    (own : ∀ value, scope? = some value → ((∃ filter, ofJson value = .ok filter) ↔ Form value)) :
    (∃ scope, scopeOf scope? = .ok scope) ↔ ∀ value, scope? = some value → Form value := by
  cases scope? with
  | none => simp [scopeOf]
  | some value =>
    simp only [Option.some.injEq, forall_eq']
    by_cases absent : value = .null
    · subst absent
      exact iff_of_true ⟨_, rfl⟩ .null
    · have read : scopeOf (some value) = (ofJson value).map some := by
        unfold scopeOf
        split <;> simp_all
      rw [read, map_succeeds, own value rfl]

theorem nestedScope_succeeds {nested : Json}
    (own : (∃ includes, includesOf nested = .ok includes) ↔ IncludeForm nested) :
    (∃ scope, nestedScope nested = .ok scope) ↔ (nested ≠ .bool true → IncludeForm nested) := by
  unfold nestedScope
  split
  · exact iff_of_true ⟨_, rfl⟩ fun _ => .null
  · exact iff_of_true ⟨_, rfl⟩ fun absurd => (absurd rfl).elim
  next notBare => rw [map_succeeds, own, imp_iff_right notBare]

theorem relationIn_eq_some {members : List (String × Json)} {value : Json} :
    relationIn members = some value ↔ Keyed.find? "relation" members = some value ∨
      Keyed.find? "relation" members = none ∧ Keyed.find? "rel" members = some value := by
  unfold relationIn
  cases Keyed.find? "relation" members <;> simp

theorem relationIn_eq_none {members : List (String × Json)} :
    relationIn members = none ↔
      Keyed.find? "relation" members = none ∧ Keyed.find? "rel" members = none := by
  unfold relationIn
  cases Keyed.find? "relation" members <;> simp

theorem includeForm_object {members : List (String × Json)} : IncludeForm (.object members) ↔
    (∃ relation, relationIn members = some (.string relation) ∧
      ∀ value, Keyed.find? "scope" members = some value → Form value) ∨
    (relationIn members = none ∧
      ∀ member ∈ members, member.2 ≠ .bool true → IncludeForm member.2) := by
  simp only [relationIn_eq_some, relationIn_eq_none]
  constructor
  · intro form
    cases form with
    | relation named scope => exact .inl ⟨_, named, scope⟩
    | shorthand unnamed each => exact .inr ⟨unnamed, each⟩
  · rintro (⟨relation, named, scope⟩ | ⟨unnamed, each⟩)
    · exact .relation named scope
    · exact .shorthand unnamed each

theorem includesOf_object {members : List (String × Json)}
    (each : ∀ member ∈ members,
      ((∃ filter, ofJson member.2 = .ok filter) ↔ Form member.2) ∧
        ((∃ includes, includesOf member.2 = .ok includes) ↔ IncludeForm member.2)) :
    (∃ includes, includesOf (.object members) = .ok includes) ↔ IncludeForm (.object members) := by
  rw [includeForm_object, includesOf]
  cases named : relationIn members with
  | none =>
    rw [shorthandIncludes_eq_mapM, mapM_succeeds]
    simp only [reduceCtorEq, false_and, exists_false, false_or, true_and, map_succeeds]
    apply forall₂_congr
    intro member mem
    exact nestedScope_succeeds (each member mem).2
  | some value =>
    cases value with
    | string relation =>
      have own : ∀ value, Keyed.find? "scope" members = some value →
          ((∃ filter, ofJson value = .ok filter) ↔ Form value) :=
        fun value found => (each _ (Keyed.mem_of_find? found)).1
      simpa [map_succeeds, scopeIn_eq] using scopeOf_succeeds own
    | _ => simp [refused]

theorem ofJson_succeeds (value : Json) :
    ((∃ filter, ofJson value = .ok filter) ↔ Form value) ∧
      ((∃ includes, includesOf value = .ok includes) ↔ IncludeForm value) := by
  induction value using Json.induction with
  | null => exact ⟨iff_of_true ⟨_, rfl⟩ .null, iff_of_true ⟨_, rfl⟩ .null⟩
  | object members ih =>
    have membersSucceed : (∃ filter, members.foldlM ofMember {} = .ok filter) ↔
        ∀ member ∈ members, Clause member.1 member.2 := by
      apply foldlM_succeeds fun member : String × Json => Clause member.1 member.2
      intro member mem filter
      exact ofMember_succeeds (ih member mem).2
    refine ⟨?_, includesOf_object ih⟩
    rw [ofJson, ofMembers_eq_foldlM, membersSucceed, form_iff]
    simp
  | array items ih =>
    constructor
    · simp [ofJson, refused, form_iff]
    · rw [includesOf, includesOfItems_eq_mapM, map_succeeds, mapM_succeeds, includeForm_list]
      exact forall₂_congr fun item mem => (ih item mem).2
  | bool b =>
    refine ⟨by simp [ofJson, refused, form_iff], ?_⟩
    cases b with
    | false => exact iff_of_true ⟨_, rfl⟩ .none
    | true => exact iff_of_false (by simp [includesOf, refused]) (by rintro ⟨⟩)
  | string name => exact ⟨by simp [ofJson, refused, form_iff], iff_of_true ⟨_, rfl⟩ (.name name)⟩
  | number =>
    exact ⟨by simp [ofJson, refused, form_iff],
      iff_of_false (by simp [includesOf, refused]) (by rintro ⟨⟩)⟩

theorem ofJson_accepts (value : Json) : (∃ filter, ofJson value = .ok filter) ↔ Form value :=
  (ofJson_succeeds value).1

end Filter

end NestedQuery
