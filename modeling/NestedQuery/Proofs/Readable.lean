import NestedQuery.Proofs.IncludeTree
import NestedQuery.Proofs.OrderEntries
import NestedQuery.Proofs.SlashNotation

set_option autoImplicit false

namespace NestedQuery

namespace Json

@[simp] theorem distinct_null : null.Distinct := by simp [Distinct]

@[simp] theorem distinct_bool (b : Bool) : (bool b).Distinct := by simp [Distinct]

@[simp] theorem distinct_number (n : Number) : (number n).Distinct := by simp [Distinct]

@[simp] theorem distinct_string (s : String) : (string s).Distinct := by simp [Distinct]

@[simp] theorem distinct_array {items : List Json} :
    (Json.array items).Distinct ↔ ∀ item ∈ items, item.Distinct := by
  rw [Distinct]
  induction items with
  | nil => simp [DistinctItems]
  | cons item rest ih => rw [DistinctItems, ih, List.forall_mem_cons]

@[simp] theorem distinct_object {members : List (String × Json)} :
    (Json.object members).Distinct ↔
    (members.map Prod.fst).Nodup ∧ ∀ member ∈ members, member.2.Distinct := by
  rw [Distinct]
  apply and_congr_right'
  induction members with
  | nil => simp [DistinctMembers]
  | cons member rest ih => rw [DistinctMembers, ih, List.forall_mem_cons]

end Json

def Literal.Readable (literal : Literal) : Prop := ∃ value, ofJson? value = some literal

namespace Pattern

/-- The patterns that a text denotes: `LIKE` patterns out of slash notation, and regular expressions
that are not empty. -/
def Readable : Pattern → Prop
  | .like text _ => slashNotation text.toList = none
  | .regex source _ => source ≠ ""

theorem readable_parse (text : String) (ignoreCase : Bool) : (parse text ignoreCase).Readable := by
  unfold parse
  split
  next source flags spelled => exact (slashed_of_slashNotation spelled).someSource
  next other => exact other

end Pattern

/-- The tests that an operator spells. Only a search for a pattern may be for the empty regular
expression. -/
def Test.Readable : Test Literal → Prop
  | .like pattern => pattern.Readable ∨ ∃ ignoreCase, pattern = .regex "" ignoreCase
  | .notLike pattern => pattern.Readable
  | test => ∀ literal ∈ test.operands, literal.Readable

namespace Where

inductive Readable : Where → Prop
  | leaf {field : String} {test : Test Literal} (apart : field ≠ "and" ∧ field ≠ "or")
      (own : test.Readable) : Readable (.leaf ⟨field, test⟩)
  | group {connective : Connective} {parts : List Where} (somePart : parts ≠ [])
      (each : ∀ part ∈ parts, Readable part) : Readable (.group connective parts)

theorem literalOf_readable (field operator : String) (operand : Json) :
    Yields Literal.Readable (literalOf field operator operand) := by
  unfold literalOf
  split
  next literal read => exact .ok ⟨operand, read⟩
  next => exact .error _

theorem literalsOf_readable (field operator : String) (operand : Json) :
    Yields (∀ literal ∈ ·, literal.Readable) (literalsOf field operator operand) := by
  unfold literalsOf
  split
  · exact .mapM fun item _ => literalOf_readable field operator item
  · exact .error _

theorem isNull_readable : Test.isNull.Readable := by
  simp [Test.Readable, Test.operands]

theorem isNotNull_readable : Test.isNotNull.Readable := by
  simp [Test.Readable, Test.operands]

theorem readable_compare (field operator : String) (operand : Json) (comparison : Comparison) :
    Yields Test.Readable ((literalOf field operator operand).map (.compare comparison)) :=
  .map fun value read => by
    simpa [Test.Readable, Test.operands] using literalOf_readable field operator operand value read

theorem readable_equalityOf (field operator : String) (operand : Json) (comparison : Comparison)
    {ofNull : Test Literal} (readable : ofNull.Readable) :
    Yields Test.Readable (equalityOf field operator operand comparison ofNull) := by
  unfold equalityOf
  split
  · exact .ok readable
  · exact readable_compare field operator operand comparison

theorem readable_patternOf {field operator : String} {operand : Json} {ignoreCase : Bool}
    {test : Pattern → Test Literal}
    (readable : ∀ pattern, pattern.Readable → (test pattern).Readable) :
    Yields Test.Readable ((patternOf field operator operand ignoreCase).map test) := by
  refine .map fun pattern read => readable pattern ?_
  unfold patternOf at read
  split at read <;> cases read
  exact Pattern.readable_parse _ _

theorem readable_asRegex {pattern : Pattern} : (Test.like (asRegex pattern)).Readable := by
  have ofSource (source : String) (ignoreCase : Bool) :
      (Test.like (.regex source ignoreCase)).Readable := by
    by_cases empty : source = ""
    · exact .inr ⟨ignoreCase, by rw [empty]⟩
    · exact .inl empty
  cases pattern with
  | like source ignoreCase | regex source ignoreCase => exact ofSource source ignoreCase

theorem readable_testOf (field operator : String) (operand : Json) (ignoreCase : Bool) :
    Yields Test.Readable (testOf field operator operand ignoreCase) := by
  unfold testOf
  split
  -- Equality, comparisons, `between`, lists and patterns, in the order of the operators.
  case h_1 => exact readable_equalityOf _ _ _ _ isNull_readable
  case h_2 | h_3 => exact readable_equalityOf _ _ _ _ isNotNull_readable
  case h_4 | h_5 | h_6 | h_7 => exact readable_compare _ _ _ _
  case h_8 =>
    refine .bind fun values read => ?_
    split
    · exact .ok (literalsOf_readable _ _ _ _ read)
    · exact .error _
  case h_9 | h_10 | h_11 | h_12 =>
    exact .map fun values read => literalsOf_readable _ _ _ values read
  case h_13 | h_16 => exact readable_patternOf fun _ plain => .inl plain
  case h_14 | h_15 | h_17 => exact readable_patternOf fun _ plain => plain
  case h_18 => exact readable_patternOf fun _ _ => readable_asRegex
  case h_19 => exact .error _

theorem readable_ofField {field : String} (apart : field ≠ "and" ∧ field ≠ "or") (value : Json) :
    Yields Readable (ofField field value) := by
  unfold ofField
  split
  · exact .ok (.leaf apart isNull_readable)
  next operators =>
    refine .bind fun ignoreCase _ => .bind fun tests read => ?_
    have own :=
      Yields.mapM (fun entry _ => readable_testOf field entry.1 entry.2 ignoreCase) tests read
    have each : ∀ part ∈ tests.map (test field), Readable part := by
      rw [List.forall_mem_map]
      exact fun test mem => .leaf apart (own test mem)
    generalize tests.map (test field) = parts at each
    split
    · exact .error _
    next only => exact .ok (each only (List.mem_singleton_self only))
    next somePart _ => exact .ok (.group somePart each)
  next =>
    refine .bind fun literal read => .ok (.leaf apart ?_)
    simpa [Test.Readable, Test.operands] using literalOf_readable field "eq" value literal read

theorem readable_ofParts {parts : List Where} (each : ∀ part ∈ parts, Readable part) :
    ∀ tree, ofParts parts = some tree → Readable tree := by
  intro tree given
  unfold ofParts at given
  split at given <;> cases given
  next => exact each tree (List.mem_singleton_self tree)
  next somePart _ => exact .group somePart each

theorem readable_ofMember {key : String} {value : Json}
    (groups : ∀ connective, Yields Readable (ofGroup connective value)) :
    Yields Readable (ofMember key value) := by
  unfold ofMember
  split
  · exact groups .all
  · split
    · exact groups .any
    next notAll notAny => exact readable_ofField ⟨notAll, notAny⟩ value

theorem readable_ofItem (connective : Connective) {item : Json}
    (read : Yields (fun tree? => ∀ tree, tree? = some tree → tree.Readable) (ofJson item)) :
    Yields Readable (ofItem connective item) := by
  refine .bind fun tree? given => ?_
  cases tree? with
  | none => exact .error _
  | some tree => exact .ok (read _ given tree rfl)

theorem readable_ofJson (value : Json) :
    Yields (fun tree? => ∀ tree, tree? = some tree → tree.Readable) (ofJson value) ∧
      ∀ connective, Yields Readable (ofGroup connective value) := by
  induction value using Json.induction with
  | null => exact ⟨.ok nofun, fun _ => .error _⟩
  | bool | number | string => exact ⟨.error _, fun _ => .error _⟩
  | object members ih =>
    refine ⟨.map fun parts read => readable_ofParts ?_, fun _ => .error _⟩
    rw [ofMembers_eq_mapM] at read
    exact Yields.mapM (fun member mem => readable_ofMember (ih member mem).2) parts read
  | array items ih =>
    refine ⟨.error _, fun connective => ?_⟩
    rw [ofGroup]
    split
    · exact .error _
    next someItem =>
      refine .map fun parts read => ?_
      rw [ofItems_eq_mapM] at read
      have length := (mapM_eq_ok.1 read).length_eq
      have each := Yields.mapM
        (fun item mem => readable_ofItem connective (ih item mem).1) parts read
      refine .group ?_ each
      rintro rfl
      exact someItem (List.isEmpty_iff_length_eq_zero.2 length)

end Where

def OrderBy.Readable (entry : OrderBy) : Prop := Text.IsWord entry.field.toList

theorem OrderBy.readable_parse (text : String) : Yields OrderBy.Readable (OrderBy.parse text) :=
  fun _ parsed => (spelledBy_of_parse parsed).isWord

/-- Fields are selected by at least one name; names to leave out are apart if objects are to have
distinct members. -/
inductive Fields.Readable (distinct : Prop) : Fields → Prop
  | only {names : List String} (someName : names ≠ []) : Readable distinct (.only names)
  | except {names : List String} (someName : names ≠ []) (apart : distinct → names.Nodup) :
      Readable distinct (.except names)

namespace Filter

/-- The filters that JSON spells; `distinct` tells whether its objects have distinct members. -/
inductive Readable (distinct : Prop) : Filter → Prop
  | level {filter : Filter} (condition : ∀ tree, filter.condition = some tree → tree.Readable)
      (order : ∀ entry ∈ filter.order, entry.Readable)
      (fields : ∀ fields, filter.fields = some fields → fields.Readable distinct)
      (scopes : ∀ included ∈ filter.includes, Readable distinct (included.scope.getD {})) :
      Readable distinct filter

def ScopesReadable (distinct : Prop) (includes : List (Include Filter)) : Prop :=
  ∀ included ∈ includes, (included.scope.getD {}).Readable distinct

variable {distinct : Prop}

theorem Readable.empty : ({} : Filter).Readable distinct :=
  .level nofun nofun nofun nofun

theorem readable_orderOf (value : Json) :
    Yields (∀ entry ∈ ·, entry.Readable) (orderOf value) := by
  have entries (texts : List String) :
      Yields (∀ entry ∈ ·, OrderBy.Readable entry) (texts.mapM OrderBy.parse) :=
    .mapM fun text _ => OrderBy.readable_parse text
  cases value with
  | null => exact entries []
  | string text => exact entries _
  | array items =>
    intro order read
    obtain ⟨texts, rfl, parsed⟩ := orderOf_array.1 read
    exact entries texts order parsed
  | bool | number | object => exact .error _

theorem readable_fieldsOf {value : Json} (apart : distinct → value.Distinct) :
    Yields (fun fields? => ∀ fields, fields? = some fields → fields.Readable distinct)
      (fieldsOf value) := by
  cases value with
  | null => exact .ok nofun
  | array items =>
    intro fields? read fields given
    obtain ⟨names, rfl, rfl⟩ := fieldsOf_array.1 read
    split at given <;> cases given
    next someName => exact .only (by simpa using someName)
  | object members =>
    intro fields? read fields given
    obtain ⟨flags, rfl, rfl⟩ := fieldsOf_object.1 read
    unfold fieldsOfFlags at given
    dsimp only at given
    split at given
    next someName =>
      cases given
      exact .only (by simpa using someName)
    · split at given <;> cases given
      next someFlag =>
        refine .except (by simpa using someFlag) fun holds => ?_
        simpa [Function.comp_def] using (Json.distinct_object.1 (apart holds)).1
  | bool | number | string => exact .error _

theorem readable_ofMember {filter : Filter} {member : String × Json}
    (readable : filter.Readable distinct) (apart : distinct → member.2.Distinct)
    (included : Yields (ScopesReadable distinct) (includesOf member.2)) :
    Yields (Readable distinct) (ofMember filter member) := by
  obtain ⟨condition, order, fields, scopes⟩ := readable
  unfold ofMember
  split
  -- The keys in the order of the reader; counts stay without a say in what is readable.
  case h_1 =>
    exact .map fun tree? read => .level ((Where.readable_ofJson member.2).1 tree? read) order fields
      scopes
  case h_2 =>
    exact .map fun entries read => .level condition (readable_orderOf member.2 entries read) fields
      scopes
  case h_3 | h_4 | h_5 => exact .map fun _ _ => .level condition order fields scopes
  case h_6 =>
    exact .map fun fields? read => .level condition order (readable_fieldsOf apart fields? read)
      scopes
  case h_7 => exact .map fun includes read => .level condition order fields (included includes read)
  case h_8 => exact .error _

theorem readable_scopeOf {scope? : Option Json}
    (read : ∀ value, scope? = some value → Yields (Readable distinct) (ofJson value)) :
    Yields (fun scope => (scope.getD {}).Readable distinct) (scopeOf scope?) := by
  unfold scopeOf
  split
  · exact .ok .empty
  · exact .ok .empty
  next value _ => exact .map fun scope given => read value rfl scope given

theorem readable_nestedScope {nested : Json}
    (read : Yields (ScopesReadable distinct) (includesOf nested)) :
    Yields (fun scope => (scope.getD {}).Readable distinct) (nestedScope nested) := by
  unfold nestedScope
  split
  · exact .ok .empty
  · exact .ok .empty
  next => exact .map fun includes given => .level nofun nofun nofun (read includes given)

theorem readable_includesOf_object {members : List (String × Json)}
    (each : ∀ member ∈ members, Yields (Readable distinct) (ofJson member.2) ∧
      Yields (ScopesReadable distinct) (includesOf member.2)) :
    Yields (ScopesReadable distinct) (includesOf (.object members)) := by
  rw [includesOf]
  split
  · rw [shorthandIncludes_eq_mapM]
    refine .mapM fun member mem => .map fun scope given => ?_
    exact readable_nestedScope (each member mem).2 scope given
  · rw [scopeIn_eq]
    refine .map fun scope given => ?_
    have read : ∀ value, Keyed.find? "scope" members = some value →
        Yields (Readable distinct) (ofJson value) :=
      fun value found => (each _ (Keyed.mem_of_find? found)).1
    simpa [ScopesReadable] using readable_scopeOf read scope given
  · exact .error _

theorem readable_ofJson (value : Json) (apart : distinct → value.Distinct) :
    Yields (Readable distinct) (ofJson value) ∧
      Yields (ScopesReadable distinct) (includesOf value) := by
  induction value using Json.induction with
  | null => exact ⟨.ok .empty, .ok (by simp [ScopesReadable])⟩
  | bool b =>
    cases b with
    | false => exact ⟨.error _, .ok (by simp [ScopesReadable])⟩
    | true => exact ⟨.error _, .error _⟩
  | number => exact ⟨.error _, .error _⟩
  | string name => exact ⟨.error _, .ok (by simpa [ScopesReadable] using Readable.empty)⟩
  | array items ih =>
    refine ⟨.error _, ?_⟩
    have each : ∀ item ∈ items, _ := fun item mem =>
      (ih item mem fun holds => Json.distinct_array.1 (apart holds) item mem).2
    rw [includesOf, includesOfItems_eq_mapM]
    refine .map fun groups read included mem => ?_
    obtain ⟨group, listed, mem⟩ := List.mem_flatten.1 mem
    exact Yields.mapM each groups read group listed included mem
  | object members ih =>
    have apartEach : ∀ member ∈ members, distinct → member.2.Distinct :=
      fun member mem holds => (Json.distinct_object.1 (apart holds)).2 member mem
    have each := fun member mem => ih member mem (apartEach member mem)
    refine ⟨?_, readable_includesOf_object each⟩
    rw [ofJson, ofMembers_eq_foldlM]
    refine .foldlM (fun member mem filter readable => ?_) .empty
    exact readable_ofMember readable (apartEach member mem) (each member mem).2

end Filter

end NestedQuery
