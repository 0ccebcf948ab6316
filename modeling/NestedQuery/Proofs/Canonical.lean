import NestedQuery.Proofs.Readable

set_option autoImplicit false

namespace NestedQuery

/-- A literal as JSON. Of literals that no JSON value holds, a timestamp becomes a text, and a
double that is not finite becomes null. -/
def Literal.toJson : Literal → Json
  | .bool b => .bool b
  | .int n => .number (.int n)
  | .uint n => Json.ofInt n.toNat
  | .float x => if finite : x.isFinite = true then .number (.double x finite) else .null
  | .text s => .string s
  | .timestamp t => .string t.write

def Comparison.operator : Comparison → String
  | .eq => "eq"
  | .neq => "neq"
  | .gt => "gt"
  | .gte => "gte"
  | .lt => "lt"
  | .lte => "lte"

structure Spelling where
  operator : String
  operand : Json
  ignoreCase : Bool := false

def Spelling.toJson (spelling : Spelling) : Json :=
  .object ((spelling.operator, spelling.operand) ::
    if spelling.ignoreCase then [("options", .string "i")] else [])

def Pattern.inSlashes (source : String) (ignoreCase : Bool) : String :=
  "/" ++ source ++ (if ignoreCase then "/i" else "/")

/-- There is no slash notation for an empty regular expression, which has an operator of its own. -/
def Pattern.spelled (operator : String) : Pattern → Spelling
  | .like text ignoreCase => ⟨operator, .string text, ignoreCase⟩
  | .regex source ignoreCase =>
    if source = "" then ⟨"regexp", .string "", ignoreCase⟩
    else { operator, operand := .string (inSlashes source ignoreCase) }

def Test.spelled : Test Literal → Spelling
  | .compare comparison value => { operator := comparison.operator, operand := value.toJson }
  | .isNull => { operator := "eq", operand := .null }
  | .isNotNull => { operator := "neq", operand := .null }
  | .between low high => { operator := "between", operand := .array [low.toJson, high.toJson] }
  | .oneOf values => { operator := "inq", operand := .array (values.map Literal.toJson) }
  | .noneOf values => { operator := "nin", operand := .array (values.map Literal.toJson) }
  | .like pattern => pattern.spelled "like"
  | .notLike pattern => pattern.spelled "nlike"

namespace Where

mutual

def toJson : Where → Json
  | .leaf condition => .object [(condition.subject, condition.test.spelled.toJson)]
  | .group connective parts => .object [(connective.key, .array (partsToJson parts))]

def partsToJson : List Where → List Json
  | [] => []
  | part :: rest => toJson part :: partsToJson rest

end

theorem partsToJson_eq_map (parts : List Where) : partsToJson parts = parts.map toJson := by
  induction parts with
  | nil => rfl
  | cons part rest ih => rw [partsToJson, ih, List.map_cons]

end Where

def Fields.toJson : Fields → Json
  | .only names => .array (names.map .string)
  | .except names => .object (names.map fun name => (name, .bool false))

def Json.present (parts : List (String × Option Json)) : List (String × Json) :=
  parts.filterMap fun part => part.2.map (part.1, ·)

def Json.nonempty : List Json → Option Json
  | [] => none
  | items => some (.array items)

namespace Filter

mutual

def toJson : Filter → Json
  | ⟨condition, order, limit, skip, fields, includes⟩ => .object (Json.present
      [("where", condition.map Where.toJson),
        ("order", Json.nonempty (order.map fun entry => .string entry.write)),
        ("limit", limit.map fun n => Json.ofInt n.toNat),
        ("skip", skip.map fun n => Json.ofInt n.toNat),
        ("fields", fields.map Fields.toJson),
        ("include", Json.nonempty (includesToJson includes))])

def includesToJson : List (Include Filter) → List Json
  | [] => []
  | ⟨relation, scope⟩ :: rest =>
    .object (("relation", .string relation) :: scopeToJson scope) :: includesToJson rest

def scopeToJson : Option Filter → List (String × Json)
  | none => []
  | some scope => [("scope", toJson scope)]

end

def includeToJson (included : Include Filter) : Json :=
  .object (("relation", .string included.relation) :: scopeToJson included.scope)

theorem includesToJson_eq_map (includes : List (Include Filter)) :
    includesToJson includes = includes.map includeToJson := by
  induction includes with
  | nil => rfl
  | cons included rest ih => rw [includesToJson, ih, List.map_cons, includeToJson]

end Filter

theorem Json.ofInt_large {n : UInt64} (large : Int64.maxValue.toInt < n.toNat) :
    Json.ofInt n.toNat = .number (.uint n large) := by
  have notSmall : ¬ (n.toNat : Int) ≤ Int64.maxValue.toInt := by omega
  have below := n.toNat_lt
  have bounded : (n.toNat : Int) < 18446744073709551616 := by omega
  simp [ofInt, Number.ofInt?, notSmall, large, bounded]

theorem Json.toInt64_eq (n : UInt64) : Int64.ofInt n.toNat = n.toInt64 := by
  rw [Int64.ofInt_eq_ofNat, ← UInt64.toInt64_ofNat', UInt64.ofNat_toNat]

theorem Json.ofInt_small {n : UInt64} (small : ¬ Int64.maxValue.toInt < n.toNat) :
    Json.ofInt n.toNat = .number (.int n.toInt64) := by
  have above : Int64.minValue.toInt ≤ n.toNat := le_trans (by decide) (Int.natCast_nonneg _)
  rw [ofInt, Number.ofInt?, if_pos ⟨above, by omega⟩, toInt64_eq]

theorem Json.toInt64_small {n : UInt64} (small : ¬ Int64.maxValue.toInt < n.toNat) :
    ¬ n.toInt64 < 0 ∧ n.toInt64.toUInt64 = n := by
  have max : Int64.maxValue.toInt = 2 ^ 63 - 1 := by decide
  have whole : n.toInt64.toInt = n.toNat := by
    rw [← toInt64_eq, Int64.toInt_ofInt_of_le (by omega) (by omega)]
  rw [Int64.lt_iff_toInt_lt, whole]
  exact ⟨by simp, UInt64.toUInt64_toInt64 n⟩

theorem Literal.ofJson?_toJson {literal : Literal} (readable : literal.Readable) :
    ofJson? literal.toJson = some literal := by
  obtain ⟨value, read⟩ := readable
  have same : literal.toJson = value := by
    unfold ofJson? at read
    split at read <;> cases read
    case h_3 n large => exact Json.ofInt_large large
    case h_4 x finite => exact dif_pos finite
    all_goals rfl
  rw [same, read]

namespace Pattern

theorem parse_inSlashes {source : String} (someSource : source ≠ "") (ignoreCase : Bool) :
    parse (inSlashes source ignoreCase) false = .regex source ignoreCase := by
  cases ignoreCase with
  | false => simpa [inSlashes] using (Slashed.plain someSource).parse_eq false
  | true => simpa [inSlashes] using (Slashed.folded someSource).parse_eq false

end Pattern

namespace Where

theorem literalOf_toJson {field operator : String} {literal : Literal}
    (readable : literal.Readable) : literalOf field operator literal.toJson = .ok literal := by
  rw [literalOf, Literal.ofJson?_toJson readable]

theorem literalsOf_toJson {field operator : String} {literals : List Literal}
    (readable : ∀ literal ∈ literals, literal.Readable) :
    literalsOf field operator (.array (literals.map Literal.toJson)) = .ok literals := by
  rw [literalsOf, mapM_eq_ok, List.forall₂_map_left_iff, List.forall₂_same]
  intro literal mem
  exact literalOf_toJson (readable literal mem)

theorem isNull_toJson {literal : Literal} (readable : literal.Readable) :
    literal.toJson.isNull = false := by
  have read := literal.ofJson?_toJson readable
  cases same : literal.toJson with
  | null => simp [same, Literal.ofJson?] at read
  | _ => rfl

theorem testOf_compare {field : String} {comparison : Comparison} {literal : Literal}
    (readable : literal.Readable) (ignoreCase : Bool) :
    testOf field comparison.operator literal.toJson ignoreCase =
      .ok (.compare comparison literal) := by
  have notNull := isNull_toJson readable
  have read (operator : String) : literalOf field operator literal.toJson = .ok literal :=
    literalOf_toJson readable
  cases comparison <;>
    simp [Comparison.operator, testOf, equalityOf, notNull, read, Except.map]

theorem testOf_pattern {field operator : String} {test : Pattern → Test Literal} {pattern : Pattern}
    (spells : ∀ text ignoreCase, testOf field operator (.string text) ignoreCase =
      .ok (test (.parse text ignoreCase)))
    (readable : pattern.Readable) :
    testOf field (pattern.spelled operator).operator (pattern.spelled operator).operand
      (pattern.spelled operator).ignoreCase = .ok (test pattern) := by
  cases pattern with
  | like text ignoreCase =>
    have notSlashed : Pattern.slashNotation text.toList = none := readable
    simp [Pattern.spelled, spells, Pattern.parse, notSlashed]
  | regex source ignoreCase =>
    have someSource : source ≠ "" := readable
    simp [Pattern.spelled, someSource, spells, Pattern.parse_inSlashes someSource]

theorem testOf_spelled {field : String} {test : Test Literal} (readable : test.Readable) :
    testOf field test.spelled.operator test.spelled.operand test.spelled.ignoreCase = .ok test := by
  cases test with
  | compare comparison literal =>
    exact testOf_compare (readable literal (by simp [Test.operands])) _
  | isNull | isNotNull => rfl
  | between low high =>
    have each : ∀ literal ∈ [low, high], literal.Readable := readable
    have read : literalsOf field "between" (.array [low.toJson, high.toJson]) = .ok [low, high] :=
      literalsOf_toJson each
    simp [Test.spelled, testOf, read]
  | oneOf literals | noneOf literals =>
    have each : ∀ literal ∈ literals, literal.Readable := readable
    simp [Test.spelled, testOf, literalsOf_toJson each, Except.map]
  | like pattern =>
    obtain plain | ⟨ignoreCase, rfl⟩ := readable
    · exact testOf_pattern (fun _ _ => rfl) plain
    · cases ignoreCase <;> rfl
  | notLike pattern => exact testOf_pattern (fun _ _ => rfl) readable

theorem ofField_spelling {field : String} {spelling : Spelling} {test : Test Literal}
    (apart : spelling.operator ≠ "options")
    (read : testOf field spelling.operator spelling.operand spelling.ignoreCase = .ok test) :
    ofField field spelling.toJson = .ok (Where.test field test) := by
  obtain ⟨operator, operand, ignoreCase⟩ := spelling
  dsimp only at apart read
  cases ignoreCase <;>
    simp [ofField, Spelling.toJson, ignoresCase, Keyed.find?, apart, read, pure, Except.pure]

theorem spelled_operator_ne (test : Test Literal) : test.spelled.operator ≠ "options" := by
  have ofPattern (operator : String) (pattern : Pattern) (apart : operator ≠ "options") :
      (pattern.spelled operator).operator ≠ "options" := by
    unfold Pattern.spelled
    split
    · exact apart
    · split
      · simp
      · exact apart
  cases test with
  | compare comparison literal => cases comparison <;> simp [Test.spelled, Comparison.operator]
  | like pattern => exact ofPattern "like" pattern (by decide)
  | notLike pattern => exact ofPattern "nlike" pattern (by decide)
  | _ => simp [Test.spelled]

theorem ofMember_connective (connective : Connective) (value : Json) :
    ofMember connective.key value = ofGroup connective value := by
  cases connective <;> simp [ofMember, Connective.key]

theorem ofMember_field {field : String} (apart : field ≠ "and" ∧ field ≠ "or") (value : Json) :
    ofMember field value = ofField field value := by
  simp [ofMember, Connective.key, apart]

theorem ofJson_member {key : String} {value : Json} {part : Where}
    (read : ofMember key value = .ok part) : ofJson (.object [(key, value)]) = .ok (some part) := by
  simp [ofJson, ofMembers_eq_mapM, read, ofParts, Except.map, pure, Except.pure]

theorem ofJson_toJson {tree : Where} (readable : tree.Readable) :
    ofJson tree.toJson = .ok (some tree) := by
  induction readable with
  | @leaf field test apart own =>
    apply ofJson_member
    rw [ofMember_field apart]
    exact ofField_spelling (spelled_operator_ne test) (testOf_spelled own)
  | @group connective parts somePart each ih =>
    have read : ofItems connective (partsToJson parts) = .ok parts := by
      rw [ofItems_eq_mapM, partsToJson_eq_map, mapM_eq_ok, List.forall₂_map_left_iff,
        List.forall₂_same]
      intro part mem
      simp [ofItem, ih part mem, pure, Except.pure]
    have someItem : (partsToJson parts).isEmpty = false := by
      simpa [partsToJson_eq_map] using somePart
    apply ofJson_member
    rw [ofMember_connective, ofGroup, someItem, read]
    rfl

end Where

theorem OrderBy.parse_write {entry : OrderBy} (readable : entry.Readable) :
    OrderBy.parse entry.write = .ok entry := (spelledBy_write readable).parse_eq

namespace Filter

theorem countOf_ofInt (key : String) (n : UInt64) :
    countOf key (Json.ofInt n.toNat) = .ok (some n) := by
  by_cases large : Int64.maxValue.toInt < n.toNat
  · rw [Json.ofInt_large large]
    rfl
  · obtain ⟨notNegative, same⟩ := Json.toInt64_small large
    rw [Json.ofInt_small large, countOf, if_neg notNegative]
    exact congrArg (Except.ok ∘ some) same

theorem orderOf_write {order : List OrderBy} (readable : ∀ entry ∈ order, entry.Readable) :
    orderOf (.array (order.map fun entry => .string entry.write)) = .ok order := by
  have read : (order.map OrderBy.write).mapM OrderBy.parse = .ok order := by
    rw [mapM_eq_ok, List.forall₂_map_left_iff, List.forall₂_same]
    intro entry mem
    exact entry.parse_write (readable entry mem)
  exact orderOf_array.2 ⟨order.map OrderBy.write, by simp, read⟩

theorem fieldsOf_toJson {distinct : Prop} {fields : Fields} (readable : fields.Readable distinct) :
    fieldsOf fields.toJson = .ok (some fields) := by
  cases readable with
  | @only names someName => exact fieldsOf_array.2 ⟨names, rfl, by simp [someName]⟩
  | @except names someName apart =>
    refine fieldsOf_object.2 ⟨names.map fun name => (name, false), by simp, ?_⟩
    have noneTrue : (names.map fun name => (name, false)).filter Prod.snd = [] := by simp
    simp [fieldsOfFlags, noneTrue, someName, Function.comp_def]

def ofPart (filter : Filter) (part : String × Option Json) : Except Error Filter :=
  match part.2 with
  | none => .ok filter
  | some value => ofMember filter (part.1, value)

theorem foldlM_present (parts : List (String × Option Json)) (filter : Filter) :
    (Json.present parts).foldlM ofMember filter = parts.foldlM ofPart filter := by
  induction parts generalizing filter with
  | nil => rfl
  | cons part rest ih =>
    obtain ⟨key, value?⟩ := part
    cases value? with
    | none => exact ih filter
    | some value =>
      rw [List.foldlM_cons, ofPart, ← funext ih]
      rfl

section Parts

variable (condition : Option Where) (order : List OrderBy) (limit skip : Option UInt64)

theorem ofPart_where {condition : Option Where}
    (readable : ∀ tree, condition = some tree → tree.Readable) :
    ofPart {} ("where", condition.map Where.toJson) = .ok { condition } := by
  cases condition with
  | none => rfl
  | some tree => simp [ofPart, ofMember, Where.ofJson_toJson (readable tree rfl), Except.map]

theorem ofPart_order {order : List OrderBy} (readable : ∀ entry ∈ order, entry.Readable) :
    ofPart { condition } ("order", Json.nonempty (order.map fun entry => .string entry.write)) =
      .ok { condition, order } := by
  have read := orderOf_write readable
  cases order with
  | nil => rfl
  | cons entry rest =>
    rw [List.map_cons] at read ⊢
    simp [ofPart, ofMember, Json.nonempty, read, Except.map]

theorem ofPart_limit :
    ofPart { condition, order } ("limit", limit.map fun n => Json.ofInt n.toNat) =
      .ok { condition, order, limit } := by
  cases limit with
  | none => rfl
  | some n => simp [ofPart, ofMember, countOf_ofInt, Except.map]

theorem ofPart_skip :
    ofPart { condition, order, limit } ("skip", skip.map fun n => Json.ofInt n.toNat) =
      .ok { condition, order, limit, skip } := by
  cases skip with
  | none => rfl
  | some n => simp [ofPart, ofMember, countOf_ofInt, Except.map]

theorem ofPart_fields {distinct : Prop} {fields : Option Fields}
    (readable : ∀ selected, fields = some selected → selected.Readable distinct) :
    ofPart { condition, order, limit, skip } ("fields", fields.map Fields.toJson) =
      .ok { condition, order, limit, skip, fields } := by
  cases fields with
  | none => rfl
  | some selected => simp [ofPart, ofMember, fieldsOf_toJson (readable selected rfl), Except.map]

theorem ofPart_include (fields : Option Fields) {includes : List (Include Filter)}
    (read : includesOf (.array (includesToJson includes)) = .ok includes) :
    ofPart { condition, order, limit, skip, fields }
        ("include", Json.nonempty (includesToJson includes)) =
      .ok { condition, order, limit, skip, fields, includes } := by
  cases includes with
  | nil => rfl
  | cons included rest =>
    rw [includesToJson] at read ⊢
    simp [ofPart, ofMember, Json.nonempty, read, Except.map]

end Parts

theorem scopeOf_toJson (filter : Filter) :
    scopeOf (some filter.toJson) = (ofJson filter.toJson).map some := by
  obtain ⟨condition, order, limit, skip, fields, includes⟩ := filter
  rw [toJson]
  rfl

theorem includesOf_includeToJson {included : Include Filter}
    (read : ∀ scope, included.scope = some scope → ofJson scope.toJson = .ok scope) :
    includesOf (includeToJson included) = .ok [included] := by
  obtain ⟨relation, scope⟩ := included
  have named : relationIn (("relation", .string relation) :: scopeToJson scope) =
      some (.string relation) := rfl
  have given : scopeOf (Keyed.find? "scope" (("relation", .string relation) :: scopeToJson scope)) =
      .ok scope := by
    cases scope with
    | none => rfl
    | some scope =>
      have found : Keyed.find? "scope"
          (("relation", .string relation) :: scopeToJson (some scope)) = some scope.toJson := rfl
      rw [found, scopeOf_toJson, read scope rfl]
      rfl
  rw [includeToJson, includesOf, named, scopeIn_eq, given]
  rfl

theorem includesOf_includesToJson {includes : List (Include Filter)}
    (read : ∀ included ∈ includes, ∀ scope, included.scope = some scope →
      ofJson scope.toJson = .ok scope) :
    includesOf (.array (includesToJson includes)) = .ok includes := by
  have each : (includes.map includeToJson).mapM includesOf = .ok (includes.map ([·])) := by
    rw [mapM_eq_ok, List.forall₂_map_left_iff, List.forall₂_map_right_iff, List.forall₂_same]
    exact fun included mem => includesOf_includeToJson (read included mem)
  rw [includesOf, includesOfItems_eq_mapM, includesToJson_eq_map, each, Except.map,
    ← List.flatMap_def, List.flatMap_singleton']

theorem ofJson_toJson {distinct : Prop} {filter : Filter} (readable : filter.Readable distinct) :
    ofJson filter.toJson = .ok filter := by
  induction readable with
  | @level filter condition order fields scopes ih =>
    have includesRead : includesOf (.array (includesToJson filter.includes)) =
        .ok filter.includes := by
      apply includesOf_includesToJson
      intro included mem scope given
      simpa [given] using ih included mem
    obtain ⟨_, _, limit, skip, _, _⟩ := filter
    rw [toJson, ofJson, ofMembers_eq_foldlM, foldlM_present]
    simp only [List.foldlM_cons, List.foldlM_nil, bind_ok, ofPart_where condition,
      ofPart_order _ order, ofPart_limit, ofPart_skip, ofPart_fields _ _ _ _ fields,
      ofPart_include _ _ _ _ _ includesRead]
    rfl

end Filter

theorem Json.distinct_ofInt (n : Int) : (Json.ofInt n).Distinct := by
  unfold ofInt
  split <;> simp

theorem Literal.distinct_toJson (literal : Literal) : literal.toJson.Distinct := by
  cases literal with
  | uint n => exact Json.distinct_ofInt _
  | float x =>
    rw [toJson]
    split <;> simp
  | _ => simp [toJson]

theorem Spelling.distinct_toJson {spelling : Spelling} (apart : spelling.operator ≠ "options")
    (operand : spelling.operand.Distinct) : spelling.toJson.Distinct := by
  unfold toJson
  cases spelling.ignoreCase <;> simp [apart, operand]

theorem Test.distinct_spelled (test : Test Literal) : test.spelled.operand.Distinct := by
  have ofPattern (operator : String) (pattern : Pattern) :
      (pattern.spelled operator).operand.Distinct := by
    unfold Pattern.spelled
    split
    · simp
    · split <;> simp
  cases test with
  | like pattern | notLike pattern => exact ofPattern _ pattern
  | compare comparison literal => exact literal.distinct_toJson
  | isNull | isNotNull => simp [Test.spelled]
  | between | oneOf | noneOf => simp [Test.spelled, Literal.distinct_toJson]

theorem Where.distinct_toJson (tree : Where) : tree.toJson.Distinct := by
  induction tree using Formula.induction with
  | leaf condition =>
    have own := Spelling.distinct_toJson (spelled_operator_ne condition.test)
      condition.test.distinct_spelled
    simpa [toJson] using own
  | group connective parts ih => simpa [toJson, partsToJson_eq_map] using ih

theorem Fields.distinct_toJson {distinct : Prop} (holds : distinct) {fields : Fields}
    (readable : fields.Readable distinct) : fields.toJson.Distinct := by
  cases readable with
  | only someName => simp [toJson]
  | except someName apart => simpa [toJson, Function.comp_def] using apart holds

theorem Json.distinct_present {parts : List (String × Option Json)}
    (keys : (parts.map Prod.fst).Nodup)
    (each : ∀ part ∈ parts, ∀ value, part.2 = some value → value.Distinct) :
    (Json.object (Json.present parts)).Distinct := by
  rw [distinct_object]
  constructor
  · refine keys.sublist ?_
    clear keys each
    induction parts with
    | nil => exact .slnil
    | cons part rest ih =>
      obtain ⟨key, value?⟩ := part
      cases value? with
      | none => exact .cons key ih
      | some value => exact .cons_cons key ih
  · intro member mem
    obtain ⟨part, listed, given⟩ := List.mem_filterMap.1 mem
    obtain ⟨value, present, rfl⟩ := Option.map_eq_some_iff.1 given
    exact each part listed value present

theorem Json.distinct_nonempty {items : List Json} (each : ∀ item ∈ items, item.Distinct)
    {value : Json} (given : Json.nonempty items = some value) : value.Distinct := by
  unfold nonempty at given
  split at given <;> cases given
  exact distinct_array.2 each

namespace Filter

theorem distinct_includeToJson {included : Include Filter}
    (own : ∀ scope, included.scope = some scope → scope.toJson.Distinct) :
    (includeToJson included).Distinct := by
  obtain ⟨relation, scope⟩ := included
  rw [includeToJson]
  cases scope with
  | none => simp [scopeToJson]
  | some scope => simpa [scopeToJson] using own scope rfl

theorem distinct_toJson {distinct : Prop} (holds : distinct) {filter : Filter}
    (readable : filter.Readable distinct) : filter.toJson.Distinct := by
  induction readable with
  | @level filter condition order fields scopes ih =>
    have ofOrder : ∀ item ∈ filter.order.map fun entry => Json.string entry.write,
        item.Distinct := by simp
    have ofIncludes : ∀ item ∈ includesToJson filter.includes, item.Distinct := by
      rw [includesToJson_eq_map, List.forall_mem_map]
      intro included mem
      apply distinct_includeToJson
      intro scope given
      simpa [given] using ih included mem
    obtain ⟨_, _, limit, skip, _, _⟩ := filter
    rw [toJson]
    refine Json.distinct_present (by simp) ?_
    simp only [List.forall_mem_cons, Option.map_eq_some_iff, forall_exists_index, and_imp]
    refine ⟨?_, fun _ => Json.distinct_nonempty ofOrder, ?_, ?_, ?_,
      fun _ => Json.distinct_nonempty ofIncludes, by simp⟩
    · rintro _ tree - rfl
      exact tree.distinct_toJson
    · rintro _ n - rfl
      exact Json.distinct_ofInt _
    · rintro _ n - rfl
      exact Json.distinct_ofInt _
    · rintro _ selected given rfl
      exact Fields.distinct_toJson holds (fields selected given)

theorem readable_iff {filter : Filter} :
    filter.Readable True ↔ ∃ value, value.Distinct ∧ ofJson value = .ok filter := by
  constructor
  · intro readable
    exact ⟨filter.toJson, distinct_toJson trivial readable, ofJson_toJson readable⟩
  · rintro ⟨value, distinct, read⟩
    exact (readable_ofJson value fun _ => distinct).1 filter read

theorem ofJson_canonical {value : Json} {filter : Filter} (read : ofJson value = .ok filter) :
    ofJson filter.toJson = .ok filter ∧ (value.Distinct → filter.toJson.Distinct) := by
  have readable : filter.Readable value.Distinct := (readable_ofJson value id).1 filter read
  exact ⟨ofJson_toJson readable, fun distinct => distinct_toJson distinct readable⟩

end Filter

def Sample.short : Json :=
  .object [
    ("where", .object [("name", .object [("ilike", .string "/ann/")]),
      ("id", .object [("gt", .number (.int 1)), ("ne", .null)])]),
    ("order", .string "id desc, name"), ("offset", .number (.int 5)),
    ("fields", .object [("note", .bool false)]), ("include", .object [("orders", .string "items")])]

def Sample.long : Json :=
  .object [
    ("where", .object [("and", .array [.object [("name", .object [("like", .string "/ann/i")])],
      .object [("and", .array [.object [("id", .object [("gt", .number (.int 1))])],
        .object [("id", .object [("neq", .null)])]])]])]),
    ("order", .array [.string "id DESC", .string "name"]), ("skip", .number (.int 5)),
    ("fields", .object [("note", .bool false)]),
    ("include", .array [.object [("relation", .string "orders"),
      ("scope", .object [("include", .array [.object [("relation", .string "items")]])])]])]

def Sample.chosen : Filter where
  condition := some (Where.all [
    Where.test "name" (.like (.regex "ann" true)),
    Where.all [Where.test "id" (.compare .gt (.int 1)), Where.test "id" .isNotNull]])
  order := [⟨"id", some .desc⟩, ⟨"name", none⟩]
  skip := some 5
  fields := some (.except ["note"])
  includes := [⟨"orders", some { includes := [⟨"items", none⟩] }⟩]

theorem ofJson_canonical_short :
    Filter.ofJson Sample.short = .ok Sample.chosen ∧ Sample.chosen.toJson = Sample.long ∧
      Filter.ofJson Sample.long = .ok Sample.chosen ∧ Sample.long.Distinct := by
  have read : Filter.ofJson Sample.short = .ok Sample.chosen := rfl
  have written : Sample.chosen.toJson = Sample.long := rfl
  have distinct : Sample.short.Distinct := by simp [Sample.short]
  obtain ⟨again, apart⟩ := Filter.ofJson_canonical read
  rw [written] at again apart
  exact ⟨read, written, again, apart distinct⟩

end NestedQuery
