import NestedQuery.Proofs.Readable
import NestedQuery.Proofs.Refusals

set_option autoImplicit false

namespace NestedQuery

def Test.Formed (test : Test Literal) : Prop := ∀ literal ∈ test.operands, literal.Formats .scalar

theorem date_of_formless {literal : Literal} {type : FieldType} {fault : LiteralFault}
    (formats : literal.Formats .scalar) (formless : literal.toOperand type = .error fault) :
    type = .date := by
  cases type with
  | date => rfl
  | scalar | boolean =>
    obtain ⟨operand, formed⟩ := (toOperand_succeeds _ literal).2 formats
    cases formed.symm.trans formless

namespace Where

inductive WellFormed : Where → Prop
  | leaf {field : String} {test : Test Literal} (formed : test.Formed) :
      WellFormed (.leaf ⟨field, test⟩)
  | group {connective : Connective} {parts : List Where} (somePart : parts ≠ [])
      (each : ∀ part ∈ parts, WellFormed part) : WellFormed (.group connective parts)

theorem WellFormed.part {part tree : Where} (wellFormed : tree.WellFormed)
    (within : Formula.PartOf part tree) : part.WellFormed := by
  induction within with
  | self => exact wellFormed
  | member mem within ih =>
    cases wellFormed with
    | group somePart each => exact ih (each _ mem)

theorem WellFormed.grouped {connective : Connective} {tree : Where} (wellFormed : tree.WellFormed) :
    ¬ Formula.PartOf (.group connective []) tree := by
  intro within
  cases wellFormed.part within with
  | group somePart each => exact somePart rfl

theorem WellFormed.formed {field : String} {test : Test Literal} {tree : Where}
    (wellFormed : tree.WellFormed) (within : Formula.PartOf (.leaf ⟨field, test⟩) tree) :
    test.Formed := by
  cases wellFormed.part within with
  | leaf formed => exact formed

theorem formats_of_readable {literal : Literal} (readable : literal.Readable) :
    literal.Formats .scalar := by
  obtain ⟨value, read⟩ := readable
  rintro x rfl
  unfold Literal.ofJson? at read
  split at read <;> cases read
  assumption

theorem formed_of_readable {test : Test Literal} (readable : test.Readable) : test.Formed := by
  intro literal mem
  cases test with
  | like | notLike => cases mem
  | _ => exact formats_of_readable (readable literal mem)

theorem Readable.wellFormed {tree : Where} (readable : tree.Readable) : tree.WellFormed := by
  induction readable with
  | leaf apart own => exact .leaf (formed_of_readable own)
  | group somePart each ih => exact .group somePart ih

end Where

namespace Filter

inductive WellFormed : Filter → Prop
  | level {filter : Filter}
      (condition : ∀ tree, filter.condition = some tree → Where.WellFormed tree)
      (scopes : ∀ included ∈ filter.includes, WellFormed (included.scope.getD {})) :
      WellFormed filter

theorem WellFormed.at_level {schema : Schema} {entity owner : String} {filter scope : Filter}
    (wellFormed : filter.WellFormed) (level : filter.HasLevel schema entity owner scope) :
    scope.WellFormed := by
  induction level with
  | root => exact wellFormed
  | included above listed related ih =>
    obtain ⟨-, scopes⟩ := ih
    exact scopes _ listed

theorem Readable.wellFormed {distinct : Prop} {filter : Filter}
    (readable : filter.Readable distinct) : filter.WellFormed := by
  induction readable with
  | level condition order fields scopes ih =>
    exact .level (fun tree given => (condition tree given).wellFormed) ih

theorem ofJson_wellFormed (value : Json) : Yields WellFormed (ofJson value) :=
  fun filter read => ((readable_ofJson value False.elim).1 filter read).wellFormed

end Filter

/-- A filter that was read from JSON compiles, or is refused for a name that the schema does not
define, for an operand on a date, or for having more tables than there are aliases. -/
theorem compile_parsed {value : Json} {filter : Filter} (parsed : Filter.ofJson value = .ok filter)
    (schema : Schema) (dialect : Dialect) (entity : String) (options : Options) :
    (∃ text, compile schema (.ofDialect dialect) entity filter options = .ok text) ∨
    ∃ error, compile schema (.ofDialect dialect) entity filter options = .error error ∧
      ((∃ name, error = .unknownEntity name) ∨
        (∃ owner name, error = .unknownRelation owner name) ∨
        (∃ owner scope tree field test fault, filter.HasLevel schema entity owner scope ∧
          scope.condition = some tree ∧ Formula.PartOf (.leaf ⟨field, test⟩) tree ∧
          schema.fieldType owner field = .date ∧ error = .invalidLiteral field fault) ∨
        (error = .invalidFilter .aliasesExhausted ∧
          error.message = "Invalid filter: alias range exhausted" ∧
          UInt32.size ≤
            options.tableAlias.index + aliasCount (filter.relations schema entity))) := by
  have wellFormed := Filter.ofJson_wellFormed value filter parsed
  have conditions {owner : String} {scope : Filter} {tree : Where}
      (level : filter.HasLevel schema entity owner scope) (given : scope.condition = some tree) :
      tree.WellFormed := by
    obtain ⟨condition, -⟩ := wellFormed.at_level level
    exact condition tree given
  cases compiled : compile schema (.ofDialect dialect) entity filter options with
  | ok text => exact .inl ⟨text, rfl⟩
  | error error =>
    refine .inr ⟨error, rfl, ?_⟩
    cases compile_failsWith schema dialect entity filter options error compiled with
    | undefined level unknown => exact .inl ⟨_, rfl⟩
    | join level listed related joined unknown => exact .inl ⟨_, rfl⟩
    | unrelated level listed absent => exact .inr (.inl ⟨_, _, rfl⟩)
    | group level given part => exact absurd part (conditions level given).grouped
    | literal level given part operand formless =>
      have date := date_of_formless ((conditions level given).formed part _ operand) formless
      exact .inr (.inr (.inl ⟨_, _, _, _, _, _, level, given, part, date, rfl⟩))
    | aliases full => exact .inr (.inr (.inr ⟨rfl, rfl, full⟩))

def Sample.undated : Json :=
  .object [("include", .object [("relation", .string "orders"), ("scope", .object [("where",
    .object [("or", .array [.object [("id", .null)], .object [("day", .string "soon")]])])])])]

theorem compile_parsed_shop :
    ∃ filter error, Filter.ofJson Sample.undated = .ok filter ∧
      compile Sample.shop (.ofDialect .mysql) "Customer" filter {} = .error error ∧
      error.message = "Invalid literal for `day`: \"soon\" is not a date" ∧
      ∃ owner scope, filter.HasLevel Sample.shop "Customer" owner scope ∧
        Sample.shop.fieldType owner "day" = .date := by
  refine ⟨_, _, rfl, rfl, rfl, ?_⟩
  rcases @compile_parsed Sample.undated _ rfl Sample.shop .mysql "Customer" {} with
    ⟨text, compiled⟩ | ⟨error, refused, reasons⟩
  · cases compiled
  · cases refused
    rcases reasons with ⟨_, ⟨⟩⟩ | ⟨_, _, ⟨⟩⟩ |
      ⟨owner, scope, _, _, _, _, level, -, -, date, ⟨⟩⟩ | ⟨⟨⟩, -⟩
    exact ⟨owner, scope, level, date⟩

end NestedQuery
