import NestedQuery.Proofs.Sql.StatementSpelling

set_option autoImplicit false

namespace NestedQuery

def Literal.eraseText (type : FieldType) : Literal → Literal
  -- The literal without its text; a text on a date field is read as a point in time instead.
  | .text s =>
    match type with
    | .date => .text s
    | .scalar | .boolean => .text ""
  | literal => literal

def Pattern.eraseText : Pattern → Pattern
  | .like _ ignoreCase => .like "" ignoreCase
  | .regex _ ignoreCase => .regex "" ignoreCase

def Test.eraseTexts (type : FieldType) : Test Literal → Test Literal
  | .compare comparison value => .compare comparison (value.eraseText type)
  | .isNull => .isNull
  | .isNotNull => .isNotNull
  | .between low high => .between (low.eraseText type) (high.eraseText type)
  | .oneOf values => .oneOf (values.map (Literal.eraseText type))
  | .noneOf values => .noneOf (values.map (Literal.eraseText type))
  | .like pattern => .like pattern.eraseText
  | .notLike pattern => .notLike pattern.eraseText

mutual

def Where.eraseTexts (schema : Schema) (entity : String) : Where → Where
  | .leaf ⟨field, test⟩ => .leaf ⟨field, test.eraseTexts (schema.fieldType entity field)⟩
  | .group connective parts => .group connective (erasePartTexts schema entity parts)

def erasePartTexts (schema : Schema) (entity : String) : List Where → List Where
  | [] => []
  | part :: rest => Where.eraseTexts schema entity part :: erasePartTexts schema entity rest

end

mutual

def Filter.eraseTexts (schema : Schema) (entity : String) : Filter → Filter
  | ⟨condition, order, limit, skip, fields, includes⟩ =>
    ⟨condition.map (Where.eraseTexts schema entity), order, limit, skip, fields,
      eraseIncludedTexts schema entity includes⟩

def eraseIncludedTexts (schema : Schema) (entity : String) :
    List (Include Filter) → List (Include Filter)
  -- Behind a relation that the entity does not have nothing is read.
  | [] => []
  | ⟨name, scope⟩ :: rest =>
    ⟨name,
      match schema.relation entity name, scope with
      | .ok relation, some scope => some (scope.eraseTexts schema relation.target)
      | .ok _, none => none
      | .error _, _ => none⟩ :: eraseIncludedTexts schema entity rest

end

section Includes

variable {schema : Schema} {entity name : String}

theorem eraseIncludedTexts_unknown {e : Error} (unknown : schema.relation entity name = .error e)
    (scope : Option Filter) (rest : List (Include Filter)) :
    eraseIncludedTexts schema entity (⟨name, scope⟩ :: rest) =
      ⟨name, none⟩ :: eraseIncludedTexts schema entity rest := by
  rw [eraseIncludedTexts.eq_def]
  simp [unknown]

theorem eraseIncludedTexts_cons {relation : Relation}
    (related : schema.relation entity name = .ok relation) (scope : Option Filter)
    (rest : List (Include Filter)) :
    eraseIncludedTexts schema entity (⟨name, scope⟩ :: rest) =
      ⟨name, scope.map (Filter.eraseTexts schema relation.target)⟩ ::
        eraseIncludedTexts schema entity rest := by
  rw [eraseIncludedTexts.eq_def]
  cases scope <;> simp [related]

end Includes

inductive Agree {ε α : Type} (R : α → α → Prop) : Except ε α → Except ε α → Prop
  | ok {a b : α} (related : R a b) : Agree R (.ok a) (.ok b)
  | error (e : ε) : Agree R (.error e) (.error e)

namespace Agree

variable {ε α β : Type} {R : α → α → Prop} {S : β → β → Prop} {x y : Except ε α}

theorem refl (related : ∀ a, R a a) (x : Except ε α) : Agree R x x := by
  cases x with
  | ok a => exact .ok (related a)
  | error e => exact .error e

theorem bind {f g : α → Except ε β} (agree : Agree R x y)
    (each : ∀ a b, R a b → Agree S (f a) (g b)) : Agree S (x >>= f) (y >>= g) := by
  cases agree with
  | ok related => exact each _ _ related
  | error e => exact .error e

theorem under {f g : α → Except ε β} (each : ∀ a, Agree S (f a) (g a)) :
    Agree S (x >>= f) (x >>= g) := by
  cases x with
  | ok a => exact each a
  | error e => exact .error e

theorem map {f g : α → β} (agree : Agree R x y) (each : ∀ a b, R a b → S (f a) (g b)) :
    Agree S (x.map f) (y.map g) := by
  cases agree with
  | ok related => exact .ok (each _ _ related)
  | error e => exact .error e

theorem of_left {a : α} (agree : Agree R x y) (h : x = .ok a) : ∃ b, y = .ok b ∧ R a b := by
  cases agree with
  | ok related =>
    cases h
    exact ⟨_, rfl, related⟩
  | error e => cases h

theorem of_right {b : α} (agree : Agree R x y) (h : y = .ok b) : ∃ a, x = .ok a ∧ R a b := by
  cases agree with
  | ok related =>
    cases h
    exact ⟨_, rfl, related⟩
  | error e => cases h

end Agree

namespace Sql

def Piece.fixed? : Piece → Option Token
  | .operand _ => none
  | piece => some piece.token

def SameShape (p q : List Piece) : Prop := p.map Piece.fixed? = q.map Piece.fixed?

namespace SameShape

theorem refl (p : List Piece) : SameShape p p := rfl

theorem symm {p q : List Piece} (same : SameShape p q) : SameShape q p := Eq.symm same

theorem trans {p q r : List Piece} (first : SameShape p q) (second : SameShape q r) :
    SameShape p r := Eq.trans first second

theorem append {p q p' q' : List Piece} (left : SameShape p q) (right : SameShape p' q') :
    SameShape (p ++ p') (q ++ q') := by
  unfold SameShape at *
  rw [List.map_append, List.map_append, left, right]

theorem intercalate {r : List Piece} {ps qs : List (List Piece)}
    (each : List.Forall₂ SameShape ps qs) : SameShape (r.intercalate ps) (r.intercalate qs) := by
  induction each with
  | nil => exact .refl _
  | cons first others ih =>
    cases others with
    | nil => simpa using first
    | cons second others =>
      rw [List.intercalate_cons_cons, List.intercalate_cons_cons]
      exact (first.append (.refl r)).append ih

theorem intercalate_map {α : Type} {r : List Piece} {f : α → List Piece} {as bs : List α}
    (each : List.Forall₂ (fun a b => SameShape (f a) (f b)) as bs) :
    SameShape (r.intercalate (as.map f)) (r.intercalate (bs.map f)) := by
  refine .intercalate ?_
  rwa [List.forall₂_map_left_iff, List.forall₂_map_right_iff]

end SameShape

variable {dialect : Dialect}

def SameOperand (a b : Operand) : Prop := SameShape (operandPieces a) (operandPieces b)

def SameTest (dialect : Dialect) (a b : Test Operand) : Prop :=
  ∀ column, SameShape (conditionPieces dialect ⟨column, a⟩) (conditionPieces dialect ⟨column, b⟩)

def SamePredicate (dialect : Dialect) (a b : Predicate) : Prop :=
  SameShape (predicatePieces dialect a) (predicatePieces dialect b)

theorem sameShape_match (dialect : Dialect) (negated : Bool) (column : Column)
    (pattern : Pattern) :
    SameShape (matchPieces dialect negated column pattern)
      (matchPieces dialect negated column pattern.eraseText) := by
  cases dialect <;> cases pattern <;>
    simp [SameShape, matchPieces, Pattern.eraseText, operatorPieces, Piece.fixed?]

theorem sameShape_list {values others : List Operand}
    (same : List.Forall₂ SameOperand values others) :
    SameShape (listPieces values) (listPieces others) :=
  ((SameShape.refl _).append (.intercalate_map same)).append (.refl _)

theorem sameTest_membership {values others : List Operand}
    (same : List.Forall₂ SameOperand values others) :
    SameTest dialect (.oneOf values) (.oneOf others) ∧
      SameTest dialect (.noneOf values) (.noneOf others) := by
  cases same with
  | nil => exact ⟨fun _ => .refl _, fun _ => .refl _⟩
  | cons first rest =>
    have listed := sameShape_list (.cons first rest)
    exact ⟨fun _ => (SameShape.refl _).append listed, fun _ => (SameShape.refl _).append listed⟩

theorem sameShape_predicates {connective : Connective} {parts others : List Predicate}
    (same : List.Forall₂ (SamePredicate dialect) parts others) :
    SamePredicate dialect (.group connective parts) (.group connective others) := by
  unfold SamePredicate
  rw [predicatePieces, predicatePieces, partPieces_eq_map, partPieces_eq_map]
  exact ((SameShape.refl _).append (.intercalate_map same)).append (.refl _)

end Sql

namespace Compile

open Sql

variable {schema : Schema} {dialect : Dialect}

theorem toOperand_text {type : FieldType} (free : type ≠ .date) (s : String) :
    (Literal.text s).toOperand type = .ok (.text s) ∧
      (Literal.text s).eraseText type = .text "" := by
  cases type with
  | date => exact absurd rfl free
  | scalar => exact ⟨rfl, rfl⟩
  | boolean => exact ⟨rfl, rfl⟩

theorem agree_operand (entity field : String) (literal : Literal) :
    Agree SameOperand (operand schema entity field literal)
      (operand schema entity field (literal.eraseText (schema.fieldType entity field))) := by
  have same (a : Operand) : SameOperand a a := .refl _
  by_cases kept : literal.eraseText (schema.fieldType entity field) = literal
  · rw [kept]
    exact .refl same _
  · obtain ⟨s, rfl⟩ : ∃ s, literal = .text s := by
      cases literal with
      | text s => exact ⟨s, rfl⟩
      | _ => exact absurd rfl kept
    have free : schema.fieldType entity field ≠ .date := by
      intro date
      rw [date] at kept
      exact kept rfl
    obtain ⟨resolved, erased⟩ := toOperand_text free s
    obtain ⟨resolved', -⟩ := toOperand_text free ""
    unfold operand
    rw [erased, resolved, resolved']
    exact .ok rfl

theorem agree_mapM {ε α β : Type} {R : β → β → Prop} {f : α → Except ε β} {g : α → α}
    (each : ∀ a, Agree R (f a) (f (g a))) (values : List α) :
    Agree (List.Forall₂ R) (values.mapM f) ((values.map g).mapM f) := by
  induction values with
  | nil => exact .ok .nil
  | cons value rest ih =>
    rw [List.map_cons, List.mapM_cons, List.mapM_cons]
    exact (each value).bind fun a b related =>
      ih.bind fun as bs others => .ok (.cons related others)

theorem agree_resolveTest (entity field : String) (test : Test Literal) :
    Agree (SameTest dialect) (resolveTest (operand schema entity field) test)
      (resolveTest (operand schema entity field)
        (test.eraseTexts (schema.fieldType entity field))) := by
  have one (value : Literal) : Agree SameOperand (operand schema entity field value)
      (operand schema entity field (value.eraseText (schema.fieldType entity field))) :=
    agree_operand entity field value
  have several := agree_mapM one
  cases test with
  | compare comparison value =>
    exact (one value).map fun a b same column => (SameShape.refl _).append same
  | isNull => exact .ok fun _ => .refl _
  | isNotNull => exact .ok fun _ => .refl _
  | between low high =>
    refine (one low).bind fun a b lower => (one high).bind fun c d upper => .ok fun column => ?_
    exact (((SameShape.refl _).append lower).append (.refl _)).append upper
  | oneOf values => exact (several values).map fun a b same => (sameTest_membership same).1
  | noneOf values => exact (several values).map fun a b same => (sameTest_membership same).2
  | like pattern => exact .ok fun column => sameShape_match dialect false column pattern
  | notLike pattern => exact .ok fun column => sameShape_match dialect true column pattern

mutual

theorem agree_resolve (entity : String) (tableAlias : Alias) : ∀ tree : Where,
    Agree (SamePredicate dialect) (resolve schema entity tableAlias tree)
      (resolve schema entity tableAlias (tree.eraseTexts schema entity))
  | .leaf ⟨field, test⟩ =>
    (agree_resolveTest entity field test).map fun a b same => same _
  | .group connective parts => by
    have sameLength : (erasePartTexts schema entity parts).isEmpty = parts.isEmpty := by
      cases parts <;> rfl
    rw [Where.eraseTexts, resolve, resolve, sameLength]
    split
    · exact .error _
    · exact (agree_resolveParts entity tableAlias parts).map fun a b same =>
        sameShape_predicates same

theorem agree_resolveParts (entity : String) (tableAlias : Alias) : ∀ parts : List Where,
    Agree (List.Forall₂ (SamePredicate dialect)) (resolveParts schema entity tableAlias parts)
      (resolveParts schema entity tableAlias (erasePartTexts schema entity parts))
  | [] => .ok .nil
  | part :: rest =>
    (agree_resolve entity tableAlias part).bind fun _ _ same =>
      (agree_resolveParts entity tableAlias rest).bind fun _ _ others => .ok (.cons same others)

end

theorem agree_condition (dialect : Dialect) (entity : String) (tableAlias : Alias)
    (condition : Option Where) :
    Agree (Option.Rel (SamePredicate dialect))
      (condition.mapM (resolve schema entity tableAlias))
      ((condition.map (Where.eraseTexts schema entity)).mapM
        (resolve schema entity tableAlias)) := by
  cases condition with
  | none => exact .ok .none
  | some tree => exact (agree_resolve entity tableAlias tree).map fun _ _ same => .some same

theorem sameShape_restriction {rows : Rows} {predicate : Option Predicate}
    (same : Option.Rel (SamePredicate dialect) rows.predicate predicate) :
    SameShape (restrictionPieces dialect rows)
      (restrictionPieces dialect { rows with predicate }) := by
  obtain ⟨table, tableAlias, join, correlation, first, order, page⟩ := rows
  cases same with
  | none => exact .refl _
  | some same =>
    cases correlation with
    | none => exact (SameShape.refl _).append same
    | some correlation => exact (SameShape.refl _).append same

theorem sameShape_rows {rows : Rows} {predicate : Option Predicate}
    (same : Option.Rel (SamePredicate dialect) rows.predicate predicate) :
    SameShape (rowsPieces dialect rows) (rowsPieces dialect { rows with predicate }) :=
  (((SameShape.refl _).append (sameShape_restriction same)).append (.refl _)).append (.refl _)

theorem sameShape_source (adapter : Adapter) (plural : Bool) {rows : Rows}
    {predicate : Option Predicate}
    (same : Option.Rel (SamePredicate dialect) rows.predicate predicate) :
    SameShape (sourcePieces dialect (sourceOf adapter plural rows))
      (sourcePieces dialect (sourceOf adapter plural { rows with predicate })) := by
  unfold sourceOf
  split
  · exact (((SameShape.refl _).append (sameShape_rows same)).append (.refl _)).append (.refl _)
  · exact sameShape_rows same

theorem sameShape_pairs {fields others : List (String × List Piece)}
    (same : List.Forall₂ (fun a b => a.1 = b.1 ∧ SameShape a.2 b.2) fields others) :
    SameShape (pairPieces fields) (pairPieces others) := by
  refine .intercalate ?_
  rw [List.forall₂_map_left_iff, List.forall₂_map_right_iff]
  refine same.imp fun a b ⟨key, value⟩ => ?_
  rw [key]
  exact (SameShape.refl _).append value

theorem sameShape_array {pairs others : List Piece} (same : SameShape pairs others)
    (order : Option (List Piece)) :
    SameShape (arrayPieces dialect pairs order) (arrayPieces dialect others order) := by
  cases dialect with
  | sqlite => exact ((SameShape.refl _).append same).append (.refl _)
  | postgresql =>
    exact ((((SameShape.refl _).append same).append (.refl _)).append (.refl _)).append (.refl _)
  | mysql => exact (((SameShape.refl _).append same).append (.refl _)).append (.refl _)

theorem sameShape_object {pairs others : List Piece} (same : SameShape pairs others) :
    SameShape (objectPieces dialect pairs) (objectPieces dialect others) := by
  cases dialect <;> exact ((SameShape.refl _).append same).append (.refl _)

theorem sameShape_embed {pieces others : List Piece} (same : SameShape pieces others) :
    SameShape (embedPieces dialect pieces) (embedPieces dialect others) := by
  cases dialect <;> exact ((SameShape.refl _).append same).append (.refl _)

def SameSelect (dialect : Dialect) (a b : Select × Alias) : Prop :=
  SameShape (selectPieces dialect a.1) (selectPieces dialect b.1) ∧ a.2 = b.2

def SameRelations (dialect : Dialect) (a b : List (String × Select) × Alias) : Prop :=
  List.Forall₂ (fun a b => a.1 = b.1 ∧ SameShape a.2 b.2) (relationPieces dialect a.1)
    (relationPieces dialect b.1) ∧ a.2 = b.2

theorem sameShape_select {plural : Bool} {columns : List (String × Column)}
    {relations others : List (String × Select)} {source source' : Source}
    (embedded : List.Forall₂ (fun a b => a.1 = b.1 ∧ SameShape a.2 b.2)
      (relationPieces dialect relations) (relationPieces dialect others))
    (order : source.rows.order = source'.rows.order)
    (rows : SameShape (sourcePieces dialect source) (sourcePieces dialect source')) :
    SameShape (selectPieces dialect ⟨plural, columns, relations, source⟩)
      (selectPieces dialect ⟨plural, columns, others, source'⟩) := by
  have own (fields : List (String × List Piece)) :
      List.Forall₂ (fun a b => a.1 = b.1 ∧ SameShape a.2 b.2) fields fields :=
    List.forall₂_same.2 fun _ _ => ⟨rfl, .refl _⟩
  have pairs := sameShape_pairs (List.rel_append (own (columns.map fun column =>
    (column.1, column.2.pieces))) embedded)
  simp only [selectPieces, order]
  cases plural with
  | true =>
    exact (((SameShape.refl _).append (sameShape_array pairs _)).append (.refl _)).append rows
  | false =>
    exact (((SameShape.refl _).append (sameShape_object pairs)).append (.refl _)).append rows

theorem SameSelect.refl (a : Select × Alias) : SameSelect dialect a a := ⟨.refl _, rfl⟩

theorem agree_level (entity : String) (filter : Filter) (place : Level)
    {relations others : Except Error (List (String × Select) × Alias)}
    (included : Agree (SameRelations dialect) relations others)
    (includes : List (Include Filter)) :
    Agree (SameSelect dialect) (level schema (.ofDialect dialect) entity filter place relations)
      (level schema (.ofDialect dialect) entity
        { filter with condition := filter.condition.map (Where.eraseTexts schema entity), includes }
        place others) := by
  unfold level
  refine .under fun table => .under fun names => included.bind ?_
  rintro ⟨selects, last⟩ ⟨selects', last'⟩ ⟨embedded, ⟨⟩⟩
  have predicates : Agree (Option.Rel (SamePredicate dialect))
      (filter.condition.mapM (resolve schema entity place.tableAlias))
      ((filter.condition.map (Where.eraseTexts schema entity)).mapM
        (resolve schema entity place.tableAlias)) :=
    agree_condition dialect entity place.tableAlias filter.condition
  refine .under fun _ => predicates.bind fun first second predicate => ?_
  refine .ok ⟨sameShape_select embedded ?_ ?_, rfl⟩
  · rw [rows_sourceOf, rows_sourceOf]
    rfl
  · exact sameShape_source _ _ predicate

mutual

theorem agree_plan (entity : String) (place : Level) : ∀ filter : Filter,
    Agree (SameSelect dialect) (plan schema (.ofDialect dialect) entity place filter)
      (plan schema (.ofDialect dialect) entity place (filter.eraseTexts schema entity))
  | ⟨condition, order, limit, skip, fields, includes⟩ => by
    rw [plan_eq_level, plan_eq_level]
    exact agree_level entity ⟨condition, order, limit, skip, fields, includes⟩ place
      (agree_planIncludes entity place.tableAlias place.tableAlias includes) _

theorem agree_planIncludes (entity : String) (parent last : Alias) :
    ∀ includes : List (Include Filter),
      Agree (SameRelations dialect)
        (planIncludes schema (.ofDialect dialect) entity parent last includes)
        (planIncludes schema (.ofDialect dialect) entity parent last
          (eraseIncludedTexts schema entity includes))
  | [] => .ok ⟨.nil, rfl⟩
  | ⟨name, scope⟩ :: rest => by
    cases related : schema.relation entity name with
    | error e =>
      rw [eraseIncludedTexts_unknown related, planIncludes_cons, planIncludes_cons, related]
      exact .error e
    | ok relation =>
      rw [eraseIncludedTexts_cons related, planIncludes_cons, planIncludes_cons, related]
      simp only [bind_ok]
      refine .under fun place => ?_
      have planned : Agree (SameSelect dialect)
          (plan schema (.ofDialect dialect) relation.target place (scope.getD {}))
          (plan schema (.ofDialect dialect) relation.target place
            ((scope.map (Filter.eraseTexts schema relation.target)).getD {})) := by
        cases scope with
        | none => exact .refl .refl _
        | some scope => exact agree_plan relation.target place scope
      refine planned.bind ?_
      rintro ⟨select, next⟩ ⟨select', next'⟩ ⟨same, ⟨⟩⟩
      refine (agree_planIncludes entity parent next rest).bind ?_
      rintro ⟨others, final⟩ ⟨others', final'⟩ ⟨included, ⟨⟩⟩
      exact .ok ⟨.cons ⟨rfl, sameShape_embed same⟩ included, rfl⟩

end

theorem planned_same {entity : String} {place : Level} {first second : Filter}
    (same : first.eraseTexts schema entity = second.eraseTexts schema entity) {select : Select}
    {last : Alias}
    (planned : Planned schema (.ofDialect dialect) entity place first select last) :
    ∃ select', Planned schema (.ofDialect dialect) entity place second select' last ∧
      SameShape (selectPieces dialect select) (selectPieces dialect select') := by
  obtain ⟨⟨erased, _⟩, erasing, shape, ⟨⟩⟩ :=
    (agree_plan entity place first).of_left (plan_of_planned planned)
  rw [same] at erasing
  obtain ⟨⟨select', _⟩, planned', shape', ⟨⟩⟩ := (agree_plan entity place second).of_right erasing
  exact ⟨select', planned_iff.2 planned', shape.trans shape'.symm⟩

end Compile

end NestedQuery
