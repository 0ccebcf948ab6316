import NestedQuery.Proofs.Evaluation
import NestedQuery.Proofs.Sql.StatementSpelling

set_option autoImplicit false

namespace NestedQuery

def Test.hasSubject {ν : Type} : Test ν → Bool
  -- An empty list of values is spelled as a constant.
  | .oneOf [] | .noneOf [] => false
  | _ => true

def Formula.subjects {κ ν : Type} (formula : Formula (Condition κ ν)) : List κ :=
  (formula.leaves.filter fun condition => condition.test.hasSubject).map Condition.subject

namespace Sql

/-- A level is named by the positions of the relations that lead to it; a table stands there as the
level's own or as the one that joins it to the level above. -/
structure Seat where
  level : List Nat
  joins : Bool
deriving DecidableEq

/-- A table of a FROM clause; where it is derived, a SELECT from that table stands in its place. -/
structure Item where
  tableAlias : Alias
  table : String
  seat : Seat
  derived : Bool

structure Reference where
  tableAlias : Alias
  -- All columns where there is none.
  column : Option String
  -- The items of the SELECT around the reference, then of those around that.
  scopes : List (List Item)

def resolve? (name : String) : List (List Item) → Option Item
  -- The nearest SELECT with an item of that name decides, and may have only one.
  | [] => none
  | items :: outer =>
    match items.filter fun item => item.tableAlias.write = name with
    | [] => resolve? name outer
    | [item] => some item
    | _ :: _ :: _ => none

def Reference.written (reference : Reference) : String × Option String :=
  (reference.tableAlias.write, reference.column)

def referTo (scopes : List (List Item)) (columns : List Column) : List Reference :=
  columns.map fun column => ⟨column.table, some column.name, scopes⟩

@[simp] theorem referTo_append (scopes : List (List Item)) (columns more : List Column) :
    referTo scopes (columns ++ more) = referTo scopes columns ++ referTo scopes more :=
  List.map_append

def Rows.items (level : List Nat) (rows : Rows) : List Item :=
  ⟨rows.tableAlias, rows.table, ⟨level, false⟩, false⟩ ::
    (rows.join.elim [] Join.tables).map fun joined => ⟨joined.2, joined.1, ⟨level, true⟩, false⟩

def Rows.derivedItem (level : List Nat) (rows : Rows) : Item :=
  ⟨rows.tableAlias, rows.table, ⟨level, false⟩, true⟩

def Rows.references (scopes : List (List Item)) (rows : Rows) : List Reference :=
  referTo scopes (rows.join.elim [] Join.columns ++ rows.correlation.elim [] Correlation.columns ++
    rows.predicate.elim [] Formula.subjects ++ rows.order.map OrderItem.column)

def Source.items (level : List Nat) : Source → List Item
  | .direct rows => rows.items level
  | .derived rows _ => [rows.derivedItem level]

/-- The tables of a derived table are in sight only within; whether the items beside it are in
sight there is up to `lateral`. -/
def Source.references (lateral : Bool) (level : List Nat) (outer : List (List Item)) :
    Source → List Reference
  | .direct rows => rows.references (rows.items level :: outer)
  | .derived rows _ =>
    let outer := if lateral then [rows.derivedItem level] :: outer else outer
    ⟨rows.tableAlias, none, rows.items level :: outer⟩ ::
      rows.references (rows.items level :: outer)

mutual

/-- In the order of the text. SQLite leaves the order of an array to its rows. -/
def Select.references (dialect : Dialect) (lateral : Bool) (level : List Nat)
    (outer : List (List Item)) : Select → List Reference
  | ⟨plural, columns, relations, source⟩ =>
    let scopes := source.items level :: outer
    let order := if plural && dialect ≠ .sqlite then source.rows.order else []
    referTo scopes (columns.map Prod.snd) ++
      relationReferences dialect lateral level 0 scopes relations ++
      referTo scopes (order.map OrderItem.column) ++ source.references lateral level outer

def relationReferences (dialect : Dialect) (lateral : Bool) (level : List Nat) (position : Nat)
    (outer : List (List Item)) : List (String × Select) → List Reference
  | [] => []
  | (_, select) :: rest =>
    select.references dialect lateral (level ++ [position]) outer ++
      relationReferences dialect lateral level (position + 1) outer rest

end

/-- The references in a text: an alias, a dot, and a quoted name or a star. -/
def qualified : List Token → List (String × Option String)
  | .word tableAlias :: .symbol "." :: .name column :: rest =>
    (tableAlias, some column) :: qualified rest
  | .word tableAlias :: .symbol "." :: .symbol "*" :: rest => (tableAlias, none) :: qualified rest
  | _ :: rest => qualified rest
  | [] => []

def Undotted (pieces : List Piece) : Prop := ∀ piece ∈ pieces, piece.token ≠ .symbol "."

@[simp] theorem undotted_nil : Undotted [] := by simp [Undotted]

@[simp] theorem undotted_cons {piece : Piece} {rest : List Piece} :
    Undotted (piece :: rest) ↔ piece.token ≠ .symbol "." ∧ Undotted rest := by
  simp [Undotted]

@[simp] theorem undotted_append {pieces more : List Piece} :
    Undotted (pieces ++ more) ↔ Undotted pieces ∧ Undotted more := by
  simp [Undotted, or_imp, forall_and]

inductive Refers : List Piece → List (String × Option String) → Prop
  | nil : Refers [] []
  | plain {piece : Piece} {rest : List Piece} {references : List (String × Option String)}
      (undotted : piece.token ≠ .symbol ".") (others : Refers rest references) :
      Refers (piece :: rest) references
  | column {rest : List Piece} {references : List (String × Option String)} (tableAlias : Alias)
      (name : String) (others : Refers rest references) :
      Refers (.table tableAlias :: .symbol "." :: .name name :: rest)
        ((tableAlias.write, some name) :: references)
  | star {rest : List Piece} {references : List (String × Option String)} (tableAlias : Alias)
      (others : Refers rest references) :
      Refers (.table tableAlias :: .symbol "." :: .symbol "*" :: rest)
        ((tableAlias.write, none) :: references)

namespace Refers

variable {pieces more : List Piece} {references others : List (String × Option String)}

theorem undotted_head (refers : Refers pieces references) :
    (pieces.map Piece.token).head? ≠ some (.symbol ".") := by
  cases refers with
  | nil => simp
  | plain undotted others => simpa using undotted
  | column | star => simp [Piece.table, Piece.token]

theorem qualified_cons {token : Token} {rest : List Token}
    (undotted : rest.head? ≠ some (.symbol ".")) : qualified (token :: rest) = qualified rest := by
  rw [qualified.eq_def]
  split <;> simp_all

theorem qualified_eq (refers : Refers pieces references) :
    qualified (pieces.map Piece.token) = references := by
  induction refers with
  | nil => rfl
  | plain undotted others ih => rw [List.map_cons, qualified_cons others.undotted_head, ih]
  | column tableAlias name others ih => simp [Piece.table, Piece.token, qualified, ih]
  | star tableAlias others ih => simp [Piece.table, Piece.token, qualified, ih]

theorem append (left : Refers pieces references) (right : Refers more others) :
    Refers (pieces ++ more) (references ++ others) := by
  induction left with
  | nil => exact right
  | plain undotted _ ih => exact .plain undotted ih
  | column tableAlias name _ ih => exact .column tableAlias name ih
  | star tableAlias _ ih => exact .star tableAlias ih

theorem behind (plain : Undotted pieces) (refers : Refers more others) :
    Refers (pieces ++ more) others := by
  induction pieces with
  | nil => exact refers
  | cons piece rest ih =>
    exact .plain (plain piece List.mem_cons_self)
      (ih fun other mem => plain other (List.mem_cons_of_mem _ mem))

theorem of_undotted (plain : Undotted pieces) : Refers pieces [] := by
  simpa using behind plain .nil

theorem before (refers : Refers pieces references) (plain : Undotted more) :
    Refers (pieces ++ more) references := by
  simpa using refers.append (of_undotted plain)

theorem intercalate {separator : List Piece} (plain : Undotted separator)
    {parts : List (List Piece)} {each : List (List (String × Option String))}
    (refers : List.Forall₂ Refers parts each) :
    Refers (separator.intercalate parts) each.flatten := by
  induction refers with
  | nil => exact .nil
  | cons first others ih =>
    cases others with
    | nil => simpa using first
    | cons second others =>
      rw [List.intercalate_cons_cons, List.flatten_cons]
      exact (first.before plain).append ih

theorem intercalate_map {separator : List Piece} (plain : Undotted separator) {ι : Type}
    {items : List ι} {part : ι → List Piece} {own : ι → List (String × Option String)}
    (each : ∀ item ∈ items, Refers (part item) (own item)) :
    Refers (separator.intercalate (items.map part)) (items.flatMap own) := by
  apply intercalate plain
  rw [List.forall₂_map_left_iff, List.forall₂_map_right_iff, List.forall₂_same]
  exact each

end Refers

def Column.written (column : Column) : String × Option String :=
  (column.table.write, some column.name)

section Conditions

variable (dialect : Dialect)

theorem refers_column (column : Column) : Refers column.pieces [column.written] :=
  .column column.table column.name .nil

theorem undotted_signed (negative : Bool) (digits : String) : Undotted (signed negative digits) := by
  cases negative <;> simp [signed, Piece.token]

theorem undotted_operand (operand : Operand) : Undotted (operandPieces operand) := by
  cases operand with
  | truth b => cases b <;> simp [operandPieces, Piece.token]
  | integer n => exact undotted_signed _ _
  | decimal x finite => exact undotted_signed _ _
  | text s => simp [operandPieces, Piece.token]
  | timestamp t => simp [operandPieces, Piece.token]

theorem undotted_list (values : List Operand) : Undotted (listPieces values) := by
  have comma : Undotted [.symbol ","] := by simp [Piece.token]
  have inside : Undotted ([.symbol ","].intercalate (values.map operandPieces)) := by
    induction values with
    | nil => simp
    | cons first rest ih =>
      cases rest with
      | nil => simpa using undotted_operand first
      | cons second rest =>
        rw [List.map_cons, List.map_cons, List.intercalate_cons_cons]
        exact undotted_append.2 ⟨undotted_append.2 ⟨undotted_operand first, comma⟩, ih⟩
  simp [listPieces, inside, Piece.token]

theorem refers_match (negated : Bool) (column : Column) (pattern : Pattern) :
    Refers (matchPieces dialect negated column pattern) [column.written] := by
  have subject := refers_column column
  have negation : Undotted (negationPieces negated) := by
    cases negated <;> simp [negationPieces, Piece.token]
  have operator : Undotted (operatorPieces negated pattern) := by
    cases pattern with
    | like text ignoreCase => cases ignoreCase <;> simp [operatorPieces, negation, Piece.token]
    | regex source ignoreCase =>
      cases negated <;> cases ignoreCase <;> simp [operatorPieces, Piece.token]
  cases dialect with
  | sqlite =>
    cases pattern with
    | like text ignoreCase => exact .behind negation (subject.before (by simp [Piece.token]))
    | regex source ignoreCase =>
      refine .behind negation ((Refers.behind ?_ subject).before ?_) <;> simp [Piece.token]
  | postgresql => exact (subject.before operator).before (by simp [Piece.token])
  | mysql =>
    cases pattern with
    | like text ignoreCase =>
      refine (((subject.before negation).before ?_).before ?_).before ?_
      · simp [Piece.token]
      · cases ignoreCase <;> simp [Piece.token]
      · simp [Piece.token]
    | regex source ignoreCase =>
      refine .behind negation ((Refers.behind ?_ subject).before ?_) <;> simp [Piece.token]

theorem refers_condition (condition : Condition Column Operand) :
    Refers (conditionPieces dialect condition)
      (if condition.test.hasSubject then [condition.subject.written] else []) := by
  obtain ⟨column, test⟩ := condition
  have subject := refers_column column
  cases test with
  | compare comparison value =>
    refine (subject.before ?_).before (undotted_operand value)
    cases comparison <;> simp [Piece.token, Comparison.symbol]
  | isNull => exact subject.before (by simp [Piece.token])
  | isNotNull => exact subject.before (by simp [Piece.token])
  | between low high =>
    refine (((subject.before ?_).before (undotted_operand low)).before ?_).before
      (undotted_operand high) <;> simp [Piece.token]
  | oneOf values =>
    cases values with
    | nil => exact .of_undotted (by simp [conditionPieces, Piece.token])
    | cons value rest => exact (subject.before (by simp [Piece.token])).before (undotted_list _)
  | noneOf values =>
    cases values with
    | nil => exact .of_undotted (by simp [conditionPieces, Piece.token])
    | cons value rest => exact (subject.before (by simp [Piece.token])).before (undotted_list _)
  | like pattern => exact refers_match dialect false column pattern
  | notLike pattern => exact refers_match dialect true column pattern

theorem subjects_group {κ ν : Type} (connective : Connective)
    (parts : List (Formula (Condition κ ν))) :
    (Formula.group connective parts).subjects = parts.flatMap Formula.subjects := by
  rw [Formula.subjects, Formula.leaves]
  induction parts with
  | nil => rfl
  | cons part rest ih =>
    rw [partLeaves, List.filter_append, List.map_append, ih, List.flatMap_cons, Formula.subjects]

mutual

theorem refers_predicate : ∀ predicate : Predicate,
    Refers (predicatePieces dialect predicate) (predicate.subjects.map Column.written)
  | .leaf condition => by
    have spelled := refers_condition dialect condition
    rw [predicatePieces, Formula.subjects, Formula.leaves]
    cases subject : condition.test.hasSubject <;> simpa [subject] using spelled
  | .group connective parts => by
    have keyword : Undotted [.word connective.keyword] := by simp [Piece.token]
    have spelled := Refers.intercalate_map keyword (refers_parts parts)
    rw [predicatePieces, partPieces_eq_map, subjects_group, List.map_flatMap]
    refine (Refers.behind ?_ spelled).before ?_ <;> simp [Piece.token]

theorem refers_parts : ∀ parts : List Predicate, ∀ part ∈ parts,
    Refers (predicatePieces dialect part) (part.subjects.map Column.written)
  | [] => by simp
  | part :: rest => fun other mem => by
    rcases List.mem_cons.1 mem with first | mem
    · rw [first]
      exact refers_predicate part
    · exact refers_parts rest other mem

end

theorem refers_equality (left right : Column) :
    Refers (equalityPieces left right) ([left, right].map Column.written) :=
  ((refers_column left).before (by simp [Piece.token])).append (refers_column right)

theorem refers_join (join : Join) : Refers (joinPieces join) (join.columns.map Column.written) := by
  cases join with
  | inner table tableAlias left right =>
    exact .behind (by simp [Piece.token, Piece.table]) (refers_equality left right)
  | given text => exact .nil

theorem refers_correlation (correlation : Correlation) :
    Refers (correlationPieces correlation) (correlation.columns.map Column.written) := by
  cases correlation with
  | equal left right => exact refers_equality left right
  | given text => exact .nil

theorem refers_order (order : List OrderItem) :
    Refers (orderPieces order) ((order.map OrderItem.column).map Column.written) := by
  have comma : Undotted [.symbol ","] := by simp [Piece.token]
  have each : ∀ item ∈ order, Refers (orderItemPieces item) [item.column.written] := by
    intro item _
    refine (refers_column item.column).before ?_
    cases item.direction <;> simp [Piece.token]
  rw [List.map_map, List.map_eq_flatMap]
  exact .intercalate_map comma each

theorem undotted_page (page : Page) : Undotted (pagePieces page) := by
  obtain ⟨limit, offset⟩ := page
  cases offset <;> simp [pagePieces, Piece.token]

theorem refers_restriction (rows : Rows) :
    Refers (restrictionPieces dialect rows)
      ((rows.correlation.elim [] Correlation.columns ++
        rows.predicate.elim [] Formula.subjects).map Column.written) := by
  have opening : Undotted [.word "WHERE"] := by simp [Piece.token]
  have conjunction : Undotted [.word "AND"] := by simp [Piece.token]
  unfold restrictionPieces
  rw [List.map_append]
  cases rows.correlation with
  | none =>
    cases rows.predicate with
    | none => exact .nil
    | some predicate => exact .behind opening (refers_predicate dialect predicate)
  | some correlation =>
    have tied := Refers.behind opening (refers_correlation correlation)
    cases rows.predicate with
    | none => simpa using tied
    | some predicate => exact (tied.before conjunction).append (refers_predicate dialect predicate)

@[simp] theorem written_referTo (scopes : List (List Item)) (columns : List Column) :
    (referTo scopes columns).map Reference.written = columns.map Column.written := by
  simp [referTo, Reference.written, Column.written]

theorem refers_rows (scopes : List (List Item)) (rows : Rows) :
    Refers (rowsPieces dialect rows) ((rows.references scopes).map Reference.written) := by
  have join : Refers ((rows.join.map joinPieces).getD [])
      ((rows.join.elim [] Join.columns).map Column.written) := by
    cases rows.join with
    | none => exact .nil
    | some join => exact refers_join join
  have order : Refers
      (if rows.order.isEmpty then [] else [.word "ORDER", .word "BY"] ++ orderPieces rows.order)
      ((rows.order.map OrderItem.column).map Column.written) := by
    cases rows.order with
    | nil => exact .nil
    | cons first rest => exact .behind (by simp [Piece.token]) (refers_order (first :: rest))
  have page : Undotted ((rows.page.map pagePieces).getD []) := by
    cases rows.page with
    | none => simp
    | some page => exact undotted_page page
  have table : Undotted [.name rows.table, .word "AS", .table rows.tableAlias] := by
    simp [Piece.token, Piece.table]
  rw [Rows.references, written_referTo, List.map_append, List.append_assoc, List.map_append]
  exact ((((Refers.behind table join).append (refers_restriction dialect rows)).append order).before
    page)

theorem refers_source (lateral : Bool) (level : List Nat) (outer : List (List Item))
    (source : Source) :
    Refers (sourcePieces dialect source)
      ((source.references lateral level outer).map Reference.written) := by
  cases source with
  | direct rows => exact refers_rows dialect _ rows
  | derived rows cutToOne =>
    have rowsRefer := refers_rows dialect
      (rows.items level :: if lateral then [rows.derivedItem level] :: outer else outer) rows
    have star : Refers [.symbol "(", .word "SELECT", .table rows.tableAlias, .symbol ".",
        .symbol "*", .word "FROM"] [(rows.tableAlias.write, none)] := by
      refine .plain ?_ (.plain ?_ (.star rows.tableAlias (.plain ?_ .nil))) <;> simp [Piece.token]
    refine ((star.append rowsRefer).before ?_).before ?_
    · simp [Piece.token, Piece.table]
    · cases cutToOne <;> simp [Piece.token]

theorem refers_pairs {fields : List (String × List Piece)}
    {each : List (List (String × Option String))}
    (refers : List.Forall₂ (fun field => Refers field.2) fields each) :
    Refers (pairPieces fields) each.flatten := by
  have comma : Undotted [.symbol ","] := by simp [Piece.token]
  apply Refers.intercalate comma
  rw [List.forall₂_map_left_iff]
  exact refers.imp fun field references spelled => .behind (by simp [Piece.token]) spelled

theorem refers_array {pairs : List Piece} {references : List (String × Option String)}
    (spelled : Refers pairs references) (order : List OrderItem) :
    Refers (arrayPieces dialect pairs (if order.isEmpty then none else some (orderPieces order)))
      (references ++
        ((if dialect ≠ .sqlite then order else []).map OrderItem.column).map Column.written) := by
  have ordered := refers_order order
  cases dialect with
  | sqlite =>
    simp only [ne_eq, not_true_eq_false, if_false, List.map_nil, List.append_nil]
    refine (Refers.behind ?_ spelled).before ?_ <;> simp [Piece.token]
  | postgresql =>
    have ordering : Refers (((if order.isEmpty then none else some (orderPieces order)).map
        fun order => [.word "ORDER", .word "BY"] ++ order).getD [])
        ((order.map OrderItem.column).map Column.written) := by
      cases order with
      | nil => exact .nil
      | cons first rest => exact .behind (by simp [Piece.token]) ordered
    refine (((Refers.behind ?_ spelled).before ?_).append ordering).before ?_ <;>
      simp [Piece.token]
  | mysql =>
    have window : Refers (((if order.isEmpty then none else some (orderPieces order)).map
        fun order => [.word "OVER", .symbol "(", .word "ORDER", .word "BY"] ++ order ++
          [.word "ROWS", .word "BETWEEN", .word "UNBOUNDED", .word "PRECEDING", .word "AND",
            .word "UNBOUNDED", .word "FOLLOWING", .symbol ")"]).getD [])
        ((order.map OrderItem.column).map Column.written) := by
      cases order with
      | nil => exact .nil
      | cons first rest =>
        simp only [List.isEmpty_cons, Bool.false_eq_true, if_false, Option.map_some,
          Option.getD_some]
        refine (Refers.behind ?_ ordered).before ?_ <;> simp [Piece.token]
    refine ((Refers.behind ?_ spelled).before ?_).append window <;> simp [Piece.token]

theorem refers_object {pairs : List Piece} {references : List (String × Option String)}
    (spelled : Refers pairs references) : Refers (objectPieces dialect pairs) references := by
  cases dialect with
  | sqlite | postgresql | mysql =>
    refine (Refers.behind ?_ spelled).before ?_ <;> simp [Piece.token]

theorem refers_embed {pieces : List Piece} {references : List (String × Option String)}
    (spelled : Refers pieces references) : Refers (embedPieces dialect pieces) references := by
  cases dialect with
  | sqlite | postgresql | mysql =>
    refine (Refers.behind ?_ spelled).before ?_ <;> simp [Piece.token]

mutual

theorem refers_select (lateral : Bool) : ∀ (select : Select) (level : List Nat)
    (outer : List (List Item)), Refers (selectPieces dialect select)
      ((select.references dialect lateral level outer).map Reference.written)
  | ⟨plural, columns, relations, source⟩, level, outer => by
    obtain ⟨each, others, flat⟩ :=
      refers_relations lateral relations level 0 (source.items level :: outer)
    have own : List.Forall₂ (fun field => Refers field.2)
        (columns.map fun column => (column.1, column.2.pieces))
        (columns.map fun column => [column.2.written]) := by
      rw [List.forall₂_map_left_iff, List.forall₂_map_right_iff, List.forall₂_same]
      exact fun column _ => refers_column column.2
    have pairs := refers_pairs (List.rel_append own others)
    have opening : Undotted [.word "SELECT"] := by simp [Piece.token]
    have naming : Undotted [.word "AS", .word "data", .word "FROM"] := by simp [Piece.token]
    have rows := refers_source dialect lateral level outer source
    rw [List.flatten_append, flat, ← List.flatMap_def, ← List.map_eq_flatMap] at pairs
    simp only [selectPieces, Select.references, List.map_append, written_referTo, List.map_map]
    cases plural with
    | true =>
      have array := refers_array dialect pairs source.rows.order
      have spelled := ((Refers.behind opening array).before naming).append rows
      simpa [Function.comp_def] using spelled
    | false =>
      have spelled := ((Refers.behind opening (refers_object dialect pairs)).before naming).append rows
      simpa [Function.comp_def] using spelled

theorem refers_relations (lateral : Bool) : ∀ (relations : List (String × Select))
    (level : List Nat) (position : Nat) (outer : List (List Item)),
      ∃ each, List.Forall₂ (fun field => Refers field.2) (relationPieces dialect relations) each ∧
        each.flatten =
          (relationReferences dialect lateral level position outer relations).map Reference.written
  | [], level, position, outer => ⟨[], .nil, rfl⟩
  | (name, select) :: rest, level, position, outer => by
    have own := refers_embed dialect (refers_select lateral select (level ++ [position]) outer)
    obtain ⟨each, others, flat⟩ := refers_relations lateral rest level (position + 1) outer
    refine ⟨_ :: each, .cons own others, ?_⟩
    rw [List.flatten_cons, flat, relationReferences, List.map_append]

end

end Conditions

end Sql

end NestedQuery
