import NestedQuery.Literal
import NestedQuery.Proofs.Truth
import NestedQuery.Sql.Statement

set_option autoImplicit false

namespace NestedQuery

abbrev Record := String → Json

structure Database where
  rows : String → List Record
  truth : Test Operand → Json → Truth
  sameKey : Json → Json → Bool
  le : Json → Json → Bool
  truth_notLike : ∀ pattern value, truth (.notLike pattern) value = (truth (.like pattern) value).not
  truth_in_nothing : ∀ value, truth (.oneOf []) value = .fails
  truth_not_in_nothing : ∀ value, truth (.noneOf []) value = .holds
  null_sameKey : ∀ value, sameKey .null value = false
  sameKey_null : ∀ value, sameKey value .null = false
  le_total : ∀ a b, le a b || le b a
  le_trans : ∀ a b c, le a b → le b c → le a c

abbrev Key (α : Type) := Option Direction × (α → Json)

namespace Database

variable {α β : Type}

def before (db : Database) (direction : Option Direction) (a b : Json) : Bool :=
  match direction with
  | some .desc => db.le b a
  | some .asc | none => db.le a b

def inOrder (db : Database) : List (Key α) → α → α → Bool
  | [], _, _ => true
  | (direction, key) :: rest, a, b =>
    db.before direction (key a) (key b) &&
      (!db.before direction (key b) (key a) || db.inOrder rest a b)

def sorted (db : Database) (keys : List (Key α)) (rows : List α) : List α :=
  rows.mergeSort (db.inOrder keys)

theorem sorted_nil (db : Database) (rows : List α) : db.sorted [] rows = rows :=
  List.mergeSort_of_pairwise (List.pairwise_of_forall fun _ _ => rfl)

theorem before_total (db : Database) (direction : Option Direction) (a b : Json) :
    db.before direction a b || db.before direction b a := by
  unfold before
  split
  · exact db.le_total b a
  · exact db.le_total a b
  · exact db.le_total a b

theorem before_trans (db : Database) (direction : Option Direction) {a b c : Json}
    (first : db.before direction a b) (second : db.before direction b c) :
    db.before direction a c := by
  unfold before at *
  split at *
  · exact db.le_trans c b a second first
  · exact db.le_trans a b c first second
  · exact db.le_trans a b c first second

theorem inOrder_total (db : Database) (keys : List (Key α)) (a b : α) :
    db.inOrder keys a b || db.inOrder keys b a := by
  induction keys with
  | nil => rfl
  | cons key rest ih =>
    obtain ⟨direction, key⟩ := key
    have total := db.before_total direction (key a) (key b)
    simp only [inOrder, Bool.or_eq_true, Bool.and_eq_true, Bool.not_eq_true'] at *
    cases forth : db.before direction (key a) (key b) <;>
      cases back : db.before direction (key b) (key a) <;> simp_all

theorem inOrder_trans (db : Database) (keys : List (Key α)) (a b c : α)
    (first : db.inOrder keys a b) (second : db.inOrder keys b c) : db.inOrder keys a c := by
  induction keys with
  | nil => rfl
  | cons key rest ih =>
    obtain ⟨direction, key⟩ := key
    simp only [inOrder, Bool.or_eq_true, Bool.and_eq_true, Bool.not_eq_true'] at *
    refine ⟨db.before_trans direction first.1 second.1, ?_⟩
    cases back : db.before direction (key c) (key a) with
    | false => exact .inl rfl
    | true =>
      -- All three are alike by this key, so the later ones decide.
      have back' := db.before_trans direction second.1 back
      have back'' := db.before_trans direction back first.1
      simp_all

theorem sorted_cut (db : Database) (keys : List (Key α)) {rows cut : List α}
    (part : cut.Sublist (db.sorted keys rows)) : db.sorted keys cut = cut := by
  have ordered := List.pairwise_mergeSort (db.inOrder_trans keys) (db.inOrder_total keys) rows
  exact List.mergeSort_of_pairwise (ordered.sublist part)

theorem map_sorted (db : Database) {ι : Type} (items : List ι) (direction : ι → Option Direction)
    {key : ι → α → Json} {key' : ι → β → Json} {f : α → β} {rows : List α}
    (same : ∀ a ∈ rows, ∀ item ∈ items, key item a = key' item (f a)) :
    (db.sorted (items.map fun item => (direction item, key item)) rows).map f =
      db.sorted (items.map fun item => (direction item, key' item)) (rows.map f) := by
  refine List.map_mergeSort fun a memA b memB => ?_
  have left := same a memA
  have right := same b memB
  induction items with
  | nil => rfl
  | cons item rest ih =>
    simp only [List.map_cons, inOrder]
    rw [left item (by simp), right item (by simp), ih
      (fun c mem other memOther => same c mem other (List.mem_cons_of_mem _ memOther))
      (fun other mem => left other (List.mem_cons_of_mem _ mem))
      (fun other mem => right other (List.mem_cons_of_mem _ mem))]

end Database

def Sql.Page.cut {α : Type} (page : Option Sql.Page) (rows : List α) : List α :=
  match page with
  | none => rows
  | some page => (rows.drop (page.offset.getD 0).toNat).take page.limit.toNat

theorem Sql.Page.cut_sublist {α : Type} (page : Option Sql.Page) (rows : List α) :
    (Sql.Page.cut page rows).Sublist rows := by
  cases page with
  | none => exact .refl rows
  | some page => exact (List.take_sublist _ _).trans (List.drop_sublist _ _)

theorem Sql.Page.map_cut {α β : Type} (page : Option Sql.Page) (f : α → β) (rows : List α) :
    (Sql.Page.cut page rows).map f = Sql.Page.cut page (rows.map f) := by
  cases page with
  | none => rfl
  | some page => simp [Sql.Page.cut, List.map_take, List.map_drop]

def Sample.ledger : Database where
  -- Keys and days are texts, ordered by their length.
  rows table :=
    if table = "customers" then [fun column => .string (if column = "id" then "c" else "Ann")]
    else if table = "orders" then
      ["1", "123", "12"].map fun day column => .string (if column = "day" then day else "c")
    else []
  truth test _ :=
    match test with
    | .noneOf [] | .notLike _ => .holds
    | _ => .fails
  sameKey a b :=
    match a, b with
    | .string s, .string t => s = t
    | _, _ => false
  le a b :=
    match a, b with
    | .string s, .string t => s.length ≤ t.length
    | .string _, _ => false
    | _, _ => true
  truth_notLike _ _ := rfl
  truth_in_nothing _ := rfl
  truth_not_in_nothing _ := rfl
  null_sameKey _ := rfl
  sameKey_null value := by cases value <;> rfl
  le_total a b := by
    cases a <;> cases b <;> simp [Nat.le_total]
  le_trans a b c first second := by
    cases a <;> cases b <;> cases c <;> simp_all
    omega

end NestedQuery
