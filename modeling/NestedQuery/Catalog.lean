set_option autoImplicit false

/-!
Values under names. `Keyed` holds functions on plain lists of named values; a `Catalog` is such a
list in the order of its names, each name once, so that two catalogs with the same entries are
equal.
-/

namespace NestedQuery

abbrev Keyed (α : Type) := List (String × α)

namespace Keyed

variable {α : Type}

def find? (name : String) : List (String × α) → Option α
  | [] => none
  | (other, value) :: rest => if other = name then some value else find? name rest

def put (name : String) (value : α) : List (String × α) → List (String × α)
  | [] => [(name, value)]
  | (other, old) :: rest =>
    if other = name then (name, value) :: rest else (other, old) :: put name value rest

def erase (name : String) (entries : List (String × α)) : List (String × α) :=
  entries.filter (fun entry => entry.1 ≠ name)

def insert (name : String) (value : α) : List (String × α) → List (String × α)
  | [] => [(name, value)]
  | (other, old) :: rest =>
    if name < other then (name, value) :: (other, old) :: rest
    else if other = name then (name, value) :: rest
    else (other, old) :: insert name value rest

def Sorted (entries : List (String × α)) : Prop :=
  entries.Pairwise (fun a b => a.1 < b.1)

theorem mem_insert {name : String} {value : α} {entries : List (String × α)}
    {entry : String × α}
    (h : entry ∈ insert name value entries) : entry = (name, value) ∨ entry ∈ entries := by
  induction entries with
  | nil => simpa [insert] using h
  | cons head rest ih =>
    obtain ⟨other, old⟩ := head
    unfold insert at h
    split at h
    · simpa using h
    · split at h
      · rcases List.mem_cons.1 h with h | h
        · exact .inl h
        · exact .inr (List.mem_cons_of_mem _ h)
      · rcases List.mem_cons.1 h with h | h
        · exact .inr (h ▸ List.mem_cons_self)
        · rcases ih h with h | h
          · exact .inl h
          · exact .inr (List.mem_cons_of_mem _ h)

theorem lt_of_not_lt_of_ne {a b : String} (h : ¬ a < b) (ne : b ≠ a) : b < a := by
  rcases String.le_total a b with le | le
  · exact absurd (String.le_antisymm (String.not_lt.1 h) le) ne
  · exact Classical.byContradiction fun notLt =>
      ne (String.le_antisymm (String.not_lt.1 h) (String.not_lt.1 notLt))

theorem Sorted.insert {entries : List (String × α)} (sorted : Sorted entries) (name : String)
    (value : α) : Sorted (insert name value entries) := by
  induction entries with
  | nil => simp [Keyed.insert, Sorted]
  | cons head rest ih =>
    obtain ⟨other, old⟩ := head
    obtain ⟨least, tail⟩ := List.pairwise_cons.1 sorted
    unfold Keyed.insert
    split
    next lt =>
      refine List.pairwise_cons.2 ⟨fun entry mem => ?_, sorted⟩
      rcases List.mem_cons.1 mem with rfl | mem
      · exact lt
      · exact String.lt_trans lt (least entry mem)
    next notLt =>
      split
      next same => exact List.pairwise_cons.2 ⟨same ▸ least, tail⟩
      next ne =>
        refine List.pairwise_cons.2 ⟨fun entry mem => ?_, ih tail⟩
        rcases mem_insert mem with rfl | mem
        · exact lt_of_not_lt_of_ne notLt ne
        · exact least entry mem

@[simp] theorem find?_insert_self (name : String) (value : α) (entries : List (String × α)) :
    find? name (insert name value entries) = some value := by
  induction entries with
  | nil => simp [insert, find?]
  | cons head rest ih =>
    unfold insert
    split
    · simp [find?]
    · split
      · simp [find?]
      next ne => simp [find?, ne, ih]

theorem find?_insert_of_ne {name other : String} (ne : other ≠ name) (value : α)
    (entries : List (String × α)) :
    find? other (insert name value entries) = find? other entries := by
  induction entries with
  | nil => simp [insert, find?, ne.symm]
  | cons head rest ih =>
    unfold insert
    split
    · simp [find?, ne.symm]
    · split
      next same => simp [find?, ne.symm, same]
      · simp [find?, ih]

end Keyed

structure Catalog (α : Type) where
  entries : List (String × α)
  sorted : Keyed.Sorted entries

namespace Catalog

variable {α : Type}

def empty : Catalog α := ⟨[], .nil⟩

instance : Inhabited (Catalog α) := ⟨empty⟩

def find? (catalog : Catalog α) (name : String) : Option α := Keyed.find? name catalog.entries

def contains (catalog : Catalog α) (name : String) : Bool := (catalog.find? name).isSome

def insert (catalog : Catalog α) (name : String) (value : α) : Catalog α :=
  ⟨Keyed.insert name value catalog.entries, catalog.sorted.insert name value⟩

def ofList (pairs : List (String × α)) : Catalog α :=
  pairs.foldl (fun catalog pair => catalog.insert pair.1 pair.2) empty

def size (catalog : Catalog α) : Nat := catalog.entries.length

@[simp] theorem find?_empty (name : String) : (empty : Catalog α).find? name = none := rfl

@[simp] theorem find?_insert (catalog : Catalog α) (name other : String) (value : α) :
    (catalog.insert name value).find? other =
      if other = name then some value else catalog.find? other := by
  split
  next same => subst same; exact Keyed.find?_insert_self _ _ _
  next ne => exact Keyed.find?_insert_of_ne ne _ _

end Catalog

end NestedQuery
