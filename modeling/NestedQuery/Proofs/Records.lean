import NestedQuery.Document
import NestedQuery.Proofs.FilterReader

set_option autoImplicit false

namespace NestedQuery

namespace Json

theorem toDocuments_eq_map (items : List Json) :
    toDocuments items = items.map Json.toDocument := by
  induction items with
  | nil => rfl
  | cons item rest ih => rw [toDocuments, ih, List.map_cons]

theorem toEntries_eq_map (members : List (String × Json)) :
    toEntries members = members.map fun member => (member.1, member.2.toDocument) := by
  induction members with
  | nil => rfl
  | cons member rest ih => rw [toEntries, ih, List.map_cons]

end Json

theorem Keyed.find?_eq_some_iff {α : Type} {name : String} {entries : List (String × α)}
    (distinct : (entries.map Prod.fst).Nodup) {value : α} :
    find? name entries = some value ↔ (name, value) ∈ entries :=
  ⟨mem_of_find?, find?_of_mem distinct⟩

theorem Keyed.find?_insertAll {α : Type} {name : String} {entries : List (String × α)}
    (distinct : (entries.map Prod.fst).Nodup) (accumulated : List (String × α)) :
    find? name (insertAll entries accumulated) =
      (find? name entries).or (find? name accumulated) := by
  induction entries generalizing accumulated with
  | nil => rfl
  | cons entry rest ih =>
    obtain ⟨absent, distinct⟩ := List.nodup_cons.1 distinct
    refine (ih distinct (insert entry.1 entry.2 accumulated)).trans ?_
    rw [find?_insert]
    by_cases here : name = entry.1
    · subst here
      simp [find?, find?_eq_none.2 absent]
    · simp [find?, here, Ne.symm here]

theorem Catalog.eq_of_entries {α : Type} {catalog catalog' : Catalog α}
    (same : catalog.entries = catalog'.entries) : catalog = catalog' := by
  cases catalog
  cases catalog'
  cases same
  rfl

theorem Catalog.ofList_perm {α : Type} {catalog : Catalog α} {entries : List (String × α)}
    (perm : entries.Perm catalog.entries) : ofList entries = catalog := by
  have distinct : (entries.map Prod.fst).Nodup :=
    (perm.map Prod.fst).nodup_iff.2 catalog.sorted.nodup
  apply eq_of_entries
  apply Keyed.Sorted.ext (ofList entries).sorted catalog.sorted
  intro name
  rw [entries_ofList, Keyed.find?_insertAll distinct]
  simp only [Keyed.find?, Option.or_none]
  ext value
  rw [Keyed.find?_eq_some_iff distinct, Keyed.find?_eq_some_iff catalog.sorted.nodup, perm.mem_iff]

namespace Document

theorem anyItem_eq (holds : Document → Bool) (items : List Document) :
    anyItem holds items = items.any fun item => item.any holds := by
  induction items with
  | nil => rfl
  | cons item rest ih => rw [anyItem, ih, List.any_cons]

theorem anyMember_eq (holds : Document → Bool) (members : List (String × Document)) :
    anyMember holds members = members.any fun member => member.2.any holds := by
  induction members with
  | nil => rfl
  | cons member rest ih => rw [anyMember, ih, List.any_cons]

theorem any_isBadNumber_toDocument (value : Json) :
    value.toDocument.any isBadNumber = false := by
  induction value using Json.induction with
  | null | bool | string => rfl
  | number n => cases n <;> rfl
  | array items ih =>
    rw [Json.toDocument, any, anyItem_eq, Json.toDocuments_eq_map]
    simpa [isBadNumber] using ih
  | object members ih =>
    rw [Json.toDocument, any, anyMember_eq, Json.toEntries_eq_map]
    simpa [isBadNumber] using ih

def Slot.taken (slot : Slot) (entries : List (String × Document)) : List Document :=
  (entries.filter fun entry => slot.covers entry.1).map Prod.snd

def Slot.Fits (slot : Slot) (entries : List (String × Document)) : Prop :=
  slot.taken entries = [] ∨
    ∃ document, slot.taken entries = [document] ∧ slot.check document = .ok ()

theorem Slot.taken_cons_of_covers {slot : Slot} {key : String} (covers : slot.covers key = true)
    (value : Document) (rest : List (String × Document)) :
    slot.taken ((key, value) :: rest) = value :: slot.taken rest := by
  simp [taken, covers]

theorem Slot.taken_cons_of_not_covers {slot : Slot} {key : String}
    (apart : slot.covers key = false) (value : Document) (rest : List (String × Document)) :
    slot.taken ((key, value) :: rest) = slot.taken rest := by
  simp [taken, apart]

theorem Slot.taken_cons_eq_nil {slot : Slot} {key : String} {value : Document}
    {rest : List (String × Document)} :
    slot.taken ((key, value) :: rest) = [] ↔ slot.covers key = false ∧ slot.taken rest = [] := by
  cases covers : slot.covers key with
  | true => simp [taken_cons_of_covers covers]
  | false => simp [taken_cons_of_not_covers covers]

theorem Slot.Fits.cons {slot : Slot} {key : String} {value : Document}
    {rest : List (String × Document)} (covers : slot.covers key = true)
    (fits : slot.Fits ((key, value) :: rest)) :
    slot.taken rest = [] ∧ slot.check value = .ok () := by
  rw [Fits, taken_cons_of_covers covers] at fits
  simpa using fits

theorem Slot.Fits.rest {slot : Slot} {entry : String × Document}
    {rest : List (String × Document)} (fits : slot.Fits (entry :: rest)) : slot.Fits rest := by
  cases covers : slot.covers entry.1 with
  | true => exact .inl (fits.cons covers).1
  | false => rwa [Fits, taken_cons_of_not_covers covers] at fits

variable {shape : Shape} {entries : List (String × Document)}

theorem Shape.checkMembers_ok (lenient : shape.strict = false)
    (distinct : (shape.slots.map Slot.name).Nodup) {seen : List String}
    (fits : ∀ slot ∈ shape.slots, slot.Fits entries)
    (unseen : ∀ slot ∈ shape.slots, slot.name ∈ seen → slot.taken entries = [])
    (valued : ∀ entry ∈ entries, entry.2.any isBadNumber = false) :
    shape.checkMembers seen entries = .ok () := by
  induction entries generalizing seen with
  | nil => rfl
  | cons entry rest ih =>
    obtain ⟨key, value⟩ := entry
    rw [List.forall_mem_cons] at valued
    have later : ∀ slot ∈ shape.slots, slot.Fits rest := fun slot mem => (fits slot mem).rest
    unfold checkMembers
    split
    next unknown =>
      rw [lenient, valued.1]
      apply ih later _ valued.2
      intro slot mem given
      exact (Slot.taken_cons_eq_nil.1 (unseen slot mem given)).2
    next slot found =>
      have mem := List.mem_of_find?_eq_some found
      have covers : slot.covers key = true := by simpa using List.find?_some found
      obtain ⟨noneLeft, checked⟩ := (fits slot mem).cons covers
      have fresh : slot.name ∉ seen := by
        intro given
        have apart := (Slot.taken_cons_eq_nil.1 (unseen slot mem given)).1
        simp [covers] at apart
      rw [if_neg (by simpa using fresh), checked]
      -- From here on the field counts as given; it has no other member.
      apply ih later _ valued.2
      intro other mem' given
      rcases List.mem_cons.1 given with same | given
      · rwa [List.inj_on_of_nodup_map distinct mem' mem same]
      · exact (Slot.taken_cons_eq_nil.1 (unseen other mem' given)).2

theorem Members.find?_eq {field : String} {slot : Slot}
    (known : shape.slots.find? (fun slot => slot.name == field) = some slot) (listed : Bool) :
    (Members.mk shape entries listed).find? field = (slot.taken entries).head? := by
  rw [find?, known, Slot.taken, List.head?_map, List.head?_filter]
  rfl

/-- A field of a record in JSON: the value that means it stands under one of its names, and under
no other of them stands anything. Or the field is left out, if it may be. -/
inductive Written (members : List (String × Json)) (names : List String) (means : Json → Prop)
    (omissible : Prop) : Prop
  | given {value : Json}
      (only : (members.filter fun member => names.contains member.1).map Prod.snd = [value])
      (meant : means value)
  | leftOut (none : (members.filter fun member => names.contains member.1).map Prod.snd = [])
      (absent : omissible)

theorem Slot.taken_toEntries (slot : Slot) (members : List (String × Json)) :
    slot.taken (Json.toEntries members) =
      ((members.filter fun member => (slot.name :: slot.aliases).contains member.1).map
        Prod.snd).map Json.toDocument := by
  rw [taken, Json.toEntries_eq_map, List.filter_map, List.map_map, List.map_map]
  rfl

def Decodes {α : Type} (means : α → Json → Prop) (read : Decoder α) : Prop :=
  ∀ a value, means a value → read value.toDocument = .ok a

namespace Written

variable {α : Type} {members : List (String × Json)} {means : α → Json → Prop} {read : Decoder α}
  {a : α} {omissible : Prop} (slot : Slot)

theorem fits (written : Written members (slot.name :: slot.aliases) (means a) omissible)
    (takes : ∀ document, slot.check document = (read document).map fun _ => ())
    (decodes : Decodes means read) : slot.Fits (Json.toEntries members) := by
  rw [Slot.Fits, slot.taken_toEntries]
  cases written with
  | given only meant =>
    right
    rw [only]
    exact ⟨_, rfl, by rw [takes, decodes a _ meant, Except.map]⟩
  | leftOut none absent =>
    left
    rw [none, List.map_nil]

theorem find? (written : Written members (slot.name :: slot.aliases) (means a) omissible)
    (decodes : Decodes means read)
    (known : shape.slots.find? (fun other => other.name == slot.name) = some slot) :
    (∃ document, (Members.mk shape (Json.toEntries members) false).find? slot.name =
      some document ∧ read document = .ok a) ∨
    (Members.mk shape (Json.toEntries members) false).find? slot.name = none ∧ omissible := by
  rw [Members.find?_eq known, slot.taken_toEntries]
  cases written with
  | given only meant =>
    left
    rw [only]
    exact ⟨_, rfl, decodes a _ meant⟩
  | leftOut none absent =>
    right
    rw [none]
    exact ⟨rfl, absent⟩

theorem required (written : Written members (slot.name :: slot.aliases) (means a) False)
    (decodes : Decodes means read)
    (known : shape.slots.find? (fun other => other.name == slot.name) = some slot) :
    (Members.mk shape (Json.toEntries members) false).required slot.name read = .ok a := by
  rcases written.find? slot decodes known with ⟨document, found, success⟩ | ⟨-, never⟩
  · rw [Members.required, found]
    exact success
  · exact never.elim

theorem field {absent : α}
    (written : Written members (slot.name :: slot.aliases) (means a) (a = absent))
    (decodes : Decodes means read)
    (known : shape.slots.find? (fun other => other.name == slot.name) = some slot) :
    (Members.mk shape (Json.toEntries members) false).field slot.name read absent = .ok a := by
  rw [Members.field]
  rcases written.find? slot decodes known with ⟨document, found, success⟩ | ⟨missing, same⟩
  · rw [found]
    exact success
  · rw [missing, same]

end Written

theorem Shape.members_object {members : List (String × Json)} (lenient : shape.strict = false)
    (distinct : (shape.slots.map Slot.name).Nodup)
    (fits : ∀ slot ∈ shape.slots, slot.Fits (Json.toEntries members)) :
    shape.members (Json.object members).toDocument =
      .ok ⟨shape, Json.toEntries members, false⟩ := by
  have valued : ∀ entry ∈ Json.toEntries members, entry.2.any isBadNumber = false := by
    rw [Json.toEntries_eq_map, List.forall_mem_map]
    intro member mem
    exact any_isBadNumber_toDocument member.2
  have passed : shape.checkMembers [] (Json.toEntries members) = .ok () :=
    Shape.checkMembers_ok lenient distinct fits (by simp) valued
  have read : shape.members (.table (Json.toEntries members)) =
      (shape.checkMembers [] (Json.toEntries members)).map fun _ =>
        ⟨shape, Json.toEntries members, false⟩ := rfl
  rw [Json.toDocument, read, passed, Except.map]

section Meanings

variable {α : Type} {means : α → Json → Prop} {read : Decoder α}

def IsText (text : String) (value : Json) : Prop := value = .string text

def IsChoice (choices : List (String × α)) (choice : α) (value : Json) : Prop :=
  ∃ name, Keyed.find? name choices = some choice ∧ value = .string name

def IsOptional (means : α → Json → Prop) : Option α → Json → Prop
  | none, value => value = .null
  | some a, value => means a value

def IsList (means : α → Json → Prop) (items : List α) (value : Json) : Prop :=
  ∃ values, value = .array values ∧ List.Forall₂ means items values

def IsCatalog (means : α → Json → Prop) (catalog : Catalog α) (value : Json) : Prop :=
  ∃ members entries, value = .object members ∧ entries.Perm catalog.entries ∧
    List.Forall₂ (fun member entry => member.1 = entry.1 ∧ means entry.2 member.2) members entries

def IsRecord (spelled : α → List (String × Json) → Prop) (a : α) (value : Json) : Prop :=
  ∃ members, value = .object members ∧ spelled a members

theorem decodes_text : Decodes IsText readText := by
  intro text value meant
  rw [meant]
  rfl

theorem decodes_choice (format : Format) (choices : List (String × α)) :
    Decodes (IsChoice choices) (readChoice format choices) := by
  intro choice value meant
  obtain ⟨name, found, rfl⟩ := meant
  rw [Json.toDocument, readChoice, named, found]

theorem Decodes.optional (decodes : Decodes means read) (someValue : ∀ a, ¬ means a .null) :
    Decodes (IsOptional means) (readOptional read) := by
  intro a? value meant
  cases a? with
  | none =>
    rw [meant]
    rfl
  | some a =>
    have other : value.toDocument ≠ .null := by
      intro null
      cases value with
      | null => exact someValue a meant
      | number n => cases n <;> cases null
      | _ => cases null
    rw [readOptional.eq_2 _ _ other, decodes a value meant]
    rfl

theorem Decodes.list (decodes : Decodes means read) :
    Decodes (IsList means) (readList read) := by
  intro items value meant
  obtain ⟨values, rfl, each⟩ := meant
  rw [Json.toDocument, readList, Json.toDocuments_eq_map, mapM_eq_ok, List.forall₂_map_left_iff]
  exact each.flip.imp fun value item meant => decodes item value meant

theorem Decodes.catalog (decodes : Decodes means read) :
    Decodes (IsCatalog means) (readCatalog read) := by
  intro catalog value meant
  obtain ⟨members, entries, rfl, perm, each⟩ := meant
  have pairs : (Json.toEntries members).mapM
      (fun member => (read member.2).map fun value => (member.1, value)) = .ok entries := by
    rw [Json.toEntries_eq_map, mapM_eq_ok, List.forall₂_map_left_iff]
    refine each.imp fun member entry same => ?_
    rw [decodes _ _ same.2, Except.map, same.1]
  have made : (Except.ok entries : Except Fault _).map Catalog.ofList = .ok catalog :=
    congrArg Except.ok (Catalog.ofList_perm perm)
  rw [← made, ← pairs, Json.toDocument]
  rfl

end Meanings

end Document

end NestedQuery
