import NestedQuery.Pattern

set_option autoImplicit false

namespace NestedQuery.Pattern

variable {c : Char} {pattern text : List Char}

inductive Like : List Char → List Char → Prop
  | nil : Like [] []
  | any {pattern text : List Char} (skipped : List Char) (rest : Like pattern text) :
      Like ('%' :: pattern) (skipped ++ text)
  | one {pattern text : List Char} (c : Char) (rest : Like pattern text) :
      Like ('_' :: pattern) (c :: text)
  | char {c : Char} {pattern text : List Char} (plain : c ∉ ['%', '_']) (rest : Like pattern text) :
      Like (c :: pattern) (c :: text)

/-- What stands between brackets in a `GLOB` pattern; a single character is a range of its own. -/
structure CharSet where
  negated : Bool
  ranges : List (Char × Char)

def CharSet.Admits (set : CharSet) (c : Char) : Prop :=
  set.negated = false ↔ ∃ range ∈ set.ranges, range.1 ≤ c ∧ c ≤ range.2

def readRanges : Option Char → List Char → Option (List (Char × Char) × List Char)
  -- A dash makes a range with the character before it, unless that one ends a range or the dash is
  -- the last of the set.
  | _, [] => none
  | _, ']' :: rest => some ([], rest)
  | some low, '-' :: high :: rest =>
    if high = ']' then some ([('-', '-')], rest)
    else (readRanges none rest).map fun read => ((low, high) :: read.1, read.2)
  | _, c :: rest => (readRanges (some c) rest).map fun read => ((c, c) :: read.1, read.2)

def readMembers : List Char → Option (List (Char × Char) × List Char)
  -- As the first of a set the closing bracket is a member.
  | ']' :: rest => (readRanges none rest).map fun read => ((']', ']') :: read.1, read.2)
  | text => readRanges none text

def readSet : List Char → Option (CharSet × List Char)
  | '^' :: rest => (readMembers rest).map fun read => (⟨true, read.1⟩, read.2)
  | text => (readMembers text).map fun read => (⟨false, read.1⟩, read.2)

example : readSet "^]a-c-]x".toList =
    some (⟨true, [(']', ']'), ('a', 'a'), ('a', 'c'), ('-', '-')]⟩, ['x']) := rfl

inductive Glob : List Char → List Char → Prop
  | nil : Glob [] []
  | any {pattern text : List Char} (skipped : List Char) (rest : Glob pattern text) :
      Glob ('*' :: pattern) (skipped ++ text)
  | one {pattern text : List Char} (c : Char) (rest : Glob pattern text) :
      Glob ('?' :: pattern) (c :: text)
  | set {c : Char} {set : CharSet} {pattern behind text : List Char}
      (read : readSet pattern = some (set, behind)) (admits : set.Admits c)
      (rest : Glob behind text) : Glob ('[' :: pattern) (c :: text)
  | char {c : Char} {pattern text : List Char} (plain : c ∉ ['*', '?', '['])
      (rest : Glob pattern text) : Glob (c :: pattern) (c :: text)

theorem like_nil : Like [] text ↔ text = [] := by
  constructor
  · intro matched
    cases matched
    rfl
  · rintro rfl
    exact .nil

theorem like_any : Like ('%' :: pattern) text ↔
    ∃ skipped rest, text = skipped ++ rest ∧ Like pattern rest := by
  constructor
  · intro matched
    cases matched with
    | any skipped rest => exact ⟨skipped, _, rfl, rest⟩
    | char plain rest => simp at plain
  · rintro ⟨skipped, rest, rfl, matched⟩
    exact .any skipped matched

theorem like_one : Like ('_' :: pattern) text ↔
    ∃ c rest, text = c :: rest ∧ Like pattern rest := by
  constructor
  · intro matched
    cases matched with
    | one c rest => exact ⟨c, _, rfl, rest⟩
    | char plain rest => simp at plain
  · rintro ⟨c, rest, rfl, matched⟩
    exact .one c matched

theorem like_char (plain : c ∉ ['%', '_']) : Like (c :: pattern) text ↔
    ∃ rest, text = c :: rest ∧ Like pattern rest := by
  constructor
  · intro matched
    cases matched with
    | any | one => simp at plain
    | char _ rest => exact ⟨_, rfl, rest⟩
  · rintro ⟨rest, rfl, matched⟩
    exact .char plain matched

theorem glob_nil : Glob [] text ↔ text = [] := by
  constructor
  · intro matched
    cases matched
    rfl
  · rintro rfl
    exact .nil

theorem glob_any : Glob ('*' :: pattern) text ↔
    ∃ skipped rest, text = skipped ++ rest ∧ Glob pattern rest := by
  constructor
  · intro matched
    cases matched with
    | any skipped rest => exact ⟨skipped, _, rfl, rest⟩
    | char plain rest => simp at plain
  · rintro ⟨skipped, rest, rfl, matched⟩
    exact .any skipped matched

theorem glob_one : Glob ('?' :: pattern) text ↔
    ∃ c rest, text = c :: rest ∧ Glob pattern rest := by
  constructor
  · intro matched
    cases matched with
    | one c rest => exact ⟨c, _, rfl, rest⟩
    | char plain rest => simp at plain
  · rintro ⟨c, rest, rfl, matched⟩
    exact .one c matched

theorem glob_char (plain : c ∉ ['*', '?', '[']) : Glob (c :: pattern) text ↔
    ∃ rest, text = c :: rest ∧ Glob pattern rest := by
  constructor
  · intro matched
    cases matched with
    | any | one | set => simp at plain
    | char _ rest => exact ⟨_, rfl, rest⟩
  · rintro ⟨rest, rfl, matched⟩
    exact .char plain matched

theorem glob_set {set : CharSet} {behind : List Char}
    (read : readSet pattern = some (set, behind)) :
    Glob ('[' :: pattern) text ↔ ∃ c rest, text = c :: rest ∧ set.Admits c ∧ Glob behind rest := by
  constructor
  · intro matched
    cases matched with
    | set read' admits rest =>
      cases read.symm.trans read'
      exact ⟨_, _, rfl, admits, rest⟩
    | char plain rest => simp at plain
  · rintro ⟨c, rest, rfl, admits, matched⟩
    exact .set read admits matched

theorem admits_single (c d : Char) : CharSet.Admits ⟨false, [(c, c)]⟩ d ↔ d = c := by
  have order : c ≤ d ∧ d ≤ c ↔ d = c :=
    ⟨fun both => Char.le_antisymm both.2 both.1, fun same => same ▸ ⟨Char.le_refl d, Char.le_refl d⟩⟩
  simpa [CharSet.Admits] using order

theorem readSet_single (member : c ∉ ['^', ']']) (pattern : List Char) :
    readSet (c :: ']' :: pattern) = some (⟨false, [(c, c)]⟩, pattern) := by
  have notCaret : c ≠ '^' := by simp_all
  have notBracket : c ≠ ']' := by simp_all
  simp [readSet, readMembers, readRanges, notCaret, notBracket]

theorem glob_single (member : c ∉ ['^', ']']) : Glob ('[' :: c :: ']' :: pattern) text ↔
    ∃ rest, text = c :: rest ∧ Glob pattern rest := by
  rw [glob_set (readSet_single member pattern)]
  simp only [admits_single]
  constructor
  · rintro ⟨d, rest, shape, rfl, matched⟩
    exact ⟨rest, shape, matched⟩
  · rintro ⟨rest, shape, matched⟩
    exact ⟨c, rest, shape, rfl, matched⟩

theorem glob_globChar (c : Char) {globbed : List Char}
    (same : ∀ text, Glob globbed text ↔ Like pattern text) :
    Glob (globChar c ++ globbed) text ↔ Like (c :: pattern) text := by
  unfold globChar
  split
  next => simp only [List.cons_append, List.nil_append, glob_any, like_any, same]
  next => simp only [List.cons_append, List.nil_append, glob_one, like_one, same]
  case h_3 | h_4 | h_5 =>
    simp only [List.cons_append, List.nil_append]
    rw [glob_single (by decide), like_char (by decide)]
    simp only [same]
  next notPercent notUnderscore notStar notQuestion notBracket =>
    rw [List.cons_append, List.nil_append, glob_char (by simp_all), like_char (by simp_all)]
    simp only [same]

theorem glob_flatMap (pattern text : List Char) :
    Glob (pattern.flatMap globChar) text ↔ Like pattern text := by
  induction pattern generalizing text with
  | nil => exact glob_nil.trans like_nil.symm
  | cons c pattern ih =>
    rw [List.flatMap_cons]
    exact glob_globChar c ih

theorem glob_likeToGlob (pattern text : String) :
    Glob (likeToGlob pattern).toList text.toList ↔ Like pattern.toList text.toList := by
  rw [likeToGlob, String.toList_ofList]
  exact glob_flatMap pattern.toList text.toList

end NestedQuery.Pattern
