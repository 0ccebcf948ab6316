import NestedQuery.Pattern

set_option autoImplicit false

namespace NestedQuery.Pattern

structure Slashed (text source flags : String) : Prop where
  written : text = "/" ++ source ++ "/" ++ flags
  someSource : source ≠ ""
  known : ∀ c ∈ flags.toList, c ∈ ['g', 'i', 'm', 's', 'u', 'y']

section Split

variable {c : Char} {text before after : List Char}

theorem splitAtLast_eq_none_iff : splitAtLast c text = none ↔ c ∉ text := by
  induction text with
  | nil => simp [splitAtLast]
  | cons head rest ih =>
    rw [List.mem_cons, not_or, ← ih]
    cases split : splitAtLast c rest with
    | none => by_cases same : head = c <;> simp [splitAtLast, split, same, Ne.symm]
    | some parts => simp [splitAtLast, split]

theorem splitAtLast_append (last : c ∉ after) :
    splitAtLast c (before ++ c :: after) = some (before, after) := by
  induction before with
  | nil => simp [splitAtLast, splitAtLast_eq_none_iff.2 last]
  | cons head before ih => simp [splitAtLast, ih]

theorem splitAtLast_eq_some_iff :
    splitAtLast c text = some (before, after) ↔ text = before ++ c :: after ∧ c ∉ after := by
  constructor
  · intro found
    induction text generalizing before with
    | nil => cases found
    | cons head rest ih =>
      unfold splitAtLast at found
      split at found
      next inner behind later =>
        -- A separator further back wins over this character.
        cases found
        have parts := ih later
        exact ⟨congrArg (head :: ·) parts.1, parts.2⟩
      next noneLater =>
        split at found <;> cases found
        next same => exact ⟨congrArg (· :: _) same, splitAtLast_eq_none_iff.1 noneLater⟩
  · intro parts
    rw [parts.1, splitAtLast_append parts.2]

end Split

variable {text source flags : String}

theorem isFlag_iff {c : Char} : isFlag c = true ↔ c ∈ ['g', 'i', 'm', 's', 'u', 'y'] :=
  List.contains_iff_mem

theorem slashed_of_slashNotation {source flags : List Char}
    (spelled : slashNotation text.toList = some (source, flags)) :
    Slashed text (String.ofList source) (String.ofList flags) := by
  unfold slashNotation at spelled
  split at spelled
  next rest opened =>
    split at spelled
    next before after found =>
      split at spelled <;> cases spelled
      next fits =>
        have parts := splitAtLast_eq_some_iff.1 found
        rw [Bool.and_eq_true, List.all_eq_true] at fits
        constructor
        · rw [← String.toList_inj, opened, parts.1]
          simp
        · simpa using fits.1
        · intro c mem
          exact isFlag_iff.1 (fits.2 c (by simpa using mem))
    next => cases spelled
  next => cases spelled

namespace Slashed

theorem slashNotation_eq (slashed : Slashed text source flags) :
    slashNotation text.toList = some (source.toList, flags.toList) := by
  have opened : text.toList = '/' :: (source.toList ++ '/' :: flags.toList) := by
    rw [slashed.written]
    simp
  have last : '/' ∉ flags.toList := fun mem => absurd (slashed.known '/' mem) (by decide)
  have known : flags.toList.all isFlag = true :=
    List.all_eq_true.2 fun c mem => isFlag_iff.2 (slashed.known c mem)
  rw [opened]
  simp [slashNotation, splitAtLast_append last, slashed.someSource, known]

theorem unique {source' flags' : String} (first : Slashed text source flags)
    (second : Slashed text source' flags') : source = source' ∧ flags = flags' := by
  have same := first.slashNotation_eq.symm.trans second.slashNotation_eq
  simpa [← String.toList_inj] using same

theorem parse_eq (slashed : Slashed text source flags) (ignoreCase : Bool) :
    parse text ignoreCase = .regex source (ignoreCase || flags.toList.contains 'i') := by
  simp [parse, slashed.slashNotation_eq]

theorem plain (someSource : source ≠ "") : Slashed ("/" ++ source ++ "/") source "" where
  written := by simp
  someSource := someSource
  known := by simp

theorem folded (someSource : source ≠ "") : Slashed ("/" ++ source ++ "/i") source "i" where
  written := by
    rw [← String.toList_inj]
    simp
  someSource := someSource
  known := by simp

end Slashed

theorem parse_of_not_slashed (apart : ∀ source flags, ¬ Slashed text source flags)
    (ignoreCase : Bool) : parse text ignoreCase = .like text ignoreCase := by
  unfold parse
  split
  next source flags spelled => exact absurd (slashed_of_slashNotation spelled) (apart _ _)
  next => rfl

section Parse

variable {other : String} {ignoreCase ignoreCase' : Bool}

theorem parse_eq_regex_iff : parse text ignoreCase = .regex source ignoreCase' ↔
    ∃ flags, Slashed text source flags ∧
      (ignoreCase' = true ↔ ignoreCase = true ∨ 'i' ∈ flags.toList) := by
  constructor
  · intro parsed
    by_cases slashed : ∃ source flags, Slashed text source flags
    next =>
      obtain ⟨own, flags, slashed⟩ := slashed
      rw [slashed.parse_eq] at parsed
      cases parsed
      exact ⟨flags, slashed, by simp⟩
    next =>
      rw [parse_of_not_slashed (by simpa using slashed)] at parsed
      cases parsed
  · intro ⟨flags, slashed, folds⟩
    rw [slashed.parse_eq, regex.injEq]
    refine ⟨rfl, ?_⟩
    rw [Bool.eq_iff_iff, folds]
    simp

theorem parse_eq_like_iff : parse text ignoreCase = .like other ignoreCase' ↔
    (∀ source flags, ¬ Slashed text source flags) ∧ other = text ∧ ignoreCase' = ignoreCase := by
  constructor
  · intro parsed
    have apart : ∀ source flags, ¬ Slashed text source flags := by
      intro source flags slashed
      rw [slashed.parse_eq] at parsed
      cases parsed
    rw [parse_of_not_slashed apart] at parsed
    cases parsed
    exact ⟨apart, rfl, rfl⟩
  · intro ⟨apart, same, asGiven⟩
    rw [parse_of_not_slashed apart, same, asGiven]

end Parse

theorem parse_recognizes (ignoreCase : Bool) :
    (∀ text : String,
      (∀ source ignoreCase', parse text ignoreCase = .regex source ignoreCase' ↔
        ∃ flags, Slashed text source flags ∧
          (ignoreCase' = true ↔ ignoreCase = true ∨ 'i' ∈ flags.toList)) ∧
      (∀ source flags source' flags', Slashed text source flags → Slashed text source' flags' →
        source = source' ∧ flags = flags') ∧
      ∀ other ignoreCase', parse text ignoreCase = .like other ignoreCase' ↔
        (∀ source flags, ¬ Slashed text source flags) ∧ other = text ∧ ignoreCase' = ignoreCase) ∧
    ∀ source : String, source ≠ "" →
      parse ("/" ++ source ++ "/") ignoreCase = .regex source ignoreCase ∧
        parse ("/" ++ source ++ "/i") ignoreCase = .regex source true := by
  constructor
  · intro text
    refine ⟨fun _ _ => parse_eq_regex_iff, ?_, fun _ _ => parse_eq_like_iff⟩
    exact fun _ _ _ _ first second => first.unique second
  · intro source someSource
    constructor
    · rw [(Slashed.plain someSource).parse_eq]
      simp
    · rw [(Slashed.folded someSource).parse_eq]
      simp

theorem parse_recognizes_inner_slash :
    Slashed "/usr/lib/gi" "usr/lib" "gi" ∧ parse "/usr/lib/gi" false = .regex "usr/lib" true ∧
      (∀ source flags, Slashed "/usr/lib/gi" source flags → source = "usr/lib" ∧ flags = "gi") ∧
      (∀ source flags, ¬ Slashed "/usr/lib" source flags) ∧
      "usr/lib" ≠ "" ∧ parse ("/" ++ "usr/lib" ++ "/") true = .regex "usr/lib" true := by
  have slashed : Slashed "/usr/lib/gi" "usr/lib" "gi" := ⟨by decide, by decide, by simp⟩
  obtain ⟨reads, single, -⟩ := (parse_recognizes false).1 "/usr/lib/gi"
  obtain ⟨-, -, others⟩ := (parse_recognizes false).1 "/usr/lib"
  have parsed := (reads "usr/lib" true).2 ⟨"gi", slashed, by decide⟩
  have plain : parse "/usr/lib" false = .like "/usr/lib" false := by decide
  have apart := ((others "/usr/lib" false).1 plain).1
  have again := ((parse_recognizes true).2 "usr/lib" (by decide)).1
  exact ⟨slashed, parsed, fun source flags other => single _ _ _ _ other slashed, apart, by decide,
    again⟩

end NestedQuery.Pattern
