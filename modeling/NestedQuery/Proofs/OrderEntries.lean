import NestedQuery.Proofs.FilterReader
import NestedQuery.Proofs.Words

set_option autoImplicit false

namespace NestedQuery

namespace Text

theorem isUpper_iff {c : Char} : c.isUpper = true ↔ 65 ≤ c.toNat ∧ c.toNat ≤ 90 := by
  have range : c.isUpper = true ↔ 'A'.val ≤ c.val ∧ c.val ≤ 'Z'.val := decide_eq_true_iff
  simpa [UInt32.le_iff_toNat_le] using range

theorem toNat_toLower (c : Char) :
    c.toLower.toNat = if c.isUpper = true then c.toNat + 32 else c.toNat := by
  by_cases upper : c.isUpper = true
  next =>
    have small : c.toNat + 32 < 2 ^ 32 := by
      have bounds := isUpper_iff.1 upper
      omega
    rw [if_pos upper]
    calc
      c.toLower.toNat = (c.val + ('a'.val - 'A'.val)).toNat :=
        congrArg Char.toNat (dif_pos (of_decide_eq_true upper))
      _ = c.toNat + 32 := (UInt32.toNat_add _ _).trans (Nat.mod_eq_of_lt small)
  next =>
    rw [if_neg upper]
    exact congrArg Char.toNat (dif_neg (mt decide_eq_true upper))

theorem toLower_eq_iff {c capital : Char} (upper : capital.isUpper = true) :
    c.toLower = capital.toLower ↔ c = capital ∨ c = capital.toLower := by
  have bounds := isUpper_iff.1 upper
  simp only [← Char.toNat_inj, toNat_toLower, isUpper_iff, if_pos bounds]
  split <;> omega

def InAnyCase (word capitals : List Char) : Prop :=
  List.Forall₂ (fun c capital => c = capital ∨ c = capital.toLower) word capitals

theorem inAnyCase_iff {word capitals : List Char} (upper : ∀ c ∈ capitals, c.isUpper = true) :
    InAnyCase word capitals ↔ word.map Char.toLower = capitals.map Char.toLower := by
  unfold InAnyCase
  induction capitals generalizing word with
  | nil => simp
  | cons capital capitals ih =>
    rw [List.forall_mem_cons] at upper
    cases word with
    | nil => simp
    | cons c word =>
      rw [List.map_cons, List.map_cons, List.cons.injEq, List.forall₂_cons,
        toLower_eq_iff upper.1, ih upper.2]

theorem intercalate_append_cons (separator before first : String) (others : List String) :
    separator.intercalate ((before ++ first) :: others) =
      before ++ separator.intercalate (first :: others) := by
  cases others <;> simp [String.append_assoc]

theorem intercalate_blank (first : String) (others : List String) :
    ", ".intercalate (first :: others) = ",".intercalate (first :: others.map (" " ++ ·)) := by
  induction others generalizing first with
  | nil => simp
  | cons next others ih =>
    have separator : ", " = "," ++ " " := rfl
    rw [List.map_cons, String.intercalate_cons_cons, String.intercalate_cons_cons,
      intercalate_append_cons, ih, separator]
    simp only [String.append_assoc]

end Text

def Direction.SpelledBy (direction : Direction) (word : List Char) : Prop :=
  Text.InAnyCase word direction.keyword.toList

theorem Direction.spelledBy_iff {direction : Direction} {word : List Char} :
    direction.SpelledBy word ↔
      word.map Char.toLower = direction.keyword.toList.map Char.toLower := by
  have capitals : direction.keyword.toList.all Char.isUpper = true := by
    cases direction <;> decide
  exact Text.inAnyCase_iff (List.all_eq_true.1 capitals)

theorem Direction.keyword_inj {direction direction' : Direction} :
    direction.keyword.toList.map Char.toLower = direction'.keyword.toList.map Char.toLower ↔
      direction = direction' := by
  cases direction <;> cases direction' <;> decide

theorem Direction.parse_eq_some_iff {direction : Direction} {word : List Char} :
    parse (String.ofList word) = some direction ↔ direction.SpelledBy word := by
  have loweredAsc : "asc".toList.map Char.toLower = asc.keyword.toList.map Char.toLower := by
    decide
  have loweredDesc : "desc".toList.map Char.toLower = desc.keyword.toList.map Char.toLower := by
    decide
  rw [spelledBy_iff]
  unfold parse Text.sameIgnoringCase
  simp only [String.toList_ofList, loweredAsc, loweredDesc, beq_iff_eq]
  split
  next ascending => rw [ascending, keyword_inj, Option.some_inj]
  next notAscending =>
    split
    next descending => rw [descending, keyword_inj, Option.some_inj]
    next notDescending =>
      cases direction with
      | asc => simp [notAscending]
      | desc => simp [notDescending]

inductive OrderBy.SpelledBy : OrderBy → String → Prop
  | field {name text : String} (words : Text.HasWords text.toList [name.toList]) :
      SpelledBy ⟨name, none⟩ text
  | directed {name text : String} {direction : Direction} {word : List Char}
      (words : Text.HasWords text.toList [name.toList, word])
      (spells : direction.SpelledBy word) : SpelledBy ⟨name, some direction⟩ text

namespace OrderBy

variable {entry : OrderBy} {text : String}

theorem SpelledBy.parse_eq (spelled : entry.SpelledBy text) : parse text = .ok entry := by
  unfold parse
  cases spelled with
  | field words =>
    rw [Text.words_eq_iff.2 words]
    simp
  | directed words spells =>
    rw [Text.words_eq_iff.2 words]
    simp [Direction.parse_eq_some_iff.2 spells]

theorem spelledBy_of_parse (parsed : parse text = .ok entry) : entry.SpelledBy text := by
  unfold parse at parsed
  split at parsed
  next name divided =>
    cases parsed
    exact .field (by simpa using Text.words_eq_iff.1 divided)
  next name word divided =>
    split at parsed <;> cases parsed
    next direction known =>
      exact .directed (by simpa using Text.words_eq_iff.1 divided)
        (Direction.parse_eq_some_iff.1 known)
  next => cases parsed

theorem parse_eq_ok_iff : parse text = .ok entry ↔ entry.SpelledBy text :=
  ⟨spelledBy_of_parse, SpelledBy.parse_eq⟩

theorem eq_invalidOrder_of_parse {error : Error} (failed : parse text = .error error) :
    error = .invalidOrder text := by
  unfold parse at failed
  split at failed
  next => cases failed
  next => split at failed <;> cases failed; rfl
  next => cases failed; rfl

theorem parse_eq_error_iff :
    parse text = .error (.invalidOrder text) ↔ ∀ entry : OrderBy, ¬ entry.SpelledBy text := by
  constructor
  · intro failed entry spelled
    rw [spelled.parse_eq] at failed
    cases failed
  · intro noneSpelled
    cases read : parse text with
    | error error => rw [eq_invalidOrder_of_parse read]
    | ok entry => exact absurd (spelledBy_of_parse read) (noneSpelled entry)

theorem SpelledBy.isWord (spelled : entry.SpelledBy text) : Text.IsWord entry.field.toList := by
  cases spelled with
  | field words | directed words => exact words.isWord _ (by simp)

theorem SpelledBy.blank (spelled : entry.SpelledBy text) : entry.SpelledBy (" " ++ text) := by
  have blank : Text.isBlank ' ' = true := by decide
  cases spelled with
  | field words => exact .field (by simpa using words.blank_cons blank)
  | directed words spells => exact .directed (by simpa using words.blank_cons blank) spells

def write (entry : OrderBy) : String :=
  match entry.direction with
  | none => entry.field
  | some direction => entry.field ++ " " ++ direction.keyword

theorem spelledBy_write (solid : Text.IsWord entry.field.toList) :
    entry.SpelledBy entry.write := by
  have noneBehind : Text.HasWords [] [] := .none (by simp)
  obtain ⟨name, direction⟩ := entry
  cases direction with
  | none =>
    have words := Text.HasWords.word solid (by simp) noneBehind
    exact .field (by simpa [write] using words)
  | some direction =>
    have blank : Text.isBlank ' ' = true := by decide
    have keyword : Text.IsWord direction.keyword.toList := by
      cases direction <;> simp [Text.IsWord, Direction.keyword, Text.isBlank]
    have behind := (Text.HasWords.word keyword (by simp) noneBehind).blank_cons blank
    have words := Text.HasWords.word solid (by simpa using blank) behind
    exact .directed (by simpa [write] using words) (Direction.spelledBy_iff.2 rfl)

theorem comma_not_mem_write (apart : ',' ∉ entry.field.toList) : ',' ∉ entry.write.toList := by
  obtain ⟨name, direction⟩ := entry
  cases direction with
  | none => exact apart
  | some direction =>
    have keyword : ',' ∉ direction.keyword.toList := by cases direction <;> decide
    simpa [write, keyword] using apart

end OrderBy

namespace Filter

theorem orderOf_joined {order : List OrderBy} {texts : List String} (someText : texts ≠ [])
    (apart : ∀ text ∈ texts, ',' ∉ text.toList)
    (each : List.Forall₂ OrderBy.SpelledBy order texts) :
    orderOf (.string (",".intercalate texts)) = .ok order := by
  have split : (Text.pieces ',' (",".intercalate texts).toList).map String.ofList = texts :=
    Text.map_pieces_eq_iff.2 ⟨someText, apart, rfl⟩
  rw [orderOf_text, split, mapM_eq_ok]
  exact each.flip.imp fun _ _ spelled => spelled.parse_eq

theorem orderOf_written {order : List OrderBy} (someEntry : order ≠ [])
    (each : ∀ entry ∈ order, Text.IsWord entry.field.toList ∧ ',' ∉ entry.field.toList) :
    orderOf (.string (", ".intercalate (order.map OrderBy.write))) = .ok order := by
  cases order with
  | nil => exact absurd rfl someEntry
  | cons first others =>
    rw [List.forall_mem_cons] at each
    rw [List.map_cons, Text.intercalate_blank, List.map_map]
    -- All entries but the first have a blank in front of them.
    apply orderOf_joined (by simp)
    · rw [List.forall_mem_cons, List.forall_mem_map]
      refine ⟨OrderBy.comma_not_mem_write each.1.2, fun entry mem => ?_⟩
      simpa using OrderBy.comma_not_mem_write (each.2 entry mem).2
    · rw [List.forall₂_cons, List.forall₂_map_right_iff, List.forall₂_same]
      refine ⟨OrderBy.spelledBy_write each.1.1, fun entry mem => ?_⟩
      exact (OrderBy.spelledBy_write (each.2 entry mem).1).blank

end Filter

theorem OrderBy.parse_accepts :
    (∀ text entry, parse text = .ok entry ↔ entry.SpelledBy text) ∧
    (∀ text, parse text = .error (.invalidOrder text) ↔
      ∀ entry : OrderBy, ¬ entry.SpelledBy text) ∧
    (∀ text entry, parse text = .ok entry → parse entry.write = .ok entry) ∧
    ∀ order : List OrderBy, order ≠ [] →
      (∀ entry ∈ order, (∃ text, parse text = .ok entry) ∧ ',' ∉ entry.field.toList) →
      Filter.orderOf (.string (", ".intercalate (order.map write))) = .ok order := by
  refine ⟨fun _ _ => parse_eq_ok_iff, fun _ => parse_eq_error_iff, ?_, ?_⟩
  · intro text entry parsed
    exact (spelledBy_write (spelledBy_of_parse parsed).isWord).parse_eq
  · intro order someEntry each
    apply Filter.orderOf_written someEntry
    intro entry mem
    obtain ⟨⟨text, parsed⟩, apart⟩ := each entry mem
    exact ⟨(spelledBy_of_parse parsed).isWord, apart⟩

def Sample.ordering : List OrderBy := [⟨"name", some .desc⟩, ⟨"id", none⟩]

theorem OrderBy.parse_accepts_blanks :
    (parse "\u2003name\u00a0dEsC\t" = .ok ⟨"name", some .desc⟩ ∧
      SpelledBy ⟨"name", some .desc⟩ "\u2003name\u00a0dEsC\t" ∧
      parse "name DESC" = .ok ⟨"name", some .desc⟩) ∧
    (parse "name desc id" = .error (.invalidOrder "name desc id") ∧
      ∀ entry : OrderBy, ¬ entry.SpelledBy "name desc id") ∧
    Sample.ordering ≠ [] ∧
    (∀ entry ∈ Sample.ordering, (∃ text, parse text = .ok entry) ∧ ',' ∉ entry.field.toList) ∧
    Filter.orderOf (.string "name DESC, id") = .ok Sample.ordering := by
  obtain ⟨accepts, refuses, again, several⟩ := parse_accepts
  have parsed : parse "\u2003name\u00a0dEsC\t" = .ok ⟨"name", some .desc⟩ := by rfl
  have parsedId : parse "id" = .ok ⟨"id", none⟩ := by rfl
  have refused : parse "name desc id" = .error (.invalidOrder "name desc id") := by rfl
  have someEntry : Sample.ordering ≠ [] := by decide
  have each : ∀ entry ∈ Sample.ordering,
      (∃ text, parse text = .ok entry) ∧ ',' ∉ entry.field.toList := by
    rw [Sample.ordering, List.forall_mem_cons, List.forall_mem_singleton]
    exact ⟨⟨⟨_, parsed⟩, by decide⟩, ⟨_, parsedId⟩, by decide⟩
  exact ⟨⟨parsed, (accepts _ _).1 parsed, again _ _ parsed⟩, ⟨refused, (refuses _).1 refused⟩,
    someEntry, each, several Sample.ordering someEntry each⟩

end NestedQuery
