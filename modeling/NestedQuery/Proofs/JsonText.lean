import NestedQuery.Json.Reader
import NestedQuery.Json.Writer
import NestedQuery.Proofs.Numerals
import NestedQuery.Proofs.Taking

set_option autoImplicit false

namespace NestedQuery.Json

open Text

/-- What text spells exactly: no fractions, and not too many containers inside each other. -/
inductive Legible : Nat → Json → Prop
  | null (room : Nat) : Legible room .null
  | bool (room : Nat) (b : Bool) : Legible room (.bool b)
  | number (room : Nat) {value : Int} {n : Number} (whole : Number.ofInt? value = some n) :
      Legible room (.number n)
  | string (room : Nat) (s : String) : Legible room (.string s)
  | array {room : Nat} {items : List Json} (each : ∀ item ∈ items, Legible room item) :
      Legible (room + 1) (.array items)
  | object {room : Nat} {members : List (String × Json)}
      (distinct : (members.map Prod.fst).Nodup)
      (each : ∀ member ∈ members, Legible room member.2) : Legible (room + 1) (.object members)

section Strings

variable {read rest : List Char}

theorem hexValue_hexDigit (n : Nat) : hexValue (hexDigit n) = some (n % 16) := by
  have digits : ∀ digit < 16, hexValue (Nat.digitChar digit) = some digit := by decide
  exact digits _ (Nat.mod_lt _ (by decide))

theorem fourBytesLeft_cons (a b c d : Char) : fourBytesLeft (a :: b :: c :: d :: rest) := by
  have := a.utf8Size_pos
  have := b.utf8Size_pos
  have := c.utf8Size_pos
  have := d.utf8Size_pos
  simp [fourBytesLeft]
  omega

theorem readString_hex {c : Char} (control : c.toNat < 32) :
    readString .plain read
        ('\\' :: 'u' :: '0' :: '0' :: hexDigit (c.toNat / 16) :: hexDigit c.toNat :: rest) =
      readString .plain (c :: read) rest := by
  have value : 16 * (c.toNat / 16 % 16) + c.toNat % 16 = c.toNat := by omega
  have zero : hexValue '0' = some 0 := rfl
  have unit : unitRead c.toNat none = some (.plain, some c) := by
    have low : ¬ 55296 ≤ c.toNat := by omega
    have low' : ¬ 56320 ≤ c.toNat := by omega
    simp [unitRead, low, low']
  have hex : readString (.hex 4 0 none) read
      ('0' :: '0' :: hexDigit (c.toNat / 16) :: hexDigit c.toNat :: rest) =
        readString .plain (c :: read) rest := by
    simp [readString, zero, hexValue_hexDigit, value, unit]
  rw [← hex]
  simp [readString, simpleEscape, fourBytesLeft_cons]

theorem readString_escape (c : Char) :
    readString .plain read (escape c ++ rest) = readString .plain (c :: read) rest := by
  unfold escape
  split
  case h_8 quote backslash _ _ _ _ _ =>
    split
    next control => exact readString_hex control
    next shown =>
      rw [List.singleton_append, readString, if_neg quote, if_neg backslash, if_neg shown]
  all_goals rfl

theorem readString_flatMap (s : List Char) :
    readString .plain read (s.flatMap escape ++ '"' :: rest) =
      .ok (String.ofList (read.reverse ++ s), rest) := by
  induction s generalizing read with
  | nil => simp [readString]
  | cons c s ih => simp [readString_escape, ih]

end Strings

section Numbers

def Ends (rest : List Char) : Prop := ∀ c ∈ rest.head?, isNumberPart c = false

theorem eq_zero_of_head? {n : Nat} (zero : (Nat.toDigits 10 n).head? = some '0') : n = 0 := by
  induction n using Nat.strongRecOn with
  | _ n ih =>
    by_cases single : n < 10
    · rw [Nat.toDigits_of_lt_base single] at zero
      have digits : ∀ n < 10, n.digitChar = '0' → n = 0 := by decide
      exact digits n single (Option.some.inj zero)
    · rw [Nat.toDigits_of_base_le (by decide) (by omega),
        List.head?_append_of_ne_nil _ Nat.toDigits_ne_nil] at zero
      have front := ih (n / 10) (by omega) zero
      omega

theorem readUnsigned_toDigits (negative : Bool) (n : Nat) (atEnd : Bool) :
    readUnsigned negative (Nat.toDigits 10 n) atEnd =
      wholeNumber negative (Nat.toDigits 10 n) := by
  have whole : (Nat.toDigits 10 n).takeWhile Char.isDigit = Nat.toDigits 10 n :=
    List.takeWhile_eq_self_iff.2 fun _ => isDigit_of_mem_toDigits
  have after : (Nat.toDigits 10 n).dropWhile Char.isDigit = [] :=
    List.dropWhile_eq_nil_iff.2 fun _ => isDigit_of_mem_toDigits
  have leading : ¬ ((Nat.toDigits 10 n).head? = some '0' ∧ 1 < (Nat.toDigits 10 n).length) := by
    rintro ⟨zero, long⟩
    rw [eq_zero_of_head? zero] at long
    exact absurd long (by decide)
  simp only [readUnsigned, whole, after]
  rw [if_neg (by simp), if_neg (by simpa using leading)]

theorem mem_toString {value : Int} {c : Char} (mem : c ∈ (toString value).toList) :
    c = '-' ∨ c.isDigit = true := by
  rw [toList_toString, List.mem_append] at mem
  exact mem.imp (by split <;> simp) isDigit_of_mem_toDigits

theorem readNumber_toString (value : Int) (atEnd : Bool) :
    readNumber (toString value).toList atEnd =
      wholeNumber (value < 0) (Nat.toDigits 10 value.natAbs) := by
  rw [toList_toString]
  split
  next negative =>
    rw [decide_eq_true negative]
    exact readUnsigned_toDigits true _ atEnd
  next natural =>
    rw [decide_eq_false natural, List.nil_append, readNumber]
    · exact readUnsigned_toDigits false _ atEnd
    · intro unsigned same
      have minus := isDigit_of_mem_toDigits (same ▸ List.mem_cons_self : '-' ∈ _)
      exact absurd minus (by decide)

theorem write_of_ofInt? {value : Int} {n : Number} (whole : Number.ofInt? value = some n) :
    n.write = toString value := by
  unfold Number.ofInt? at whole
  split at whole
  next bounds =>
    cases whole
    rw [Int64.toInt_minValue, Int64.toInt_maxValue] at bounds
    rw [Number.write, Int64.toInt_ofInt_of_le bounds.1 (by omega)]
  next =>
    split at whole
    next large =>
      cases whole
      rw [Int64.toInt_maxValue] at large
      rcases lt_or_ge value 0 with negative | natural
      · rw [Int.toNat_of_nonpos (by omega)] at large
        exact absurd large.1 (by decide)
      · obtain ⟨m, rfl⟩ := Int.eq_ofNat_of_zero_le natural
        rw [Number.write, Int.toNat_natCast, UInt64.toNat_ofNat_of_lt' (by omega)]
        rfl
    next => cases whole

theorem wholeNumber_toDigits {value : Int} {n : Number} (whole : Number.ofInt? value = some n) :
    wholeNumber (value < 0) (Nat.toDigits 10 value.natAbs) = .ok n := by
  have natural : (Decimal.naturalOf (Nat.toDigits 10 value.natAbs) : Int) = value.natAbs := by
    rw [Calendar.naturalOf_eq, Nat.ofDigitChars_ten_toDigits]
  have signed : (if decide (value < 0) then -(value.natAbs : Int) else value.natAbs) = value := by
    simp only [decide_eq_true_eq]
    split <;> omega
  simp only [wholeNumber, natural, signed, whole]
  rw [if_neg]
  simp only [Bool.and_eq_true, decide_eq_true_eq]
  omega

theorem readNumber_write {value : Int} {n : Number} (whole : Number.ofInt? value = some n)
    (atEnd : Bool) : readNumber n.write.toList atEnd = .ok n := by
  rw [write_of_ofInt? whole, readNumber_toString, wholeNumber_toDigits whole]

end Numbers

section Tokens

variable {rest : List Char}

theorem tokens_cons {c : Char} (shown : isSpace c = false) :
    tokens (c :: rest) = (readToken c rest).1 :: tokens (readToken c rest).2 := by
  rw [tokens, if_neg (by simp [shown])]

def Token.mark? : Token → Option Char
  | .openArray => some '['
  | .closeArray => some ']'
  | .openObject => some '\x7b'
  | .closeObject => some '\x7d'
  | .comma => some ','
  | .colon => some ':'
  | _ => none

theorem tokens_mark {token : Token} {c : Char} (mark : token.mark? = some c) :
    tokens (c :: rest) = token :: tokens rest := by
  cases token <;> cases mark <;> exact tokens_cons rfl

theorem tokens_word {c : Char} {word : List Char} {value : Json}
    (first : ∀ rest, readToken c rest = readWord value word rest) (shown : isSpace c = false) :
    tokens (c :: (word ++ rest)) = .atom value :: tokens rest := by
  have read : readWord value word (word ++ rest) = (.atom value, rest) := by
    clear first
    induction word with
    | nil => cases rest <;> rfl
    | cons letter word ih => rw [List.cons_append, readWord, if_pos rfl, ih]
  rw [tokens_cons shown, first, read]

theorem tokens_writeString (s : String) :
    tokens ((writeString s).toList ++ rest) = .text s :: tokens rest := by
  have read : readString .plain [] (s.toList.flatMap escape ++ '"' :: rest) = .ok (s, rest) := by
    rw [readString_flatMap]
    simp
  rw [writeString, String.toList_ofList, List.cons_append, List.cons_append, List.append_assoc,
    List.singleton_append, tokens_cons rfl]
  simp [readToken, read]

theorem readToken_number {c : Char} (numeric : c = '-' ∨ c.isDigit = true) :
    readToken c rest =
      let after := rest.dropWhile isNumberPart
      match readNumber (c :: rest.takeWhile isNumberPart) after.isEmpty with
      | .ok n => (.atom (.number n), after)
      | .error fault => (.brokenAtom fault, after) := by
  unfold readToken
  split
  case h_11 => exact if_pos (by simpa using numeric)
  all_goals exact absurd numeric (by decide)

theorem tokens_run {c : Char} {run : List Char} {n : Number} (numeric : c = '-' ∨ c.isDigit = true)
    (parts : ∀ d ∈ run, isNumberPart d = true) (ends : Ends rest)
    (read : ∀ atEnd, readNumber (c :: run) atEnd = .ok n) :
    tokens (c :: run ++ rest) = .atom (.number n) :: tokens rest := by
  have shown : isSpace c = false := by
    rcases numeric with rfl | digit
    · rfl
    · by_contra blank
      simp only [isSpace, Bool.not_eq_false, Bool.or_eq_true, beq_iff_eq] at blank
      rcases blank with ((rfl | rfl) | rfl) | rfl <;> exact absurd digit (by decide)
  rw [List.cons_append, tokens_cons shown, readToken_number numeric, takeWhile_run parts ends,
    dropWhile_run parts ends]
  simp only [read]

theorem tokens_number {value : Int} {n : Number} (whole : Number.ofInt? value = some n)
    (ends : Ends rest) :
    tokens (n.write.toList ++ rest) = .atom (.number n) :: tokens rest := by
  have read := readNumber_write whole
  have mem {c : Char} (mem : c ∈ n.write.toList) : c = '-' ∨ c.isDigit = true :=
    mem_toString (write_of_ofInt? whole ▸ mem)
  generalize n.write.toList = text at read mem
  cases text with
  | nil => cases read true
  | cons c run =>
    apply tokens_run (mem List.mem_cons_self) _ ends read
    intro d there
    rcases mem (List.mem_cons_of_mem c there) with rfl | digit
    · rfl
    · simp [isNumberPart, digit]

end Tokens

section Values

def resume (state : List Frame × Awaiting) (text : List Char) :
    Except Fault (List Frame × Awaiting) :=
  (tokens text).foldlM step state

theorem resume_eq {state state' : List Frame × Awaiting} {token : Token} {text rest : List Char}
    (spelled : tokens text = token :: tokens rest) (stepped : step state token = .ok state') :
    resume state text = resume state' rest := by
  rw [resume, spelled, List.foldlM_cons, stepped]
  rfl

theorem resume_mark {state state' : List Frame × Awaiting} {c : Char} {rest : List Char}
    (token : Token) (mark : token.mark? = some c) (stepped : step state token = .ok state') :
    resume state (c :: rest) = resume state' rest :=
  resume_eq (tokens_mark mark) stepped

inductive Awaiting.Open : Awaiting → Prop
  | value : Open .value
  | itemOrClose : Open .itemOrClose

theorem Awaiting.Open.step {awaiting : Awaiting} (opened : awaiting.Open) (frames : List Frame)
    (token : Token) (value : token ≠ .closeArray) :
    step (frames, awaiting) token = stepValue frames token := by
  cases opened with
  | value => rfl
  | itemOrClose => cases token <;> first | rfl | exact absurd rfl value

def Reads (room : Nat) (value : Json) : Prop :=
  ∀ (frames : List Frame) (awaiting : Awaiting) (rest : List Char),
    awaiting.Open → frames.length + room ≤ maxDepth → Ends rest →
      resume (frames, awaiting) (value.write.toList ++ rest) = resume (deliver value frames) rest

theorem ends_cons {c : Char} (ends : isNumberPart c = false) (rest : List Char) :
    Ends (c :: rest) := by
  rintro _ ⟨⟩
  exact ends

theorem resume_items {room : Nat} {frames : List Frame} {rest : List Char}
    (fits : frames.length + 1 + room ≤ maxDepth) {first : Json} {others : List Json}
    (each : ∀ item ∈ first :: others, Reads room item) (before : List Json) {awaiting : Awaiting}
    (opened : awaiting.Open) :
    resume (.array before :: frames, awaiting)
        ((",".intercalate (writeItems (first :: others))).toList ++ ']' :: rest) =
      resume (deliver (.array (before.reverse ++ first :: others)) frames) rest := by
  induction others generalizing first before awaiting with
  | nil =>
    have own := each first List.mem_cons_self
    rw [writeItems, writeItems, String.intercalate_singleton,
      own (.array before :: frames) awaiting _ opened fits (ends_cons rfl rest), deliver,
      resume_mark .closeArray rfl rfl, List.reverse_cons]
  | cons second others ih =>
    obtain ⟨own, each⟩ := List.forall_mem_cons.1 each
    have text : (",".intercalate (writeItems (first :: second :: others))).toList ++ ']' :: rest =
        first.write.toList ++ ',' ::
          ((",".intercalate (writeItems (second :: others))).toList ++ ']' :: rest) := by
      simp [writeItems, String.intercalate_cons_cons]
    rw [text, own (.array before :: frames) awaiting _ opened fits (ends_cons rfl _), deliver,
      resume_mark .comma rfl rfl, ih each (first :: before) .value, List.reverse_cons,
      List.append_assoc, List.singleton_append]

theorem resume_member {room : Nat} {frames : List Frame} {rest : List Char}
    (fits : frames.length + 1 + room ≤ maxDepth) {value : Json} (reads : Reads room value)
    {name : String} {before : List (String × Json)} (fresh : name ∉ before.map Prod.fst)
    {awaiting : Awaiting} (named : awaiting = .name ∨ awaiting = .nameOrClose) (ends : Ends rest) :
    resume (.object before :: frames, awaiting)
        ((writeString name ++ ":" ++ value.write).toList ++ rest) =
      resume (.object (before ++ [(name, value)]) :: frames, .separator) rest := by
  have text : (writeString name ++ ":" ++ value.write).toList ++ rest =
      (writeString name).toList ++ ':' :: (value.write.toList ++ rest) := by simp
  have step : step (.object before :: frames, awaiting) (.text name) =
      .ok (.object before :: frames, .colon name) := by
    rcases named with rfl | rfl <;> rfl
  rw [text, resume_eq (tokens_writeString name) step, resume_mark .colon rfl rfl,
    reads (.member before name :: frames) .value rest .value fits ends, deliver,
    Keyed.put_of_notMem fresh]

theorem resume_members {room : Nat} {frames : List Frame} {rest : List Char}
    (fits : frames.length + 1 + room ≤ maxDepth) {first : String × Json}
    {others : List (String × Json)} (each : ∀ member ∈ first :: others, Reads room member.2)
    {before : List (String × Json)} (distinct : ((before ++ first :: others).map Prod.fst).Nodup)
    {awaiting : Awaiting} (named : awaiting = .name ∨ awaiting = .nameOrClose) :
    resume (.object before :: frames, awaiting)
        ((",".intercalate (writeMembers (first :: others))).toList ++ '\x7d' :: rest) =
      resume (deliver (.object (before ++ first :: others)) frames) rest := by
  induction others generalizing first before awaiting with
  | nil =>
    obtain ⟨name, value⟩ := first
    have fresh := Keyed.notMem_of_nodup distinct
    rw [writeMembers, writeMembers, String.intercalate_singleton,
      resume_member fits (each (name, value) List.mem_cons_self) fresh named (ends_cons rfl rest),
      resume_mark .closeObject rfl rfl]
  | cons second others ih =>
    obtain ⟨name, value⟩ := first
    obtain ⟨own, each⟩ := List.forall_mem_cons.1 each
    have fresh := Keyed.notMem_of_nodup distinct
    have text : (",".intercalate (writeMembers ((name, value) :: second :: others))).toList ++
          '\x7d' :: rest =
        (writeString name ++ ":" ++ value.write).toList ++ ',' ::
          ((",".intercalate (writeMembers (second :: others))).toList ++ '\x7d' :: rest) := by
      simp [writeMembers, String.intercalate_cons_cons]
    rw [List.append_cons] at distinct
    rw [text, resume_member fits own fresh named (ends_cons rfl _), resume_mark .comma rfl rfl,
      ih each distinct (.inl rfl), List.append_assoc, List.singleton_append]

theorem Legible.reads {room : Nat} {value : Json} (legible : Legible room value) :
    Reads room value := by
  induction legible with
  | null room =>
    intro frames awaiting rest opened fits ends
    exact resume_eq (tokens_word (fun _ => rfl) rfl) (opened.step frames _ nofun)
  | bool room b =>
    intro frames awaiting rest opened fits ends
    cases b with
    | true => exact resume_eq (tokens_word (fun _ => rfl) rfl) (opened.step frames _ nofun)
    | false => exact resume_eq (tokens_word (fun _ => rfl) rfl) (opened.step frames _ nofun)
  | number room whole =>
    intro frames awaiting rest opened fits ends
    exact resume_eq (tokens_number whole ends) (opened.step frames _ nofun)
  | string room s =>
    intro frames awaiting rest opened fits ends
    exact resume_eq (tokens_writeString s) (opened.step frames _ nofun)
  | @array room items each ih =>
    intro frames awaiting rest opened fits ends
    have inside : frames.length < maxDepth := by omega
    have step : step (frames, awaiting) .openArray = .ok (.array [] :: frames, .itemOrClose) :=
      (opened.step frames .openArray nofun).trans (if_pos inside)
    have text : (write (.array items)).toList ++ rest =
        '[' :: ((",".intercalate (writeItems items)).toList ++ ']' :: rest) := by simp [write]
    rw [text, resume_mark .openArray rfl step]
    cases items with
    | nil => exact resume_mark .closeArray rfl rfl
    | cons first others => exact resume_items (by omega) ih [] .itemOrClose
  | @object room members distinct each ih =>
    intro frames awaiting rest opened fits ends
    have inside : frames.length < maxDepth := by omega
    have step : step (frames, awaiting) .openObject = .ok (.object [] :: frames, .nameOrClose) :=
      (opened.step frames .openObject nofun).trans (if_pos inside)
    have text : (write (.object members)).toList ++ rest =
        '\x7b' :: ((",".intercalate (writeMembers members)).toList ++ '\x7d' :: rest) := by
      simp [write]
    rw [text, resume_mark .openObject rfl step]
    cases members with
    | nil => exact resume_mark .closeObject rfl rfl
    | cons first others => exact resume_members (by omega) ih distinct (.inr rfl)

end Values

theorem read_write {value : Json} (legible : Legible maxDepth value) :
    read value.write = .ok value := by
  have reads := legible.reads [] .value [] .value (Nat.le_of_eq (Nat.zero_add _)) (by simp [Ends])
  have nothing : tokens [] = [] := by rw [tokens]
  rw [List.append_nil, resume, resume, nothing] at reads
  rw [read, reads]
  rfl

end NestedQuery.Json
