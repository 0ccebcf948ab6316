import Mathlib.Algebra.Order.Ring.Nat
import Mathlib.Data.List.TakeWhile
import NestedQuery.Calendar.Reader

set_option autoImplicit false

namespace NestedQuery.Text

section Runs

variable {p : Char → Bool} {run rest : List Char}

theorem takeWhile_run (inside : ∀ c ∈ run, p c = true) (ends : ∀ c ∈ rest.head?, p c = false) :
    (run ++ rest).takeWhile p = run := by
  rw [List.takeWhile_append_of_pos inside]
  cases rest with
  | nil => rw [List.takeWhile_nil, List.append_nil]
  | cons c rest => rw [List.takeWhile_cons_of_neg (by simp [ends c rfl]), List.append_nil]

theorem dropWhile_run (inside : ∀ c ∈ run, p c = true) (ends : ∀ c ∈ rest.head?, p c = false) :
    (run ++ rest).dropWhile p = rest := by
  rw [List.dropWhile_append_of_pos inside]
  cases rest with
  | nil => exact List.dropWhile_nil
  | cons c rest => exact List.dropWhile_cons_of_neg (by simp [ends c rfl])

end Runs

theorem isDigit_of_mem_toDigits {n : Nat} {c : Char} (mem : c ∈ Nat.toDigits 10 n) :
    c.isDigit = true :=
  Nat.isDigit_of_mem_toDigits (by decide) (by decide) mem

theorem toList_toString (value : Int) : (toString value).toList =
    (if value < 0 then ['-'] else []) ++ Nat.toDigits 10 value.natAbs := by
  cases value with
  | ofNat n =>
    have natural : ¬ Int.ofNat n < 0 := Int.not_lt.2 (Int.natCast_nonneg n)
    rw [if_neg natural]
    exact Nat.toList_repr
  | negSucc n =>
    have spelled : toString (Int.negSucc n) = "-" ++ (n + 1).repr := rfl
    rw [if_pos (Int.negSucc_lt_zero n), spelled, String.toList_append, Nat.toList_repr]
    rfl

end NestedQuery.Text

namespace NestedQuery.Calendar

structure Numeral (width : Nat) (text : List Char) (n : Nat) : Prop where
  length_eq : text.length = width
  digits : ∀ c ∈ text, c.isDigit
  value : Nat.ofDigitChars 10 text 0 = n

theorem naturalOf_eq (text : List Char) :
    Decimal.naturalOf text = Nat.ofDigitChars 10 text 0 := rfl

theorem toNat_digit {c : Char} (digit : c.isDigit) : 48 ≤ c.toNat ∧ c.toNat ≤ 57 := by
  simpa [Char.isDigit, Char.le_def, UInt32.le_iff_toNat_le] using digit

theorem isDigit_of_mem_padded {width n : Nat} {c : Char} (mem : c ∈ padded width n) :
    c.isDigit := by
  obtain zero | digit := List.mem_append.1 mem
  · rw [List.eq_of_mem_replicate zero]
    rfl
  · exact Text.isDigit_of_mem_toDigits digit

namespace Numeral

variable {width m n : Nat} {text x y p q : List Char}

theorem of_cons {c : Char} (numeral : Numeral width (c :: text) n) :
    ∃ width' m, width = width' + 1 ∧ c.isDigit ∧ Numeral width' text m ∧
      n = 10 ^ width' * (c.toNat - 48) + m := by
  obtain ⟨rfl, digits, rfl⟩ := numeral
  refine ⟨text.length, _, rfl, digits c List.mem_cons_self,
    ⟨rfl, fun d mem => digits d (List.mem_cons_of_mem c mem), rfl⟩, ?_⟩
  rw [Nat.ofDigitChars_cons, Nat.ofDigitChars_eq_ofDigitChars_zero, Nat.mul_zero, Nat.zero_add]
  rfl

theorem lt_pow (numeral : Numeral width text n) : n < 10 ^ width := by
  induction text generalizing width n with
  | nil =>
    obtain ⟨rfl, -, rfl⟩ := numeral
    decide
  | cons c text ih =>
    obtain ⟨width', m, rfl, digit, rest, rfl⟩ := numeral.of_cons
    have below := ih rest
    have bounds := toNat_digit digit
    have front := Nat.mul_le_mul_left (10 ^ width') (show c.toNat - 48 ≤ 9 by omega)
    rw [pow_succ]
    omega

theorem leading_lt_iff {a b size : Nat} (hm : m < size) (hn : n < size) :
    size * a + m < size * b + n ↔ a < b ∨ a = b ∧ m < n := by
  rcases Nat.lt_trichotomy a b with less | rfl | more
  · have := Nat.mul_le_mul_left size less
    rw [Nat.mul_succ] at this
    omega
  · omega
  · have := Nat.mul_le_mul_left size more
    rw [Nat.mul_succ] at this
    omega

theorem leading_eq_iff {a b size : Nat} (hm : m < size) (hn : n < size) :
    size * a + m = size * b + n ↔ a = b ∧ m = n := by
  have below := leading_lt_iff (a := a) (b := b) hm hn
  have above := leading_lt_iff (a := b) (b := a) hn hm
  omega

theorem append_lt_append_iff (first : Numeral width x m) (second : Numeral width y n) :
    x ++ p < y ++ q ↔ m < n ∨ m = n ∧ p < q := by
  induction x generalizing width y m n with
  | nil =>
    obtain ⟨rfl, -, rfl⟩ := first
    obtain ⟨empty, -, rfl⟩ := second
    rw [List.length_nil, List.length_eq_zero_iff] at empty
    subst empty
    simp
  | cons c x ih =>
    obtain ⟨width', m', rfl, digit, rest, rfl⟩ := first.of_cons
    cases y with
    | nil => cases second.length_eq
    | cons d y =>
      obtain ⟨width'', n', same, digit', rest', rfl⟩ := second.of_cons
      cases same
      have bounds := toNat_digit digit
      have bounds' := toNat_digit digit'
      have less : c < d ↔ c.toNat - 48 < d.toNat - 48 := by
        change c.toNat < d.toNat ↔ _
        omega
      have equal : c = d ↔ c.toNat - 48 = d.toNat - 48 := by
        rw [← Char.toNat_inj]
        omega
      rw [List.cons_append, List.cons_append, List.cons_lt_cons_iff, ih rest rest',
        leading_lt_iff rest.lt_pow rest'.lt_pow, leading_eq_iff rest.lt_pow rest'.lt_pow,
        less, equal]
      tauto

theorem padded_of_lt (positive : 0 < width) (below : n < 10 ^ width) :
    Numeral width (padded width n) n where
  length_eq := by
    have short := (Nat.length_toDigits_le_iff (b := 10) (by decide) positive).2 below
    rw [padded, List.length_append, List.length_replicate]
    omega
  digits := fun _ mem => isDigit_of_mem_padded mem
  value := by
    rw [padded, Nat.ofDigitChars_append, Nat.ofDigitChars_replicate_zero, Nat.mul_zero,
      Nat.ofDigitChars_ten_toDigits]

theorem readDigits_append {least : Nat} (numeral : Numeral width text n) (enough : least ≤ width)
    (rest : List Char) : readDigits least width (text ++ rest) = some (n, rest) := by
  obtain ⟨rfl, digits, rfl⟩ := numeral
  rw [readDigits, List.take_left, List.takeWhile_eq_self_iff.2 digits]
  simp only [List.drop_left, naturalOf_eq]
  rw [if_neg (Nat.not_lt.2 enough)]

theorem exists_head (numeral : Numeral width text n) (positive : 0 < width) :
    ∃ c rest, text = c :: rest ∧ c.isDigit := by
  cases text with
  | nil =>
    rw [← numeral.length_eq] at positive
    cases positive
  | cons c rest => exact ⟨c, rest, rfl, numeral.digits c List.mem_cons_self⟩

theorem dropBlanks_append (numeral : Numeral width text n) (positive : 0 < width)
    (rest : List Char) : Text.dropBlanks (text ++ rest) = text ++ rest := by
  obtain ⟨c, text, rfl, digit⟩ := numeral.exists_head positive
  have bounds := toNat_digit digit
  have visible : Text.isBlank c = false := by
    simp [Text.isBlank]
    omega
  rw [List.cons_append, Text.dropBlanks, visible]
  rfl

theorem readField_append (numeral : Numeral 2 text n) (width : Width) (rest : List Char) :
    readField width (text ++ rest) = some (n, rest) := by
  cases width with
  | exact => exact numeral.readDigits_append (Nat.le_refl 2) rest
  | free =>
    rw [readField, numeral.dropBlanks_append (by decide)]
    exact numeral.readDigits_append (by decide) rest

theorem readYear_append (numeral : Numeral 4 text n) (width : Width) (rest : List Char) :
    readYear width (text ++ rest) = some (↑n, rest) := by
  cases width with
  | exact =>
    rw [readYear, numeral.readDigits_append (Nat.le_refl 4)]
    rfl
  | free =>
    have unsigned := numeral.readDigits_append (show 1 ≤ 4 by decide) rest
    obtain ⟨c, text, rfl, digit⟩ := numeral.exists_head (by decide)
    rw [readYear, numeral.dropBlanks_append (by decide)]
    split
    · next same =>
      cases same
      cases digit
    · next same =>
      cases same
      cases digit
    · rw [unsigned]
      rfl

end Numeral

end NestedQuery.Calendar
