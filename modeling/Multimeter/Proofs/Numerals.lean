import Multimeter.Text.Blank
import Multimeter.Text.Decimal

/-!
# Numerals

A grammar of the texts that are read as bounded numbers, apart from the reader: one or more decimal
digits, with a plus sign in front or not and blanks around them. The reader goes through the digits
from left to right and gives up once they exceed the bound. That agrees with the value of the whole
numeral, since more digits never make it smaller.

## Main definitions

* `IsDecimal`, `IsNumeral`: digits and their value, without and with a sign.
* `Denotes`: a numeral with blanks around it.

## Main results

* `readUnsigned_trim_eq_ok_iff`: what is read once the blanks are trimmed.
* `isDecimal_padded`: what is written is a numeral.
-/

namespace Multimeter.Text

/-- One or more decimal digits and their value. Any number of zeros may lead. -/
structure IsDecimal (ds : List Char) (n : Nat) : Prop where
  ne_nil : ds ≠ []
  all : ∀ c ∈ ds, c.isDigit = true
  value : Nat.ofDigitChars 10 ds 0 = n

inductive IsNumeral : List Char → Nat → Prop
  | plain {ds : List Char} {n : Nat} (digits : IsDecimal ds n) : IsNumeral ds n
  | signed {ds : List Char} {n : Nat} (digits : IsDecimal ds n) : IsNumeral ('+' :: ds) n

/-- The text is a numeral of this value, with any white space before and after it. -/
def Denotes (part : List Char) (n : Nat) : Prop :=
  ∃ before word after, part = before ++ (word ++ after) ∧ (∀ c ∈ before, isBlank c = true) ∧
    (∀ c ∈ after, isBlank c = true) ∧ IsNumeral word n

variable {bound acc n : Nat} {c : Char} {cs ds before word after : List Char}

/-! ## Digits -/

theorem isDigit_iff : c.isDigit = true ↔ 48 ≤ c.toNat ∧ c.toNat ≤ 57 := by
  simp only [Char.isDigit, ge_iff_le, Bool.and_eq_true, decide_eq_true_eq, UInt32.le_iff_toNat_le]
  exact Iff.rfl

theorem digit?_of_isDigit (h : c.isDigit = true) : digit? c = some (c.toNat - '0'.toNat) :=
  if_pos (isDigit_iff.1 h)

theorem digit?_of_not_isDigit (h : c.isDigit ≠ true) : digit? c = none :=
  if_neg (mt isDigit_iff.2 h)

/-- More digits never make a number smaller. -/
theorem le_ofDigitChars (cs : List Char) (acc : Nat) : acc ≤ Nat.ofDigitChars 10 cs acc := by
  induction cs generalizing acc with
  | nil => exact Nat.le_of_eq Nat.ofDigitChars_nil.symm
  | cons c cs ih =>
    have next := ih (10 * acc + (c.toNat - '0'.toNat))
    rw [Nat.ofDigitChars_cons]
    omega

theorem readDigits_eq_ok_iff (hacc : acc ≤ bound) :
    readDigits bound acc cs = .ok n ↔
      (∀ c ∈ cs, c.isDigit = true) ∧ Nat.ofDigitChars 10 cs acc = n ∧ n ≤ bound := by
  induction cs generalizing acc with
  | nil =>
    simp only [readDigits, Except.ok.injEq, Nat.ofDigitChars_nil, List.not_mem_nil, false_implies,
      implies_true, true_and, iff_self_and]
    omega
  | cons c cs ih =>
    rw [Nat.ofDigitChars_cons, List.forall_mem_cons, Nat.mul_comm 10 acc]
    by_cases digit : c.isDigit = true
    · by_cases fits : acc * 10 + (c.toNat - '0'.toNat) ≤ bound
      · simp only [readDigits, digit?_of_isDigit digit, if_pos fits, ih fits, digit, true_and]
      · have grows := le_ofDigitChars cs (acc * 10 + (c.toNat - '0'.toNat))
        simp only [readDigits, digit?_of_isDigit digit, if_neg fits, reduceCtorEq, false_iff]
        omega
    · simp [readDigits, digit?_of_not_isDigit digit, digit]

theorem readDigits_zero_eq_ok_iff (ne : cs ≠ []) :
    readDigits bound 0 cs = .ok n ↔ IsDecimal cs n ∧ n ≤ bound := by
  rw [readDigits_eq_ok_iff (Nat.zero_le bound)]
  exact ⟨fun ⟨all, value, fits⟩ => ⟨⟨ne, all, value⟩, fits⟩,
    fun ⟨digits, fits⟩ => ⟨digits.all, digits.value, fits⟩⟩

theorem not_isDecimal_plus : ¬ IsDecimal ('+' :: cs) n :=
  fun digits => absurd (digits.all '+' List.mem_cons_self) (by decide)

theorem readUnsigned_eq_ok_iff (bound n : Nat) (cs : List Char) :
    readUnsigned bound cs = .ok n ↔ IsNumeral cs n ∧ n ≤ bound := by
  unfold readUnsigned
  split
  case h_1 =>
    simp only [reduceCtorEq, false_iff, not_and]
    rintro ⟨digits⟩
    exact absurd rfl digits.ne_nil
  case h_2 =>
    simp only [reduceCtorEq, false_iff, not_and]
    rintro (digits | digits)
    · exact absurd digits not_isDecimal_plus
    · exact absurd rfl digits.ne_nil
  case h_3 c cs =>
    rw [readDigits_zero_eq_ok_iff (List.cons_ne_nil c cs)]
    refine and_congr_left fun _ => ⟨.signed, ?_⟩
    rintro (digits | digits)
    · exact absurd digits not_isDecimal_plus
    · exact digits
  case h_4 empty lone signed =>
    rw [readDigits_zero_eq_ok_iff empty]
    refine and_congr_left fun _ => ⟨.plain, ?_⟩
    rintro (digits | @⟨ds, _, digits⟩)
    · exact digits
    · obtain ⟨d, ds, rfl⟩ := List.exists_cons_of_ne_nil digits.ne_nil
      exact absurd rfl (signed d ds)

/-! ## Blanks -/

theorem trim_append (ne : word ≠ []) (visible : ∀ c ∈ word, isBlank c = false)
    (leading : ∀ c ∈ before, isBlank c = true) (trailing : ∀ c ∈ after, isBlank c = true) :
    trim (before ++ (word ++ after)) = word := by
  have stops (cs : List Char) (ne : cs ≠ []) (visible : ∀ c ∈ cs, isBlank c = false)
      (rest : List Char) : (cs ++ rest).dropWhile isBlank = cs ++ rest := by
    obtain ⟨c, cs, rfl⟩ := List.exists_cons_of_ne_nil ne
    rw [List.cons_append, List.dropWhile_cons_of_neg (by simp [visible])]
  have back : (word ++ after).reverse.dropWhile isBlank = word.reverse := by
    have left := stops word.reverse (by simpa using ne) (by simpa using visible) []
    rw [List.reverse_append, List.dropWhile_append_of_pos (by simpa using trailing)]
    rwa [List.append_nil] at left
  rw [trim, List.dropWhile_append_of_pos leading, stops word ne visible, back, List.reverse_reverse]

/-- Nothing but blanks is trimmed. -/
theorem exists_eq_append_trim (cs : List Char) :
    ∃ before after, cs = before ++ (trim cs ++ after) ∧ (∀ c ∈ before, isBlank c = true) ∧
      ∀ c ∈ after, isBlank c = true := by
  let rest := (cs.dropWhile isBlank).reverse
  refine ⟨cs.takeWhile isBlank, (rest.takeWhile isBlank).reverse, ?_,
    List.all_eq_true.1 List.all_takeWhile, fun c hc => ?_⟩
  · rw [trim, ← List.reverse_append, List.takeWhile_append_dropWhile, List.reverse_reverse,
      List.takeWhile_append_dropWhile]
  · exact List.all_eq_true.1 List.all_takeWhile c (List.mem_reverse.1 hc)

theorem isBlank_of_isDigit (h : c.isDigit = true) : isBlank c = false := by
  rw [isDigit_iff] at h
  simp only [isBlank, Bool.or_eq_false_iff, Bool.and_eq_false_iff, decide_eq_false_iff_not,
    beq_eq_false_iff_ne]
  omega

theorem IsNumeral.ne_nil (h : IsNumeral word n) : word ≠ [] := by
  cases h with
  | plain digits => exact digits.ne_nil
  | signed => exact List.cons_ne_nil _ _

theorem IsNumeral.visible (h : IsNumeral word n) : ∀ c ∈ word, isBlank c = false := by
  cases h with
  | plain digits => exact fun c hc => isBlank_of_isDigit (digits.all c hc)
  | signed digits =>
    exact List.forall_mem_cons.2 ⟨rfl, fun c hc => isBlank_of_isDigit (digits.all c hc)⟩

/-- What is read, once the blanks around it are trimmed: a numeral within the bound. -/
theorem readUnsigned_trim_eq_ok_iff (bound n : Nat) (part : List Char) :
    readUnsigned bound (trim part) = .ok n ↔ Denotes part n ∧ n ≤ bound := by
  rw [readUnsigned_eq_ok_iff]
  refine and_congr_left fun _ => ⟨fun numeral => ?_, ?_⟩
  · obtain ⟨before, after, parts, leading, trailing⟩ := exists_eq_append_trim part
    exact ⟨before, trim part, after, parts, leading, trailing, numeral⟩
  · rintro ⟨before, word, after, rfl, leading, trailing, numeral⟩
    rwa [trim_append numeral.ne_nil numeral.visible leading trailing]

/-- A text that is refused is no numeral within the bound. -/
theorem not_denotes_of_error {e : DecimalError} {part : List Char}
    (refused : readUnsigned bound (trim part) = .error e) : ∀ n ≤ bound, ¬ Denotes part n := by
  intro n fits denotes
  have read := (readUnsigned_trim_eq_ok_iff bound n part).2 ⟨denotes, fits⟩
  rw [refused] at read
  cases read

/-! ## Written numbers -/

theorem toList_padded (width n : Nat) :
    (padded width n).toList =
      List.replicate (width - (toString n).length) '0' ++ Nat.toDigits 10 n := by
  simp [padded]

theorem isDecimal_padded (width n : Nat) : IsDecimal (padded width n).toList n where
  ne_nil := by simp [toList_padded, Nat.toDigits_ne_nil]
  all c hc := by
    rw [toList_padded] at hc
    rcases List.mem_append.1 hc with zero | digit
    · rw [List.eq_of_mem_replicate zero]
      rfl
    · exact Nat.isDigit_of_mem_toDigits (by decide) (by decide) digit
  value := by
    rw [toList_padded, Nat.ofDigitChars_append, Nat.ofDigitChars_replicate_zero, Nat.mul_zero,
      Nat.ofDigitChars_ten_toDigits]

theorem denotes_padded (width n : Nat) : Denotes (padded width n).toList n :=
  ⟨[], _, [], by simp, by simp, by simp, .plain (isDecimal_padded width n)⟩

end Multimeter.Text
