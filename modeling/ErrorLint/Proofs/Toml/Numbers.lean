/-
This file reads back the integers that are written. The digits of an integer begin with a zero
only if it is zero, so they are read as a whole. Nothing that can follow a value makes the
digits a date, a time or a number with a fraction, so the other readers, which are tried
before, refuse the text.
-/

import ErrorLint.Proofs.Toml.Strings
import ErrorLint.Toml.Reader

namespace ErrorLint.Toml

variable {digits rest : List Char}

/-- What follows a value: a comma, a closing bracket, a blank before a closing brace, or the
end of the line. -/
def EndsValue (rest : List Char) : Prop :=
  ∀ char ∈ rest.head?, char = ',' ∨ char = ']' ∨ char = ' ' ∨ char = '\n'

theorem EndsValue.head?_ne (ends : EndsValue rest) {char : Char}
    (other : ¬(char = ',' ∨ char = ']' ∨ char = ' ' ∨ char = '\n')) : rest.head? ≠ some char :=
  fun looks => other (ends char looks)

theorem EndsValue.not_isDigit (ends : EndsValue rest) : ∀ char ∈ rest.head?, ¬char.isDigit := by
  intro char first digit
  obtain rfl | rfl | rfl | rfl := ends char first <;> cases digit

/-! ### Digits -/

theorem ne_of_isDigit {digit char : Char} (isDigit : digit.isDigit = true)
    (other : char.isDigit = false) : digit ≠ char := by
  rintro rfl
  rw [isDigit] at other
  cases other

/-- The digits of a number: there are some, and a zero comes first only if it stands alone. -/
structure IsNumeral (digits : List Char) : Prop where
  present : digits ≠ []
  digital : ∀ char ∈ digits, char.isDigit
  leading : digits.head? = some '0' → digits = ['0']

/-- Only zero has a zero for its first digit. -/
theorem head?_toDigits_ne {number : Nat} (positive : 0 < number) :
    (Nat.toDigits 10 number).head? ≠ some '0' := by
  induction number using Nat.strongRecOn with
  | ind number inductionHypothesis =>
    rw [Nat.toDigits_eq_if (by decide)]
    split
    · simpa using Nat.ne_of_gt positive
    · rename_i large
      rw [List.head?_append, Option.or_of_isSome (by simp [Nat.toDigits_ne_nil])]
      exact inductionHypothesis (number / 10) (by omega) (by omega)

theorem isNumeral_toDigits (number : Nat) : IsNumeral (Nat.toDigits 10 number) := by
  refine ⟨Nat.toDigits_ne_nil, ?_, fun leading => ?_⟩
  · exact fun _ inside => Nat.isDigit_of_mem_toDigits (by decide) (by decide) inside
  · obtain rfl | positive := Nat.eq_zero_or_pos number
    · exact Nat.toDigits_zero 10
    · exact absurd leading (head?_toDigits_ne positive)

theorem digitsValue_toDigits (number : Nat) : digitsValue (Nat.toDigits 10 number) = number := by
  have value := @Nat.ofDigitChars_ten_toDigits number
  rw [Nat.ofDigitChars_eq_foldl] at value
  rw [digitsValue]
  simpa only [Nat.mul_comm] using value

theorem moreDigits_append (digital : ∀ char ∈ digits, char.isDigit) (ends : EndsValue rest) :
    moreDigits Char.isDigit (digits ++ rest) = some (digits, rest) := by
  induction digits with
  | nil =>
    cases rest with
    | nil => rfl
    | cons char rest => obtain rfl | rfl | rfl | rfl := ends char rfl <;> rfl
  | cons digit digits inductionHypothesis =>
    have isDigit := digital digit List.mem_cons_self
    have others := inductionHypothesis fun char inside =>
      digital char (List.mem_cons_of_mem digit inside)
    rw [List.cons_append, moreDigits]
    · simp [isDigit, others]
    · rintro _ _ rfl
      cases isDigit

/-- The digits of a number are read as a whole. -/
theorem IsNumeral.wholeDigits (numeral : IsNumeral digits) (ends : EndsValue rest) :
    wholeDigits (digits ++ rest) = some (digits, rest) := by
  obtain ⟨digit, digits, rfl⟩ := List.exists_cons_of_ne_nil numeral.present
  have isDigit := numeral.digital digit List.mem_cons_self
  have more := moreDigits_append
    (fun char inside => numeral.digital char (List.mem_cons_of_mem digit inside)) ends
  unfold Toml.wholeDigits
  split
  · rename_i zero
    have same := (List.cons.inj zero).1
    have alone := (List.cons.inj (numeral.leading (by rw [same]; rfl))).2
    have after := (List.cons.inj zero).2
    rw [same, alone, ← after, alone]
    rfl
  · rw [List.cons_append, someDigits]
    simp [isDigit, more]

/-! ### Signs -/

/-- Digits with a minus sign, if the number is negative. -/
def signed (negative : Bool) (digits : List Char) : List Char :=
  if negative then '-' :: digits else digits

theorem writeInteger_eq_signed (number : Int) :
    writeInteger number = signed (number < 0) (Nat.toDigits 10 number.natAbs) := by
  unfold writeInteger signed
  simp

variable {negative : Bool}

theorem IsNumeral.sign (numeral : IsNumeral digits) (rest : List Char) :
    sign (signed negative digits ++ rest) = (negative, digits ++ rest) := by
  cases negative with
  | true => rfl
  | false =>
    obtain ⟨digit, digits, rfl⟩ := List.exists_cons_of_ne_nil numeral.present
    have isDigit := numeral.digital digit List.mem_cons_self
    show Toml.sign (digit :: (digits ++ rest)) = _
    unfold Toml.sign
    split
    · rename_i minus
      exact absurd (List.cons.inj minus).1 (ne_of_isDigit isDigit rfl)
    · rename_i plus
      exact absurd (List.cons.inj plus).1 (ne_of_isDigit isDigit rfl)
    · rfl

/-- A number begins with a minus sign or a digit. -/
theorem IsNumeral.exists_signed_eq_cons (numeral : IsNumeral digits) (negative : Bool) :
    ∃ first others, signed negative digits = first :: others ∧
      (first = '-' ∨ first.isDigit) := by
  obtain ⟨digit, others, same⟩ := List.exists_cons_of_ne_nil numeral.present
  cases negative with
  | true => exact ⟨_, _, rfl, .inl rfl⟩
  | false =>
    refine ⟨digit, others, same, .inr (numeral.digital digit ?_)⟩
    rw [same]
    exact List.mem_cons_self

/-! ### The readers that are tried before -/

theorem expect_eq_none {mark : Char} {text : List Char} (other : text.head? ≠ some mark) :
    expect mark text = none := by
  cases text with
  | nil => rfl
  | cons char text => exact if_neg (by simpa using other)

/-- A number of some digits is read within the digits, and what is left does not begin with a
mark of a date or a time. -/
theorem expect_of_boundedNumber (digital : ∀ char ∈ digits, char.isDigit)
    (ends : EndsValue rest) {count low high number : Nat} {after : List Char}
    (read : boundedNumber count low high (digits ++ rest) = some (number, after))
    {mark : Char} (isMark : mark = '-' ∨ mark = ':') : expect mark after = none := by
  simp only [boundedNumber, Option.ite_none_right_eq_some, Bool.and_eq_true, decide_eq_true_eq,
    List.all_eq_true, Option.some.injEq, Prod.mk.injEq] at read
  obtain ⟨⟨⟨⟨length, taken⟩, -⟩, -⟩, -, rfl⟩ := read
  have within : count ≤ digits.length := by
    by_contra beyond
    cases rest with
    | nil =>
      rw [List.append_nil, List.length_take] at length
      omega
    | cons char rest =>
      refine ends.not_isDigit char rfl (taken char ?_)
      rw [List.take_append, List.mem_append, List.take_cons (by omega)]
      exact .inr List.mem_cons_self
  apply expect_eq_none
  rw [List.drop_append_of_le_length within]
  cases left : digits.drop count with
  | nil => exact ends.head?_ne (by obtain rfl | rfl := isMark <;> decide)
  | cons digit others =>
    have isDigit := digital digit (List.mem_of_mem_drop (left ▸ List.mem_cons_self))
    rintro ⟨⟩
    obtain rfl | rfl := isMark <;> cases isDigit

theorem boundedNumber_eq_none {first : Char} (other : first.isDigit = false)
    (count low high : Nat) (text : List Char) :
    boundedNumber (count + 1) low high (first :: text) = none := by
  simp [boundedNumber, other]

/-- A number with a sign is not the start of a date or a time either. -/
theorem IsNumeral.expect_eq_none (numeral : IsNumeral digits) (ends : EndsValue rest)
    {count low high number : Nat} {after : List Char}
    (read : boundedNumber (count + 1) low high (signed negative digits ++ rest) =
      some (number, after))
    {mark : Char} (isMark : mark = '-' ∨ mark = ':') : expect mark after = none := by
  cases negative with
  | true =>
    rw [signed, if_pos rfl, List.cons_append, boundedNumber_eq_none rfl] at read
    cases read
  | false => exact expect_of_boundedNumber numeral.digital ends read isMark

theorem IsNumeral.readDateTime (numeral : IsNumeral digits) (ends : EndsValue rest) :
    DateTime.read (signed negative digits ++ rest) = none := by
  have noDate : Date.read (signed negative digits ++ rest) = none := by
    rw [Date.read, Option.bind_eq_bind, Option.bind_eq_none_iff]
    rintro ⟨year, after⟩ read
    dsimp only
    rw [numeral.expect_eq_none ends read (.inl rfl)]
    rfl
  have noTime : Time.read (signed negative digits ++ rest) = none := by
    rw [Time.read, Option.bind_eq_bind, Option.bind_eq_none_iff]
    rintro ⟨hour, after⟩ read
    dsimp only
    rw [numeral.expect_eq_none ends read (.inr rfl)]
    rfl
  rw [DateTime.read, noDate]
  simp [noTime]

theorem IsNumeral.readFloat (numeral : IsNumeral digits) (ends : EndsValue rest) :
    readFloat (signed negative digits ++ rest) = none := by
  have noFraction : readFraction rest = some (none, rest) := by
    cases rest with
    | nil => rfl
    | cons char rest => obtain rfl | rfl | rfl | rfl := ends char rfl <;> rfl
  have noExponent : readExponent rest = some (none, rest) := by
    cases rest with
    | nil => rfl
    | cons char rest => obtain rfl | rfl | rfl | rfl := ends char rfl <;> rfl
  have noDecimal : readDecimal (signed negative digits ++ rest) = none := by
    rw [readDecimal, numeral.sign]
    dsimp only
    rw [numeral.wholeDigits ends]
    dsimp only [Option.bind_eq_bind, Option.bind_some]
    rw [noFraction]
    dsimp only [Option.bind_some]
    rw [noExponent]
    rfl
  have noName : readSpecial (signed negative digits ++ rest) = none := by
    obtain ⟨digit, others, same⟩ := List.exists_cons_of_ne_nil numeral.present
    have isDigit := numeral.digital digit (same ▸ List.mem_cons_self)
    rw [readSpecial, numeral.sign, same]
    dsimp only [List.cons_append]
    split
    · rename_i looks
      exact absurd (List.cons.inj looks).1 (ne_of_isDigit isDigit rfl)
    · rename_i looks
      exact absurd (List.cons.inj looks).1 (ne_of_isDigit isDigit rfl)
    · rfl
  rw [Toml.readFloat, noDecimal, noName]
  rfl

theorem opening_eq_none {first : Char} (notQuote : first ≠ '"' ∧ first ≠ '\'')
    (others : List Char) : StringStyle.opening (first :: others) = none := by
  unfold StringStyle.opening
  split <;> simp_all

/-! ### Integers -/

/-- A zero in front stands alone, so no letter for another base comes after it. -/
theorem IsNumeral.ne_based (numeral : IsNumeral digits) (ends : EndsValue rest) {letter : Char}
    (other : ¬(letter = ',' ∨ letter = ']' ∨ letter = ' ' ∨ letter = '\n')) {text : List Char} :
    signed negative digits ++ rest ≠ '0' :: letter :: text := by
  intro looks
  cases negative with
  | true => cases (List.cons.inj looks).1
  | false =>
    replace looks : digits ++ rest = '0' :: letter :: text := looks
    obtain ⟨digit, others, rfl⟩ := List.exists_cons_of_ne_nil numeral.present
    have alone := numeral.leading (congrArg some (List.cons.inj looks).1)
    rw [alone] at looks
    refine ends.head?_ne other ?_
    rw [show rest = letter :: text from (List.cons.inj looks).2]
    rfl

theorem readInteger_writeInteger {number : Int} (word : isWord number = true)
    (ends : EndsValue rest) : readInteger (writeInteger number ++ rest) = some (number, rest) := by
  have numeral := isNumeral_toDigits number.natAbs
  have value : (if number < 0 then -(number.natAbs : Int) else number.natAbs) = number := by
    omega
  rw [writeInteger_eq_signed]
  unfold readInteger
  split
  · rename_i looks
    exact absurd looks (numeral.ne_based ends (by decide))
  · rename_i looks
    exact absurd looks (numeral.ne_based ends (by decide))
  · rename_i looks
    exact absurd looks (numeral.ne_based ends (by decide))
  · rw [numeral.sign]
    simp only [numeral.wholeDigits ends, digitsValue_toDigits, Option.bind_eq_bind,
      Option.bind_some, decide_eq_true_eq, value, word, if_true]

theorem toInt_ofInt {number : Int} (word : isWord number = true) :
    (Int64.ofInt number).toInt = number := by
  simp only [isWord, Bool.and_eq_true, decide_eq_true_eq] at word
  exact Int64.toInt_ofInt_of_le word.1 word.2

theorem isWord_toInt (number : Int64) : isWord number.toInt = true := by
  have lower := number.minValue_le_toInt
  have upper := number.toInt_lt
  simp only [isWord, Bool.and_eq_true, decide_eq_true_eq]
  exact ⟨lower, upper⟩

/-- An integer is read back, up to what follows it. -/
theorem readScalar_writeInteger (number : Int64) (ends : EndsValue rest) :
    readScalar (writeInteger number.toInt ++ rest) = some (.integer number, rest) := by
  have integer := readInteger_writeInteger (isWord_toInt number) ends
  rw [writeInteger_eq_signed] at integer ⊢
  have numeral := isNumeral_toDigits number.toInt.natAbs
  have noDateTime := @IsNumeral.readDateTime _ _ (decide (number.toInt < 0)) numeral ends
  have noFloat := @IsNumeral.readFloat _ _ (decide (number.toInt < 0)) numeral ends
  obtain ⟨first, others, same, isNumber⟩ :=
    numeral.exists_signed_eq_cons (decide (number.toInt < 0))
  have notLetter : first ≠ 't' ∧ first ≠ 'f' ∧ first ≠ '"' ∧ first ≠ '\'' := by
    refine ⟨?_, ?_, ?_, ?_⟩ <;>
    · rintro rfl
      simp at isNumber
  have noString : StringStyle.read (first :: (others ++ rest)) = none := by
    rw [StringStyle.read, opening_eq_none notLetter.2.2]
    rfl
  rw [same, List.cons_append] at integer noDateTime noFloat ⊢
  unfold readScalar
  split
  · simp_all
  · simp_all
  · simp [noString, noDateTime, noFloat, integer]

end ErrorLint.Toml
