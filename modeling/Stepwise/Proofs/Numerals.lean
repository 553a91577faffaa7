import Mathlib.Data.List.TakeWhile
import Stepwise.Number.Reading

/-!
# Digits and integers

Numbers may be written in the digits of any script.  A run of digits with a sign or none is read as an
integer unless it is too long.
-/

namespace Stepwise.Number

variable {c : Char} {chars whole : List Char}

/-- A nonempty run of Latin digits. -/
structure IsNumeral (chars : List Char) : Prop where
  digits : ∀ c ∈ chars, c.isDigit = true
  some : chars ≠ []

/-- A digit is none of the other characters. -/
theorem ne_of_isDigit {c d : Char} (digit : c.isDigit = true) (other : d.isDigit = false) :
    c ≠ d := by
  rintro rfl
  rw [digit] at other
  cases other

/-! ## Digits of all scripts -/

/-- A digit of any script as a Latin one; other characters stay. -/
def latin (c : Char) : Char :=
  match Text.decimalValue? c with
  | some value => Text.digitChar value
  | none => c

theorem exists_first_of_isDecimalDigit (digit : Text.isDecimalDigit c = true) :
    ∃ first ∈ Text.decimalZeros, (first ≤ c.toNat ∧ c.toNat < first + 10) ∧
      Text.decimalValue? c = some (c.toNat - first) := by
  obtain ⟨value, known⟩ := Option.isSome_iff_exists.mp digit
  obtain ⟨first, found, rfl⟩ := Option.map_eq_some_iff.mp known
  have within := List.find?_some found
  simp only [Bool.and_eq_true, decide_eq_true_eq] at within
  exact ⟨first, List.mem_of_find?_eq_some found, within, known⟩

theorem isDigit_latin (digit : Text.isDecimalDigit c = true) : (latin c).isDigit = true := by
  obtain ⟨first, _, ⟨low, high⟩, known⟩ := exists_first_of_isDecimalDigit digit
  have all : ∀ value < 10, (Text.digitChar value).isDigit = true := by decide
  rw [latin, known]
  exact all _ (by omega)

/-- No digit of any script is blank. -/
theorem isNumberBlank_of_isDecimalDigit (digit : Text.isDecimalDigit c = true) :
    isNumberBlank c = false := by
  obtain ⟨first, member, ⟨low, high⟩, _⟩ := exists_first_of_isDecimalDigit digit
  have apart : ∀ first ∈ Text.decimalZeros, 32 < first ∧ (first + 10 ≤ 0x85 ∨ 0x85 < first) ∧
      (first + 10 ≤ 0xA0 ∨ 0xA0 < first) ∧ (first + 10 ≤ 0x1680 ∨ 0x1680 < first) ∧
      (first + 10 ≤ 0x2000 ∨ 0x205F < first) ∧ (first + 10 ≤ 0x3000 ∨ 0x3000 < first) := by decide
  have apart := apart first member
  have notBlank : Text.isBlank c = false := by
    simp only [Text.isBlank, Bool.or_eq_false_iff, Bool.and_eq_false_iff, decide_eq_false_iff_not,
      beq_eq_false_iff_ne]
    omega
  rw [isNumberBlank, notBlank, Bool.false_and]

theorem numberChars_of_not_blank (noBlank : ∀ c ∈ chars, isNumberBlank c = false) :
    numberChars (String.ofList chars) = chars.map latin := by
  have kept : ∀ chars : List Char, (∀ c ∈ chars, isNumberBlank c = false) →
      chars.dropWhile isNumberBlank = chars := by
    intro chars none
    cases chars with
    | nil => rfl
    | cons c rest => simp [none c (List.mem_cons_self ..)]
  rw [numberChars, String.toList_ofList]
  simp only [kept _ noBlank, kept _ fun c member => noBlank c (List.mem_reverse.mp member),
    List.reverse_reverse]
  rfl

/-- A run of digits of any script. -/
def Digits (chars : List Char) : Prop :=
  ∀ c ∈ chars, Text.isDecimalDigit c = true

theorem Digits.numeral (digits : Digits whole) (some : whole ≠ []) : IsNumeral (whole.map latin) :=
  ⟨List.forall_mem_map.mpr fun c member => isDigit_latin (digits c member),
    fun none => some (List.map_eq_nil_iff.mp none)⟩

/-! ## Integers -/

/-- A minus, if there is one. -/
def signed (negative : Bool) : List Char :=
  if negative then ['-'] else []

theorem splitSign_numeral (negative : Bool) {numeral : List Char} (isNumeral : IsNumeral numeral) :
    splitSign (signed negative ++ numeral) = (negative, numeral) := by
  cases negative with
  | true => rfl
  | false =>
      cases numeral with
      | nil => exact absurd rfl isNumeral.some
      | cons c rest =>
          have digit := isNumeral.digits c (List.mem_cons_self ..)
          have noMinus := ne_of_isDigit digit (d := '-') rfl
          have noPlus := ne_of_isDigit digit (d := '+') rfl
          simp [signed, splitSign, noMinus, noPlus]

theorem joinedDigits_numeral {numeral : List Char} (isNumeral : IsNumeral numeral) :
    joinedDigits numeral = some numeral := by
  obtain ⟨digits, nonempty⟩ := isNumeral
  induction numeral with
  | nil => exact absurd rfl nonempty
  | cons c rest ih =>
      have digit := digits c (List.mem_cons_self ..)
      have others : ∀ d ∈ rest, d.isDigit = true := fun d member =>
        digits d (List.mem_cons_of_mem c member)
      cases rest with
      | nil => simp [joinedDigits, digit]
      | cons d more =>
          have noUnderscore := ne_of_isDigit (others d (List.mem_cons_self ..)) (d := '_') rfl
          rw [joinedDigits.eq_4 _ _ (by simp) (by simpa using noUnderscore), if_pos digit,
            ih others (by simp)]
          rfl

theorem not_blank_signed (negative : Bool) (digits : Digits whole) :
    ∀ c ∈ signed negative ++ whole, isNumberBlank c = false := by
  intro c member
  rcases List.mem_append.mp member with member | member
  · cases negative
    · cases member
    · obtain rfl := List.mem_singleton.mp member
      decide
  · exact isNumberBlank_of_isDecimalDigit (digits c member)

theorem map_latin_signed (negative : Bool) (chars : List Char) :
    (signed negative ++ chars).map latin = signed negative ++ chars.map latin := by
  cases negative <;> rfl

/-- An integer is read unless it has too many digits. -/
theorem readInt_signed (negative : Bool) (digits : Digits whole) (some : whole ≠ []) :
    readInt (String.ofList (signed negative ++ whole)) =
      if Value.maxDigits < whole.length then .error (.digitsRead whole.length)
      else
        let magnitude : Int := digitsValue (whole.map latin)
        .ok (if negative then -magnitude else magnitude) := by
  have numeral := digits.numeral some
  have every : ∀ c ∈ whole.map latin, (c.isDigit || c == '_') = true := by
    intro c member
    rw [numeral.digits c member, Bool.true_or]
  have body : (whole.map latin).takeWhile (fun c => c.isDigit || c == '_') = whole.map latin :=
    List.takeWhile_eq_self_iff.mpr every
  rw [readInt, numberChars_of_not_blank (not_blank_signed negative digits), map_latin_signed,
    splitSign_numeral negative numeral]
  simp only [body, joinedDigits_numeral numeral, List.all_eq_true.mpr every, if_true, List.length_map]

theorem digitsValue_lt {digits : List Char} (isDigits : ∀ c ∈ digits, c.isDigit = true) :
    digitsValue digits < Nat.pow 10 digits.length := by
  -- for every value in front of the digits
  have below : ∀ value, digits.foldl (fun value digit => 10 * value + (digit.toNat - '0'.toNat)) value <
      (value + 1) * Nat.pow 10 digits.length := by
    induction digits with
    | nil => simp
    | cons c rest ih =>
        intro value
        have high : c.toNat ≤ 57 := (Char.isDigit_iff_toNat.mp (isDigits c (List.mem_cons_self ..))).2
        have step := ih (fun c member => isDigits c (List.mem_cons_of_mem _ member))
          (10 * value + (c.toNat - '0'.toNat))
        have point : '0'.toNat = 48 := rfl
        calc _ < (10 * value + (c.toNat - '0'.toNat) + 1) * Nat.pow 10 rest.length := step
          _ ≤ ((value + 1) * 10) * Nat.pow 10 rest.length := by
              apply Nat.mul_le_mul_right
              omega
          _ = (value + 1) * Nat.pow 10 (c :: rest).length := by
              rw [List.length_cons, Nat.mul_assoc]
              congr 1
              exact (Nat.pow_succ' ..).symm
  simpa [digitsValue] using below 0

/-- The limit is a variable here, since a power with a large exponent must not be evaluated. -/
theorem digitsValue_lt_of_length_le {digits : List Char} {limit : Nat}
    (isDigits : ∀ c ∈ digits, c.isDigit = true) (short : digits.length ≤ limit) :
    decide (digitsValue digits < Nat.pow 10 limit) = true := by
  have grows : Nat.pow 10 digits.length ≤ Nat.pow 10 limit := Nat.pow_le_pow_right (by decide) short
  exact decide_eq_true (Nat.lt_of_lt_of_le (digitsValue_lt isDigits) grows)

end Stepwise.Number
