import Stepwise.Proofs.Numerals
import Stepwise.Proofs.Printing.Lexemes

/-!
# Written numbers

An integer is written in decimal, and its text is read back as the integer.  A finite floating point
number is written with a point and a digit behind it, or with an exponent, so that its shortest text is
one lexeme and not an integer or a word.
-/

namespace Stepwise.Number

theorem isNumeral_toDigits (n : Nat) : IsNumeral (Nat.toDigits 10 n) :=
  ⟨fun _ => Nat.isDigit_of_mem_toDigits (by decide) (by decide), Nat.toDigits_ne_nil⟩

theorem not_mem_toDigits {c : Char} (other : c.isDigit = false) (n : Nat) : c ∉ Nat.toDigits 10 n :=
  fun member => ne_of_isDigit ((isNumeral_toDigits n).digits c member) other rfl

theorem isNumeral_zero : IsNumeral ['0'] :=
  ⟨by simp, by simp⟩

theorem isDigit_of_mem_zeros {count : Nat} {c : Char} (member : c ∈ List.replicate count '0') :
    c.isDigit = true := by
  rw [List.eq_of_mem_replicate member]
  rfl

theorem isNumeral_append {first second : List Char} (digits : ∀ c ∈ first, c.isDigit = true)
    (others : ∀ c ∈ second, c.isDigit = true) (some : first ++ second ≠ []) :
    IsNumeral (first ++ second) := by
  refine ⟨fun c member => ?_, some⟩
  rcases List.mem_append.mp member with member | member
  · exact digits c member
  · exact others c member

theorem decimalValue?_of_isDigit {c : Char} (digit : c.isDigit = true) :
    Text.decimalValue? c = some (c.toNat - 48) := by
  obtain ⟨low, high⟩ := Char.isDigit_iff_toNat.mp digit
  have found : 48 ≤ c.toNat ∧ c.toNat < 58 := ⟨low, Nat.lt_succ_of_le high⟩
  simp [Text.decimalValue?, Text.decimalZeros, found]

theorem isDecimalDigit_of_isDigit {c : Char} (digit : c.isDigit = true) :
    Text.isDecimalDigit c = true := by
  rw [Text.isDecimalDigit, decimalValue?_of_isDigit digit]
  rfl

theorem latin_of_isDigit {c : Char} (digit : c.isDigit = true) : latin c = c := by
  have low : 48 ≤ c.toNat := (Char.isDigit_iff_toNat.mp digit).1
  have same : '0'.toNat + (c.toNat - 48) = c.toNat := Nat.add_sub_of_le low
  rw [latin, decimalValue?_of_isDigit digit]
  change Char.ofNat ('0'.toNat + (c.toNat - 48)) = c
  rw [same, Char.ofNat_toNat]

/-! ## Integers -/

theorem toList_toString (n : Int) :
    (toString n).toList = signed (n < 0) ++ Nat.toDigits 10 n.natAbs := by
  have shown : toString n = n.repr := rfl
  rw [shown, Int.repr_eq_if]
  split
  case isTrue nonnegative =>
    have same : n.toNat = n.natAbs := by omega
    simp [signed, Int.not_lt.mpr nonnegative, same, Nat.repr_eq_ofList_toDigits]
  case isFalse negative =>
    have below : n < 0 := Int.not_le.mp negative
    have same : (-n).toNat = n.natAbs := by omega
    simp [signed, below, same, Nat.repr_eq_ofList_toDigits]

/-- The count is a variable here, since a power with a large exponent must not be evaluated. -/
theorem length_toDigits_le {n count : Nat} (positive : 0 < count)
    (few : decide (n < Nat.pow 10 count) = true) : (Nat.toDigits 10 n).length ≤ count := by
  rw [Nat.length_toDigits_le_iff (by decide) positive, ← Nat.pow_eq]
  exact of_decide_eq_true few

/-- Every integer that is not too long is read back from its text. -/
theorem readInt_toString {n : Int} (short : Value.fewDigits n = true) :
    readInt (toString n) = .ok n := by
  have isNumeral := isNumeral_toDigits n.natAbs
  have digits : Digits (Nat.toDigits 10 n.natAbs) :=
    fun c member => isDecimalDigit_of_isDigit (isNumeral.digits c member)
  have latin : (Nat.toDigits 10 n.natAbs).map latin = Nat.toDigits 10 n.natAbs :=
    (List.map_congr_left fun c member => latin_of_isDigit (isNumeral.digits c member)).trans
      (List.map_id _)
  have length := length_toDigits_le (by decide) short
  have value : digitsValue (Nat.toDigits 10 n.natAbs) = n.natAbs := by
    rw [digitsValue, ← Nat.ofDigitChars_eq_foldl, Nat.ofDigitChars_ten_toDigits]
  have text : toString n = String.ofList (signed (n < 0) ++ Nat.toDigits 10 n.natAbs) := by
    rw [← toList_toString, String.ofList_toList]
  have withSign : (if decide (n < 0) = true then -(n.natAbs : Int) else n.natAbs) = n := by
    by_cases negative : n < 0
    · rw [if_pos (decide_eq_true negative)]
      omega
    · rw [if_neg (by simpa using negative)]
      omega
  rw [text, readInt_signed _ digits isNumeral.some, if_neg (Nat.not_lt.mpr length)]
  simp only [latin, value, withSign]

end Stepwise.Number

namespace Stepwise

open Number

/-! ## Numbers as lexemes -/

/-- Neither a minus nor a digit separates lexemes. -/
theorem isLayout_number {c : Char} (starts : c = '-' ∨ c.isDigit = true) :
    isLayout c = false := by
  rcases starts with rfl | digit
  · decide
  · simp [isLayout, ne_of_isDigit digit (d := ' ') rfl, ne_of_isDigit digit (d := '\t') rfl,
      ne_of_isDigit digit (d := '\n') rfl]

namespace Shape

section

variable {whole : List Char} (numeral : IsNumeral whole) (negative : Bool) {tail : List Char}

include numeral

/-- A number starts with a minus or a digit. -/
theorem starts_number (tail : List Char) : ∃ c rest, signed negative ++ (whole ++ tail) = c :: rest ∧
    (c = '-' ∨ c.isDigit = true) := by
  cases negative with
  | true => exact ⟨'-', _, rfl, .inl rfl⟩
  | false =>
      cases whole with
      | nil => exact absurd rfl numeral.some
      | cons c rest => exact ⟨c, _, rfl, .inr (numeral.digits c (List.mem_cons_self ..))⟩

theorem word?_number : word? (signed negative ++ (whole ++ tail)) = none := by
  obtain ⟨c, rest, same, starts⟩ := starts_number numeral negative tail
  have noWord : startsWord c = false := by
    rcases starts with rfl | digit
    · decide
    · obtain ⟨low, high⟩ := Char.isDigit_iff_toNat.mp digit
      have high : c.toNat ≤ 57 := high
      have noUnderscore := ne_of_isDigit digit (d := '_') rfl
      have noLetter : c.isAlpha = false := by
        have upper : 'A'.val.toNat = 65 := rfl
        have lower : 'a'.val.toNat = 97 := rfl
        have code : c.val.toNat ≤ 57 := high
        have noUpper : ¬('A'.val ≤ c.val ∧ c.val ≤ 'Z'.val) := by
          simp only [UInt32.le_iff_toNat_le]
          omega
        have noLower : ¬('a'.val ≤ c.val) := by
          simp only [UInt32.le_iff_toNat_le]
          omega
        change (decide ('A'.val ≤ c.val ∧ c.val ≤ 'Z'.val) ||
          decide ('a'.val ≤ c.val) && decide (c.val ≤ 'z'.val)) = false
        simp only [noUpper, noLower, decide_false, Bool.false_and, Bool.or_self]
      simp [startsWord, noLetter, noUnderscore]
  rw [same, word?, noWord]
  rfl

theorem text?_number : text? (signed negative ++ (whole ++ tail)) = none := by
  obtain ⟨c, rest, same, starts⟩ := starts_number numeral negative tail
  have noQuote : (c == '"' || c == '\'') = false := by
    rcases starts with rfl | digit
    · decide
    · simp [ne_of_isDigit digit (d := '"') rfl, ne_of_isDigit digit (d := '\'') rfl]
  rw [same, text?, noQuote]
  rfl

theorem minus_number : minus (signed negative ++ (whole ++ tail)) = signed negative := by
  cases negative with
  | true => rfl
  | false =>
      cases whole with
      | nil => exact absurd rfl numeral.some
      | cons c rest =>
          have digit := numeral.digits c (List.mem_cons_self ..)
          simp [minus, signed, ne_of_isDigit digit (d := '-') rfl]

variable (stops : ∀ c ∈ tail.head?, Text.isDecimalDigit c = false)

include stops

theorem digits_append : digits (whole ++ tail) = whole :=
  takeWhile_append_stop (fun c member => isDecimalDigit_of_isDigit (numeral.digits c member)) stops

theorem int?_number :
    int? (signed negative ++ (whole ++ tail)) = some (signed negative ++ whole) := by
  have nonempty : whole.isEmpty = false := by simpa using numeral.some
  simp only [int?, minus_number numeral negative, List.drop_left, digits_append numeral stops,
    nonempty, Bool.false_eq_true, if_false]

theorem float?_number :
    float? (signed negative ++ (whole ++ tail)) =
      (if (fraction tail).isEmpty then
        (exponent? tail).map fun exponent => signed negative ++ whole ++ exponent
      else
        some (signed negative ++ whole ++ '.' :: fraction tail ++
          (exponent? (tail.drop ((fraction tail).length + 1))).getD [])) := by
  have nonempty : whole.isEmpty = false := by simpa using numeral.some
  have rest : (signed negative ++ (whole ++ tail)).drop ((signed negative).length + whole.length) =
      tail := by
    rw [← List.append_assoc, ← List.length_append, List.drop_left]
  simp only [float?, minus_number numeral negative, List.drop_left, digits_append numeral stops,
    rest, nonempty, Bool.false_eq_true, if_false]

end

/-- A text for an exponent. -/
def IsExponent (chars : List Char) : Prop :=
  ∃ sign digits, chars = 'e' :: sign :: digits ∧ (sign = '+' ∨ sign = '-') ∧ IsNumeral digits

section

variable {after : List Char} (gap : AtGap after)

include gap

theorem fraction_gap : fraction after = [] := by
  cases after with
  | nil => rfl
  | cons c more =>
      obtain rfl := gap c rfl
      rfl

theorem exponent?_gap : exponent? after = none := by
  cases after with
  | nil => rfl
  | cons c more =>
      obtain rfl := gap c rfl
      rfl

theorem exponent?_append {chars : List Char} (isExponent : IsExponent chars) :
    exponent? (chars ++ after) = some chars := by
  obtain ⟨sign, body, rfl, isSign, numeral⟩ := isExponent
  have read : digits (body ++ after) = body := digits_append numeral (gap.stops (by decide))
  have nonempty : body.isEmpty = false := by simpa using numeral.some
  rcases isSign with rfl | rfl <;> simp [exponent?, read, nonempty]

end

/-- The forms of a floating point number: digits on both sides of a point, with an exponent or
without, and digits with an exponent. -/
inductive IsFloat : List Char → Prop where
  | pointed (negative : Bool) {whole fraction exponent : List Char} : IsNumeral whole →
      IsNumeral fraction → (exponent = [] ∨ IsExponent exponent) →
      IsFloat (signed negative ++ (whole ++ '.' :: (fraction ++ exponent)))
  | scaled (negative : Bool) {whole exponent : List Char} : IsNumeral whole →
      IsExponent exponent → IsFloat (signed negative ++ (whole ++ exponent))

theorem IsFloat.starts {chars : List Char} (isFloat : IsFloat chars) :
    ∃ negative whole tail, chars = signed negative ++ (whole ++ tail) ∧ IsNumeral whole := by
  cases isFloat with
  | pointed negative numeral => exact ⟨negative, _, _, rfl, numeral⟩
  | scaled negative numeral => exact ⟨negative, _, _, rfl, numeral⟩

/-- A number without a point and an exponent is no floating point number. -/
theorem float?_int {whole after : List Char} (numeral : IsNumeral whole) (negative : Bool)
    (gap : AtGap after) : float? (signed negative ++ (whole ++ after)) = none := by
  simp only [float?_number numeral negative (gap.stops (by decide)), fraction_gap gap,
    List.isEmpty_nil, if_true, exponent?_gap gap, Option.map_none]

theorem IsFloat.float? {chars after : List Char} (isFloat : IsFloat chars) (gap : AtGap after) :
    float? (chars ++ after) = some chars := by
  cases isFloat with
  | @pointed negative whole behind exponent numeral numeralBehind isExponent =>
      -- Behind the fraction stands the exponent, or the gap.
      have ends : (exponent? (exponent ++ after)).getD [] = exponent := by
        rcases isExponent with rfl | isExponent
        · rw [List.nil_append, exponent?_gap gap, Option.getD_none]
        · rw [exponent?_append gap isExponent, Option.getD_some]
      have stops : ∀ c ∈ (exponent ++ after).head?, Text.isDecimalDigit c = false := by
        rcases isExponent with rfl | ⟨sign, body, rfl, -, -⟩
        · exact gap.stops (by decide)
        · rintro c ⟨⟩
          decide
      have nonempty : behind.isEmpty = false := by simpa using numeralBehind.some
      have split : signed negative ++ (whole ++ '.' :: (behind ++ exponent)) ++ after =
          signed negative ++ (whole ++ '.' :: (behind ++ (exponent ++ after))) := by simp
      rw [split, float?_number numeral negative (by rintro c ⟨⟩; decide)]
      simp only [fraction, digits_append numeralBehind stops, nonempty, List.drop_succ_cons,
        List.drop_left, ends]
      simp
  | @scaled negative whole exponent numeral isExponent =>
      obtain ⟨sign, body, same, -, -⟩ := id isExponent
      have noFraction : fraction (exponent ++ after) = [] := by
        rw [same]
        rfl
      rw [List.append_assoc, List.append_assoc, float?_number numeral negative]
      · simp only [noFraction, List.isEmpty_nil, if_true, exponent?_append gap isExponent,
          Option.map_some, List.append_assoc]
      · rw [same]
        rintro c ⟨⟩
        decide

end Shape

/-! ## Shortest texts -/

namespace Number

/-- Zero does not read back as a number above zero. -/
theorem Rounding.admits_zero {around : Rounding} (positive : 0 < around.low) (place : Int) :
    around.admits place 0 = false := by
  have above : 0 < around.low * (around.scales place).2 := by
    apply Nat.mul_pos positive
    apply Nat.mul_pos <;> exact Nat.pow_pos (by decide)
  simp only [Rounding.admits, Nat.zero_mul]
  split
  · simp only [Bool.and_eq_false_iff, decide_eq_false_iff_not]
    omega
  · simp

theorem Rounding.nearest?_ne_zero {around : Rounding} (positive : 0 < around.low) {place : Int}
    {found : Decimal} (nearest : around.nearest? place = some found) : found.digits ≠ 0 := by
  simp only [Rounding.nearest?] at nearest
  generalize around.middle * (around.scales place).2 / (around.scales place).1 = below at nearest
  have admitted : around.admits place below = true → below ≠ 0 := by
    rintro admits rfl
    rw [around.admits_zero positive] at admits
    cases admits
  split at nearest
  case h_1 admits _ =>
    have := admitted admits
    split at nearest
    · cases nearest
      exact this
    · split at nearest
      · cases nearest
        exact Nat.succ_ne_zero _
      · split at nearest <;> cases nearest
        · exact this
        · exact Nat.succ_ne_zero _
  case h_2 admits _ =>
    cases nearest
    exact admitted admits
  case h_3 =>
    cases nearest
    exact Nat.succ_ne_zero _
  case h_4 => cases nearest

theorem Rounding.shortestFrom_cases {around : Rounding} (positive : 0 < around.low)
    (leading : Int) (count steps : Nat) :
    (around.shortestFrom leading count steps).digits ≠ 0 ∨
      around.shortestFrom leading count steps = ⟨0, 0⟩ := by
  induction steps generalizing count with
  | zero => exact .inr rfl
  | succ steps ih =>
      rw [Rounding.shortestFrom]
      split
      · next found nearest => exact .inl (around.nearest?_ne_zero positive nearest)
      · exact ih (count + 1)

theorem shortest_cases {mantissa : Nat} (nonzero : mantissa ≠ 0) (exponent : Int) :
    (shortest mantissa exponent).digits ≠ 0 ∨ shortest mantissa exponent = ⟨0, 0⟩ := by
  apply Rounding.shortestFrom_cases
  simp only [Rounding.of]
  split <;> omega

theorem Decimal.isDigit_of_mem_digitList {number : Decimal} {c : Char}
    (member : c ∈ number.digitList) : c.isDigit = true := by
  rw [Decimal.digitList, List.mem_reverse] at member
  have member := List.mem_reverse.mp (List.dropWhile_sublist _ |>.mem member)
  exact Nat.isDigit_of_mem_toDigits (by decide) (by decide) member

/-- Only zero has no digits but zeros. -/
theorem Decimal.digitList_ne_nil {number : Decimal} (nonzero : number.digits ≠ 0) :
    number.digitList ≠ [] := by
  intro empty
  rw [Decimal.digitList, List.reverse_eq_nil_iff, List.dropWhile_eq_nil_iff] at empty
  have zeros : Nat.toDigits 10 number.digits =
      List.replicate (Nat.toDigits 10 number.digits).length '0' := by
    apply List.eq_replicate_of_mem
    intro c member
    simpa using empty c (List.mem_reverse.mpr member)
  apply nonzero
  rw [← Nat.ofDigitChars_ten_toDigits (n := number.digits), zeros,
    Nat.ofDigitChars_replicate_zero, Nat.mul_zero]

theorem isExponent_exponentText (format : FloatFormat) (exponent : Int) :
    Shape.IsExponent ('e' :: format.exponentText exponent) := by
  refine ⟨_, _, rfl, ?_, ?_⟩
  · split
    · exact .inr rfl
    · exact .inl rfl
  · exact isNumeral_append (fun _ => isDigit_of_mem_zeros) (isNumeral_toDigits _).digits
      (by simp [Nat.toDigits_ne_nil])

section

variable (negative : Bool) {digits : List Char} {point : Int}
variable (isDigits : ∀ c ∈ digits, c.isDigit = true)

include isDigits

/-- The first digit, the others behind a point, and an exponent. -/
theorem isFloat_scaled (nonempty : digits ≠ []) {exponent : List Char}
    (isExponent : Shape.IsExponent exponent) :
    Shape.IsFloat (signed negative ++ (digits.take 1 ++
      (if (digits.drop 1).isEmpty then [] else '.' :: digits.drop 1) ++ exponent)) := by
  cases digits with
  | nil => exact absurd rfl nonempty
  | cons d tail =>
      have leading : IsNumeral [d] := ⟨by simpa using isDigits d (List.mem_cons_self ..), by simp⟩
      cases tail with
      | nil => exact .scaled negative leading isExponent
      | cons e more =>
          have fraction : IsNumeral (e :: more) :=
            ⟨fun c member => isDigits c (List.mem_cons_of_mem d member), by simp⟩
          simpa using Shape.IsFloat.pointed negative leading fraction (.inr isExponent)

/-- Zeros between the point and the digits. -/
theorem isFloat_small (nonempty : digits ≠ []) (count : Nat) :
    Shape.IsFloat (signed negative ++ '0' :: '.' :: (List.replicate count '0' ++ digits)) := by
  have fraction : IsNumeral (List.replicate count '0' ++ digits) :=
    isNumeral_append (fun _ => isDigit_of_mem_zeros) isDigits (by simp [nonempty])
  simpa using Shape.IsFloat.pointed negative isNumeral_zero fraction (.inl rfl)

/-- The point among the digits, or behind them and as many zeros as are missing. -/
theorem isFloat_placed {count : Nat} (positive : 0 < count) :
    Shape.IsFloat (signed negative ++ (digits.take count ++
      List.replicate (count - digits.length) '0' ++
        '.' :: (if (digits.drop count).isEmpty then ['0'] else digits.drop count))) := by
  have whole : IsNumeral (digits.take count ++ List.replicate (count - digits.length) '0') := by
    apply isNumeral_append (fun c member => isDigits c (List.mem_of_mem_take member))
      fun _ => isDigit_of_mem_zeros
    cases digits <;> simp [Nat.pos_iff_ne_zero.mp positive]
  have fraction :
      IsNumeral (if (digits.drop count).isEmpty then ['0'] else digits.drop count) := by
    split
    case isTrue => exact isNumeral_zero
    case isFalse some =>
      exact ⟨fun c member => isDigits c (List.mem_of_mem_drop member), by simpa using some⟩
  simpa using Shape.IsFloat.pointed negative whole fraction (.inl rfl)

/-- A number is laid out as a floating point number, unless it has no digits at all; then it has to
be written without an exponent. -/
theorem isFloat_layout (nonempty : digits ≠ [] ∨ point = 1) :
    Shape.IsFloat (signed negative ++ FloatFormat.shown.layout digits point) := by
  rw [FloatFormat.layout]
  split
  case isTrue far =>
    have notOne : point ≠ 1 := by
      rintro rfl
      revert far
      decide
    exact isFloat_scaled negative isDigits (nonempty.resolve_right notOne)
      (isExponent_exponentText _ _)
  case isFalse near =>
    split
    case isTrue small =>
      exact isFloat_small negative isDigits (nonempty.resolve_right (by omega)) _
    case isFalse large =>
      exact isFloat_placed negative isDigits (by omega)

end

theorem isFloat_shortestText {x : Float} {negative : Bool} {mantissa : Nat} {exponent : Int}
    (finite : exact x = .finite negative mantissa exponent) :
    Shape.IsFloat (shortestText x).toList := by
  have minus : (if negative = true then "-" else "").toList = signed negative := by
    cases negative <;> rfl
  simp only [shortestText, FloatFormat.text, finite, String.toList_append, String.toList_ofList,
    minus, beq_iff_eq]
  split
  case isTrue =>
    exact Shape.IsFloat.pointed negative isNumeral_zero isNumeral_zero (.inl rfl)
  case isFalse nonzero =>
    apply isFloat_layout negative fun c => Decimal.isDigit_of_mem_digitList
    rcases shortest_cases nonzero exponent with some | none
    · exact .inl (Decimal.digitList_ne_nil some)
    · rw [none]
      exact .inr rfl

end Number

namespace Token

theorem lexes_int {n : Int} (short : Value.fewDigits n = true) : (Token.int n).Lexes := by
  have chars : (Token.int n).written.toList = signed (n < 0) ++ Nat.toDigits 10 n.natAbs :=
    toList_toString n
  have numeral := isNumeral_toDigits n.natAbs
  constructor
  · obtain ⟨c, rest, same, starts⟩ := Shape.starts_number numeral (n < 0) []
    refine ⟨c, rest, by rw [chars, ← same, List.append_nil], ?_⟩
    exact isLayout_number starts
  · refine ⟨.int, ?_, ?_⟩
    · rw [ofLexeme, String.ofList_toList, written, readInt_toString short]
      rfl
    · intro after gap
      rw [chars, List.append_assoc, lexeme?, Shape.word?_number numeral,
        Shape.text?_number numeral, Shape.float?_int numeral _ gap,
        Shape.int?_number numeral _ (gap.stops (by decide))]

theorem lexes_float {x : Float} (readsBack : ReadsBack x) : (Token.float x).Lexes := by
  obtain ⟨⟨negative, mantissa, exponent, finite⟩, read⟩ := readsBack
  have isFloat : Shape.IsFloat (Token.float x).written.toList := isFloat_shortestText finite
  obtain ⟨negative, whole, tail, same, numeral⟩ := isFloat.starts
  constructor
  · obtain ⟨c, rest, first, starts⟩ := Shape.starts_number numeral negative tail
    exact ⟨c, rest, same.trans first, isLayout_number starts⟩
  · refine ⟨.float, ?_, ?_⟩
    · rw [ofLexeme, String.ofList_toList, written, read]
      rfl
    · intro after gap
      rw [lexeme?, isFloat.float? gap, same, List.append_assoc, List.append_assoc,
        Shape.word?_number numeral, Shape.text?_number numeral]

end Token

end Stepwise
