import Stepwise.Proofs.Lexing
import Stepwise.Proofs.Printing.Numerals

/-!
# Numerals in a program text

What the lexer cuts off as a number can be read as a number, in the digits of every script.  Only an
integer with too many digits is refused.
-/

namespace Stepwise

theorem dropWhile_append_stop {test : Char → Bool} {part after : List Char}
    (every : ∀ c ∈ part, test c = true) (stops : ∀ c ∈ after.head?, test c = false) :
    (part ++ after).dropWhile test = after := by
  rw [List.dropWhile_append_of_pos every]
  cases after with
  | nil => rfl
  | cons c more => rw [List.dropWhile_cons_of_neg (by simp [stops c rfl])]

namespace Number

variable {c : Char} {chars lexeme whole body : List Char}

/-! ## Integers -/

theorem digits_takeWhile (chars : List Char) : Digits (Shape.digits chars) :=
  fun _ => List.mem_takeWhile_imp

theorem minus_eq_signed (chars : List Char) : ∃ negative, Shape.minus chars = signed negative := by
  cases chars with
  | nil => exact ⟨false, rfl⟩
  | cons c rest =>
      by_cases isMinus : c = '-'
      · subst isMinus
        exact ⟨true, rfl⟩
      · exact ⟨false, by simp [Shape.minus, signed, isMinus]⟩

/-- An integer is a sign and digits. -/
theorem int?_eq_some (cut : Shape.int? chars = some lexeme) :
    ∃ negative whole, lexeme = signed negative ++ whole ∧ whole ≠ [] ∧ Digits whole := by
  obtain ⟨negative, isSign⟩ := minus_eq_signed chars
  simp only [Shape.int?, isSign] at cut
  split at cut
  · cases cut
  · next nonempty =>
      cases cut
      exact ⟨negative, _, rfl, by simpa using nonempty, digits_takeWhile _⟩

/-! ## Floating point numbers -/

/-- An exponent is its letter, a sign or none, and digits. -/
structure IsExponentOf (lexeme sign body : List Char) : Prop where
  spelled : lexeme = 'e' :: (sign ++ body) ∨ lexeme = 'E' :: (sign ++ body)
  isSign : sign = [] ∨ sign = ['+'] ∨ sign = ['-']
  some : body ≠ []
  digits : Digits body

theorem exponentSign_cases (chars : List Char) :
    let sign := (chars.take 1).filter fun s => s == '+' || s == '-'
    sign = [] ∨ sign = ['+'] ∨ sign = ['-'] := by
  cases chars with
  | nil => exact .inl rfl
  | cons c rest =>
      by_cases plus : c = '+'
      · subst plus
        exact .inr (.inl rfl)
      · by_cases minus : c = '-'
        · subst minus
          exact .inr (.inr rfl)
        · simp [plus, minus]

theorem exponent?_eq_some (cut : Shape.exponent? chars = some lexeme) :
    ∃ sign body, IsExponentOf lexeme sign body := by
  cases chars with
  | nil => cases cut
  | cons c rest =>
      have isSign := exponentSign_cases rest
      rw [Shape.exponent?] at cut
      dsimp only at cut isSign
      generalize (rest.take 1).filter (fun s => s == '+' || s == '-') = sign at cut isSign
      split at cut
      · next letter =>
          split at cut
          · cases cut
          · next nonempty =>
              cases cut
              exact ⟨sign, Shape.digits (rest.drop sign.length), by simpa using letter, isSign,
                by simpa using nonempty, digits_takeWhile _⟩
      · cases cut

theorem digits_fraction (chars : List Char) : Digits (Shape.fraction chars) := by
  unfold Shape.fraction
  split
  · exact digits_takeWhile _
  · exact fun _ member => (by cases member)

/-- A floating point number is a sign or none, digits, a point with digits or none, and an exponent or
none.  There is a digit before the exponent. -/
structure IsFloatOf (lexeme : List Char) (negative : Bool) (whole point exponent : List Char) :
    Prop where
  spelled : lexeme = signed negative ++ (whole ++ (point ++ exponent))
  digits : Digits whole
  isPoint : (point = [] ∧ whole ≠ []) ∨ ∃ behind, point = '.' :: behind ∧ behind ≠ [] ∧ Digits behind
  isExponent : exponent = [] ∨ ∃ sign body, IsExponentOf exponent sign body

theorem IsExponentOf.starts {sign : List Char} (isExponent : IsExponentOf lexeme sign body) :
    ∃ c rest, lexeme = c :: rest ∧ (c = 'e' ∨ c = 'E') := by
  rcases isExponent.spelled with rfl | rfl
  · exact ⟨'e', _, rfl, .inl rfl⟩
  · exact ⟨'E', _, rfl, .inr rfl⟩

/-- What is cut off as a floating point number has a point or an exponent. -/
theorem float?_eq_some (cut : Shape.float? chars = some lexeme) :
    ∃ negative whole point exponent, IsFloatOf lexeme negative whole point exponent ∧
      (point ≠ [] ∨ exponent ≠ []) := by
  obtain ⟨negative, isSign⟩ := minus_eq_signed chars
  simp only [Shape.float?, isSign] at cut
  have isWhole := digits_takeWhile (chars.drop (signed negative).length)
  generalize Shape.digits (chars.drop (signed negative).length) = whole at cut isWhole
  generalize chars.drop ((signed negative).length + whole.length) = rest at cut
  have isBehind := digits_fraction rest
  generalize Shape.fraction rest = behind at cut isBehind
  split at cut
  · split at cut
    · cases cut
    · next nonempty =>
        obtain ⟨exponent, cutExponent, rfl⟩ := Option.map_eq_some_iff.mp cut
        obtain ⟨sign, body, isExponent⟩ := exponent?_eq_some cutExponent
        obtain ⟨c, more, rfl, -⟩ := isExponent.starts
        exact ⟨negative, whole, [], c :: more,
          ⟨by simp, isWhole, .inl ⟨rfl, by simpa using nonempty⟩, .inr ⟨sign, body, isExponent⟩⟩,
          .inr (List.cons_ne_nil _ _)⟩
  · next nonempty =>
      cases cut
      have isPoint : ∃ digits, '.' :: behind = '.' :: digits ∧ digits ≠ [] ∧ Digits digits :=
        ⟨behind, rfl, by simpa using nonempty, isBehind⟩
      cases cutExponent : Shape.exponent? (rest.drop (behind.length + 1)) with
      | none =>
          exact ⟨negative, whole, '.' :: behind, [], ⟨by simp, isWhole, .inr isPoint, .inl rfl⟩,
            .inl (List.cons_ne_nil _ _)⟩
      | some exponent =>
          exact ⟨negative, whole, '.' :: behind, exponent,
            ⟨by simp, isWhole, .inr isPoint, .inr (exponent?_eq_some cutExponent)⟩,
            .inl (List.cons_ne_nil _ _)⟩

/-! ### Reading -/

theorem withoutUnderscores_of_not_mem {previous : Char} (noUnderscore : '_' ∉ chars)
    (other : previous ≠ '_') : withoutUnderscores previous chars = some chars := by
  induction chars generalizing previous with
  | nil => simp [withoutUnderscores, other]
  | cons c rest ih =>
      have differs : c ≠ '_' := (List.ne_of_not_mem_cons noUnderscore).symm
      have later := List.not_mem_of_not_mem_cons noUnderscore
      simp [withoutUnderscores, differs, other, ih later differs]

theorem splitSign_cons (noMinus : c ≠ '-') (noPlus : c ≠ '+') (rest : List Char) :
    splitSign (c :: rest) = (false, c :: rest) := by
  simp [splitSign, noMinus, noPlus]

theorem readExponent_isSome {sign : List Char} (isExponent : IsExponentOf lexeme sign body) :
    ∃ exponent, readExponent (lexeme.map latin) = some exponent := by
  obtain ⟨spelled, isSign, nonempty, digits⟩ := isExponent
  have numeral := digits.numeral nonempty
  have split : ∃ negative, splitSign (sign ++ body.map latin) = (negative, body.map latin) := by
    rcases isSign with rfl | rfl | rfl
    · exact ⟨false, splitSign_numeral false numeral⟩
    · exact ⟨false, rfl⟩
    · exact ⟨true, rfl⟩
  obtain ⟨negative, split⟩ := split
  have kept : (sign ++ body).map latin = sign ++ body.map latin := by
    rcases isSign with rfl | rfl | rfl <;> rfl
  have every : (body.map latin).all Char.isDigit = true := List.all_eq_true.mpr numeral.digits
  have some : (body.map latin).isEmpty = false := by simpa using nonempty
  rcases spelled with rfl | rfl
  · have letter : latin 'e' = 'e' := rfl
    simp [List.map_cons, letter, kept, readExponent, split, every, some, -List.map_append]
  · have letter : latin 'E' = 'E' := rfl
    simp [List.map_cons, letter, kept, readExponent, split, every, some, -List.map_append]

theorem readMagnitude_isSome {negative : Bool} {point exponent : List Char}
    (isFloat : IsFloatOf lexeme negative whole point exponent) :
    ∃ magnitude, readMagnitude ((whole ++ (point ++ exponent)).map latin) = some magnitude := by
  obtain ⟨-, digits, isPoint, isExponent⟩ := isFloat
  have isWhole : ∀ c ∈ whole.map latin, c.isDigit = true :=
    List.forall_mem_map.mpr fun c member => isDigit_latin (digits c member)
  have readsExponent : ∃ value, readExponent (exponent.map latin) = some value := by
    rcases isExponent with rfl | ⟨sign, body, isExponent⟩
    · exact ⟨0, rfl⟩
    · exact readExponent_isSome isExponent
  obtain ⟨value, readsExponent⟩ := readsExponent
  have exponentStops : ∀ c ∈ (exponent.map latin).head?, c.isDigit = false := by
    rcases isExponent with rfl | ⟨sign, body, isExponent⟩
    · exact fun c member => (by cases member)
    · obtain ⟨c, rest, rfl, rfl | rfl⟩ := isExponent.starts <;> rintro d ⟨⟩ <;> rfl
  simp only [List.map_append]
  rcases isPoint with ⟨rfl, nonempty⟩ | ⟨behind, rfl, nonempty, isBehind⟩
  · have some : (whole.map latin).isEmpty = false := by simpa using nonempty
    have noPoint : ∀ rest, exponent.map latin ≠ '.' :: rest := by
      rcases isExponent with rfl | ⟨sign, body, isExponent⟩
      · exact fun rest same => (by cases same)
      · obtain ⟨c, rest, rfl, rfl | rfl⟩ := isExponent.starts <;> rintro d ⟨⟩
    rw [readMagnitude, List.map_nil, List.nil_append, takeWhile_append_stop isWhole exponentStops,
      dropWhile_append_stop isWhole exponentStops]
    split
    next fraction afterFraction same =>
    split at same
    · next rest found => exact absurd found (noPoint rest)
    · cases same
      simp [some, readsExponent]
  · have someBehind : (behind.map latin).isEmpty = false := by simpa using nonempty
    have digitsBehind : ∀ c ∈ behind.map latin, c.isDigit = true :=
      List.forall_mem_map.mpr fun c member => isDigit_latin (isBehind c member)
    have pointed : ('.' :: behind).map latin ++ exponent.map latin =
        '.' :: (behind.map latin ++ exponent.map latin) := rfl
    have pointStops : ∀ c ∈ ('.' :: (behind.map latin ++ exponent.map latin)).head?,
        c.isDigit = false := by
      rintro c ⟨⟩
      rfl
    rw [readMagnitude, pointed, takeWhile_append_stop isWhole pointStops,
      dropWhile_append_stop isWhole pointStops]
    simp [takeWhile_append_stop digitsBehind exponentStops,
      dropWhile_append_stop digitsBehind exponentStops, someBehind, readsExponent]

/-- The characters of a floating point number. -/
def IsFloatChar (c : Char) : Prop :=
  Text.isDecimalDigit c = true ∨ c ∈ ['-', '+', '.', 'e', 'E']

theorem IsFloatChar.not_blank (isFloatChar : IsFloatChar c) : isNumberBlank c = false := by
  rcases isFloatChar with digit | member
  · exact isNumberBlank_of_isDecimalDigit digit
  · simp only [List.mem_cons, List.not_mem_nil, or_false] at member
    rcases member with rfl | rfl | rfl | rfl | rfl <;> rfl

theorem IsFloatChar.latin_ne_underscore (isFloatChar : IsFloatChar c) : latin c ≠ '_' := by
  rcases isFloatChar with digit | member
  · exact ne_of_isDigit (isDigit_latin digit) rfl
  · simp only [List.mem_cons, List.not_mem_nil, or_false] at member
    rcases member with rfl | rfl | rfl | rfl | rfl <;> decide

theorem IsExponentOf.floatChars {sign : List Char} (isExponent : IsExponentOf lexeme sign body) :
    ∀ c ∈ lexeme, IsFloatChar c := by
  obtain ⟨spelled, isSign, -, digits⟩ := isExponent
  have isTail : ∀ c ∈ sign ++ body, IsFloatChar c := by
    intro c member
    rcases List.mem_append.mp member with member | member
    · rcases isSign with rfl | rfl | rfl
      · cases member
      · exact .inr (by simp_all)
      · exact .inr (by simp_all)
    · exact .inl (digits c member)
  rcases spelled with rfl | rfl
  · exact List.forall_mem_cons.mpr ⟨.inr (by simp), isTail⟩
  · exact List.forall_mem_cons.mpr ⟨.inr (by simp), isTail⟩

namespace IsFloatOf

variable {negative : Bool} {point exponent : List Char}
variable (isFloat : IsFloatOf lexeme negative whole point exponent)

include isFloat

theorem floatChars : ∀ c ∈ lexeme, IsFloatChar c := by
  obtain ⟨rfl, digits, isPoint, isExponent⟩ := isFloat
  simp only [List.forall_mem_append]
  refine ⟨?_, fun c member => .inl (digits c member), ?_, ?_⟩
  · cases negative
    · exact fun c member => (by cases member)
    · exact fun c member => .inr (by simp_all [signed])
  · rcases isPoint with ⟨rfl, -⟩ | ⟨behind, rfl, -, isBehind⟩
    · exact fun c member => (by cases member)
    · exact List.forall_mem_cons.mpr ⟨.inr (by simp), fun c member => .inl (isBehind c member)⟩
  · rcases isExponent with rfl | ⟨sign, body, isExponent⟩
    · exact fun c member => (by cases member)
    · exact isExponent.floatChars

/-- Behind the sign comes a digit or the point. -/
theorem splitSign_body :
    splitSign (signed negative ++ (whole ++ (point ++ exponent)).map latin) =
      (negative, (whole ++ (point ++ exponent)).map latin) := by
  obtain ⟨-, digits, isPoint, -⟩ := isFloat
  cases negative with
  | true => rfl
  | false =>
      cases whole with
      | cons c rest =>
          have digit := isDigit_latin (digits c (List.mem_cons_self ..))
          exact splitSign_cons (ne_of_isDigit digit rfl) (ne_of_isDigit digit rfl) _
      | nil =>
          rcases isPoint with ⟨-, nonempty⟩ | ⟨behind, rfl, -, -⟩
          · exact absurd rfl nonempty
          · rfl

/-- Every floating point number can be read. -/
theorem readFloat_eq_ok : ∃ x, readFloat (String.ofList lexeme) = .ok x := by
  have chars := isFloat.floatChars
  have noUnderscore : '_' ∉ lexeme.map latin := by
    intro member
    obtain ⟨c, known, same⟩ := List.mem_map.mp member
    exact (chars c known).latin_ne_underscore same
  obtain ⟨magnitude, reads⟩ := readMagnitude_isSome isFloat
  rw [readFloat, numberChars_of_not_blank fun c member => (chars c member).not_blank,
    withoutUnderscores_of_not_mem noUnderscore (by decide)]
  simp only [isFloat.spelled, map_latin_signed, isFloat.splitSign_body, reads, Option.orElse_some]
  exact ⟨_, rfl⟩

end IsFloatOf

end Number

/-! ## Lexemes -/

open Number

variable {chars lexeme : List Char} {shape : Shape}

/-- The number of digits in a lexeme. -/
def digitCount (lexeme : List Char) : Nat :=
  lexeme.countP Text.isDecimalDigit

theorem digitCount_signed (negative : Bool) {whole : List Char} (digits : Digits whole) :
    digitCount (signed negative ++ whole) = whole.length := by
  have all : whole.countP Text.isDecimalDigit = whole.length := List.countP_eq_length.mpr digits
  rw [digitCount, List.countP_append, all]
  cases negative
  · exact Nat.zero_add _
  · exact Nat.zero_add _

/-- Only an integer with too many digits is refused. -/
theorem ofLexeme_eq_error {fault : Fault} (cut : lexeme? chars = some (shape, lexeme)) :
    Token.ofLexeme shape lexeme = .error fault ↔
      shape = .int ∧ Value.maxDigits < digitCount lexeme ∧ fault = .digitsRead (digitCount lexeme) := by
  cases shape with
  | word => simp [Token.ofLexeme]
  | text => simp [Token.ofLexeme]
  | mark sign => simp [Token.ofLexeme]
  | float =>
      obtain ⟨_, _, _, _, isFloat, -⟩ := float?_eq_some (lexeme?_cut cut)
      obtain ⟨x, reads⟩ := isFloat.readFloat_eq_ok
      have made : Token.ofLexeme .float lexeme = .ok (.float x) := by
        rw [Token.ofLexeme, reads]
        rfl
      simp [made]
  | int =>
      obtain ⟨negative, whole, rfl, nonempty, digits⟩ := int?_eq_some (lexeme?_cut cut)
      have reads := readInt_signed negative digits nonempty
      rw [digitCount_signed negative digits, Token.ofLexeme, reads]
      split
      · next long =>
          constructor
          · intro refused
            exact ⟨rfl, long, (Except.error.inj refused).symm⟩
          · rintro ⟨-, -, rfl⟩
            rfl
      · next short =>
          constructor
          · intro refused
            cases refused
          · exact fun refused => absurd refused.2.1 short

/-- A lexeme has a character at least. -/
theorem ne_nil_of_lexeme? (cut : lexeme? chars = some (shape, lexeme)) : lexeme ≠ [] := by
  have cut := lexeme?_cut cut
  cases shape with
  | word =>
      obtain ⟨c, rest, rfl, -⟩ := Shape.word?_eq_some cut
      simp
  | text =>
      cases chars with
      | nil => cases cut
      | cons c rest =>
          simp only [Shape.cut?, Shape.text?] at cut
          split at cut
          · split at cut
            · cases cut
              simp
            · cases cut
          · cases cut
  | float =>
      obtain ⟨negative, whole, point, exponent, ⟨rfl, -, isPoint, -⟩, -⟩ := float?_eq_some cut
      rcases isPoint with ⟨-, nonempty⟩ | ⟨behind, rfl, -, -⟩
      · simp [nonempty]
      · simp
  | int =>
      obtain ⟨negative, whole, rfl, nonempty, -⟩ := int?_eq_some cut
      simp [nonempty]
  | mark sign =>
      cases cut
      cases sign <;> simp [Mark.symbol]

theorem speakable_ofWord (word : String) : (Token.ofWord word).value.speakable = true := by
  unfold Token.ofWord
  split
  · rfl
  · split
    · rfl
    · split <;> rfl

theorem fewDigits_of_readInt {n : Int} (cut : Shape.int? chars = some lexeme)
    (reads : readInt (String.ofList lexeme) = .ok n) : Value.fewDigits n = true := by
  obtain ⟨negative, whole, rfl, nonempty, digits⟩ := int?_eq_some cut
  rw [readInt_signed negative digits nonempty] at reads
  split at reads
  · cases reads
  · next short =>
      have same : n.natAbs = digitsValue (whole.map latin) := by
        cases reads
        cases negative <;> simp
      rw [Value.fewDigits, same]
      apply digitsValue_lt_of_length_le (digits.numeral nonempty).digits
      rw [List.length_map]
      exact Nat.not_lt.mp short

/-- The value of every token can be shown. -/
theorem Token.Cut.speakable {token : Token} (cut : token.Cut) : token.value.speakable = true := by
  obtain ⟨chars, shape, lexeme, cut, made⟩ := cut
  cases shape with
  | word =>
      cases made
      exact speakable_ofWord _
  | text =>
      cases made
      simp [Token.value, Value.textLiteral, Value.record, Value.speakable, Value.speakableEntries]
  | mark sign =>
      cases made
      rfl
  | float =>
      rw [Token.ofLexeme] at made
      cases reads : readFloat (String.ofList lexeme) with
      | error fault =>
          rw [reads] at made
          cases made
      | ok x =>
          rw [reads] at made
          cases made
          rfl
  | int =>
      rw [Token.ofLexeme] at made
      cases reads : readInt (String.ofList lexeme) with
      | error fault =>
          rw [reads] at made
          cases made
      | ok n =>
          rw [reads] at made
          cases made
          exact fewDigits_of_readInt (lexeme?_cut cut) reads

end Stepwise
