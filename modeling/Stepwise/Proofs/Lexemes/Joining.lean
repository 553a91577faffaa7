import Stepwise.Proofs.Lexemes.Scanning
import Stepwise.Proofs.Places

/-!
# Texts that are cut and joined

`LexesTo` says which tokens a text has, wherever they stand.  A text can be cut in front of a token, and
layout at its ends can be left out.

Two texts cannot always be joined, since the last lexeme of the first may go on in the second.  If the
second text begins like an operator, only two lexemes can go on: a number, if the letter of an exponent
stands between it and the sign, and a mark that makes a mark of two characters with an equals sign.
-/

namespace Stepwise

open Number

variable {lexeme chars left right rest blank : List Char} {shape : Shape} {token : Token}
  {tokens others : List Token} {position : Nat} {lexed : Lexed} {c : Char}

/-- The tokens of a text in which every character belongs to a lexeme or is layout. -/
inductive LexesTo : List Char → List Token → Prop where
  | nil : LexesTo [] []
  | layout {c : Char} {rest : List Char} {tokens : List Token} : isLayout c = true →
      LexesTo rest tokens → LexesTo (c :: rest) tokens
  | lexeme {shape : Shape} {lexeme rest : List Char} {token : Token} {tokens : List Token} :
      Foremost (lexeme ++ rest) shape lexeme → shape.Gives lexeme token → LexesTo rest tokens →
      LexesTo (lexeme ++ rest) (token :: tokens)

/-! ## Tokens without their places -/

theorem Scans.lexesTo (scans : Scans position chars lexed) (finished : lexed.ending = .finished) :
    LexesTo chars (lexed.tokens.map Placed.token) := by
  induction scans with
  | finished => exact .nil
  | layout layout _ ih => exact .layout layout (ih finished)
  | illegal => cases finished
  | refused => cases finished
  | lexeme foremost gives _ ih => exact .lexeme foremost gives (ih finished)

theorem LexesTo.scans (lexes : LexesTo chars tokens) (position : Nat) :
    ∃ placed, Scans position chars ⟨placed, .finished⟩ ∧ placed.map Placed.token = tokens := by
  induction lexes generalizing position with
  | nil => exact ⟨[], .finished position, rfl⟩
  | layout layout _ ih =>
      obtain ⟨placed, scans, same⟩ := ih (position + 1)
      exact ⟨placed, .layout layout scans, same⟩
  | @lexeme shape lexeme rest token tokens foremost gives _ ih =>
      obtain ⟨placed, scans, same⟩ := ih (position + lexeme.length)
      refine ⟨⟨token, position⟩ :: placed, .lexeme foremost gives scans, ?_⟩
      rw [List.map_cons, same]

theorem lex_of_lexesTo {source : String} (lexes : LexesTo source.toList tokens) :
    (lex source).ending = .finished ∧ (lex source).tokens.map Placed.token = tokens := by
  obtain ⟨placed, scans, same⟩ := lexes.scans 0
  rw [lex, scans_iff.mp scans]
  exact ⟨rfl, same⟩

/-! ## Cutting -/

theorem Scans.le_position (scans : Scans position chars lexed) :
    ∀ placed ∈ lexed.tokens, position ≤ placed.position := by
  induction scans with
  | finished => exact fun _ member => by cases member
  | layout _ _ ih => exact fun placed member => Nat.le_of_succ_le (ih placed member)
  | illegal => exact fun _ member => by cases member
  | refused => exact fun _ member => by cases member
  | lexeme _ _ _ ih =>
      refine List.forall_mem_cons.mpr ⟨Nat.le_refl _, fun placed member => ?_⟩
      exact Nat.le_trans (Nat.le_add_right ..) (ih placed member)

/-- A lexeme stays foremost if the text behind it is cut off. -/
theorem Foremost.of_append (foremost : Foremost (lexeme ++ (rest ++ right)) shape lexeme) :
    Foremost (lexeme ++ rest) shape lexeme := by
  have near : rest.takeWhile (fun c => !isLayout c) <+: rest ++ right :=
    (List.takeWhile_prefix _).trans (List.prefix_append ..)
  exact lexeme?_eq_some_iff.mp (lexeme?_append (lexeme?_eq_some_iff.mpr foremost) near)

/-- A text can be cut in front of a token. -/
theorem Scans.cut {front back : List Placed} {placed : Placed} (scans : Scans position chars lexed)
    (finished : lexed.ending = .finished) (there : chars = left ++ right)
    (found : lexed.tokens = front ++ placed :: back)
    (place : placed.position = position + left.length) :
    LexesTo left (front.map Placed.token) ∧ LexesTo right ((placed :: back).map Placed.token) := by
  induction scans generalizing left front with
  | finished => simp at found
  | illegal => cases finished
  | refused => cases finished
  | @layout position c rest lexed layout scansRest ih =>
      cases left with
      | nil =>
          have later := scansRest.le_position placed (by rw [found]; simp)
          rw [place, List.length_nil] at later
          omega
      | cons d left =>
          obtain ⟨rfl, thereRest⟩ := List.cons.inj there
          have place : placed.position = position + 1 + left.length := by
            rw [place, List.length_cons]
            omega
          obtain ⟨lexes, lexesRight⟩ := ih finished thereRest found place
          exact ⟨.layout layout lexes, lexesRight⟩
  | @lexeme position shape lexeme rest token lexed foremost gives scansRest ih =>
      cases front with
      | nil =>
          obtain ⟨rfl, rfl⟩ := List.cons.inj found
          obtain rfl : left = [] := List.length_eq_zero_iff.mp (by simpa using place)
          obtain rfl : lexeme ++ rest = right := there
          exact ⟨.nil, .lexeme foremost gives (scansRest.lexesTo finished)⟩
      | cons first front =>
          obtain ⟨rfl, foundRest⟩ := List.cons.inj found
          have foundRest : lexed.tokens = front ++ placed :: back := foundRest
          have later := scansRest.le_position placed (by rw [foundRest]; simp)
          -- the lexeme ends before the token, so it is within the left part
          obtain ⟨more, rfl⟩ : lexeme <+: left := by
            refine List.prefix_of_prefix_length_le (List.prefix_append lexeme rest) ?_ (by omega)
            exact there ▸ List.prefix_append ..
          rw [List.append_assoc] at there
          obtain rfl := List.append_cancel_left there
          have place : placed.position = position + lexeme.length + more.length := by
            rw [place, List.length_append]
            omega
          obtain ⟨lexes, lexesRight⟩ := ih finished rfl foundRest place
          exact ⟨.lexeme foremost.of_append gives lexes, lexesRight⟩

namespace LexesTo

/-- The tokens of a text whose first character is no layout. -/
theorem exists_foremost (lexes : LexesTo (c :: rest) tokens) (plain : isLayout c = false) :
    ∃ shape lexeme more token others, c :: rest = lexeme ++ more ∧ tokens = token :: others ∧
      Foremost (c :: rest) shape lexeme ∧ shape.Gives lexeme token ∧ LexesTo more others := by
  generalize there : c :: rest = chars at lexes
  cases lexes with
  | nil => cases there
  | layout layout =>
      obtain ⟨rfl, -⟩ := List.cons.inj there
      rw [layout] at plain
      cases plain
  | lexeme foremost gives lexesRest =>
      exact ⟨_, _, _, _, _, rfl, rfl, foremost, gives, lexesRest⟩

/-- Layout in front of a text does not matter. -/
theorem of_append_left (lexes : LexesTo (blank ++ rest) tokens)
    (layout : ∀ c ∈ blank, isLayout c = true) : LexesTo rest tokens := by
  induction blank with
  | nil => exact lexes
  | cons c blank ih =>
      obtain ⟨isLayout, others⟩ := List.forall_mem_cons.mp layout
      refine ih ?_ others
      generalize there : c :: blank ++ rest = chars at lexes
      cases lexes with
      | nil => cases there
      | layout _ lexes =>
          obtain ⟨-, rfl⟩ := List.cons.inj there
          exact lexes
      | lexeme foremost =>
          obtain ⟨d, more, rfl, plain⟩ := foremost.fits.starts
          obtain ⟨rfl, -⟩ := List.cons.inj there
          rw [isLayout] at plain
          cases plain

end LexesTo

/-- A lexeme does not end with layout. -/
theorem Shape.Matches.ends (fits : shape.Matches (chars ++ [c])) : isLayout c = false := by
  by_cases isText : shape = .text
  · subst isText
    generalize same : chars ++ [c] = lexeme at fits
    cases fits with
    | @text quote content isQuote =>
        rw [← List.cons_append] at same
        obtain ⟨-, same⟩ := List.append_inj' same rfl
        obtain rfl := List.singleton_inj.mp same
        rcases isQuote with rfl | rfl <;> rfl
  · exact fits.not_layout isText c (List.mem_append_right _ List.mem_cons_self)

/-- Layout behind a text does not matter. -/
theorem LexesTo.of_append_right (lexes : LexesTo (chars ++ blank) tokens)
    (layout : ∀ c ∈ blank, isLayout c = true) : LexesTo chars tokens := by
  generalize there : chars ++ blank = all at lexes
  induction lexes generalizing chars with
  | nil =>
      obtain ⟨rfl, -⟩ := List.append_eq_nil_iff.mp there
      exact .nil
  | @layout c rest tokens isLayout lexes ih =>
      cases chars with
      | cons d chars =>
          obtain ⟨rfl, thereRest⟩ := List.cons.inj there
          exact .layout isLayout (ih thereRest)
      | nil =>
          have there : blank = c :: rest := there
          rw [there] at layout
          rw [← List.append_nil rest] at lexes
          have none := lexes.of_append_left fun d member => layout d (List.mem_cons_of_mem _ member)
          exact none
  | @lexeme shape lexeme rest token tokens foremost gives lexes ih =>
      have within : lexeme <+: chars := by
        rcases List.append_eq_append_iff.mp there with ⟨more, same, behind⟩ | ⟨more, rfl, -⟩
        · rcases List.eq_nil_or_concat more with rfl | ⟨middle, last, rfl⟩
          · rw [List.append_nil] at same
            exact same ▸ List.prefix_refl _
          · have fits := foremost.fits
            rw [same, List.concat_eq_append, ← List.append_assoc] at fits
            have isLayout := layout last (by rw [behind]; simp)
            rw [fits.ends] at isLayout
            cases isLayout
        · exact List.prefix_append ..
      obtain ⟨more, rfl⟩ := within
      rw [List.append_assoc] at there
      obtain rfl := List.append_cancel_left there
      exact .lexeme foremost.of_append gives (ih rfl)

/-! ## Joining -/

/-- The characters that operators begin with. -/
def operatorChars : List Char :=
  ['+', '-', '*', '/', '=', '!', '<', '>']

theorem of_mem_operatorChars (operator : c ∈ operatorChars) :
    Shape.continuesWord c = false ∧ Text.isDecimalDigit c = false ∧ c ≠ '.' ∧ c ≠ 'e' ∧ c ≠ 'E' := by
  simp only [operatorChars, List.mem_cons, List.not_mem_nil, or_false] at operator
  rcases operator with rfl | rfl | rfl | rfl | rfl | rfl | rfl | rfl <;> decide

namespace Shape

theorem toNat_of_startsWord (starts : startsWord c = true) : 65 ≤ c.toNat ∧ c.toNat ≤ 122 := by
  have starts : (decide ('A'.val ≤ c.val ∧ c.val ≤ 'Z'.val) ||
      decide ('a'.val ≤ c.val) && decide (c.val ≤ 'z'.val) || c == '_') = true := starts
  simp only [Bool.or_eq_true, Bool.and_eq_true, decide_eq_true_eq, beq_iff_eq, UInt32.le_iff_toNat_le,
    Char.toNat_val] at starts
  rcases starts with (⟨low, high⟩ | ⟨low, high⟩) | rfl
  · exact ⟨low, Nat.le_trans high (by decide)⟩
  · exact ⟨Nat.le_trans (by decide) low, high⟩
  · decide

/-- No word begins with a digit of any script. -/
theorem not_startsWord_of_digit (digit : Text.isDecimalDigit c = true) : startsWord c = false := by
  obtain ⟨first, member, ⟨low, high⟩, -⟩ := exists_first_of_isDecimalDigit digit
  have apart : ∀ first ∈ Text.decimalZeros, first + 10 ≤ 65 ∨ 122 < first := by decide
  have apart := apart first member
  rw [← Bool.not_eq_true]
  intro starts
  have bounds := toNat_of_startsWord starts
  omega

/-- Neither a word nor a quoted text begins like a number. -/
theorem word?_text?_of_number (starts : c = '-' ∨ Text.isDecimalDigit c = true ∨ c = '.')
    (rest : List Char) : word? (c :: rest) = none ∧ text? (c :: rest) = none := by
  have noQuote : (c == '"' || c == '\'') = false := by
    rcases starts with rfl | digit | rfl
    · rfl
    · rw [← Bool.not_eq_true]
      intro quote
      simp only [Bool.or_eq_true, beq_iff_eq] at quote
      rcases quote with rfl | rfl <;> cases digit
    · rfl
  have noWord : startsWord c = false := by
    rcases starts with rfl | digit | rfl
    · rfl
    · exact not_startsWord_of_digit digit
    · rfl
  constructor
  · rw [word?, noWord]
    rfl
  · rw [text?, noQuote]
    rfl

theorem word?_text?_of_parts (negative : Bool) {whole point : List Char} (digits : Digits whole)
    (isPoint : (point = [] ∧ whole ≠ []) ∨
      ∃ behind, point = '.' :: behind ∧ behind ≠ [] ∧ Digits behind) (rest : List Char) :
    word? (signed negative ++ (whole ++ point) ++ rest) = none ∧
      text? (signed negative ++ (whole ++ point) ++ rest) = none := by
  cases negative with
  | true => exact word?_text?_of_number (.inl rfl) _
  | false =>
      cases whole with
      | cons d whole => exact word?_text?_of_number (.inr (.inl (digits d List.mem_cons_self))) _
      | nil =>
          rcases isPoint with ⟨-, nonempty⟩ | ⟨behind, rfl, -⟩
          · exact absurd rfl nonempty
          · exact word?_text?_of_number (.inr (.inr rfl)) _

end Shape

/-- A number ends in front of the letter of an exponent if nothing follows the letter. -/
theorem exists_foremost_letter (negative : Bool) {whole point : List Char} (digits : Digits whole)
    (isPoint : (point = [] ∧ whole ≠ []) ∨
      ∃ behind, point = '.' :: behind ∧ behind ≠ [] ∧ Digits behind)
    {letter : Char} (isLetter : letter = 'e' ∨ letter = 'E') :
    ∃ shape, (shape = .float ∨ shape = .int) ∧
      Foremost (signed negative ++ (whole ++ point) ++ [letter]) shape
        (signed negative ++ (whole ++ point)) := by
  have noExponent : Shape.exponent? [letter] = none := by rcases isLetter with rfl | rfl <;> rfl
  have noDigit : Shape.digits [letter] = [] := by rcases isLetter with rfl | rfl <;> rfl
  obtain ⟨noWord, noText⟩ := Shape.word?_text?_of_parts negative digits isPoint [letter]
  rcases isPoint with ⟨rfl, nonempty⟩ | ⟨behind, rfl, nonempty, isBehind⟩
  · have noFraction : Shape.fraction [letter] = [] := by rcases isLetter with rfl | rfl <;> rfl
    have noFloat : Shape.float? (signed negative ++ (whole ++ [letter])) = none := by
      rw [Shape.float?_of_parts negative digits (.inr isLetter), noFraction, noExponent]
      simp
    have sign := Shape.minus_signed negative (Shape.head_ne_minus digits nonempty [letter])
    have cut : Shape.int? (signed negative ++ (whole ++ [letter])) =
        some (signed negative ++ whole) := by
      simp [Shape.int?, sign, Shape.digits_append_of_digits digits, noDigit, nonempty]
    refine ⟨.int, .inr rfl, lexeme?_eq_some_iff.mp ?_⟩
    rw [List.append_nil, List.append_assoc] at noWord noText ⊢
    simp only [lexeme?, noWord, noText, noFloat, cut]
  · have isFraction : Shape.fraction ('.' :: (behind ++ [letter])) = behind := by
      have found : Shape.fraction ('.' :: (behind ++ [letter])) =
          Shape.digits (behind ++ [letter]) := rfl
      rw [found, Shape.digits_append_of_digits isBehind, noDigit, List.append_nil]
    have cut : Shape.float? (signed negative ++ (whole ++ '.' :: (behind ++ [letter]))) =
        some (signed negative ++ (whole ++ '.' :: behind)) := by
      rw [Shape.float?_of_parts negative digits (.inl rfl), isFraction, if_neg (by simpa using nonempty),
        List.drop_succ_cons, List.drop_left, noExponent]
      simp
    refine ⟨.float, .inl rfl, lexeme?_eq_some_iff.mp ?_⟩
    rw [List.append_assoc, List.append_assoc, List.cons_append] at noWord noText ⊢
    simp only [lexeme?, noWord, noText, cut]

/-- The only character of an operator in an exponent is its sign. -/
theorem Number.IsExponentOf.letter {sign body : List Char}
    (isExponent : IsExponentOf (left ++ c :: right) sign body) (operator : c ∈ operatorChars) :
    ∃ letter, (letter = 'e' ∨ letter = 'E') ∧ left = [letter] := by
  obtain ⟨-, noDigit, -, noSmall, noLarge⟩ := of_mem_operatorChars operator
  obtain ⟨spelled, isSign, -, digits⟩ := isExponent
  have notInBody : ∀ more, body ≠ more ++ c :: right := by
    rintro more rfl
    rw [digits c (by simp)] at noDigit
    cases noDigit
  have letter : ∃ letter, (letter = 'e' ∨ letter = 'E') ∧
      left ++ c :: right = letter :: (sign ++ body) := by
    rcases spelled with spelled | spelled
    · exact ⟨'e', .inl rfl, spelled⟩
    · exact ⟨'E', .inr rfl, spelled⟩
  obtain ⟨letter, isLetter, spelled⟩ := letter
  refine ⟨letter, isLetter, ?_⟩
  cases left with
  | nil =>
      obtain ⟨rfl, -⟩ := List.cons.inj spelled
      rcases isLetter with rfl | rfl
      · exact absurd rfl noSmall
      · exact absurd rfl noLarge
  | cons d left =>
      obtain ⟨rfl, behind⟩ := List.cons.inj spelled
      have behind : left ++ c :: right = sign ++ body := behind
      cases left with
      | nil => rfl
      | cons first left =>
          rcases isSign with rfl | rfl | rfl
          · exact absurd behind.symm (notInBody _)
          · exact absurd (List.cons.inj behind).2.symm (notInBody _)
          · exact absurd (List.cons.inj behind).2.symm (notInBody _)

/-- A floating point number that goes on with the character of an operator has it as the sign of its
exponent. -/
theorem exists_number_of_float (fits : Shape.Matches .float (left ++ c :: right))
    (operator : c ∈ operatorChars) (nonempty : left ≠ []) :
    ∃ shape number letter, left = number ++ [letter] ∧ (letter = 'e' ∨ letter = 'E') ∧
      (shape = .float ∨ shape = .int) ∧ Foremost left shape number := by
  obtain ⟨-, noDigit, noPoint, -⟩ := of_mem_operatorChars operator
  generalize same : left ++ c :: right = lexeme at fits
  cases fits with
  | @float _ whole point exponent negative isFloat marked =>
      obtain ⟨spelled, digits, isPoint, isExponent⟩ := isFloat
      have notBefore : c ∉ whole ++ point := by
        intro member
        rcases List.mem_append.mp member with member | member
        · rw [digits c member] at noDigit
          cases noDigit
        · rcases isPoint with ⟨rfl, -⟩ | ⟨behind, rfl, -, isBehind⟩
          · cases member
          · rcases List.mem_cons.mp member with rfl | member
            · exact noPoint rfl
            · rw [isBehind c member] at noDigit
              cases noDigit
      have inExponent : ∃ more, left = signed negative ++ (whole ++ point) ++ more ∧
          exponent = more ++ c :: right := by
        have parts : left ++ c :: right = signed negative ++ (whole ++ point) ++ exponent := by
          rw [same, spelled, List.append_assoc, List.append_assoc]
        rcases List.append_eq_append_iff.mp parts with ⟨more, number, behind⟩ | inside
        · cases more with
          | nil => exact ⟨[], by rw [number]; simp, behind.symm⟩
          | cons d more =>
              obtain ⟨rfl, -⟩ := List.cons.inj behind
              -- behind the first character, the number has only digits and the point
              obtain ⟨first, left, rfl⟩ := List.exists_cons_of_ne_nil nonempty
              cases negative with
              | true =>
                  have number : whole ++ point = left ++ c :: more := (List.cons.inj number).2
                  exact absurd (by rw [number]; simp) notBefore
              | false =>
                  have number : whole ++ point = first :: left ++ c :: more := number
                  exact absurd (by rw [number]; simp) notBefore
        · exact inside
      obtain ⟨more, rfl, rfl⟩ := inExponent
      rcases isExponent with none | ⟨sign, body, isExponent⟩
      · simp at none
      · obtain ⟨letter, isLetter, rfl⟩ := isExponent.letter operator
        obtain ⟨shape, isNumber, foremost⟩ := exists_foremost_letter negative digits isPoint isLetter
        exact ⟨shape, _, letter, rfl, isLetter, isNumber, foremost⟩

/-- Only a quoted text goes on from a quote, and it ends at the next one. -/
theorem Foremost.eq_text {beginning : List Char} (foremost : Foremost chars shape lexeme)
    (starts : chars <+: beginning) (fits : Shape.Matches .text beginning) :
    shape = .text ∧ lexeme = beginning := by
  obtain ⟨after, rfl⟩ := foremost.starts.trans starts
  obtain ⟨first, more, rfl, -⟩ := foremost.fits.starts
  have isQuote : first = '"' ∨ first = '\'' := by
    generalize same : first :: more ++ after = beginning at fits
    cases fits with
    | text isQuote =>
        obtain ⟨rfl, -⟩ := List.cons.inj same
        exact isQuote
  obtain rfl := foremost.fits.eq_text isQuote
  have own := Shape.text?_of_matches foremost.fits after
  have found := Shape.text?_of_matches fits []
  rw [List.append_nil, own] at found
  exact ⟨rfl, Option.some.inj found⟩

/-- Behind its first character an integer has digits only. -/
theorem Shape.Matches.digits_of_int {first : Char} (fits : Shape.Matches .int (first :: rest)) :
    Digits rest := by
  generalize same : first :: rest = lexeme at fits
  cases fits with
  | @int whole negative nonempty digits =>
      cases negative with
      | true =>
          have same : first :: rest = '-' :: whole := same
          obtain ⟨-, rfl⟩ := List.cons.inj same
          exact digits
      | false =>
          have same : first :: rest = whole := same
          rw [← same] at digits
          exact fun c member => digits c (List.mem_cons_of_mem _ member)

/-- The second character of a mark is an equals sign. -/
theorem Mark.symbol_eq_cons {sign : Mark} {first : Char}
    (same : sign.symbol.toList = first :: (chars ++ c :: rest)) :
    chars = [] ∧ c = '=' ∧ (first = '=' ∨ first = '<' ∨ first = '>' ∨ first = '!') := by
  have only : ∀ {single : Char}, [single] = chars ++ c :: rest → chars = [] ∧ c = single := by
    intro single same
    cases chars with
    | nil =>
        obtain ⟨rfl, -⟩ := List.cons.inj same
        exact ⟨rfl, rfl⟩
    | cons d chars =>
        have none := (List.cons.inj same).2
        simp at none
  cases sign with
  | equal | lessEqual | greaterEqual | notEqual =>
      obtain ⟨rfl, behind⟩ := List.cons.inj same
      obtain ⟨rfl, rfl⟩ := only behind
      exact ⟨rfl, rfl, by decide⟩
  | _ =>
      have none := (List.cons.inj same).2
      simp at none

/-- If a text is the beginning of a longer mark, then it is a mark that an equals sign makes longer. -/
theorem Foremost.eq_mark {sign : Mark} (foremost : Foremost chars shape lexeme)
    (fits : Shape.Matches (.mark sign) (chars ++ c :: rest)) :
    c = '=' ∧ chars = lexeme ∧
      ∃ single : Mark, (single = .equals ∨ single = .less ∨ single = .greater) ∧ shape = .mark single := by
  obtain ⟨first, more, rfl⟩ : ∃ first more, chars = first :: more := by
    obtain ⟨first, more, rfl, -⟩ := foremost.fits.starts
    obtain ⟨behind, rfl⟩ := foremost.starts
    exact ⟨first, more ++ behind, rfl⟩
  have symbol : sign.symbol.toList = first :: (more ++ c :: rest) := by
    generalize same : first :: more ++ c :: rest = beginning at fits
    cases fits
    exact same.symm
  obtain ⟨rfl, rfl, begins⟩ := Mark.symbol_eq_cons symbol
  have cut := lexeme?_eq_some_iff.mpr foremost
  rcases begins with rfl | rfl | rfl | rfl
  · cases cut
    exact ⟨rfl, rfl, .equals, .inl rfl, rfl⟩
  · cases cut
    exact ⟨rfl, rfl, .less, .inr (.inl rfl), rfl⟩
  · cases cut
    exact ⟨rfl, rfl, .greater, .inr (.inr rfl), rfl⟩
  · cases cut

/-- The lexeme that a text begins with stays the same if an operator follows the text, unless it is a
number with the letter of an exponent behind it, or a mark that an equals sign makes longer. -/
theorem Foremost.append (foremost : Foremost chars shape lexeme) (operator : c ∈ operatorChars)
    (noExponent : shape = .float ∨ shape = .int →
      ∀ letter, letter = 'e' ∨ letter = 'E' → chars ≠ lexeme ++ [letter])
    (noDouble : c = '=' → ∀ sign : Mark, sign = .equals ∨ sign = .less ∨ sign = .greater →
      shape = .mark sign → chars ≠ lexeme) : Foremost (chars ++ c :: rest) shape lexeme := by
  have nonempty : chars ≠ [] := by
    rintro rfl
    exact foremost.fits.nonempty (List.prefix_nil.mp foremost.starts)
  refine ⟨foremost.starts.trans (List.prefix_append ..), foremost.fits, ?_⟩
  intro other beginning starts fits
  -- a beginning within `chars` is known
  rcases List.prefix_or_prefix_of_prefix starts (List.prefix_append chars _) with short | ⟨more, rfl⟩
  · exact foremost.first short fits
  have starts := (List.prefix_append_right_inj _).mp starts
  cases more with
  | nil =>
      rw [List.append_nil] at fits ⊢
      exact foremost.first (List.prefix_refl _) fits
  | cons d more =>
      obtain ⟨rfl, -⟩ := List.cons_prefix_cons.mp starts
      obtain ⟨noWord, noDigit, -⟩ := of_mem_operatorChars operator
      obtain ⟨first, chars, rfl⟩ := List.exists_cons_of_ne_nil nonempty
      cases other with
      | word =>
          cases fits with
          | word _ continues =>
              rw [continues d (by simp)] at noWord
              cases noWord
      | text =>
          obtain ⟨rfl, same⟩ := foremost.eq_text (List.prefix_append _ (d :: more)) fits
          exact .inr ⟨rfl, Nat.le_of_eq (congrArg List.length same.symm)⟩
      | float =>
          obtain ⟨_, number, letter, same, isLetter, isNumber, foremostNumber⟩ :=
            exists_number_of_float fits operator (List.cons_ne_nil _ _)
          obtain ⟨rfl, rfl⟩ := foremost.unique foremostNumber
          exact absurd same (noExponent isNumber letter isLetter)
      | int =>
          rw [fits.digits_of_int d (by simp)] at noDigit
          cases noDigit
      | mark sign =>
          obtain ⟨equals, same, single, relation, isMark⟩ := foremost.eq_mark fits
          exact absurd same (noDouble equals single relation isMark)

/-- The last lexemes of a text with these tokens do not go on in a text that begins with the character
`c` of an operator: they are not a number and a name, which may be the letter of an exponent, nor, in
front of an equals sign, a mark that it makes longer. -/
structure Apart (tokens : List Token) (c : Char) : Prop where
  number : ∀ number : Token, number.isNumber = true → ∀ word, ¬ [number, .name word] <:+ tokens
  double : c = '=' → ∀ sign : Mark, sign = .equals ∨ sign = .less ∨ sign = .greater →
    ¬ [.mark sign] <:+ tokens

theorem Apart.of_cons (apart : Apart (token :: tokens) c) : Apart tokens c where
  number number isNumber word ends :=
    apart.number number isNumber word (ends.trans (List.suffix_cons ..))
  double equals sign relation ends :=
    apart.double equals sign relation (ends.trans (List.suffix_cons ..))

theorem Shape.Gives.isNumber (gives : shape.Gives lexeme token)
    (number : shape = .float ∨ shape = .int) : token.isNumber = true := by
  cases gives with
  | float | positive | negative => rfl
  | _ => simp at number

theorem LexesTo.of_nil (lexes : LexesTo [] tokens) : tokens = [] := by
  generalize same : [] = chars at lexes
  cases lexes with
  | nil => rfl
  | layout => cases same
  | lexeme foremost => exact absurd (List.append_eq_nil_iff.mp same.symm).1 foremost.fits.nonempty

theorem LexesTo.of_letter {letter : Char} (isLetter : letter = 'e' ∨ letter = 'E')
    (lexes : LexesTo [letter] tokens) : ∃ word, tokens = [.name word] := by
  have plain : isLayout letter = false := by rcases isLetter with rfl | rfl <;> rfl
  have cut : lexeme? [letter] = some (.word, [letter]) := by rcases isLetter with rfl | rfl <;> rfl
  obtain ⟨shape, lexeme, more, token, others, parts, rfl, foremost, gives, none⟩ :=
    lexes.exists_foremost plain
  obtain ⟨rfl, rfl⟩ := foremost.unique (lexeme?_eq_some_iff.mp cut)
  obtain rfl := List.append_right_eq_self.mp parts.symm
  obtain rfl := none.of_nil
  rw [← ofWord_of_gives gives]
  rcases isLetter with rfl | rfl
  · exact ⟨"e", rfl⟩
  · exact ⟨"E", rfl⟩

/-- Texts can be joined if the second one begins like an operator and the first one does not go on. -/
theorem LexesTo.append (lexes : LexesTo left tokens) (operator : c ∈ operatorChars)
    (apart : Apart tokens c) (lexesRight : LexesTo (c :: right) others) :
    LexesTo (left ++ c :: right) (tokens ++ others) := by
  induction lexes with
  | nil => exact lexesRight
  | layout layout _ ih => exact .layout layout (ih apart)
  | @lexeme shape lexeme rest token tokens foremost gives lexes ih =>
      have stays : Foremost (lexeme ++ rest ++ c :: right) shape lexeme := by
        refine foremost.append operator (fun isNumber letter isLetter same => ?_)
          (fun equals sign relation isMark same => ?_)
        · obtain rfl := List.append_cancel_left same
          obtain ⟨word, rfl⟩ := lexes.of_letter isLetter
          exact apart.number token (gives.isNumber isNumber) word (List.suffix_refl _)
        · obtain rfl := List.append_right_eq_self.mp same
          obtain rfl := lexes.of_nil
          subst isMark
          cases gives
          exact apart.double equals sign relation (List.suffix_refl _)
      rw [List.append_assoc] at stays ⊢
      exact .lexeme stays gives (ih apart.of_cons)

end Stepwise
