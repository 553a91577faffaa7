import Stepwise.Proofs.Reading.Numerals

/-!
# The rules for lexemes

`Shape.Matches` says what the lexemes of each shape look like, as a property of the lexeme alone.  The
shapes have an order.  The lexeme that a text begins with is the `Foremost` one: no shape before its own
matches a beginning of the text, and its own shape matches no longer one.

The lexer computes exactly this choice (`lexeme?_eq_some_iff`, `lexeme?_eq_none_iff`).  It looks at most
one run of characters ahead that are not layout, so the choice stays the same when the text behind the
lexeme is cut short or spread out (`lexeme?_append`).
-/

namespace Stepwise

open Number

variable {chars lexeme other rest after : List Char} {shape : Shape}

namespace Shape

/-- What the lexemes of a shape look like. -/
inductive Matches : Shape → List Char → Prop where
  | word {c : Char} {rest : List Char} : startsWord c = true →
      (∀ d ∈ rest, continuesWord d = true) → Matches .word (c :: rest)
  | text {quote : Char} {content : List Char} : quote = '"' ∨ quote = '\'' → quote ∉ content →
      Matches .text (quote :: (content ++ [quote]))
  | float {lexeme whole point exponent : List Char} {negative : Bool} :
      IsFloatOf lexeme negative whole point exponent → point ≠ [] ∨ exponent ≠ [] →
      Matches .float lexeme
  | int {whole : List Char} (negative : Bool) : whole ≠ [] → Digits whole →
      Matches .int (signed negative ++ whole)
  | mark (sign : Mark) : Matches (.mark sign) sign.symbol.toList

/-- The place of a shape in the order in which shapes are tried. -/
def place : Shape → Nat
  | .word => 0
  | .text => 1
  | .float => 2
  | .int => 3
  | .mark sign => if sign.symbol.length = 2 then 4 else 5

/-! ## Words and quoted texts -/

theorem matches_of_word? (cut : word? chars = some lexeme) :
    lexeme <+: chars ∧ Matches .word lexeme := by
  cases chars with
  | nil => cases cut
  | cons c rest =>
      rw [word?] at cut
      split at cut
      · next starts =>
          cases cut
          exact ⟨(List.prefix_cons_inj c).mpr (List.takeWhile_prefix _),
            .word starts fun d => List.mem_takeWhile_imp⟩
      · cases cut

theorem word?_of_matches (isWord : Matches .word lexeme) (after : List Char) :
    ∃ longer, word? (lexeme ++ after) = some longer ∧ lexeme.length ≤ longer.length := by
  cases isWord with
  | @word c rest starts continues =>
      refine ⟨c :: (rest ++ after).takeWhile continuesWord, if_pos starts, ?_⟩
      rw [List.takeWhile_append_of_pos continues]
      simp

theorem matches_of_text? (cut : text? chars = some lexeme) :
    lexeme <+: chars ∧ Matches .text lexeme := by
  cases chars with
  | nil => cases cut
  | cons c rest =>
      simp only [text?] at cut
      split at cut
      case isFalse => cases cut
      case isTrue isQuote =>
      split at cut
      case isFalse => cases cut
      case isTrue shorter =>
      cases cut
      have absent : c ∉ rest.takeWhile (· != c) := by
        intro member
        simpa using List.mem_takeWhile_imp member
      refine ⟨(List.prefix_cons_inj c).mpr ?_, .text (by simpa using isQuote) absent⟩
      -- What stops the content is the quote.
      cases behind : rest.dropWhile (· != c) with
      | nil =>
          have all := List.takeWhile_append_dropWhile (p := (· != c)) (l := rest)
          rw [behind, List.append_nil] at all
          rw [all] at shorter
          exact absurd shorter (Nat.lt_irrefl _)
      | cons d more =>
          have stops : (d != c) = false := by
            have head := List.head?_dropWhile_not (· != c) rest
            rw [behind] at head
            simpa using head
          obtain rfl : d = c := by simpa using stops
          have all := List.takeWhile_append_dropWhile (p := (· != d)) (l := rest)
          refine ⟨more, ?_⟩
          rw [behind] at all
          rw [List.append_assoc, List.singleton_append, all]

/-- A quoted text ends at the first quote of its kind, whatever follows. -/
theorem text?_of_matches (isText : Matches .text lexeme) (after : List Char) :
    text? (lexeme ++ after) = some lexeme := by
  cases isText with
  | @text quote content isQuote absent =>
      have inside : (content ++ quote :: after).takeWhile (· != quote) = content := by
        apply takeWhile_append_stop
        · intro c member
          simp only [bne_iff_ne, ne_eq]
          rintro rfl
          exact absent member
        · rintro c ⟨⟩
          simp
      have isQuote : (quote == '"' || quote == '\'') = true := by simpa using isQuote
      simp [text?, isQuote, inside]

/-! ## Numbers -/

theorem minus_append_drop (chars : List Char) :
    minus chars ++ chars.drop (minus chars).length = chars := by
  cases chars with
  | nil => rfl
  | cons c rest =>
      by_cases isMinus : c = '-'
      · subst isMinus
        rfl
      · simp [minus, isMinus]

theorem digits_append_drop (chars : List Char) :
    digits chars ++ chars.drop (digits chars).length = chars :=
  List.prefix_iff_eq_append.mp (List.takeWhile_prefix _)

theorem digits_append_of_digits (isDigits : Digits lexeme) (after : List Char) :
    digits (lexeme ++ after) = lexeme ++ digits after :=
  List.takeWhile_append_of_pos isDigits

theorem digits_of_head {c : Char} (other : Text.isDecimalDigit c = false) (rest : List Char) :
    digits (c :: rest) = [] :=
  List.takeWhile_cons_of_neg (by simp [other])

/-- A minus is the sign if none follows. -/
theorem minus_signed (negative : Bool) (single : ∀ c ∈ chars.head?, c ≠ '-') :
    minus (signed negative ++ chars) = signed negative := by
  cases negative with
  | true => rfl
  | false =>
      cases chars with
      | nil => rfl
      | cons c rest => simp [minus, signed, single c rfl]

theorem head_ne_minus {whole : List Char} (isDigits : Digits whole) (nonempty : whole ≠ [])
    (after : List Char) : ∀ c ∈ (whole ++ after).head?, c ≠ '-' := by
  cases whole with
  | nil => exact absurd rfl nonempty
  | cons d more =>
      rintro c ⟨⟩ rfl
      exact absurd (isDigits '-' (List.mem_cons_self ..)) (by decide)

theorem matches_of_int? (cut : int? chars = some lexeme) :
    lexeme <+: chars ∧ Matches .int lexeme := by
  constructor
  · simp only [int?] at cut
    split at cut
    · cases cut
    · cases cut
      refine ⟨(chars.drop (minus chars).length).drop
        (digits (chars.drop (minus chars).length)).length, ?_⟩
      rw [List.append_assoc, digits_append_drop, minus_append_drop]
  · obtain ⟨negative, whole, rfl, some, isDigits⟩ := int?_eq_some cut
    exact .int negative some isDigits

theorem int?_of_matches (isInt : Matches .int lexeme) (after : List Char) :
    ∃ longer, int? (lexeme ++ after) = some longer ∧ lexeme.length ≤ longer.length := by
  cases isInt with
  | @int whole negative nonempty isDigits =>
      have sign := minus_signed negative (head_ne_minus isDigits nonempty after)
      rw [List.append_assoc]
      refine ⟨signed negative ++ (whole ++ digits after), ?_, by simp⟩
      simp [int?, sign, digits_append_of_digits isDigits, nonempty]

theorem starts_of_exponent? (cut : exponent? chars = some lexeme) : lexeme <+: chars := by
  cases chars with
  | nil => cases cut
  | cons c rest =>
      have sign : (rest.take 1).filter (fun s => s == '+' || s == '-') <+: rest := by
        cases rest with
        | nil => exact List.nil_prefix
        | cons d more =>
            cases isSign : d == '+' || d == '-' <;> simp [isSign]
      rw [exponent?] at cut
      dsimp only at cut
      generalize (rest.take 1).filter (fun s => s == '+' || s == '-') = sign at cut sign
      obtain ⟨more, rfl⟩ := sign
      split at cut
      case isFalse => cases cut
      case isTrue letter =>
      split at cut
      case isTrue => cases cut
      case isFalse =>
      cases cut
      rw [List.drop_left]
      exact ⟨more.drop (digits more).length, by simp [digits_append_drop]⟩

theorem exponent?_of_isExponent {sign body : List Char} (isExponent : IsExponentOf lexeme sign body)
    (after : List Char) :
    ∃ longer, exponent? (lexeme ++ after) = some longer ∧ lexeme.length ≤ longer.length := by
  obtain ⟨spelled, isSign, nonempty, isDigits⟩ := isExponent
  have taken : ((sign ++ (body ++ after)).take 1).filter (fun s => s == '+' || s == '-') = sign := by
    rcases isSign with rfl | rfl | rfl
    · cases body with
      | nil => exact absurd rfl nonempty
      | cons d more =>
          have noPlus : d ≠ '+' := by
            rintro rfl
            exact absurd (isDigits '+' (List.mem_cons_self ..)) (by decide)
          have noMinus : d ≠ '-' := by
            rintro rfl
            exact absurd (isDigits '-' (List.mem_cons_self ..)) (by decide)
          simp [noPlus, noMinus]
    · rfl
    · rfl
  have cut : ∀ c, c = 'e' ∨ c = 'E' → exponent? (c :: (sign ++ (body ++ after))) =
      some (c :: (sign ++ (body ++ digits after))) := by
    intro c letter
    have letter : (c == 'e' || c == 'E') = true := by simpa using letter
    simp [exponent?, letter, taken, digits_append_of_digits isDigits, nonempty]
  rcases spelled with rfl | rfl
  · exact ⟨_, by simpa using cut 'e' (.inl rfl), by simp⟩
  · exact ⟨_, by simpa using cut 'E' (.inr rfl), by simp⟩

theorem fraction_eq_nil_or (chars : List Char) :
    fraction chars = [] ∨ ∃ after, chars = '.' :: after ∧ fraction chars = digits after := by
  unfold fraction
  split
  · next after => exact .inr ⟨after, rfl, rfl⟩
  · exact .inl rfl

theorem starts_of_float? (cut : float? chars = some lexeme) : lexeme <+: chars := by
  have parts : chars = minus chars ++ (digits (chars.drop (minus chars).length) ++
      chars.drop ((minus chars).length + (digits (chars.drop (minus chars).length)).length)) := by
    rw [← List.drop_drop, digits_append_drop, minus_append_drop]
  simp only [float?] at cut
  generalize chars.drop ((minus chars).length +
    (digits (chars.drop (minus chars).length)).length) = rest at cut parts
  rw [parts]
  generalize minus chars = sign, digits (chars.drop (minus chars).length) = whole at cut
  split at cut
  · split at cut
    · cases cut
    · obtain ⟨exponent, cutExponent, rfl⟩ := Option.map_eq_some_iff.mp cut
      obtain ⟨more, rfl⟩ := starts_of_exponent? cutExponent
      exact ⟨more, by simp⟩
  · next some =>
      cases cut
      rcases fraction_eq_nil_or rest with none | ⟨after, rfl, isFraction⟩
      · exact absurd (by simp [none]) some
      · rw [isFraction, List.drop_succ_cons]
        have behind := digits_append_drop after
        generalize after.drop (digits after).length = more at behind
        cases cutExponent : exponent? more with
        | none => exact ⟨more, by simp [behind]⟩
        | some exponent =>
            obtain ⟨last, rfl⟩ := starts_of_exponent? cutExponent
            exact ⟨last, by simp [behind]⟩

theorem matches_of_float? (cut : float? chars = some lexeme) :
    lexeme <+: chars ∧ Matches .float lexeme := by
  obtain ⟨_, _, _, _, isFloat, marked⟩ := float?_eq_some cut
  exact ⟨starts_of_float? cut, .float isFloat marked⟩

/-- The whole part of a number ends in front of its point or exponent, and behind its sign starts a
digit or the point. -/
theorem float?_of_parts (negative : Bool) {whole : List Char} (isDigits : Digits whole) {c : Char}
    (ends : c = '.' ∨ c = 'e' ∨ c = 'E') (more : List Char) :
    float? (signed negative ++ (whole ++ c :: more)) =
      if (fraction (c :: more)).isEmpty then
        if whole.isEmpty then none
        else (exponent? (c :: more)).map fun exponent => signed negative ++ whole ++ exponent
      else
        some (signed negative ++ whole ++ '.' :: fraction (c :: more) ++
          (exponent? ((c :: more).drop ((fraction (c :: more)).length + 1))).getD []) := by
  have noDigit : Text.isDecimalDigit c = false := by
    rcases ends with rfl | rfl | rfl <;> decide
  have single : ∀ d ∈ (whole ++ c :: more).head?, d ≠ '-' := by
    cases whole with
    | nil =>
        rintro d ⟨⟩ rfl
        simp at ends
    | cons d digits => exact head_ne_minus isDigits (List.cons_ne_nil _ _) _
  have sign := minus_signed negative single
  have isWhole : digits (whole ++ c :: more) = whole := by
    rw [digits_append_of_digits isDigits, digits_of_head noDigit, List.append_nil]
  simp only [float?, sign, List.drop_left, isWhole, ← List.drop_drop]

theorem float?_of_matches (isFloat : Matches .float lexeme) (after : List Char) :
    ∃ longer, float? (lexeme ++ after) = some longer ∧ lexeme.length ≤ longer.length := by
  cases isFloat with
  | @float _ whole point exponent negative isFloat marked =>
      obtain ⟨rfl, isDigits, isPoint, isExponent⟩ := isFloat
      simp only [List.append_assoc]
      rcases isPoint with ⟨rfl, nonempty⟩ | ⟨behind, rfl, nonempty, isBehind⟩
      · -- no point: the exponent is what makes it a floating point number
        rcases isExponent with rfl | ⟨sign, body, isExponent⟩
        · simp at marked
        · obtain ⟨longer, cut, long⟩ := exponent?_of_isExponent isExponent after
          obtain ⟨c, more, rfl, letter⟩ := isExponent.starts
          have noFraction : fraction (c :: (more ++ after)) = [] := by
            rcases letter with rfl | rfl <;> rfl
          refine ⟨signed negative ++ whole ++ longer, ?_, by simpa using long⟩
          rw [List.nil_append, List.cons_append, float?_of_parts negative isDigits (.inr letter),
            noFraction]
          rw [List.cons_append] at cut
          simp [nonempty, cut]
      · have isFraction : fraction ('.' :: (behind ++ (exponent ++ after))) =
            behind ++ digits (exponent ++ after) := digits_append_of_digits isBehind _
        rw [List.cons_append, float?_of_parts negative isDigits (.inl rfl), isFraction,
          if_neg (by simp [nonempty])]
        rcases isExponent with rfl | ⟨sign, body, isExponent⟩
        · exact ⟨_, rfl, by simp⟩
        · obtain ⟨longer, cut, long⟩ := exponent?_of_isExponent isExponent after
          obtain ⟨c, more, rfl, letter⟩ := isExponent.starts
          have noDigit : Text.isDecimalDigit c = false := by
            rcases letter with rfl | rfl <;> decide
          rw [List.cons_append, digits_of_head noDigit, List.append_nil, List.drop_succ_cons,
            List.drop_left]
          rw [List.cons_append] at cut
          refine ⟨_, rfl, ?_⟩
          simp only [cut, Option.getD_some, List.length_append, List.length_cons] at long ⊢
          omega

/-! ## Marks -/

theorem starts_of_doubleMark? {sign : Mark} (cut : doubleMark? chars = some sign) :
    sign.symbol.toList <+: chars ∧ sign.symbol.length = 2 := by
  unfold doubleMark? at cut
  split at cut <;> cases cut <;> exact ⟨⟨_, rfl⟩, rfl⟩

theorem starts_of_singleMark? {sign : Mark} (cut : singleMark? chars = some sign) :
    sign.symbol.toList <+: chars := by
  unfold singleMark? at cut
  split at cut <;> cases cut <;> exact ⟨_, rfl⟩

theorem starts_of_mark? {sign : Mark} (cut : mark? chars = some sign) :
    sign.symbol.toList <+: chars := by
  cases double : doubleMark? chars with
  | none =>
      rw [mark?, double] at cut
      exact starts_of_singleMark? cut
  | some found =>
      rw [mark?, double] at cut
      cases cut
      exact (starts_of_doubleMark? double).1

/-- A mark is found as itself unless it is the beginning of a mark of two characters. -/
theorem mark?_of_symbol (sign : Mark) (after : List Char) :
    ∃ found, mark? (sign.symbol.toList ++ after) = some found ∧
      (found = sign ∨ place (.mark found) < place (.mark sign)) := by
  by_cases double : sign.symbol.length = 2
  · refine ⟨sign, ?_, .inl rfl⟩
    cases sign with
    | equal | greaterEqual | lessEqual | notEqual => rfl
    | _ => cases double
  · have single : singleMark? (sign.symbol.toList ++ after) = some sign := by
      cases sign with
      | equal | greaterEqual | lessEqual | notEqual => exact absurd rfl double
      | _ => rfl
    cases cut : doubleMark? (sign.symbol.toList ++ after) with
    | none => exact ⟨sign, by rw [mark?, cut]; exact single, .inl rfl⟩
    | some found =>
        refine ⟨found, by rw [mark?, cut]; rfl, .inr ?_⟩
        have isDouble := (starts_of_doubleMark? cut).2
        rw [place, place, if_pos isDouble, if_neg double]
        exact Nat.lt_succ_self 4

end Shape

/-! ## The choice -/

/-- The lexeme that `chars` begin with: no shape in front of its own matches a beginning of `chars`,
and its own matches no longer one. -/
structure Foremost (chars : List Char) (shape : Shape) (lexeme : List Char) : Prop where
  starts : lexeme <+: chars
  fits : shape.Matches lexeme
  first : ∀ {other : Shape} {beginning : List Char}, beginning <+: chars → other.Matches beginning →
    shape.place < other.place ∨ shape = other ∧ beginning.length ≤ lexeme.length

/-- Only one lexeme is foremost. -/
theorem Foremost.unique {otherShape : Shape} (foremost : Foremost chars shape lexeme)
    (foremostOther : Foremost chars otherShape other) : shape = otherShape ∧ lexeme = other := by
  rcases foremost.first foremostOther.starts foremostOther.fits with before | ⟨rfl, short⟩
  · rcases foremostOther.first foremost.starts foremost.fits with after | ⟨rfl, -⟩
    · exact absurd before (Nat.lt_asymm after)
    · exact absurd before (Nat.lt_irrefl _)
  · rcases foremostOther.first foremost.starts foremost.fits with after | ⟨-, long⟩
    · exact absurd after (Nat.lt_irrefl _)
    · have within := List.prefix_of_prefix_length_le foremost.starts foremostOther.starts long
      exact ⟨rfl, within.eq_of_length_le short⟩

theorem Shape.place_mark (sign : Mark) : 3 < (Shape.mark sign).place := by
  rw [place]
  split <;> decide

theorem matches_of_lexeme? (cut : lexeme? chars = some (shape, lexeme)) :
    lexeme <+: chars ∧ shape.Matches lexeme := by
  unfold lexeme? at cut
  split at cut
  · next found =>
      cases cut
      exact Shape.matches_of_word? found
  · split at cut
    · next found =>
        cases cut
        exact Shape.matches_of_text? found
    · split at cut
      · next found =>
          cases cut
          exact Shape.matches_of_float? found
      · split at cut
        · next found =>
            cases cut
            exact Shape.matches_of_int? found
        · obtain ⟨sign, found, same⟩ := Option.map_eq_some_iff.mp cut
          cases same
          exact ⟨Shape.starts_of_mark? found, .mark sign⟩

/-- If a shape matches a beginning, then the lexer takes a lexeme of a shape before it, or a lexeme of
this shape that is as long at least. -/
theorem lexeme?_of_matches {wanted : Shape} (fits : wanted.Matches lexeme) (after : List Char) :
    ∃ shape taken, lexeme? (lexeme ++ after) = some (shape, taken) ∧
      (shape.place < wanted.place ∨ shape = wanted ∧ lexeme.length ≤ taken.length) := by
  unfold lexeme?
  cases wanted with
  | word =>
      obtain ⟨longer, cut, long⟩ := Shape.word?_of_matches fits after
      rw [cut]
      exact ⟨.word, longer, rfl, .inr ⟨rfl, long⟩⟩
  | text =>
      split
      · exact ⟨.word, _, rfl, .inl (by decide)⟩
      · rw [Shape.text?_of_matches fits after]
        exact ⟨.text, lexeme, rfl, .inr ⟨rfl, Nat.le_refl _⟩⟩
  | float =>
      obtain ⟨longer, cut, long⟩ := Shape.float?_of_matches fits after
      split
      · exact ⟨.word, _, rfl, .inl (by decide)⟩
      · split
        · exact ⟨.text, _, rfl, .inl (by decide)⟩
        · rw [cut]
          exact ⟨.float, longer, rfl, .inr ⟨rfl, long⟩⟩
  | int =>
      obtain ⟨longer, cut, long⟩ := Shape.int?_of_matches fits after
      split
      · exact ⟨.word, _, rfl, .inl (by decide)⟩
      · split
        · exact ⟨.text, _, rfl, .inl (by decide)⟩
        · split
          · exact ⟨.float, _, rfl, .inl (by decide)⟩
          · rw [cut]
            exact ⟨.int, longer, rfl, .inr ⟨rfl, long⟩⟩
  | mark sign =>
      cases fits
      have last := Shape.place_mark sign
      obtain ⟨found, cut, own⟩ := Shape.mark?_of_symbol sign after
      split
      · exact ⟨.word, _, rfl, .inl (Nat.lt_trans (by decide) last)⟩
      · split
        · exact ⟨.text, _, rfl, .inl (Nat.lt_trans (by decide) last)⟩
        · split
          · exact ⟨.float, _, rfl, .inl (Nat.lt_trans (by decide) last)⟩
          · split
            · exact ⟨.int, _, rfl, .inl last⟩
            · rw [cut]
              refine ⟨.mark found, found.symbol.toList, rfl, ?_⟩
              rcases own with rfl | before
              · exact .inr ⟨rfl, Nat.le_refl _⟩
              · exact .inl before

/-- The lexer takes exactly the lexeme that the rules choose. -/
theorem lexeme?_eq_some_iff : lexeme? chars = some (shape, lexeme) ↔ Foremost chars shape lexeme := by
  have sound {shape : Shape} {lexeme : List Char} (cut : lexeme? chars = some (shape, lexeme)) :
      Foremost chars shape lexeme := by
    obtain ⟨starts, fits⟩ := matches_of_lexeme? cut
    refine ⟨starts, fits, ?_⟩
    rintro other beginning ⟨after, rfl⟩ fitsOther
    obtain ⟨_, _, same, own⟩ := lexeme?_of_matches fitsOther after
    rw [cut] at same
    cases same
    exact own
  refine ⟨sound, fun foremost => ?_⟩
  obtain ⟨after, same⟩ := foremost.starts
  obtain ⟨_, _, cut, -⟩ := lexeme?_of_matches foremost.fits after
  rw [same] at cut
  obtain ⟨rfl, rfl⟩ := (sound cut).unique foremost
  exact cut

/-- The lexer finds nothing exactly if no shape matches a beginning. -/
theorem lexeme?_eq_none_iff :
    lexeme? chars = none ↔
      ∀ (shape : Shape) (beginning : List Char), beginning <+: chars → ¬ shape.Matches beginning := by
  constructor
  · rintro none shape beginning ⟨after, rfl⟩ fits
    obtain ⟨_, _, cut, -⟩ := lexeme?_of_matches fits after
    rw [none] at cut
    cases cut
  · intro nothing
    cases cut : lexeme? chars with
    | none => rfl
    | some found =>
        obtain ⟨starts, fits⟩ := matches_of_lexeme? cut
        exact absurd fits (nothing _ _ starts)

/-! ## Behind the lexeme -/

theorem isLayout_eq_true {c : Char} (layout : isLayout c = true) : c = ' ' ∨ c = '\t' ∨ c = '\n' := by
  simpa [isLayout, or_assoc] using layout

namespace Shape.Matches

theorem nonempty (fits : shape.Matches lexeme) : lexeme ≠ [] := by
  obtain ⟨_, _, cut, -⟩ := lexeme?_of_matches fits []
  rintro rfl
  cases cut

/-- Only a quoted text has layout in it. -/
theorem not_layout (fits : shape.Matches lexeme) (other : shape ≠ .text) :
    ∀ c ∈ lexeme, isLayout c = false := by
  intro c member
  rw [← Bool.not_eq_true]
  intro layout
  have layout := isLayout_eq_true layout
  cases fits with
  | @word first rest starts continues =>
      rcases List.mem_cons.mp member with rfl | member
      · rcases layout with rfl | rfl | rfl <;> cases starts
      · have continues := continues c member
        rcases layout with rfl | rfl | rfl <;> cases continues
  | text => exact absurd rfl other
  | float isFloat marked =>
      rcases isFloat.floatChars c member with digit | sign
      · rcases layout with rfl | rfl | rfl <;> cases digit
      · rcases layout with rfl | rfl | rfl <;> simp at sign
  | @int whole negative some isDigits =>
      rcases List.mem_append.mp member with member | member
      · cases negative with
        | true =>
            obtain rfl := List.mem_singleton.mp member
            simp at layout
        | false => cases member
      · have digit := isDigits c member
        rcases layout with rfl | rfl | rfl <;> cases digit
  | mark sign =>
      rcases layout with rfl | rfl | rfl <;> cases sign <;> simp [Mark.symbol] at member

/-- Only a quoted text starts with a quote. -/
theorem eq_text {quote : Char} {rest : List Char} (fits : shape.Matches (quote :: rest))
    (isQuote : quote = '"' ∨ quote = '\'') : shape = .text := by
  cases shape with
  | text => rfl
  | word =>
      cases fits with
      | word starts => rcases isQuote with rfl | rfl <;> cases starts
  | float =>
      cases fits with
      | float isFloat =>
          rcases isFloat.floatChars quote (List.mem_cons_self ..) with digit | sign
          · rcases isQuote with rfl | rfl <;> cases digit
          · rcases isQuote with rfl | rfl <;> simp at sign
  | int =>
      obtain ⟨longer, cut, -⟩ := int?_of_matches fits []
      rcases isQuote with rfl | rfl <;> cases cut
  | mark sign =>
      have symbol : sign.symbol.toList = quote :: rest := by
        generalize same : quote :: rest = chars at fits
        cases fits
        rfl
      rcases isQuote with rfl | rfl <;> cases sign <;> cases symbol

end Shape.Matches

/-- A lexeme is taken as well if something else follows it, provided that the characters up to the next
layout are the same or fewer. -/
theorem lexeme?_append (cut : lexeme? (lexeme ++ rest) = some (shape, lexeme))
    (near : after.takeWhile (fun c => !isLayout c) <+: rest) :
    lexeme? (lexeme ++ after) = some (shape, lexeme) := by
  have foremost := lexeme?_eq_some_iff.mp cut
  refine lexeme?_eq_some_iff.mpr ⟨List.prefix_append .., foremost.fits, ?_⟩
  intro other beginning starts fits
  by_cases isText : other = .text
  · -- then the lexeme starts with a quote, and is the quoted text itself
    subst isText
    cases fits with
    | @text quote content isQuote absent =>
        obtain ⟨c, more, rfl⟩ := List.exists_cons_of_ne_nil foremost.fits.nonempty
        obtain ⟨rfl, -⟩ := List.cons_prefix_cons.mp starts
        obtain rfl := foremost.fits.eq_text isQuote
        obtain ⟨last, same⟩ := starts
        have own := Shape.text?_of_matches foremost.fits after
        have found := Shape.text?_of_matches (.text isQuote absent) last
        rw [same, own] at found
        exact .inr ⟨rfl, Nat.le_of_eq (congrArg List.length (Option.some.inj found)).symm⟩
  · refine foremost.first ?_ fits
    rcases List.prefix_or_prefix_of_prefix starts (List.prefix_append ..) with short | ⟨more, rfl⟩
    · exact short.trans (List.prefix_append ..)
    · have plain : ∀ c ∈ more, (!isLayout c) = true := by
        intro c member
        rw [fits.not_layout isText c (List.mem_append_right _ member), Bool.not_false]
      obtain ⟨last, rfl⟩ := (List.prefix_append_right_inj _).mp starts
      rw [List.takeWhile_append_of_pos plain] at near
      exact (List.prefix_append_right_inj _).mpr ((List.prefix_append ..).trans near)

end Stepwise
