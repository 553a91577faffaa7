import Stepwise.Program.Reading
import Stepwise.Proofs.Reading.Misplaced
import Stepwise.Proofs.Reading.Numerals

/-!
# What reading meets first

The parser asks for one token after the other.  It goes on as long as the lexer has a token for it and
the token fits.  So it meets one of four events: the text ends, a token is misplaced, no lexeme starts at
a character, or an integer has too many digits.

`Meets` says so step by step, while a whole text is read by cutting off all tokens before the first one
is parsed.  `Meets.ends` compares the two; that parsers read from left to right is what it rests on.
-/

namespace Stepwise.Reading

/-! ## Asking for a token -/

/-- What the lexer finds where it is asked for a token. -/
inductive Found where
  | nothing
  | illegal (position : Nat)
  | lexeme (position : Nat) (shape : Shape) (chars : List Char)

/-- What stands first behind the layout. -/
def findFrom (position : Nat) : List Char → Found
  | [] => .nothing
  | c :: rest =>
    if isLayout c then findFrom (position + 1) rest
    else
      match lexeme? (c :: rest) with
      | none => .illegal position
      | some (shape, lexeme) => .lexeme position shape lexeme

/-- What the lexer finds from a position of a text on. -/
def find (source : String) (position : Nat) : Found :=
  findFrom position (source.toList.drop position)

/-- The parser has taken tokens, all of which fit, and asks for a token at a position. -/
inductive Asks (source : String) : List Placed → Nat → Prop where
  | first : Asks source [] 0
  | next {tokens : List Placed} {position start : Nat} {shape : Shape} {lexeme : List Char}
      {token : Token} : Asks source tokens position → find source position = .lexeme start shape lexeme →
      Token.ofLexeme shape lexeme = .ok token → Fits (tokens ++ [⟨token, start⟩]) →
      Asks source (tokens ++ [⟨token, start⟩]) (start + lexeme.length)

/-- What ends the reading of a text. -/
inductive Event where
  /-- The text ends behind these tokens. -/
  | finished (tokens : List Placed)
  /-- A token does not fit behind those before it. -/
  | misplaced (placed : Placed)
  /-- No lexeme starts at a character that is asked for. -/
  | illegal (position : Nat)
  /-- An integer has too many digits. -/
  | tooLong (position digits : Nat)

/-- The event that reading a text meets first. -/
inductive Meets (source : String) : Event → Prop where
  | finished {tokens : List Placed} {position : Nat} : Asks source tokens position →
      find source position = .nothing → Meets source (.finished tokens)
  | misplaced {tokens : List Placed} {position start : Nat} {shape : Shape} {lexeme : List Char}
      {token : Token} : Asks source tokens position → find source position = .lexeme start shape lexeme →
      Token.ofLexeme shape lexeme = .ok token → ¬ Fits (tokens ++ [⟨token, start⟩]) →
      Meets source (.misplaced ⟨token, start⟩)
  | illegal {tokens : List Placed} {position start : Nat} : Asks source tokens position →
      find source position = .illegal start → Meets source (.illegal start)
  | tooLong {tokens : List Placed} {position start : Nat} {lexeme : List Char} :
      Asks source tokens position → find source position = .lexeme start .int lexeme →
      Value.maxDigits < digitCount lexeme → Meets source (.tooLong start (digitCount lexeme))

/-! ## Lexing all at once -/

variable {source : String} {tokens : List Placed} {position start : Nat} {shape : Shape}
  {lexeme : List Char} {token : Token}

/-- The tokens from a position on. -/
def lexAt (source : String) (position : Nat) : Lexed :=
  lexFrom 0 position (source.toList.drop position)

/-- What is left of a lexeme is passed over. -/
theorem lexFrom_drop (skip position : Nat) (chars : List Char) :
    lexFrom skip position chars = lexFrom 0 (position + skip) (chars.drop skip) := by
  induction chars generalizing skip position with
  | nil =>
      rw [List.drop_nil]
      rfl
  | cons c rest ih =>
      cases skip with
      | zero => rfl
      | succ skip =>
          rw [lexFrom, ih, List.drop_succ_cons]
          congr 1
          omega

/-- The tokens from what the lexer finds on. -/
def Found.lexed (source : String) : Found → Lexed
  | .nothing => ⟨[], .finished⟩
  | .illegal start => ⟨[], .illegal start (source.toList.drop start)⟩
  | .lexeme start shape lexeme =>
    match Token.ofLexeme shape lexeme with
    | .error fault => ⟨[], .refused start fault⟩
    | .ok token => (lexAt source (start + lexeme.length)).cons ⟨token, start⟩

theorem drop_succ_of_drop {source : String} {position : Nat} {c : Char} {rest : List Char}
    (there : source.toList.drop position = c :: rest) : source.toList.drop (position + 1) = rest := by
  rw [← List.tail_drop, there, List.tail_cons]

theorem lexeme?_of_find (found : find source position = .lexeme start shape lexeme) :
    lexeme? (source.toList.drop start) = some (shape, lexeme) := by
  rw [find] at found
  generalize there : source.toList.drop position = chars at found
  induction chars generalizing position with
  | nil => cases found
  | cons c rest ih =>
      rw [findFrom] at found
      split at found
      · exact ih (drop_succ_of_drop there) found
      · split at found
        · cases found
        · next cut =>
            cases found
            rw [there, cut]

/-- Lexing goes on with what the lexer finds. -/
theorem lexAt_eq_lexed (source : String) (position : Nat) :
    lexAt source position = (find source position).lexed source := by
  rw [lexAt, find]
  generalize there : source.toList.drop position = chars
  induction chars generalizing position with
  | nil => rfl
  | cons c rest ih =>
      have next := drop_succ_of_drop there
      cases layout : isLayout c with
      | true =>
          simp only [lexFrom, findFrom, layout, if_true]
          exact ih (position + 1) next
      | false =>
          simp only [lexFrom, findFrom, layout, Bool.false_eq_true, if_false]
          cases cut : lexeme? (c :: rest) with
          | none => simp only [Found.lexed, there]
          | some pair =>
              obtain ⟨shape, lexeme⟩ := pair
              simp only [Found.lexed]
              cases Token.ofLexeme shape lexeme with
              | error fault => rfl
              | ok token =>
                  have positive := List.length_pos_iff.mpr (ne_nil_of_lexeme? cut)
                  have behind : position + 1 + (lexeme.length - 1) = position + lexeme.length := by omega
                  dsimp only
                  rw [lexFrom_drop, lexAt, ← next, List.drop_drop, behind]

/-! ## The events -/

/-- Lexing behind tokens that were taken. -/
def behind (tokens : List Placed) (lexed : Lexed) : Lexed :=
  { lexed with tokens := tokens ++ lexed.tokens }

/-- The tokens that the parser has taken come first, and those from the position on follow. -/
theorem Asks.lex_eq (asks : Asks source tokens position) :
    Fits tokens ∧ lex source = behind tokens (lexAt source position) := by
  induction asks with
  | first => exact ⟨fits_nil, rfl⟩
  | @next tokens position start shape lexeme token _ found made fits ih =>
      refine ⟨fits, ?_⟩
      rw [ih.2, lexAt_eq_lexed, found, Found.lexed, made]
      simp [behind, Lexed.cons]

/-- The event by which the parsing of all tokens of a text ends. -/
def Event.Ends (lexed : Lexed) : Event → Prop
  | .finished tokens => lexed = ⟨tokens, .finished⟩ ∧ Fits tokens
  | .misplaced placed => ∃ after, parseTokens lexed.tokens = .error (placed :: after)
  | .illegal start => (∃ rest, lexed.ending = .illegal start rest) ∧ Fits lexed.tokens
  | .tooLong start digits => lexed.ending = .refused start (.digitsRead digits) ∧ Fits lexed.tokens

theorem Meets.ends {event : Event} (meets : Meets source event) : event.Ends (lex source) := by
  cases meets with
  | finished asks found =>
      obtain ⟨fits, same⟩ := asks.lex_eq
      rw [same, lexAt_eq_lexed, found]
      simpa [Event.Ends, behind, Found.lexed] using fits
  | @misplaced tokens position start shape lexeme token asks found made misplaced =>
      obtain ⟨fits, same⟩ := asks.lex_eq
      rw [same, lexAt_eq_lexed, found, Found.lexed, made]
      exact ⟨_, parseTokens_eq_misplaced.mpr ⟨tokens, rfl, fits, misplaced⟩⟩
  | illegal asks found =>
      obtain ⟨fits, same⟩ := asks.lex_eq
      rw [same, lexAt_eq_lexed, found]
      simpa [Event.Ends, behind, Found.lexed] using fits
  | tooLong asks found long =>
      obtain ⟨fits, same⟩ := asks.lex_eq
      have refused := (ofLexeme_eq_error (lexeme?_of_find found)).mpr ⟨rfl, long, rfl⟩
      rw [same, lexAt_eq_lexed, found, Found.lexed, refused]
      simpa [Event.Ends, behind] using fits

/-- The event that is told by the way lexing ends. -/
def endingEvent (tokens : List Placed) : Ending → Option Event
  | .finished => some (.finished tokens)
  | .illegal start _ => some (.illegal start)
  | .refused start (.digitsRead digits) => some (.tooLong start digits)
  | .refused _ _ => none

/-- The event by which parsing ends: a misplaced token, or the way lexing ends. -/
def lastEvent (lexed : Lexed) : Option Event :=
  match parseTokens lexed.tokens with
  | .error (placed :: _) => some (.misplaced placed)
  | _ => endingEvent lexed.tokens lexed.ending

theorem lastEvent_of_fits {lexed : Lexed} (fits : Fits lexed.tokens) :
    lastEvent lexed = endingEvent lexed.tokens lexed.ending := by
  rw [lastEvent]
  split
  · next placed after failed => exact absurd failed (fits placed after)
  · rfl

theorem Event.Ends.lastEvent_eq {lexed : Lexed} {event : Event} (ends : event.Ends lexed) :
    lastEvent lexed = some event := by
  cases event with
  | finished tokens =>
      obtain ⟨rfl, fits⟩ := ends
      exact lastEvent_of_fits fits
  | misplaced placed =>
      obtain ⟨after, failed⟩ := ends
      rw [lastEvent, failed]
  | illegal start =>
      obtain ⟨⟨rest, ending⟩, fits⟩ := ends
      rw [lastEvent_of_fits fits, ending]
      rfl
  | tooLong start digits =>
      obtain ⟨ending, fits⟩ := ends
      rw [lastEvent_of_fits fits, ending]
      rfl

/-- Reading meets one event only. -/
theorem Meets.unique {event other : Event} (meets : Meets source event)
    (meetsOther : Meets source other) : event = other :=
  Option.some.inj (meets.ends.lastEvent_eq.symm.trans meetsOther.ends.lastEvent_eq)

/-- Where the parser asks, it meets an event, or takes a token and asks again. -/
theorem Asks.meets_or_next (asks : Asks source tokens position) :
    (∃ event, Meets source event) ∨ ∃ placed resume, Asks source (tokens ++ [placed]) resume ∧
      lexAt source position = (lexAt source resume).cons placed := by
  cases found : find source position with
  | nothing => exact .inl ⟨_, .finished asks found⟩
  | illegal start => exact .inl ⟨_, .illegal asks found⟩
  | lexeme start shape lexeme =>
      cases made : Token.ofLexeme shape lexeme with
      | error fault =>
          obtain ⟨rfl, long, -⟩ := (ofLexeme_eq_error (lexeme?_of_find found)).mp made
          exact .inl ⟨_, .tooLong asks found long⟩
      | ok token =>
          by_cases fits : Fits (tokens ++ [⟨token, start⟩])
          · refine .inr ⟨_, _, asks.next found made fits, ?_⟩
            rw [lexAt_eq_lexed, found, Found.lexed, made]
          · exact .inl ⟨_, .misplaced asks found made fits⟩

/-- Reading meets an event: there are no more tokens to take than the text has. -/
theorem exists_meets (source : String) : ∃ event, Meets source event := by
  suffices later : ∀ (count position : Nat) (tokens : List Placed), Asks source tokens position →
      (lexAt source position).tokens.length = count → ∃ event, Meets source event from
    later _ 0 [] .first rfl
  intro count
  induction count with
  | zero =>
      intro position tokens asks none
      rcases asks.meets_or_next with meets | ⟨placed, resume, -, same⟩
      · exact meets
      · rw [same] at none
        cases none
  | succ count ih =>
      intro position tokens asks some
      rcases asks.meets_or_next with meets | ⟨placed, resume, asksNext, same⟩
      · exact meets
      · rw [same] at some
        exact ih resume _ asksNext (Nat.succ.inj some)

/-- The way parsing ends tells the event. -/
theorem meets_of_ends {event : Event} (ends : event.Ends (lex source)) : Meets source event := by
  obtain ⟨other, meets⟩ := exists_meets source
  have same : other = event := Option.some.inj (meets.ends.lastEvent_eq.symm.trans ends.lastEvent_eq)
  exact same ▸ meets

end Stepwise.Reading
