import Mathlib.Data.List.TakeWhile
import Stepwise.Token.Lexer

/-!
# What lexing gives

Every token of a program text is made of a lexeme that was cut off somewhere.
-/

namespace Stepwise

/-- A token that is made of a lexeme somewhere. -/
def Token.Cut (token : Token) : Prop :=
  ∃ chars shape lexeme, lexeme? chars = some (shape, lexeme) ∧
    Token.ofLexeme shape lexeme = .ok token

theorem lexFrom_cut (skip position : Nat) (chars : List Char) :
    ∀ placed ∈ (lexFrom skip position chars).tokens, placed.token.Cut := by
  induction chars generalizing skip position with
  | nil => exact nofun
  | cons c rest ih =>
      cases skip with
      | succ skip => exact ih skip (position + 1)
      | zero =>
          rw [lexFrom]
          split
          · exact ih 0 (position + 1)
          · split
            · exact nofun
            · next shape lexeme cut =>
                split
                · exact nofun
                · next token made =>
                    intro placed member
                    rcases List.mem_cons.mp member with rfl | member
                    · exact ⟨_, shape, lexeme, cut, made⟩
                    · exact ih _ _ placed member

theorem lex_cut (source : String) : ∀ placed ∈ (lex source).tokens, placed.token.Cut :=
  lexFrom_cut 0 0 source.toList

/-- The lexeme of a shape that `chars` starts with. -/
def Shape.cut? (chars : List Char) : Shape → Option (List Char)
  | .word => word? chars
  | .text => text? chars
  | .float => float? chars
  | .int => int? chars
  | .mark sign => some sign.symbol.toList

theorem lexeme?_cut {chars lexeme : List Char} {shape : Shape}
    (cut : lexeme? chars = some (shape, lexeme)) : shape.cut? chars = some lexeme := by
  unfold lexeme? at cut
  split at cut
  · cases cut
    assumption
  · split at cut
    · cases cut
      assumption
    · split at cut
      · cases cut
        assumption
      · split at cut
        · cases cut
          assumption
        · obtain ⟨sign, -, same⟩ := Option.map_eq_some_iff.mp cut
          cases same
          rfl

/-- A word starts as words do and goes on as they do. -/
theorem Shape.word?_eq_some {chars lexeme : List Char} (read : word? chars = some lexeme) :
    ∃ c rest, lexeme = c :: List.takeWhile continuesWord rest ∧ startsWord c = true := by
  cases chars with
  | nil => cases read
  | cons c rest =>
      rw [word?] at read
      split at read
      · next starts =>
          cases read
          exact ⟨c, rest, rfl, starts⟩
      · cases read

/-- A word is a word by itself. -/
theorem Shape.word?_word? {chars lexeme : List Char} (read : word? chars = some lexeme) :
    word? lexeme = some lexeme := by
  obtain ⟨c, rest, rfl, starts⟩ := word?_eq_some read
  rw [word?, if_pos starts, List.takeWhile_idem]

theorem Token.ofWord_eq_name {word name : String} (made : Token.ofWord word = .name name) :
    word = name := by
  unfold Token.ofWord at made
  split at made
  · cases made
  · split at made
    · cases made
    · split at made
      · cases made
      · cases made
        rfl

/-- A token that is a name was cut off as a word. -/
theorem Token.Cut.name_word {name : String} (cut : (Token.name name).Cut) :
    ∃ chars, Shape.word? chars = some name.toList ∧ Token.ofWord name = .name name := by
  obtain ⟨chars, shape, lexeme, cut, made⟩ := cut
  cases shape with
  | word =>
      have made := Except.ok.inj made
      have same := Token.ofWord_eq_name made
      subst same
      refine ⟨chars, ?_, made⟩
      rw [String.toList_ofList]
      exact lexeme?_cut cut
  | text => cases made
  | float =>
      rw [Token.ofLexeme] at made
      cases read : Number.readFloat (String.ofList lexeme) with
      | error fault => simp [read, Except.map] at made
      | ok x => simp [read, Except.map] at made
  | int =>
      rw [Token.ofLexeme] at made
      cases read : Number.readInt (String.ofList lexeme) with
      | error fault => simp [read, Except.map] at made
      | ok n => simp [read, Except.map] at made
  | mark sign => cases made

theorem Token.Cut.name_starts {name : String} (cut : (Token.name name).Cut) :
    ∃ c rest, name = String.ofList (c :: rest) ∧ Shape.startsWord c = true := by
  obtain ⟨chars, read, -⟩ := cut.name_word
  obtain ⟨c, rest, same, starts⟩ := Shape.word?_eq_some read
  refine ⟨c, List.takeWhile Shape.continuesWord rest, ?_, starts⟩
  rw [← same, String.ofList_toList]

end Stepwise
