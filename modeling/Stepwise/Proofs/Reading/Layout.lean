import Stepwise.Proofs.Lexemes.Spreading
import Stepwise.Proofs.Reading.Outcome
import Stepwise.Report.Fields

/-!
# Reading does not depend on layout

Parsers look at tokens and not at their places, so tokens in other places are parsed to the same result,
or a token in the same position of the list is misplaced.  A text that is spread by layout outside its
lexemes therefore reads as the same program, or gives a report of the same kind with the same message.
-/

namespace Stepwise

/-! ## Tokens in other places -/

namespace Parse

variable {α β : Type} {move : Placed → Placed}

/-- A result about tokens that are moved. -/
def movedResult (move : Placed → Placed) :
    Except (List Placed) (α × List Placed) → Except (List Placed) (α × List Placed)
  | .ok (value, rest) => .ok (value, rest.map move)
  | .error rest => .error (rest.map move)

theorem bind_map {parse : Parse α} {next : α → Parse β} {tokens : List Placed}
    (first : parse (tokens.map move) = movedResult move (parse tokens))
    (second : ∀ value rest, next value (rest.map move) = movedResult move (next value rest)) :
    (parse >>= next) (tokens.map move) = movedResult move ((parse >>= next) tokens) := by
  rw [bind_apply, bind_apply, first]
  cases parse tokens with
  | error rest => rfl
  | ok pair => exact second pair.1 pair.2

/-- A parser gives the same result if the tokens are in other places. -/
theorem Made.map {parse : Parse α} (made : Made parse)
    (keeps : ∀ placed, (move placed).token = placed.token) (tokens : List Placed) :
    parse (tokens.map move) = movedResult move (parse tokens) := by
  induction made generalizing tokens with
  | pure value => rfl
  | stuck => rfl
  | follows test =>
      cases tokens with
      | nil => rfl
      | cons first rest => simp [Parse.follows, movedResult, keeps]
  | bind _ _ first second => exact bind_map (first tokens) second
  | @choose _ next other _ _ taken left =>
      cases tokens with
      | nil => exact left []
      | cons first rest =>
          rw [List.map_cons, choose_cons, choose_cons, keeps]
          cases known : next first.token with
          | none => exact left (first :: rest)
          | some parse => exact taken first.token parse known rest

end Parse

theorem parseTokens_map {move : Placed → Placed} (keeps : ∀ placed, (move placed).token = placed.token)
    (tokens : List Placed) :
    parseTokens (tokens.map move) =
      match parseTokens tokens with
      | .ok program => .ok program
      | .error rest => .error (rest.map move) := by
  have same := (Parse.program_made (Phrases.upTo_made tokens.length)).map keeps tokens
  rw [parseTokens, parseTokens, List.length_map, same]
  rcases Parse.program (Phrases.upTo tokens.length) tokens with rest | ⟨program, rest⟩
  · rfl
  · cases rest with
    | nil => rfl
    | cons first more => rfl

/-! ## Reports -/

/-- The kind of a report. -/
def Report.kind : Report → Report.Kind
  | .general .. => .general
  | .parsing .. => .parsing
  | .running .. => .running

namespace Reading

/-- Two texts read alike: as the same program, or with reports of the same kind and message. -/
inductive Alike : Except Stop Program → Except Stop Program → Prop where
  | program (program : Program) : Alike (.ok program) (.ok program)
  | report {report other : Report} : report.kind = other.kind → report.message = other.message →
      Alike (.error (.report report)) (.error (.report other))

variable {source other : String} {tokens : List Placed} {move : Placed → Placed}

/-- A misplaced token gives a report whose kind and message do not depend on its place. -/
theorem misplaced_report (short : Value.fewDigits source.length = true) {placed : Placed}
    (member : placed ∈ (lex source).tokens) :
    ∃ report, misplaced source placed = .report report ∧ report.kind = .parsing ∧
      report.message = .str ("Syntax error at " ++ placed.token.kindName ++ " token: '" ++
        placed.token.value.shown ++ "'") := by
  obtain ⟨report, _, made, stops, -⟩ := misplaced_eq short member
  rw [misplacedReport_of_speakable (lex_cut source placed member).speakable] at made
  cases made
  exact ⟨_, stops, rfl, rfl⟩

/-- The check of a program that was parsed does not look at its text. -/
theorem check_outcome_eq {program : Program} (tree : ProgramTree program.node) (source other : String) :
    (Check.program program.node (some source)).outcome =
      (Check.program program.node (some other)).outcome := by
  obtain ⟨someTask, someRun⟩ := tree.nonempty
  rw [Check.program_outcome someTask someRun, Check.program_outcome someTask someRun]

/-- Texts with the same tokens in other places read alike. -/
theorem alike_of_map (keeps : ∀ placed, (move placed).token = placed.token)
    (lexed : lex source = ⟨tokens, .finished⟩) (lexedOther : lex other = ⟨tokens.map move, .finished⟩)
    (short : Value.fewDigits source.length = true) (shortOther : Value.fewDigits other.length = true) :
    Alike (Program.read source).outcome (Program.read other).outcome := by
  have parsedOther := parseTokens_map keeps tokens
  cases parsed : parseTokens tokens with
  | ok program =>
      have named := lex_named source
      rw [lexed] at named
      have tree := ProgramTree.of_parseTokens named parsed
      have same : (Program.read source).outcome = (Program.read other).outcome := by
        simp only [Program.read, lexed, lexedOther, parsed, parsedOther, atEnd,
          check_outcome_eq tree source other]
      have fits : Fits tokens := by
        intro placed after failed
        rw [parsed] at failed
        cases failed
      have decided := decided_finished short lexed fits
      rw [← same]
      generalize (Program.read source).outcome = outcome at decided
      cases decided with
      | program => exact .program _
      | differing => exact .report rfl rfl
      | unfinished => exact .report rfl rfl
  | error rest =>
      rw [parsed] at parsedOther
      cases rest with
      | nil =>
          simp only [Program.read, lexed, lexedOther, parsed, parsedOther, atEnd, quiet, List.map_nil,
            (unfinishedReport_stop short).1, (unfinishedReport_stop shortOther).1]
          exact .report rfl rfl
      | cons placed after =>
          obtain ⟨before, rfl, -⟩ := parseTokens_eq_misplaced.mp parsed
          have member : placed ∈ (lex source).tokens := by
            rw [lexed]
            exact List.mem_append_right _ List.mem_cons_self
          have memberOther : move placed ∈ (lex other).tokens := by
            rw [lexedOther]
            exact List.mem_map_of_mem (List.mem_append_right _ List.mem_cons_self)
          obtain ⟨report, stops, kind, message⟩ := misplaced_report short member
          obtain ⟨reportOther, stopsOther, kindOther, messageOther⟩ :=
            misplaced_report shortOther memberOther
          simp only [Program.read, lexed, lexedOther, parsed, parsedOther, quiet, List.map_cons, stops,
            stopsOther]
          rw [keeps] at messageOther
          exact .report (kind.trans kindOther.symm) (message.trans messageOther.symm)

theorem length_le_spread (added : Nat → List Char) (source : String) :
    source.length ≤ (spread added source).length := by
  have grows : ∀ (chars : List Char) (place : Nat),
      chars.length ≤ (spreadFrom added place chars).length := by
    intro chars
    induction chars with
    | nil => exact fun _ => Nat.zero_le _
    | cons c rest ih =>
        intro place
        have more := ih (place + 1)
        simp only [spreadFrom, List.length_append, List.length_cons]
        omega
  rw [spread, String.length_ofList, ← String.length_toList]
  exact grows source.toList 0

/-- Layout that is added outside the lexemes of a text moves its tokens and changes nothing else: the
text reads as the same program, or fails with a report of the same kind and with the same message.

As for every report on a place in a text, the numbers of its lines must not be too long to be shown. -/
theorem read_spread (source : String) (added : Nat → List Char)
    (finished : (lex source).ending = .finished)
    (layout : ∀ i, ∀ c ∈ added i, isLayout c = true)
    (outside : ∀ placed ∈ (lex source).tokens, ∀ i, placed.position < i → i < placed.stop source →
      added i = []) :
    lex (spread added source) = ⟨(lex source).tokens.map (Placed.spread added), .finished⟩ ∧
      (Value.fewDigits (spread added source).length = true →
        Alike (Program.read source).outcome (Program.read (spread added source)).outcome) := by
  have spreads := lex_spread_eq finished layout outside
  refine ⟨spreads, fun short => ?_⟩
  have lexed : lex source = ⟨(lex source).tokens, .finished⟩ := by rw [← finished]
  have within : (source.length : Int) ≤ (spread added source).length :=
    Int.ofNat_le.mpr (length_le_spread added source)
  have keeps : ∀ placed : Placed, (placed.spread added).token = placed.token := fun _ => rfl
  exact alike_of_map keeps lexed spreads
    (fewDigits_of_le short (Int.natCast_nonneg _) within) short

/-- Layout between a word and a quote, and between a sign and a number, with none there before. -/
theorem read_spread_adjacent :
    let source := "objective\"o\"task\"t\":step\"s\":x=-1 run\"t\""
    let added := fun i => if i = 9 then ['\n', ' '] else if i = 30 then ['\t'] else []
    spread added source = "objective\n \"o\"task\"t\":step\"s\":x=\t-1 run\"t\"" ∧
      (lex source).ending = .finished ∧ (∀ i, ∀ c ∈ added i, isLayout c = true) ∧
      (∀ placed ∈ (lex source).tokens, ∀ i, placed.position < i → i < placed.stop source →
        added i = []) ∧
      Value.fewDigits (spread added source).length = true ∧
      Alike (Program.read source).outcome (Program.read (spread added source)).outcome := by
  intro source added
  have finished : (lex source).ending = .finished := by decide +kernel
  have layout : ∀ i, ∀ c ∈ added i, isLayout c = true := by
    intro i c member
    simp only [added] at member
    split at member
    · rcases List.mem_pair.mp member with rfl | rfl <;> rfl
    · split at member
      · rw [List.mem_singleton.mp member]
        rfl
      · cases member
  have apart : ∀ placed ∈ (lex source).tokens,
      (9 ≤ placed.position ∨ placed.stop source ≤ 9) ∧
        (30 ≤ placed.position ∨ placed.stop source ≤ 30) := by decide +kernel
  have outside : ∀ placed ∈ (lex source).tokens, ∀ i, placed.position < i → i < placed.stop source →
      added i = [] := by
    intro placed member i low high
    have apart := apart placed member
    simp only [added]
    rw [if_neg (by omega), if_neg (by omega)]
  have short : Value.fewDigits (spread added source).length = true := by decide +kernel
  exact ⟨by decide +kernel, finished, layout, outside, short,
    (read_spread source added finished layout outside).2 short⟩

end Reading

end Stepwise
