import Stepwise.Proofs.Checking
import Stepwise.Proofs.Reading.Events
import Stepwise.Proofs.Reports
import Stepwise.Proofs.Shape.Parsed

/-!
# How reading ends

The event that reading a text meets first decides how it ends.  A text that ends behind a whole program
gives the program, or a report on a run if the names of its tasks and of the tasks it runs differ.  A
misplaced token and a text that ends too early give syntax errors, an integer with too many digits gives
the report on a fault, and a character where no lexeme starts lets a fault escape.
-/

namespace Stepwise

/-! ## Snippets -/

namespace Source

theorem length_splitAtMark (mark : Char) (chars : List Char) :
    (Text.splitAtMark mark chars).length = chars.count mark + 1 := by
  induction chars with
  | nil => rfl
  | cons c rest ih =>
      rw [Text.splitAtMark]
      split
      · next same => simp [same, ih]
      · next differs =>
          rw [List.count_cons_of_ne differs, ← ih]
          cases pieces : Text.splitAtMark mark rest with
          | nil =>
              rw [pieces] at ih
              cases ih
          | cons piece others => rfl

theorem before_natCast (source : String) (position : Nat) :
    before source position = source.toList.take position := by
  have nonneg : ¬ (position : Int) < 0 := Int.not_lt.mpr (Int.natCast_nonneg _)
  simp [before, nonneg]

theorem lineNumber_le_length_lines (source : String) (position : Int) :
    lineNumber source position ≤ (Text.lines source).length := by
  rw [Text.lines, Text.splitAt, List.length_map, length_splitAtMark, lineNumber]
  exact Nat.succ_le_succ (List.Sublist.count_le '\n' (List.take_sublist _ _))

theorem snippetLine_ne_empty (marked : Bool) (number : Nat) (text : String) :
    snippetLine marked number text ≠ "" := by
  cases marked <;> simp [snippetLine]

/-- The snippet around a line of the text shows this line at least. -/
theorem snippet_ne_empty {source : String} {line : Nat} (positive : 0 < line)
    (within : line ≤ (Text.lines source).length) : snippet source line snippetWindow ≠ "" := by
  simp only [snippet, snippetWindow]
  generalize numbered : (((Text.lines source).zipIdx 1).take _).drop _ = shown
  cases shown with
  | nil =>
      have none := congrArg List.length numbered
      simp only [List.length_drop, List.length_take, List.length_zipIdx, List.length_nil] at none
      omega
  | cons first others =>
      rw [List.map_cons]
      exact Report.intercalate_ne_empty (snippetLine_ne_empty _ _ _)

theorem snippetAt_ne_empty (source : String) (position : Int) :
    snippetAt source position snippetWindow ≠ "" :=
  snippet_ne_empty (Nat.succ_pos _) (lineNumber_le_length_lines source position)

end Source

/-! ## Syntax errors -/

namespace Reading

variable {source : String} {placed : Placed}

/-- The positions of tokens lie in the text. -/
theorem position_lt_of_mem (skip position : Nat) (chars : List Char) :
    ∀ placed ∈ (lexFrom skip position chars).tokens, placed.position < position + chars.length := by
  induction chars generalizing skip position with
  | nil => exact fun _ member => (by cases member)
  | cons c rest ih =>
      have within : ∀ skip, ∀ placed ∈ (lexFrom skip (position + 1) rest).tokens,
          placed.position < position + (c :: rest).length := by
        intro skip placed member
        have below := ih skip (position + 1) placed member
        rw [List.length_cons]
        omega
      cases skip with
      | succ skip => exact within skip
      | zero =>
          rw [lexFrom]
          split
          · exact within 0
          · split
            · exact fun _ member => (by cases member)
            · split
              · exact fun _ member => (by cases member)
              · refine List.forall_mem_cons.mpr ⟨?_, within _⟩
                simp

theorem fewDigits_of_le {count limit : Int} (short : Value.fewDigits limit = true) (nonneg : 0 ≤ count)
    (le : count ≤ limit) : Value.fewDigits count = true := by
  rw [Value.fewDigits] at *
  apply decide_eq_true
  exact Nat.lt_of_le_of_lt (by omega) (of_decide_eq_true short)

theorem length_before_le (source : String) (position : Nat) :
    (Source.before source position).length ≤ position := by
  rw [Source.before_natCast]
  exact List.length_take_le _ _

theorem lineNumber_le {position : Nat} (within : position < source.length) :
    Source.lineNumber source position ≤ source.length := by
  have counted : (Source.before source position).count '\n' ≤ position :=
    List.count_le_length.trans (length_before_le source position)
  exact (Nat.succ_le_succ counted).trans within

theorem column_bounds (source : String) (position : Nat) :
    0 ≤ Source.column source position ∧ Source.column source position ≤ position := by
  have last : Source.lastNewline source position ≤ position := by
    have short := length_before_le source position
    rw [Source.lastNewline]
    omega
  rw [Source.column]
  omega

theorem boundedLineCount_le (isOpen : Bool) (chars : List Char) :
    Text.boundedLineCount isOpen chars ≤ chars.length + isOpen.toNat := by
  fun_induction Text.boundedLineCount isOpen chars with
  | case1 => simp
  | case2 => simp
  | case3 isOpen rest ih =>
      simp only [Bool.toNat_false, List.length_cons] at *
      omega
  | case4 isOpen c rest _ boundary ih =>
      simp only [Bool.toNat_false, List.length_cons] at *
      omega
  | case5 isOpen c rest _ inside ih =>
      simp only [Bool.toNat_true, List.length_cons] at *
      omega

theorem lineCount_le (source : String) : Text.lineCount source ≤ source.length := by
  have count := boundedLineCount_le false source.toList
  rwa [String.length_toList] at count

theorem misplacedReport_of_speakable {value : Value} (speakable : value.speakable = true)
    (source kind : String) (position : Int) :
    misplacedReport source kind value position =
      .ok (.parsing (.str ("Syntax error at " ++ kind ++ " token: '" ++ value.shown ++ "'"))
        (.int (Source.lineNumber source position)) (.int (Source.column source position)) value
        (.str (Source.snippetAt source position Source.snippetWindow))) := by
  rw [misplacedReport, Report.say_of_speakable speakable]
  rfl

/-- A misplaced token gives a syntax error with a context. -/
theorem misplaced_eq (short : Value.fewDigits source.length = true)
    (member : placed ∈ (lex source).tokens) :
    ∃ report context, misplacedReport source placed.token.kindName placed.token.value placed.position =
        .ok report ∧ misplaced source placed = .report report ∧
      report.context = .ok (.str context) ∧ context ≠ "" := by
  have speakable := (lex_cut source placed member).speakable
  have within : placed.position < source.length := by
    have below := position_lt_of_mem 0 0 source.toList placed member
    rwa [Nat.zero_add, String.length_toList] at below
  obtain ⟨nonneg, column⟩ := column_bounds source placed.position
  have made := misplacedReport_of_speakable speakable source placed.token.kindName placed.position
  obtain ⟨context, found, some⟩ := Report.context_parsing speakable
    (Source.snippetAt_ne_empty source placed.position)
  refine ⟨_, context, made, ?_, found, some⟩
  rw [misplaced, made]
  exact Report.stop_of_speakable found rfl rfl
    (fewDigits_of_le short (Int.natCast_nonneg _) (Int.ofNat_le.mpr (lineNumber_le within)))
    (fewDigits_of_le short nonneg (column.trans (Int.ofNat_le.mpr within.le)))

/-- A text that ends too early gives a syntax error with a context. -/
theorem unfinishedReport_stop (short : Value.fewDigits source.length = true) :
    (unfinishedReport source).stop = .report (unfinishedReport source) ∧
      ∃ context, (unfinishedReport source).context = .ok (.str context) ∧ context ≠ "" := by
  have noToken : Value.null.speakable = true := rfl
  obtain ⟨context, found, some⟩ := Report.context_parsing noToken
    (Source.snippetAt_ne_empty source source.length)
  refine ⟨?_, context, found, some⟩
  exact Report.stop_of_speakable found rfl rfl
    (fewDigits_of_le short (Int.natCast_nonneg _) (Int.ofNat_le.mpr (lineCount_le source)))
    (fewDigits_of_le short (Int.le_refl 0) (Int.natCast_nonneg _))

/-- The limit is a variable here, since a power with a large exponent must not be evaluated. -/
theorem ten_le_pow {limit : Nat} (positive : 0 < limit) : 10 ≤ Nat.pow 10 limit :=
  have grows : Nat.pow 10 1 ≤ Nat.pow 10 limit := Nat.pow_le_pow_right (by decide) positive
  grows

/-- The report on a fault can be worded. -/
theorem faultReport_stop (fault : Fault) : (faultReport fault).stop = .report (faultReport fault) := by
  have sayOne : (Value.int 1).speakable = true := by
    rw [Value.speakable, Value.fewDigits]
    exact decide_eq_true (Nat.lt_of_lt_of_le (by decide) (ten_le_pow (by decide)))
  have noContext : (faultReport fault).context = .ok (.str "") := rfl
  exact Report.stop_of_speakable noContext rfl rfl sayOne sayOne

end Reading

/-! ## The outcome -/

/-- The names of the tasks are those of the tasks to run. -/
def Program.SameNames (program : Program) : Prop :=
  ∀ name, name ∈ program.tasks.map Task.name ↔ name ∈ program.runs

/-- A program with a proper tree has tasks and tasks to run. -/
theorem ProgramTree.nonempty {program : Program} (tree : ProgramTree program.node) :
    program.tasks ≠ [] ∧ program.runs ≠ [] := by
  generalize same : program.node = node at tree
  cases tree with
  | program someTask each someRun =>
      have entries := Value.dict.inj same
      simp only [List.map_cons, List.map_nil, List.cons.injEq, Prod.mk.injEq, Value.list.injEq,
        Value.texts, true_and, and_true] at entries
      obtain ⟨-, sameTasks, sameRuns⟩ := entries
      constructor
      · rintro none
        exact someTask (by rw [← sameTasks, none]; rfl)
      · rintro none
        apply someRun
        rw [none] at sameRuns
        exact List.map_eq_nil_iff.mp sameRuns.symm

namespace Reading

variable {source : String}

/-- The outcomes of reading a text, by the event that is met first. -/
inductive Decided (source : String) : Event → Except Stop Program → Prop where
  /-- The program is whole, and runs its tasks. -/
  | program {tokens : List Placed} {program : Program} (parsed : parseTokens tokens = .ok program)
      (sameNames : program.SameNames) : Decided source (.finished tokens) (.ok program)
  /-- The program is whole, and runs other tasks than it has, or not all of them. -/
  | differing {tokens : List Placed} {program : Program} {message step : String} {state : Value}
      (parsed : parseTokens tokens = .ok program) (differ : ¬ program.SameNames) :
      Decided source (.finished tokens)
        (.error (.report (.running (.str message) (.str "Program Validation") (.str step) state)))
  /-- The text ends too early. -/
  | unfinished {tokens : List Placed} {context : String} (stuck : parseTokens tokens = .error [])
      (found : (unfinishedReport source).context = .ok (.str context)) (some : context ≠ "") :
      Decided source (.finished tokens) (.error (.report (unfinishedReport source)))
  /-- A token does not fit. -/
  | misplaced {placed : Placed} {report : Report} {context : String}
      (made : misplacedReport source placed.token.kindName placed.token.value placed.position =
        .ok report)
      (found : report.context = .ok (.str context)) (some : context ≠ "") :
      Decided source (.misplaced placed) (.error (.report report))
  /-- An integer has too many digits. -/
  | tooLong {start digits : Nat} : Decided source (.tooLong start digits)
      (.error (.report (faultReport (.digitsRead digits))))
  /-- No lexeme starts at a character. -/
  | illegal {start : Nat} : Decided source (.illegal start) (.error (.fault missingContext))

theorem decided_finished (short : Value.fewDigits source.length = true) {tokens : List Placed}
    (lexed : lex source = ⟨tokens, .finished⟩) (fits : Fits tokens) :
    Decided source (.finished tokens) (Program.read source).outcome := by
  have named := lex_named source
  rw [lexed] at named
  cases parsed : parseTokens tokens with
  | error rest =>
      cases rest with
      | cons placed after => exact absurd parsed (fits placed after)
      | nil =>
          obtain ⟨stops, context, found, some⟩ := unfinishedReport_stop short
          simp only [Program.read, lexed, parsed, atEnd, quiet, stops]
          exact .unfinished parsed found some
  | ok program =>
      obtain ⟨someTask, someRun⟩ := (ProgramTree.of_parseTokens named parsed).nonempty
      by_cases sameNames : program.SameNames
      · have checked := Check.program_ok someTask someRun sameNames (some source)
        simp only [Program.read, lexed, parsed, atEnd, quiet, checked]
        exact .program parsed sameNames
      · obtain ⟨message, step, state, checked⟩ :=
          Check.program_differ someTask someRun sameNames (some source)
        simp only [Program.read, lexed, parsed, atEnd, quiet, checked]
        exact .differing parsed sameNames

theorem decided_misplaced (short : Value.fewDigits source.length = true) {placed : Placed}
    {after : List Placed} (failed : parseTokens (lex source).tokens = .error (placed :: after)) :
    Decided source (.misplaced placed) (Program.read source).outcome := by
  obtain ⟨before, same, -⟩ := parseTokens_eq_misplaced.mp failed
  have member : placed ∈ (lex source).tokens := by
    rw [same]
    exact List.mem_append_right _ List.mem_cons_self
  obtain ⟨report, context, made, stops, found, some⟩ := misplaced_eq short member
  simp only [Program.read, failed, quiet, stops]
  exact .misplaced made found some

theorem read_of_fits (fits : Fits (lex source).tokens) :
    ∃ program?, Program.read source = atEnd source program? (lex source).ending := by
  rw [Program.read]
  split
  · exact ⟨_, rfl⟩
  · exact ⟨_, rfl⟩
  · next placed after failed => exact absurd failed (fits placed after)

/-- A fault escapes at a character that starts no lexeme, however long the text is. -/
theorem Meets.read_illegal {start : Nat} (meets : Meets source (.illegal start)) :
    (Program.read source).outcome = .error (.fault missingContext) := by
  obtain ⟨⟨rest, ending⟩, fits⟩ := meets.ends
  obtain ⟨program?, read⟩ := read_of_fits fits
  rw [read, ending, atEnd]

/-- The event that is met first decides the outcome. -/
theorem Meets.decided (short : Value.fewDigits source.length = true) {event : Event}
    (meets : Meets source event) : Decided source event (Program.read source).outcome := by
  have ends := meets.ends
  cases event with
  | finished tokens => exact decided_finished short ends.1 ends.2
  | misplaced placed =>
      obtain ⟨after, failed⟩ := ends
      exact decided_misplaced short failed
  | illegal start =>
      rw [meets.read_illegal]
      exact .illegal
  | tooLong start digits =>
      obtain ⟨ending, fits⟩ := ends
      obtain ⟨program?, read⟩ := read_of_fits fits
      rw [read, ending, atEnd, quiet, faultReport_stop]
      exact .tooLong

/-- Reading a text meets one event first, which decides the outcome: a program, a syntax error with a
context, the report on an integer with too many digits, the report that the names of tasks and runs
differ, or a fault.  A fault escapes if and only if the parser asks for a token where no lexeme starts,
before it has found a misplaced token.

`short` bounds the positions in the text: a report on a line whose number has too many digits cannot be
shown. -/
theorem read_by_first_event (source : String) (short : Value.fewDigits source.length = true) :
    (∃ event, Meets source event ∧ (∀ other, Meets source other → other = event) ∧
      Decided source event (Program.read source).outcome) ∧
    ((∃ cause, (Program.read source).outcome = .error (.fault cause)) ↔
      ∃ start, Meets source (.illegal start)) := by
  obtain ⟨event, meets⟩ := exists_meets source
  have decided := meets.decided short
  refine ⟨⟨event, meets, fun other meetsOther => meetsOther.unique meets, decided⟩, ?_, ?_⟩
  · rintro ⟨cause, escapes⟩
    rw [escapes] at decided
    cases decided
    exact ⟨_, meets⟩
  · rintro ⟨start, meetsIllegal⟩
    have escapes := meetsIllegal.decided short
    generalize (Program.read source).outcome = outcome at escapes ⊢
    cases escapes
    exact ⟨_, rfl⟩

/-- Whether a fault escapes. -/
def escapes : Except Stop Program → Bool
  | .error (.fault _) => true
  | _ => false

theorem escapes_iff {outcome : Except Stop Program} :
    escapes outcome = true ↔ ∃ cause, outcome = .error (.fault cause) := by
  constructor
  · intro holds
    unfold escapes at holds
    split at holds
    · exact ⟨_, rfl⟩
    · cases holds
  · rintro ⟨cause, rfl⟩
    rfl

/-- A character that starts no lexeme is asked for where a program could go on, and not behind a misplaced
token. -/
theorem read_by_first_event_illegal :
    let early := "objective \"o\" ?"
    let late := "objective task ?"
    (Value.fewDigits early.length = true ∧ Value.fewDigits late.length = true) ∧
      (∃ start, Meets early (.illegal start)) ∧ ¬ ∃ start, Meets late (.illegal start) := by
  intro early late
  have shortEarly : Value.fewDigits early.length = true := by decide +kernel
  have shortLate : Value.fewDigits late.length = true := by decide +kernel
  have escapesEarly : escapes (Program.read early).outcome = true := by decide +kernel
  have reportedLate : escapes (Program.read late).outcome = false := by decide +kernel
  refine ⟨⟨shortEarly, shortLate⟩,
    (read_by_first_event early shortEarly).2.mp (escapes_iff.mp escapesEarly), fun meets => ?_⟩
  have escapesLate := escapes_iff.mpr ((read_by_first_event late shortLate).2.mpr meets)
  rw [reportedLate] at escapesLate
  cases escapesLate

end Reading

end Stepwise
