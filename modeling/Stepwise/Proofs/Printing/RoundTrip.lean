import Stepwise.Program.Reading
import Stepwise.Proofs.Printing.Numerals
import Stepwise.Proofs.Printing.Statement

/-!
# Printed programs are read back

The text of a program is lexed as the tokens of the program, these are parsed as the program, and the
program passes its check.  Together: reading the text of a program that can be printed gives exactly
this program.
-/

namespace Stepwise

open Phrases (whole)

/-! ## Tokens of a program -/

namespace Token

/-- All tokens are lexed as themselves. -/
def AllLex (tokens : List Token) : Prop :=
  ∀ token ∈ tokens, token.Lexes

@[simp] theorem allLex_nil : AllLex [] :=
  fun _ member => nomatch member

@[simp] theorem allLex_cons {token : Token} {tokens : List Token} :
    AllLex (token :: tokens) ↔ token.Lexes ∧ AllLex tokens := by
  simp [AllLex]

@[simp] theorem allLex_append {first second : List Token} :
    AllLex (first ++ second) ↔ AllLex first ∧ AllLex second := by
  simp [AllLex, or_imp, forall_and]

@[simp] theorem allLex_flatMap {α : Type} {values : List α} {write : α → List Token} :
    AllLex (values.flatMap write) ↔ ∀ value ∈ values, AllLex (write value) := by
  induction values with
  | nil => simp
  | cons value others ih => simp [ih]

theorem AllLex.parenthesized {tokens : List Token} (lex : AllLex tokens) :
    AllLex (Token.parenthesized tokens) := by
  simp [Token.parenthesized, lex]

theorem AllLex.commas {lists : List (List Token)} (lex : ∀ tokens ∈ lists, AllLex tokens) :
    AllLex (Token.commas lists) := by
  induction lists with
  | nil => simp [Token.commas]
  | cons tokens others ih =>
      have first := lex tokens (List.mem_cons_self ..)
      have rest := ih fun tokens member => lex tokens (List.mem_cons_of_mem _ member)
      cases others with
      | nil => exact first
      | cons second more => simp [Token.commas, first, rest]

end Token

namespace Expr

open Token

theorem allLex_enclosedAt {tokens : List Token} (lex : AllLex tokens) (position : Level)
    (expr : Expr) : AllLex (expr.enclosedAt position tokens) := by
  rw [enclosedAt]
  split
  · exact lex
  · exact lex.parenthesized

theorem allLex_enclosedContainer {tokens : List Token} (lex : AllLex tokens) (expr : Expr) :
    AllLex (expr.enclosedContainer tokens) := by
  rw [enclosedContainer]
  split
  · exact lex
  · exact lex.parenthesized

mutual

theorem allLex_body : (expr : Expr) → expr.Printable → AllLex expr.body
  | .name word, printable => by
    rw [Printable] at printable
    simpa [body] using lexes_variable printable
  | .int n, printable => by
    rw [Printable] at printable
    simpa [body] using lexes_int printable
  | .float x, printable => by
    rw [Printable] at printable
    simpa [body] using lexes_float printable
  | .text content, printable => by
    rw [Printable] at printable
    simpa [body] using lexes_text printable
  | .list items, printable => by
    rw [Printable] at printable
    simp [body, AllLex.commas (allLex_items items printable)]
  | .dict entries, printable => by
    rw [Printable] at printable
    simp [body, AllLex.commas (allLex_entries entries printable)]
  | .call function arguments, printable => by
    rw [Printable] at printable
    simp [body, lexes_name printable.1,
      AllLex.commas (allLex_items arguments printable.2)]
  | .index container key, printable => by
    rw [Printable] at printable
    simp [body, allLex_enclosedContainer (allLex_body container printable.1),
      allLex_enclosedAt (allLex_body key printable.2)]
  | .negate operand, printable => by
    rw [Printable] at printable
    simp [body, allLex_enclosedAt (allLex_body operand printable)]
  | .binary operator left right, printable => by
    rw [Printable] at printable
    simp [body, allLex_enclosedAt (allLex_body left printable.1),
      allLex_enclosedAt (allLex_body right printable.2)]

theorem allLex_items : (items : List Expr) → AllPrintable items →
    ∀ tokens ∈ itemTokens items, AllLex tokens
  | [], _ => by simp [itemTokens]
  | item :: rest, printable => by
    rw [AllPrintable] at printable
    simp only [itemTokens, List.forall_mem_cons]
    exact ⟨allLex_enclosedAt (allLex_body item printable.1) _ _, allLex_items rest printable.2⟩

theorem allLex_entries : (entries : List (Expr × Expr)) → EntriesPrintable entries →
    ∀ tokens ∈ entryTokens entries, AllLex tokens
  | [], _ => by simp [entryTokens]
  | (key, value) :: rest, printable => by
    rw [EntriesPrintable] at printable
    simp only [entryTokens, List.forall_mem_cons]
    refine ⟨?_, allLex_entries rest printable.2⟩
    simp [allLex_enclosedAt (allLex_body key printable.1.1),
      allLex_enclosedAt (allLex_body value printable.1.2)]

end

theorem allLex_tokens {expr : Expr} (printable : expr.Printable) : AllLex expr.tokens :=
  allLex_enclosedAt (allLex_body expr printable) .expression expr

end Expr

namespace Stmt

open Token

theorem allLex_source {source : LoopSource} (printable : source.Printable) :
    AllLex source.tokens := by
  cases source with
  | name word => simpa [LoopSource.tokens] using lexes_name printable
  | enumerated word =>
      simpa [LoopSource.tokens] using lexes_name printable

theorem allLex_elseTokens (hasElse : Bool) : AllLex (elseTokens hasElse) := by
  cases hasElse <;> simp [elseTokens]

theorem allLex_branchTokens {test : Expr} (printable : test.Printable) {inside : List Token}
    (lex : AllLex inside) : AllLex (branchTokens test inside) := by
  simp [branchTokens, Expr.allLex_tokens printable, lex]

theorem allLex_loopTokens {inside : List Token} (lex : AllLex inside) :
    AllLex (loopTokens inside) := by
  simp [loopTokens, lex]

mutual

theorem allLex_tokens : (statement : Stmt) → statement.Printable → AllLex statement.tokens
  | .assign target value, printable => by
    rw [Printable] at printable
    simp [tokens, lexes_name printable.1, Expr.allLex_tokens printable.2]
  | .call function arguments, printable => by
    rw [Printable] at printable
    rw [tokens]
    exact Expr.allLex_body _ printable
  | .yield value, printable => by
    rw [Printable] at printable
    simp [tokens, Expr.allLex_tokens printable]
  | .decide test body others hasElse, printable => by
    rw [Printable] at printable
    obtain ⟨⟨printableTest, printableBody, _⟩, printableOthers⟩ := printable
    simp [tokens, allLex_elseTokens,
      allLex_branchTokens printableTest (allLex_all body printableBody),
      allLex_others others hasElse printableOthers]
  | .forEach item source body, printable => by
    rw [Printable] at printable
    simp [tokens, lexes_name printable.1, allLex_source printable.2.1,
      allLex_loopTokens (allLex_all body printable.2.2.2)]
  | .forRange item bound body, printable => by
    rw [Printable] at printable
    simp [tokens, lexes_name printable.1,
      Expr.allLex_tokens printable.2.1, allLex_loopTokens (allLex_all body printable.2.2.2)]
  | .forEnumerated index element collection body, printable => by
    rw [Printable] at printable
    have source : LoopSource.Printable (.enumerated collection) := printable.2.2.1
    simp [tokens, lexes_name printable.1, lexes_name printable.2.1,
      allLex_source source, allLex_loopTokens (allLex_all body printable.2.2.2.2)]

theorem allLex_all : (list : List Stmt) → AllPrintable list → AllLex (allTokens list)
  | [], _ => by simp [allTokens]
  | statement :: rest, printable => by
    rw [AllPrintable] at printable
    simp [allTokens, allLex_tokens statement printable.1.1, allLex_all rest printable.2]

theorem allLex_others : (others : List (Expr × List Stmt)) → (hasElse : Bool) →
    OthersPrintable hasElse others → AllLex (otherTokens others)
  | [], _, _ => by simp [otherTokens]
  | (test, body) :: rest, hasElse, printable => by
    rw [OthersPrintable] at printable
    obtain ⟨⟨printableTest, printableBody, _⟩, printableRest⟩ := printable
    simp [otherTokens,
      allLex_branchTokens printableTest (allLex_all body printableBody),
      allLex_others rest hasElse printableRest]

end

end Stmt

open Token in
theorem Item.allLex_tokens {item : Item} (printable : item.Printable) : AllLex item.tokens := by
  cases item with
  | step name body | subtask name body =>
      simp [Item.tokens, lexes_text printable.1, Stmt.allLex_all body printable.2]

open Token in
theorem Task.allLex_tokens {task : Task} (printable : task.Printable) : AllLex task.tokens := by
  obtain ⟨name, _, items⟩ := printable
  simp only [Task.tokens, allLex_cons, allLex_flatMap, lexes_keyword, lexes_mark, lexes_text name,
    true_and]
  exact fun item member => Item.allLex_tokens (items item member)

open Token in
theorem Program.allLex_tokens {program : Program} (printable : program.Printable) :
    AllLex program.tokens := by
  simp only [Program.tokens, allLex_cons, allLex_append, allLex_flatMap, lexes_keyword,
    lexes_text printable.objective, true_and]
  constructor
  · exact fun task member => Task.allLex_tokens (printable.tasks task member)
  · exact fun name member => by simp [lexes_text (printable.runs name member)]

/-! ## Parsing -/

namespace Parse

theorem yields_item {item : Item} (printable : item.Printable) :
    Yields (choose (itemAfter whole) stuck) item.tokens (endsList true) item := by
  cases item with
  | step name body | subtask name body =>
      have back := (Stmt.allBack body printable.2).yields
      apply GoesOn.cons fun _ _ => choose_some rfl _ _
      apply GoesOn.cons fun _ _ => text_taken ..
      apply GoesOn.cons fun _ _ => mark_taken ..
      exact (back.map _).mono fun token => endsList_of_open

theorem yields_task {task : Task} (printable : task.Printable) :
    Yields Parse.task task.tokens (fun token => endsList true token && !startsItem token) task := by
  obtain ⟨_, some, items⟩ := printable
  have back : Yields (Parse.items whole) (task.items.flatMap Item.tokens)
      (fun token => endsList true token && !startsItem token) task.items := by
    apply yields_repeated items_whole some
    · intro token starts
      simp only [startsItem, Bool.or_eq_true, decide_eq_true_eq] at starts
      rcases starts with rfl | rfl <;> rfl
    · exact fun item member => yields_item (items item member)
    · rintro (⟨name, body⟩ | ⟨name, body⟩) _ <;> exact ⟨_, _, rfl, rfl⟩
  apply GoesOn.cons fun _ _ => keyword_taken ..
  apply GoesOn.cons fun _ _ => text_taken ..
  apply GoesOn.cons fun _ _ => mark_taken ..
  exact back.map _

theorem yields_program {program : Program} (printable : program.Printable) :
    Yields (Parse.program whole) program.tokens (! · = .keyword .run) program := by
  have tasks : Yields (Parse.tasks whole) (program.tasks.flatMap Task.tokens)
      (fun token => (endsList true token && !startsItem token) && !token = .keyword .task)
      program.tasks := by
    apply yields_repeated tasks_whole printable.someTask
    · intro token starts
      obtain rfl : token = .keyword .task := by simpa using starts
      rfl
    · exact fun task member => yields_task (printable.tasks task member)
    · exact fun task _ => ⟨_, _, rfl, rfl⟩
  have runs : Yields (Parse.runs whole)
      (program.runs.flatMap fun name => [.keyword .run, .text name])
      (fun token => anyToken token && !token = .keyword .run) program.runs := by
    apply yields_repeated runs_whole printable.someRun fun _ _ => rfl
    · intro name _
      exact .cons (fun _ _ => keyword_taken ..) (.cons (fun _ _ => rfl) (.nil _ _))
    · exact fun name _ => ⟨_, _, rfl, rfl⟩
  have begins : Begins (· = .keyword .run)
      (program.runs.flatMap fun name => [Token.keyword .run, .text name]) := by
    cases same : program.runs with
    | nil => exact absurd same printable.someRun
    | cons name others => exact ⟨_, _, rfl, rfl⟩
  obtain ⟨first, more, same, isRun⟩ := begins
  obtain rfl : first = .keyword .run := by simpa using isRun
  have goesOn := runs.map fun runs => Program.mk program.objective program.tasks runs
  rw [same] at goesOn
  rw [Program.tokens, same]
  apply GoesOn.cons fun _ _ => keyword_taken ..
  apply GoesOn.cons fun _ _ => text_taken ..
  exact tasks.followed rfl goesOn

end Parse

theorem parseTokens_printed {program : Program} (printable : program.Printable)
    {placed : List Placed} (spelled : placed.map Placed.token = program.tokens) :
    parseTokens placed = .ok program := by
  have read := (Parse.yields_program printable).apply spelled Ahead.nil
  rw [List.append_nil] at read
  exact parseTokens_eq_ok.mpr read

/-! ## Checking -/

@[simp] theorem Value.same_str (text other : String) :
    (Value.str text).same (.str other) = (text == other) := by
  rw [Value.same]

namespace Check

theorem mem_distinct_texts {names : List String} {name : String} :
    .str name ∈ distinct (names.map Value.str) ↔ name ∈ names := by
  induction names with
  | nil => simp [distinct]
  | cons first rest ih =>
      by_cases same : name = first
      · simp [distinct, same]
      · have other : first ≠ name := fun equal => same equal.symm
        simp [distinct, ih, same, other]

theorem mem_setOf_texts {names : List String} {name : String} :
    .str name ∈ setOf (names.map Value.str) ↔ name ∈ names := by
  rw [setOf, List.mem_mergeSort, mem_distinct_texts]

theorem mem_of_mem_distinct {values : List Value} {value : Value}
    (member : value ∈ distinct values) : value ∈ values := by
  induction values with
  | nil => simp [distinct] at member
  | cons first rest ih =>
      rw [distinct, List.mem_cons] at member
      rcases member with rfl | member
      · exact List.mem_cons_self ..
      · exact List.mem_cons_of_mem _ (ih (List.mem_filter.mp member).1)

/-- Between sets of texts there is no difference if each text of one is in the other. -/
theorem difference_texts {names others : List String} (within : ∀ name ∈ names, name ∈ others) :
    difference (setOf (names.map Value.str)) (setOf (others.map Value.str)) = [] := by
  rw [difference, List.filter_eq_nil_iff]
  intro value member
  rw [setOf, List.mem_mergeSort] at member
  obtain ⟨name, known, rfl⟩ := List.mem_map.mp (mem_of_mem_distinct member)
  have found : (setOf (others.map Value.str)).any (fun other => other.same (.str name)) = true :=
    List.any_eq_true.mpr ⟨_, mem_setOf_texts.mpr (within name known), by simp⟩
  rw [found]
  simp

theorem compareNames_texts {names others : List String}
    (sameNames : ∀ name, name ∈ names ↔ name ∈ others) :
    compareNames (setOf (names.map Value.str)) (setOf (others.map Value.str)) = .ok () := by
  have unrun := difference_texts fun name => (sameNames name).mp
  have undefined := difference_texts fun name => (sameNames name).mpr
  simp [compareNames, unrun, undefined, pure, Except.pure]

theorem mapM_ok {α β : Type} {read : α → Except Fault β} {value : α → β} {items : List α}
    (each : ∀ item ∈ items, read item = .ok (value item)) :
    items.mapM read = .ok (items.map value) := by
  induction items with
  | nil => rfl
  | cons item others ih =>
      rw [List.mapM_cons, each item (List.mem_cons_self ..),
        ih fun item member => each item (List.mem_cons_of_mem _ member)]
      rfl

theorem taskNames_nodes (tasks : List Task) :
    taskNames (tasks.map Task.node) = .ok ((tasks.map Task.name).map Value.str) := by
  rw [taskNames, List.mapM_map, List.map_map]
  exact mapM_ok fun _ _ => rfl

/-- A list that is not empty is an entry that is there. -/
theorem presentPart_list {tree : Value} {name : String} {items : List Value}
    (holds : tree.contains name = .ok true) (part : tree.part name = .ok (.list items))
    (some : items ≠ []) : presentPart name tree = .ok (Option.some (.list items)) := by
  have isTrue : (Value.list items).isTrue = true := by simp [Value.isTrue, some]
  simp [presentPart, holds, part, isTrue, bind, Except.bind, pure, Except.pure]

/-- The check of a program that has tasks and tasks to run compares their names. -/
theorem program_outcome {program : Program} (someTask : program.tasks ≠ [])
    (someRun : program.runs ≠ []) (source : Option String) :
    (Check.program program.node source).outcome =
      compareNames (setOf ((program.tasks.map Task.name).map Value.str))
        (setOf (program.runs.map Value.str)) := by
  have tasks : presentPart "tasks" program.node =
      .ok (some (.list (program.tasks.map Task.node))) :=
    presentPart_list rfl rfl (by simpa using someTask)
  have runs : presentPart "runs" program.node = .ok (some (.list (program.runs.map Value.str))) :=
    presentPart_list rfl rfl (by simpa using someRun)
  have runNames : (program.runs.map Value.str).mapM Value.asKey =
      .ok (program.runs.map Value.str) := by
    rw [List.mapM_map]
    exact mapM_ok fun _ _ => rfl
  have isTrue : program.node.isTrue = true := rfl
  have taskElements : (Value.list (program.tasks.map Task.node)).elements =
      .ok (program.tasks.map Task.node) := rfl
  have runElements : (Value.list (program.runs.map Value.str)).elements =
      .ok (program.runs.map Value.str) := rfl
  simp only [Check.program, isTrue, Bool.not_true, Bool.false_eq_true, if_false, tasks, taskElements,
    Except.bind, taskNames_nodes, checkRuns, runs, runElements, runNames]

/-- A program with the same names of tasks and of tasks to run passes its check. -/
theorem program_ok {program : Program} (someTask : program.tasks ≠ [])
    (someRun : program.runs ≠ [])
    (sameNames : ∀ name, name ∈ program.tasks.map Task.name ↔ name ∈ program.runs)
    (source : Option String) : (Check.program program.node source).outcome = .ok () :=
  (program_outcome someTask someRun source).trans (compareNames_texts sameNames)

end Check

/-! ## The round trip -/

/-- Reading the text of a program that can be printed gives exactly this program. -/
theorem Program.read_print (program : Program) (printable : program.Printable) :
    Program.read program.print = ⟨[], .ok program⟩ := by
  obtain ⟨placed, lexed, spelled⟩ := lexFrom_line (Program.allLex_tokens printable) 0
  have lexed : lex program.print = ⟨placed, .finished⟩ := lexed
  have checked := Check.program_ok printable.someTask printable.someRun printable.sameNames
    (some program.print)
  simp only [Program.read, lexed, parseTokens_printed printable spelled, Reading.atEnd, checked]
  rfl

/-- A program with indices behind an operation, both kinds of quotes, a loop, and a choice with an
`else` in a branch that another one follows. -/
theorem Program.read_print_sample :
    let program : Program := ⟨"it's", [⟨"t", [.step "s" [
      .assign "x" (.binary .times
        (.index (.index (.binary .plus (.name "a") (.float 0.5)) (.int 0)) (.text "k"))
        (.negate (.int (-2)))),
      .forRange "i" (.name "n") [.call "print" [.list [.name "True"],
        .dict [(.text "say \"so\"", .name "i")]]],
      .decide (.binary .less (.name "x") (.int 1)) [.decide (.name "y") [] [] true]
        [(.name "z", [.yield (.name "x")])] false]]⟩], ["t"]⟩
    program.Printable ∧ Program.read program.print = ⟨[], .ok program⟩ := by
  intro program
  have half : Number.ReadsBack 0.5 := by
    have text : Number.shortestText 0.5 = "0.5" := by decide +kernel
    refine ⟨⟨false, 2 ^ 52, -53, by decide +kernel⟩, ?_⟩
    rw [text]
    rfl
  have small : Value.fewDigits 0 = true ∧ Value.fewDigits 1 = true ∧
      Value.fewDigits (-2) = true := by
    decide +kernel
  have printable : program.Printable := by
    constructor
    · decide
    · exact List.cons_ne_nil _ _
    · simp only [program, Task.Printable, Item.Printable, Stmt.AllPrintable, Stmt.Printable,
        Stmt.OthersPrintable, Expr.Printable, Expr.AllPrintable, Expr.EntriesPrintable,
        List.mem_singleton, forall_eq, half, small]
      decide
    · exact List.cons_ne_nil _ _
    · decide
    · exact fun _ => Iff.rfl
  exact ⟨printable, program.read_print printable⟩

end Stepwise
