import Stepwise.Proofs.Definitions
import Stepwise.Proofs.Faults.Origin
import Stepwise.Proofs.Printing.Numerals
import Stepwise.Proofs.Verdict
import Stepwise.Proofs.Writes.Program

/-!
# Every task to run is found

A program that passes its check has a task for each of its runs.  All tasks are registered before any of
them runs, whatever the tables of the machine hold before, and code does not change the tables.  So no run
stops because a task is not there.

The report that a task is not there shows the tasks that are, under a name of its own.  No other stop of a
checked program has this name, and this tells them apart.  The report on a fault shows the variables, which
may have any name: it differs in its text.
-/

namespace Stepwise

/-- The names of the values that a report on a run shows. -/
def Report.details : Report → List Value
  | .running _ _ _ (.dict entries) => Table.keys entries
  | _ => []

/-- A stop that does not report which tasks there are. -/
def Stop.Untasked (stop : Stop) : Prop :=
  ∀ report, stop = .report report → .str "available_tasks" ∉ report.details

/-! ## Stops -/

theorem Report.untasked_stop {report : Report} (other : .str "available_tasks" ∉ report.details) :
    report.stop.Untasked := by
  intro found stops
  rw [← Report.eq_of_stop stops]
  exact other

theorem Stop.untasked_fault (cause : Fault) : (Stop.fault cause).Untasked :=
  fun _ same => (by cases same)

theorem Failure.report_unknownTask {name : Value} {available : List Value} {report : Report}
    (made : (Failure.unknownTask name available).report = .ok report) :
    ∃ shown, name.say = .ok shown ∧ report = .running (.str ("Task '" ++ shown ++ "' not found")) name
      .null (.record [("available_tasks", .list available)]) := by
  obtain ⟨shown, said, same⟩ := exists_of_bind_eq_ok made
  cases same
  exact ⟨shown, said, rfl⟩

/-- The failures of code show other values. -/
theorem Failure.details_of_code {failure : Failure} (ofCode : failure.ofCode = true) {report : Report}
    (made : failure.report = .ok report) : .str "available_tasks" ∉ report.details := by
  cases failure with
  | unknownTask => cases ofCode
  | broken => cases ofCode
  | badListKey | concatenation | divisionByZero | rangeWithoutBound | rangeOfNonNumber =>
      cases made
      simp [plainReport, Report.details, Value.record, Table.keys]
  | undefinedEnumerated =>
      obtain ⟨shown, -, same⟩ := exists_of_bind_eq_ok made
      cases same
      exact List.not_mem_nil
  | _ =>
      rw [Failure.report] at made
      obtain ⟨shown, -, same⟩ := exists_of_bind_eq_ok made
      cases same
      simp [plainReport, stepReport, Report.details, Value.record, Table.keys]

theorem Check.Fails.untasked {stop : Stop} (fails : Check.Fails stop) : stop.Untasked := by
  rcases fails with ⟨cause, rfl⟩ | ⟨report, rfl, refusal⟩
  · exact Stop.untasked_fault cause
  · refine Report.untasked_stop ?_
    cases refusal with
    | place => exact List.not_mem_nil
    | unrun => simp [Check.unrunReport, Report.details, Value.record, Table.keys]
    | undefined => simp [Check.undefinedReport, Report.details, Value.record, Table.keys]

theorem Stop.OfCode.untasked {stop : Stop} (ofCode : stop.OfCode) : stop.Untasked := by
  cases ofCode with
  | fault cause => exact untasked_fault cause
  | @failure failure isCode =>
      rw [Failure.stop]
      cases made : failure.report with
      | ok report => exact Report.untasked_stop (Failure.details_of_code isCode made)
      | error cause => exact untasked_fault cause

/-! ## Texts of faults -/

theorem Text.append_ne_of_first {c d : Char} {chars others : List Char} (different : c ≠ d)
    (tail : String) : String.ofList (c :: chars) ++ tail ≠ String.ofList (d :: others) := by
  intro same
  have sameChars := congrArg String.toList same
  rw [String.toList_append, String.toList_ofList, String.toList_ofList] at sameChars
  exact different (List.cons.inj sameChars).1

theorem Text.append_ne_of_contains {chars others : List Char} (c : Char)
    (contains : chars.contains c = true) (lacks : others.contains c = false) (front tail : String) :
    front ++ (String.ofList chars ++ tail) ≠ String.ofList others := by
  intro same
  have sameChars := congrArg String.toList same
  simp only [String.toList_append, String.toList_ofList] at sameChars
  rw [← sameChars, List.contains_append, List.contains_append, contains, Bool.true_or,
    Bool.or_true] at lacks
  cases lacks

theorem Shape.number_ne {whole : List Char} (numeral : Number.IsNumeral whole) (negative : Bool)
    (tail rest : List Char) : Number.signed negative ++ (whole ++ tail) ≠ 'T' :: rest := by
  obtain ⟨c, others, same, starts⟩ := starts_number numeral negative tail
  rw [same]
  rintro ⟨⟩
  exact absurd starts (by decide)

theorem Number.shortestText_ne (x : Float) (rest : List Char) :
    (shortestText x).toList ≠ 'T' :: rest := by
  cases form : exact x with
  | nan =>
      rw [shortestText, FloatFormat.text, form]
      simp [FloatFormat.shown]
  | infinite negative =>
      rw [shortestText, FloatFormat.text, form]
      cases negative <;> simp [FloatFormat.shown]
  | finite =>
      obtain ⟨negative, whole, tail, same, numeral⟩ := (isFloat_shortestText form).starts
      rw [same]
      exact Shape.number_ne numeral negative tail rest

/-- No value is written like the beginning of a text about a task. -/
theorem Value.quoted_ne (value : Value) (rest : List Char) :
    value.quoted.toList ≠ 'T' :: 'a' :: rest := by
  cases value with
  | bool flag => cases flag <;> simp [quoted]
  | int n =>
      have chars := Number.toList_toString n
      rw [← List.append_nil (Nat.toDigits 10 n.natAbs)] at chars
      rw [quoted, chars]
      exact Shape.number_ne (Number.isNumeral_toDigits _) _ [] _
  | float x => exact Number.shortestText_ne x _
  | str text =>
      rw [quoted, Text.quoted, String.toList_ofList, Text.quoteMark]
      split <;> rintro ⟨⟩
  | tuple items => rcases items with _ | ⟨first, _ | ⟨second, others⟩⟩ <;> simp [quoted]
  | null | list | dict | range | cursor => simp [quoted]

/-- No fault has the text that a task without a name is not there. -/
theorem Fault.message_ne (cause : Fault) : cause.message ≠ "Task 'None' not found" := by
  have plain (text : String) : toString text = text := rfl
  intro same
  unfold message at same
  cases cause with
  | missingKey key =>
      exact key.quoted_ne _ ((congrArg String.toList same).trans String.toList_ofList)
  | outsideList | outsideText | positionTooLarge | repetitionTooLarge | textTooLong | outOfMemory
  | integerTooLarge | lengthTooLarge | divisionByZero | infinityToInt | nanToInt | sumOfTexts
  | keywordsNotText | notSourceText | noSourceText | callsTooDeep | noInterpreter => simp at same
  | badPosition container key =>
      dsimp only at same
      split at same <;> simp only [plain, String.append_assoc] at same
      · exact Text.append_ne_of_first (by decide) _ same
      · exact Text.append_ne_of_contains ',' (by rfl) (by rfl) _ _ same
  -- A text that starts with the name of a function goes on with a parenthesis.
  | tooFewArguments | tooManyArguments | exactArguments | missingArgument | missingPositional
  | unexpectedKeyword | repeatedArgument =>
      simp only [plain, String.append_assoc] at same
      exact Text.append_ne_of_contains '(' (by rfl) (by rfl) _ _ same
  | digitsRead | digitsShown =>
      unfold limitName at same
      simp only [plain, String.append_assoc] at same
      exact Text.append_ne_of_first (by decide) _ same
  | _ =>
      simp only [plain, String.append_assoc] at same
      exact Text.append_ne_of_first (by decide) _ same

namespace Run

variable {α β : Type} {machine : Machine}

/-- Where the computation stops on a machine, it does not report which tasks there are. -/
def StopsUntasked (machine : Machine) (run : Run α) : Prop :=
  ∀ stop, (run.outcome machine).1 = .error stop → stop.Untasked

theorem StopsUntasked.bind {run : Run α} {next : α → Run β} (first : StopsUntasked machine run)
    (later : ∀ value after, run.outcome machine = (.ok value, after) →
      StopsUntasked after (next value)) : StopsUntasked machine (run >>= next) := by
  intro stop stopped
  rw [outcome_bind] at stopped
  rcases early : run.outcome machine with ⟨result, after⟩
  rw [early] at stopped
  cases result with
  | error reason =>
      cases stopped
      exact first stop (congrArg Prod.fst early)
  | ok value => exact later value after early stop stopped

theorem stopsUntasked_pure (value : α) : StopsUntasked machine (pure value) :=
  fun _ stopped => (by cases stopped)

theorem stopsUntasked_lift (result : Except Fault α) : StopsUntasked machine (lift result) := by
  cases result with
  | ok value => exact stopsUntasked_pure value
  | error cause =>
      rintro _ ⟨⟩
      exact Stop.untasked_fault cause

/-! ## Registration -/

theorem stopsUntasked_registerItems (items : List TaskItem) :
    StopsUntasked machine (registerItems items) := by
  induction items generalizing machine with
  | nil => exact stopsUntasked_pure _
  | cons item rest ih =>
      cases item with
      | fault cause => exact stopsUntasked_lift (.error cause)
      | step step => exact ih
      | other => exact ih
      | subtask name body =>
          exact (stopsUntasked_lift _).bind fun _ _ _ => (stopsUntasked_lift _).bind fun _ _ _ =>
            StopsUntasked.bind (fun _ stopped => by cases stopped) fun _ _ _ => ih

theorem stopsUntasked_registerAll (nodes : List Value) :
    StopsUntasked machine (registerAll nodes) := by
  induction nodes generalizing machine with
  | nil => exact stopsUntasked_pure _
  | cons node rest ih =>
      refine StopsUntasked.bind ?_ fun _ _ _ => ih
      exact (stopsUntasked_lift _).bind fun _ _ _ => (stopsUntasked_lift _).bind fun _ _ _ =>
        StopsUntasked.bind (fun _ stopped => by cases stopped) fun _ _ _ => stopsUntasked_registerItems _

/-- Once tasks are registered, their names are names of tasks. -/
theorem names_storeAll {tasks : List (Value × List TaskItem)} (keyed : Table.Keyed tasks)
    (table : Table (List TaskItem)) {name : Value} (known : ∃ task ∈ tasks, task.1.same name = true) :
    Names (Table.storeAll tasks table) name := by
  intro key isKey
  obtain ⟨rfl, -⟩ := Value.asKey_eq_ok_iff.mp isKey
  obtain ⟨task, member, same⟩ := known
  exact Option.isSome_iff_exists.mp (Table.holds_storeAll keyed member same table)

/-! ## Running -/

/-- Registered code may assign anything. -/
theorem covered_of_any (machine : Machine) : machine.Covered fun _ => True :=
  ⟨fun _ _ _ _ => trivial, fun _ _ _ _ => trivial⟩

theorem stopsUntasked_runTasks {names : List Value} (known : ∀ name ∈ names, Names machine.tasks name) :
    StopsUntasked machine (runTasks call names) := by
  induction names generalizing machine with
  | nil => exact stopsUntasked_pure _
  | cons name rest ih =>
      obtain ⟨knownFirst, knownRest⟩ := List.forall_mem_cons.mp known
      have obeyed := obeyed_runTask (covered_of_any machine) knownFirst
      refine StopsUntasked.bind (fun stop stopped => (obeyed.stops stop stopped).untasked) ?_
      intro _ after early
      rw [early] at obeyed
      exact ih (by rwa [obeyed.tasks])

theorem outcome_executeChecked_refused {tree : Value} {stop : Stop}
    (refused : (Check.program tree machine.source).outcome = .error stop) :
    (executeChecked tree).outcome machine = (.error stop, machine) := by
  rw [executeChecked, outcome_get_bind, refused]
  rfl

/-- The tasks that a tree runs are among those that are registered for it. -/
theorem known_of_registerAll {tree part : Value} {nodes runs : List Value} {source : Option String}
    {ready : Machine} (passes : (Check.program tree source).outcome = .ok ())
    (isPart : tree.part "tasks" = .ok part) (isNodes : part.elements = .ok nodes)
    (isRuns : runNames tree = .ok runs)
    (registering : (registerAll nodes).outcome machine = (.ok (), ready)) :
    ∀ name ∈ runs, Names ready.tasks name := by
  obtain ⟨_, _, names, runsPart, _, isPart', isNodes', named, isRunsPart, isValues, -, -,
    defined⟩ := Check.program_eq_ok passes
  cases isPart.symm.trans isPart'
  cases isNodes.symm.trans isNodes'
  rw [runNames, isRunsPart] at isRuns
  cases isValues.symm.trans isRuns
  obtain ⟨tasks, read, keyed, -, rfl⟩ := registerAll_ok registering
  intro run member
  obtain ⟨name, isName, same⟩ := defined run member
  rw [names_of_tasks read named] at isName
  obtain ⟨task, isTask, rfl⟩ := List.mem_map.mp isName
  exact names_storeAll keyed machine.tasks ⟨task, isTask, same⟩

/-- A checked program stops in no way that reports which tasks there are. -/
theorem stopsUntasked_executeChecked (tree : Value) (machine : Machine) :
    StopsUntasked machine (executeChecked tree) := by
  cases verdict : (Check.program tree machine.source).outcome with
  | error refusal =>
      rw [StopsUntasked, outcome_executeChecked_refused verdict]
      rintro _ ⟨⟩
      exact (Check.program_eq_error verdict).untasked
  | ok =>
      rw [StopsUntasked, outcome_executeChecked verdict]
      refine StopsUntasked.bind (fun stop stopped => ?_) fun _ opened opening => ?_
      · exact ((obeys_announce tree machine (covered_of_any machine)).stops stop stopped).untasked
      -- What is registered is read off the tree once more, and it is what the check has seen.
      refine (stopsUntasked_lift _).bind fun part _ liftedPart => ?_
      obtain ⟨isPart, rfl⟩ := lift_ok liftedPart
      refine StopsUntasked.bind ?_ fun _ ready registering => ?_
      · exact (stopsUntasked_lift _).bind fun _ _ _ => stopsUntasked_registerAll _
      obtain ⟨nodes, _, liftedNodes, registeringAll⟩ := bind_ok registering
      obtain ⟨isNodes, rfl⟩ := lift_ok liftedNodes
      refine (stopsUntasked_lift _).bind fun runsPart _ liftedRuns => ?_
      obtain ⟨isRunsPart, rfl⟩ := lift_ok liftedRuns
      refine (stopsUntasked_lift _).bind fun runs _ liftedNames => ?_
      obtain ⟨isElements, rfl⟩ := lift_ok liftedNames
      have isRuns : runNames tree = .ok runs := by
        rw [runNames, isRunsPart]
        exact isElements
      exact stopsUntasked_runTasks (known_of_registerAll verdict isPart isNodes isRuns registeringAll)

theorem execute_ne_unknownTask (tree : Value) (machine : Machine) {name : Value} {available : List Value}
    {report : Report} (made : (Failure.unknownTask name available).report = .ok report) :
    ((execute tree).outcome machine).1 ≠ .error (.report report) := by
  obtain ⟨shown, said, rfl⟩ := Failure.report_unknownTask made
  have untasked := stopsUntasked_executeChecked tree machine
  rw [outcome_execute]
  rw [StopsUntasked] at untasked
  generalize (executeChecked tree).outcome machine = ended at untasked
  obtain ⟨result, after⟩ := ended
  intro same
  unfold reported at same
  split at same
  · next cause isFault =>
      have stops := Except.error.inj same
      rw [Failure.stop] at stops
      split at stops
      · next other isMade =>
          cases Report.eq_of_stop stops
          rw [Failure.report] at isMade
          split at isMade
          · -- A fault is reported without the name of a task, so only the texts can differ.
            obtain ⟨sameText, rfl, -⟩ := Report.running.inj (Except.ok.inj isMade)
            cases said
            exact cause.message_ne (Value.str.inj sameText)
          · cases isMade
      · cases stops
  · exact untasked _ same _ rfl List.mem_cons_self

/-- The check of a program is exact, and it makes looking up tasks safe.

A tree that lists texts passes if and only if both lists hold something and hold the same texts; otherwise
the verdict is the one that goes with the names (`Judged`), if the numbers of lines can be shown.  On no
machine does a program stop with the report that a task is not there.  A program that was read passes, and
one that does not pass leaves the machine as it is, with its variables, tables, counters and log. -/
theorem check_exact_lookup_safe (tree : Value) (machine : Machine) :
    (∀ names runs, Check.Listing tree names runs →
      ((Check.program tree machine.source).outcome = .ok () ↔
        names ≠ [] ∧ runs ≠ [] ∧ ∀ name, name ∈ names ↔ name ∈ runs) ∧
      ((∀ text ∈ machine.source, Value.fewDigits (text.length + 2) = true) →
        Check.Judged names runs (Check.program tree machine.source).outcome)) ∧
    (∀ name available report, (Failure.unknownTask name available).report = .ok report →
      ((execute tree).outcome machine).1 ≠ .error (.report report)) ∧
    (∀ source program, (Program.readValue source).outcome = .ok program →
      (Check.program program.node machine.source).outcome = .ok ()) ∧
    (∀ stop, (Check.program tree machine.source).outcome = .error stop →
      (execute tree).outcome machine = (reported machine.variables (.error stop), machine)) := by
  refine ⟨fun names runs listing => ⟨Check.program_eq_ok_iff listing _, Check.judged_program listing⟩,
    fun _ _ _ made => execute_ne_unknownTask tree machine made,
    fun source program read => ?_, fun stop refused => ?_⟩
  · cases source with
    | str text => exact Program.checked_of_read read machine.source
    | _ => cases read
  · rw [outcome_execute, outcome_executeChecked_refused refused]

/-- Two tasks of one name, and a run without a task. -/
theorem check_exact_lookup_safe_undefined :
    let task := Value.record [("name", .str "a")]
    let tree := Value.record [("tasks", .list [task, task]), ("runs", .texts ["b", "a"])]
    let text := "objective \"o\" task \"t\": step \"s\": x = 1 run \"t\""
    let machine := Machine.fresh ⟨true, .standard, 5⟩ (some text)
    (Check.Listing tree ["a", "a"] ["b", "a"] ∧
      Check.Judged ["a", "a"] ["b", "a"] (Check.program tree machine.source).outcome) ∧
    (∃ report, (Failure.unknownTask (.str "b") []).report = .ok report ∧
      ((execute tree).outcome machine).1 ≠ .error (.report report)) ∧
    (∃ program, (Program.readValue (.str text)).outcome = .ok program ∧
      (Check.program program.node machine.source).outcome = .ok ()) ∧
    ∃ stop, (Check.program tree machine.source).outcome = .error stop ∧
      (execute tree).outcome machine = (reported machine.variables (.error stop), machine) := by
  intro task tree text machine
  have listing : Check.Listing tree ["a", "a"] ["b", "a"] := ⟨⟨_, rfl, rfl⟩, rfl⟩
  have short : ∀ source ∈ machine.source, Value.fewDigits (source.length + 2) = true := by
    rintro _ ⟨⟩
    decide +kernel
  obtain ⟨exact, safe, passes, unchanged⟩ := check_exact_lookup_safe tree machine
  obtain ⟨passes_iff, judged⟩ := exact _ _ listing
  refine ⟨⟨listing, judged short⟩, ⟨_, rfl, safe (.str "b") [] _ rfl⟩, ?_, ?_⟩
  · have isRead : (Program.readValue (.str text)).outcome.toBool = true := by decide +kernel
    cases read : (Program.readValue (.str text)).outcome with
    | error stop =>
        rw [read] at isRead
        cases isRead
    | ok program => exact ⟨program, rfl, passes _ program read⟩
  · cases verdict : (Check.program tree machine.source).outcome with
    | ok => exact absurd ((passes_iff.mp verdict).2.2 "b").mpr (by simp)
    | error stop => exact ⟨stop, rfl, unchanged stop verdict⟩

end Run

end Stepwise
