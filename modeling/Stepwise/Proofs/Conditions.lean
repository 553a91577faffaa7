import Stepwise.Proofs.Changes
import Stepwise.Proofs.Reports

/-!
# Conditions of choices

A choice evaluates the operands of its condition, reads their values as terms and evaluates them once
more.  `reread` says what comes of that for each value.  A value that is neither a text nor a dictionary
with the tag of a term is inert: it stands for itself, so the choice goes by the same value as the
evaluation of the condition, and no effect happens twice.

In between a choice notes what it compares and what comes of it, if the machine explains itself.  A note
needs the texts of values, and an integer may have too many digits for one.
-/

namespace Stepwise

/-! ## Rereading values -/

/-- The tags of the dictionaries that are read as terms of their own. -/
def Term.tags : List String :=
  [Value.textTag, "list", "dict", "index", "operation", "function_call"]

/-- Whether a value, read as a term, stands for itself. -/
def Value.isInert : Value → Bool
  | .str _ => false
  | .dict entries => !Term.tags.contains (nodeTag entries)
  | _ => true

theorem Term.ofNode_of_inert {value : Value} (inert : value.isInert = true) :
    Term.ofNode value = .const value := by
  cases value with
  | str text => cases inert
  | dict entries =>
      rw [Term.ofNode]
      split <;> simp_all [Value.isInert, Term.tags, Value.textTag]
  | _ => rfl

theorem Value.hasTag_dict (tag : String) (entries : List (Value × Value)) (some : tag ≠ "") :
    (Value.dict entries).hasTag tag = (nodeTag entries == tag) := by
  have absent : ("" == tag) = false := by simpa using some.symm
  rw [Value.hasTag, Value.entry?, nodeTag]
  cases Table.fetch? (.str "type") entries with
  | none => simp [absent]
  | some found => cases found <;> simp [Value.same, Value.sameInt, Value.sameFloat, absent]

namespace Run

/-- What a choice compares in the place of an operand's value: a text is the name of a variable, a
dictionary that stands for a quoted text is what it holds, another one with the tag of a term is
evaluated, and any other value is compared itself. -/
def reread (call : Value → Run Value) (value : Value) : Run Value :=
  match value with
  | .str name => readVariable name
  | value =>
    if value.hasTag Value.textTag then lift (value.part "value")
    else if value.isInert then pure value
    else eval call (Term.ofNode value)

theorem part_dict (name : String) (entries : List (Value × Value)) :
    (Value.dict entries).part name = entryOf name entries := by
  rw [Value.part, entryOf]
  split <;> simp_all [missingEntry]

theorem eval_ofNode (call : Value → Run Value) (value : Value) :
    eval call (Term.ofNode value) = reread call value := by
  cases value with
  | str name => rfl
  | dict entries =>
      simp only [reread, Value.hasTag_dict Value.textTag entries (by decide), part_dict]
      by_cases text : nodeTag entries = Value.textTag
      · have read : Term.ofNode (.dict entries) = Term.ofResult .const (entryOf "value" entries) := by
          simp [Term.ofNode, text, Value.textTag]
        rw [read]
        simp only [text, beq_self_eq_true, if_true]
        cases entryOf "value" entries <;> rfl
      · simp only [beq_iff_eq, text, if_false]
        split
        · next inert =>
            rw [Term.ofNode_of_inert inert]
            rfl
        · rfl
  | _ => rfl

end Run

/-! ## Operations as conditions -/

/-- The entries of a node that describes an operation on two operands. -/
structure BinaryNode (entries : List (Value × Value)) : Prop where
  tagged : nodeTag entries = "operation"
  binary : Table.holds (.str "operand") entries = false
  operator : ∀ inner, entryOf "operator" entries ≠ .ok (.dict inner)

theorem Term.operatorAt_eq (left right : Term) (entries : List (Value × Value)) :
    Term.operatorAt left right entries =
      match entryOf "operator" entries with
      | .ok operator => Term.applied left right operator
      | .error cause => .after left (.after right (.fault cause)) := by
  induction entries with
  | nil => rfl
  | cons entry rest ih =>
      obtain ⟨key, value⟩ := entry
      rw [Term.operatorAt, entryOf, Table.fetch?]
      split
      · rfl
      · exact ih

namespace Run

variable {α β : Type}

/-- The values of the operands and the operator of an operation. -/
def operands (call : Value → Run Value) (entries : List (Value × Value)) :
    Run (Value × Value × Value) := do
  let left ← eval call (Term.entryAt "left" entries)
  let right ← eval call (Term.entryAt "right" entries)
  let operator ← lift (entryOf "operator" entries)
  return (left, operator, right)

/-- The text of the note on what is compared. -/
def checkText (left operator right : Value) : Except Fault String := do
  return "Checking if " ++ (← left.say) ++ " " ++ (← operator.say) ++ " " ++ (← right.say)

/-- The text of the note on what comes of a comparison. -/
def resultText (value : Value) : Except Fault String := do
  return "Condition evaluates to: " ++ (← value.say)

/-- Notes what is compared, and then what comes of it. -/
def noted (left operator right : Value) (compare : Run Value) : Run Value := do
  noteSaying "CHECK" (checkText left operator right)
  let value ← compare
  noteSaying "RESULT" (resultText value)
  return value

theorem eval_binaryNode (call : Value → Run Value) {entries : List (Value × Value)}
    (node : BinaryNode entries) :
    eval call (Term.ofNode (.dict entries)) =
      operands call entries >>= fun (left, operator, right) => operate operator left right := by
  have read : Term.ofNode (.dict entries) =
      Term.operatorAt (Term.entryAt "left" entries) (Term.entryAt "right" entries) entries := by
    simp [Term.ofNode, node.tagged, node.binary]
  rw [read, Term.operatorAt_eq]
  simp only [operands, bind_assoc, pure_bind]
  have named := node.operator
  revert named
  cases entryOf "operator" entries with
  | error cause => exact fun _ => rfl
  | ok operator =>
      intro named
      cases operator with
      | dict inner => exact absurd rfl (named inner)
      | _ => rfl

theorem evalTest_binaryNode (call : Value → Run Value) {entries : List (Value × Value)}
    (node : BinaryNode entries) :
    evalTest call (Test.ofNode (.dict entries)) =
      operands call entries >>= fun (left, operator, right) =>
        noted left operator right (do
          let left ← reread call left
          let right ← reread call right
          operate operator left right) := by
  have read : Test.ofNode (.dict entries) =
      .operation (Term.entryAt "left" entries) (Term.entryAt "right" entries)
        (entryOf "operator" entries) := by
    simp [Test.ofNode, node.tagged]
  rw [read]
  simp only [evalTest, operands, noted, bind_assoc, pure_bind, eval_ofNode]
  rfl

/-! ## Notes around a comparison -/

end Run

/-- Whether an event is a note. -/
def Event.isNote : Event → Bool
  | .note .. => true
  | _ => false

/-- The machine without its notes: all that it holds and has shown apart from them. -/
def Machine.unnoted (machine : Machine) : Machine :=
  { machine with log := machine.log.filter fun event => !event.isNote }

/-- Whether there are texts for what the notes around a comparison show: the values that are compared,
the operator, and the result if there is one. -/
def sayable (left operator right : Value) (result : Except Stop Value) : Bool :=
  left.speakable && operator.speakable && right.speakable &&
    match result with
    | .ok value => value.speakable
    | .error _ => true

namespace Run

theorem outcome_noteSaying (category : String) (message : Except Fault String)
    (machine : Machine) :
    (noteSaying category message).outcome machine =
      if machine.settings.explain then
        match message with
        | .ok text => (note category text).outcome machine
        | .error cause => (.error (.fault cause), machine)
      else (.ok (), machine) := by
  change (if machine.settings.explain = true then
    lift message >>= fun text => note category text else pure ()).outcome machine = _
  split
  · cases message <;> rfl
  · rfl

theorem checkText_eq (left operator right : Value) :
    checkText left operator right =
      if left.speakable && operator.speakable && right.speakable then
        .ok ("Checking if " ++ left.shown ++ " " ++ operator.shown ++ " " ++ right.shown)
      else .error .digitsShown := by
  rw [checkText, Value.say, Value.say, Value.say]
  cases left.speakable <;> cases operator.speakable <;> cases right.speakable <;> rfl

theorem resultText_eq (value : Value) :
    resultText value =
      if value.speakable then .ok ("Condition evaluates to: " ++ value.shown)
      else .error .digitsShown := by
  rw [resultText, Value.say]
  cases value.speakable <;> rfl

theorem unnoted_note (machine : Machine) (indent : Int) (category text : String)
    (log : List Event) :
    { machine with log := .note indent category text :: log }.unnoted =
      { machine with log := log }.unnoted := rfl

/-- What the notes around a comparison change: the machine has them, and the run stops if there is no
text for one of them. -/
theorem outcome_noted {compare : Run Value} {result : Except Stop Value}
    (compares : ∀ machine, compare.outcome machine = (result, machine))
    (left operator right : Value) (machine : Machine) :
    let ended := (noted left operator right compare).outcome machine
    (machine.settings.explain = false → ended = (result, machine)) ∧
      ended.2.unnoted = machine.unnoted ∧
        ended.1 = if machine.settings.explain && !sayable left operator right result
          then .error (.fault .digitsShown) else result := by
  simp only [noted, outcome_bind, outcome_noteSaying, outcome_note, compares, checkText_eq,
    resultText_eq, outcome_pure]
  cases explains : machine.settings.explain with
  | false => cases result <;> simp [explains]
  | true =>
      cases shown : left.speakable && operator.speakable && right.speakable with
      | false => simp [shown, sayable]
      | true =>
          cases result with
          | error stop => simp [shown, sayable, unnoted_note]
          | ok value =>
              cases said : value.speakable <;>
                simp [explains, shown, said, sayable, unnoted_note]

/-! ## Choices -/

theorem reread_of_inert (call : Value → Run Value) {value : Value} (inert : value.isInert = true) :
    reread call value = pure value := by
  rw [← eval_ofNode, Term.ofNode_of_inert inert, eval]

theorem outcome_readVariable (name : String) (machine : Machine) :
    (readVariable name).outcome machine =
      (match Table.fetch? (.str name) machine.variables with
        | some value => .ok value
        | none => .error (Failure.undefinedVariable (.str name) (Table.keys machine.variables)).stop,
        machine) := by
  rw [readVariable, outcome_get_bind]
  cases Table.fetch? (.str name) machine.variables <;> rfl

/-- A report that shows some values is a fault if one of them has no text. -/
theorem running_stop (message : String) (entry : Value × Value) (rest : List (Value × Value)) :
    let report := Report.running (.str message) .null .null (.dict (entry :: rest))
    report.stop =
      if Value.speakableEntries (entry :: rest) then .report report else .fault .digitsShown := by
  intro report
  have context : report.context = (do
      let lines ← Report.variableLines (entry :: rest)
      return .str ("\n".intercalate ("Current variable state:" :: lines))) := by
    simp only [report, Report.context, Report.contextLine, Value.isTrue, Bool.false_eq_true,
      if_false, List.isEmpty_cons, Bool.not_false, if_true, pure_bind, List.append_nil,
      List.nil_append]
    rfl
  rw [Report.stop, Report.text, context, Report.variableLines_eq]
  cases Value.speakableEntries (entry :: rest) <;> rfl

/-- The report on an unknown variable names it.  It lists the names of the others, so there is none if
one of them has no text. -/
theorem undefinedVariable_stop (name : String) (defined : List Value) :
    (Failure.undefinedVariable (.str name) defined).stop =
      if (Value.list defined).speakable then
        .report (.running (.str ("Undefined variable: " ++ name)) .null .null
          (.record [("attempted_variable", .str name), ("defined_variables", .list defined)]))
      else .fault .digitsShown := by
  have said : Value.speakableEntries [(.str "attempted_variable", .str name),
      (.str "defined_variables", .list defined)] = (Value.list defined).speakable := by
    simp [Value.speakable, Value.speakableEntries]
  rw [← said]
  exact running_stop _ _ _

/-- A choice goes by the value of its condition as a test.  If an operand fails, the test and the
evaluation of the condition fail alike.  Otherwise both have evaluated the operands and have left the
same machine behind.  The evaluation goes on with the operands' values.  The test goes on with what these
values stand for, and inert values stand for themselves: then the two have the same result and the same
effects, apart from the test's notes, and from the fault if a note cannot be worded. -/
theorem choice_by_condition (call : Value → Run Value) {entries : List (Value × Value)}
    (node : BinaryNode entries) (machine : Machine) :
    let test := evalTest call (Test.ofNode (.dict entries))
    let evaluation := eval call (Term.ofNode (.dict entries))
    (∀ isFirst body rest,
      execBranches call (.test isFirst (Test.ofNode (.dict entries)) body :: rest) =
        test >>= fun value =>
          if value.isTrue then
            takeBranch ("Taking " ++ (if isFirst then "if" else "elif") ++ " branch")
              (execBody call body)
          else execBranches call rest) ∧
    (∀ stop after, (operands call entries).outcome machine = (.error stop, after) →
      test.outcome machine = (.error stop, after) ∧
        evaluation.outcome machine = (.error stop, after)) ∧
    (∀ left operator right after,
      (operands call entries).outcome machine = (.ok (left, operator, right), after) →
      evaluation.outcome machine = (operate operator left right).outcome after ∧
      test.outcome machine = (noted left operator right (do
        let left ← reread call left
        let right ← reread call right
        operate operator left right)).outcome after ∧
      (left.isInert = true → right.isInert = true →
        (after.settings.explain = false → test.outcome machine = evaluation.outcome machine) ∧
        (test.outcome machine).2.unnoted = (evaluation.outcome machine).2.unnoted ∧
        (test.outcome machine).1 =
          if after.settings.explain && !sayable left operator right (evaluation.outcome machine).1
          then .error (.fault .digitsShown) else (evaluation.outcome machine).1)) ∧
    (∀ name value, Table.fetch? (.str name) machine.variables = some value →
      (reread call (.str name)).outcome machine = (.ok value, machine)) ∧
    (∀ name, Table.fetch? (.str name) machine.variables = none →
      (reread call (.str name)).outcome machine =
        (.error (if (Value.list (Table.keys machine.variables)).speakable then
          .report (.running (.str ("Undefined variable: " ++ name)) .null .null
            (.record [("attempted_variable", .str name),
              ("defined_variables", .list (Table.keys machine.variables))]))
          else .fault .digitsShown), machine)) ∧
    (∀ wrapper : Value, wrapper.hasTag Value.textTag = true →
      reread call wrapper = lift (wrapper.part "value")) ∧
    (∀ tagged, nodeTag tagged ∈ Term.tags →
      reread call (.dict tagged) = eval call (Term.ofNode (.dict tagged))) := by
  intro test evaluation
  have tests := evalTest_binaryNode call node
  have evaluates := eval_binaryNode call node
  refine ⟨fun isFirst body rest => by rw [execBranches], ?_, ?_, ?_, ?_, ?_, ?_⟩
  · intro stop after operandsEnd
    simp only [test, evaluation, tests, evaluates, outcome_bind, operandsEnd, and_self]
  · intro left operator right after operandsEnd
    have evaluated : evaluation.outcome machine = (operate operator left right).outcome after := by
      simp only [evaluation, evaluates, outcome_bind, operandsEnd]
    refine ⟨evaluated, by simp only [test, tests, outcome_bind, operandsEnd], ?_⟩
    intro inertLeft inertRight
    obtain ⟨result, operates⟩ := still_operate operator left right
    have tested : test.outcome machine =
        (noted left operator right (operate operator left right)).outcome after := by
      simp only [test, tests, outcome_bind, operandsEnd, reread_of_inert call inertLeft,
        reread_of_inert call inertRight, pure_bind]
    rw [tested, evaluated, operates]
    exact outcome_noted operates left operator right after
  · intro name value found
    change (readVariable name).outcome machine = _
    rw [outcome_readVariable, found]
  · intro name missing
    change (readVariable name).outcome machine = _
    rw [outcome_readVariable, missing, undefinedVariable_stop]
  · intro wrapper tagged
    cases wrapper with
    | dict inner => simp only [reread, tagged, if_true]
    | _ => cases tagged
  · intro tagged _
    exact (eval_ofNode call _).symm

/-- The node of an operation. -/
def operationNode (left : Value) (operator : String) (right : Value) : List (Value × Value) :=
  [(.str "type", .str "operation"), (.str "left", left), (.str "operator", .str operator),
    (.str "right", right)]

theorem binaryNode_operationNode (left : Value) (operator : String) (right : Value) :
    BinaryNode (operationNode left operator right) where
  tagged := by simp [operationNode, nodeTag, Table.fetch?, Value.same]
  binary := by simp [operationNode, Table.holds, Table.fetch?, Value.same]
  operator inner := by simp [operationNode, entryOf, Table.fetch?, Value.same]

/-- The variable `x` holds the name of the variable `y`, so the choice compares what `y` holds. -/
theorem choice_by_condition_name :
    let entries := operationNode (.str "x") "==" (.int 3)
    let machine : Machine := { Machine.fresh ⟨false, .standard, 5⟩ none with
      «variables» := [(.str "x", .str "y"), (.str "y", .int 3)] }
    BinaryNode entries ∧
      (evalTest call (Test.ofNode (.dict entries))).outcome machine = (.ok (.bool true), machine) ∧
        (eval call (Term.ofNode (.dict entries))).outcome machine = (.ok (.bool false), machine) := by
  intro entries machine
  have node : BinaryNode entries := binaryNode_operationNode _ _ _
  obtain ⟨evaluated, tested, _⟩ := (choice_by_condition call node machine).2.2.1
    (.str "y") (.str "==") (.int 3) machine rfl
  exact ⟨node, tested.trans rfl, evaluated.trans rfl⟩

/-- The sum of two integers of 4300 digits has one digit more.  A machine that explains itself cannot
note what the choice compares, though the evaluation of the condition gives a truth value. -/
theorem choice_stops_at_note :
    let large : Int := Nat.pow 10 4300 - 1
    let sum := operationNode (.int large) "+" (.int large)
    let entries := operationNode (.dict sum) "!=" (.int 1)
    let machine := Machine.fresh ⟨true, .standard, 5⟩ none
    BinaryNode entries ∧
      (operands call entries).outcome machine =
        (.ok (.int (large + large), .str "!=", .int 1), machine) ∧
      (eval call (Term.ofNode (.dict entries))).outcome machine = (.ok (.bool true), machine) ∧
        (evalTest call (Test.ofNode (.dict entries))).outcome machine =
          (.error (.fault .digitsShown), machine) := by
  intro large sum entries machine
  have node : BinaryNode entries := binaryNode_operationNode _ _ _
  have evaluates : ∀ n : Int, (operands call (operationNode
      (.dict (operationNode (.int n) "+" (.int n))) "!=" (.int 1))).outcome machine =
        (.ok (.int (n + n), .str "!=", .int 1), machine) := fun _ => rfl
  have compares : ∀ n : Int, (operate (.str "!=") (.int n) (.int 1)).outcome machine =
      (.ok (.bool (n != 1)), machine) := fun _ => rfl
  have differs : (large + large != 1) = true := by decide +kernel
  have unsaid : (Value.int (large + large)).speakable = false := by decide +kernel
  refine ⟨node, evaluates large, ?_, ?_⟩
  · rw [eval_binaryNode call node, outcome_bind, evaluates large]
    simp only [compares, differs]
  · rw [evalTest_binaryNode call node, outcome_bind, evaluates large]
    simp only [noted, outcome_bind, outcome_noteSaying, checkText_eq, unsaid, Bool.false_and,
      Bool.false_eq_true, if_false]
    rfl

end Run

end Stepwise
