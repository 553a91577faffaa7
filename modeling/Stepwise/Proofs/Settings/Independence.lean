import Stepwise.Proofs.Settings.Steady

/-!
# Settings do not change what is computed

Every action is steady, by induction on its structure, with the notes around it silent.  Subtasks are
steady by induction on how deeply their calls may be nested, and a whole program follows.  So two new
machines that execute the same program end in the same way, with the same variables and the same lines
of output, whatever their settings are.
-/

namespace Stepwise.Run

/-! ## Loops and branches -/

theorem steady_assignTo (target : Except Fault Value) (value : Value) :
    Steady (assignTo target value) := by
  refine (steady_lift _).bind fun value => (steady_lift _).bind fun target => ?_
  refine (steady_assign target value).bind fun _ => ?_
  refine (steady_lift _).bind fun shown => (steady_lift _).bind fun name => ?_
  exact (silent_note _ _).steady.bind fun _ => steady_pure _

theorem steady_closeLoop (result : Value) {closing : Run Unit} (silent : Silent closing) :
    Steady (closeLoop result closing) := by
  refine steady_ite ?_ ?_
  · exact (silent_explainedIndentBy _).steady.bind fun _ => steady_pure _
  · refine silent.steady.bind fun _ => ?_
    exact (silent_explainedIndentBy _).steady.bind fun _ => steady_pure _

section Bodies

variable {body : Run Value}

theorem steady_loopDirect (steady : Steady body) (item node : Value) (supply : Supply) :
    Steady (loopDirect item node supply body) := by
  refine (silent_openLoop node).steady.bind fun _ => ?_
  refine (steady_forSupply (fun _ value => ?_) supply).bind fun result => ?_
  · refine (steady_assign item value).bind fun _ => ?_
    exact (silent_noteIteration fun count => limited_iterationNote count item value).steady.bind
      fun _ => steady
  · exact steady_closeLoop result silent_completeLoop

theorem steady_loopEnumerated (steady : Steady body) (index element node : Value)
    (supply : Supply) : Steady (loopEnumerated index element node supply body) := by
  refine (silent_openLoop node).steady.bind fun _ => ?_
  refine (steady_forSupply (fun number value => ?_) supply).bind fun result => ?_
  · refine (steady_assign index (.int number)).bind fun _ => ?_
    refine (steady_assign element value).bind fun _ => ?_
    exact (silent_noteIteration fun count =>
      limited_numberedNote count index (.int number) element value).steady.bind fun _ => steady
  · exact steady_closeLoop result silent_completeLoop

theorem steady_loopOver (steady : Steady body) (item : Value) (source : LoopFeed) :
    Steady (loopOver item source body) := by
  cases source with
  | direct name =>
      refine (steady_valueNamed? name).bind fun found => ?_
      cases found with
      | none =>
          refine steady_get_bind (fun left right same => ?_) fun machine => steady_throw _
          simp only [variables_eq same]
      | some value =>
          dsimp only
          split
          · exact steady_throw _
          · exact steady_loopDirect steady item name _
  | enumerated name element node =>
      refine (steady_valueNamed? name).bind fun found => ?_
      cases found with
      | none => exact steady_throw _
      | some value =>
          refine (steady_supplyOf value).bind fun supply => ?_
          refine (steady_lift _).bind fun element => ?_
          exact steady_loopEnumerated steady item element node supply

theorem steady_loopBelow (steady : Steady body) (item bound : Value) :
    Steady (loopBelow item bound body) := by
  refine (steady_lift _).bind fun stop => ?_
  refine (silent_openRange stop).steady.bind fun _ => ?_
  refine (steady_forSupply (fun number value => ?_) _).bind fun result => ?_
  · refine (steady_assign item value).bind fun _ => ?_
    exact (silent_noteRangeIteration _ number item value).steady.bind fun _ => steady
  · exact steady_closeLoop result (silent_note _ _)

theorem steady_notNumbered (name value : Value) : Steady (notNumbered name value) :=
  (steady_lift _).bind fun _ => steady_throw _

theorem steady_loopNumbered (steady : Steady body) (index element : Except Fault Value)
    (name : Value) : Steady (loopNumbered index element name body) := by
  refine (steady_valueNamed? name).bind fun found => ?_
  cases found with
  | none => exact steady_throw _
  | some value =>
      dsimp only
      split
      · exact steady_notNumbered name value
      refine (silent_openNumbered name).steady.bind fun _ => ?_
      refine (steady_forSupply (fun number item => ?_) _).bind fun result => ?_
      · refine (steady_lift _).bind fun index => ?_
        refine (steady_assign index (.int number)).bind fun _ => ?_
        refine (steady_lift _).bind fun element => ?_
        refine (steady_assign element item).bind fun _ => ?_
        have noted := limited_numberedNote number index (.int number) element item
        exact (silent_whenShown number (silent_noteSaying _ noted)).steady.bind fun _ => steady
      · exact steady_closeLoop result (silent_note _ _)

theorem steady_takeBranch (steady : Steady body) (message : String) :
    Steady (takeBranch message body) := by
  refine (silent_note _ _).steady.bind fun _ => ?_
  refine (silent_explainedIndentBy 1).steady.bind fun _ => ?_
  refine steady.bind fun result => ?_
  refine steady_ite ?_ ?_
  · exact (silent_explainedIndentBy _).steady.bind fun _ => steady_pure _
  · exact (silent_explainedIndentBy _).steady.bind fun _ => steady_pure _

end Bodies

/-! ## Actions -/

section Calls

variable {call : Value → Run Value}

theorem steady_evalTest (steadyCall : ∀ name, Steady (call name)) (test : Test) :
    Steady (evalTest call test) := by
  have resulting (value : Value) : Silent (noteSaying "RESULT" do
      return "Condition evaluates to: " ++ (← value.say)) :=
    silent_noteSaying _ ((limited_say value).bind fun _ => limited_ok _)
  cases test with
  | operation left right operator =>
      refine (steady_eval steadyCall left).bind fun left => ?_
      refine (steady_eval steadyCall right).bind fun right => ?_
      refine (steady_lift _).bind fun operator => ?_
      refine (silent_noteSaying _ ?_).steady.bind fun _ => ?_
      · exact (limited_say left).bind fun _ => (limited_say operator).bind fun _ =>
          (limited_say right).bind fun _ => limited_ok _
      refine (steady_eval steadyCall _).bind fun left => ?_
      refine (steady_eval steadyCall _).bind fun right => ?_
      refine (steady_operate operator left right).bind fun value => ?_
      exact (resulting value).steady.bind fun _ => steady_pure _
  | plain term node =>
      refine (steady_eval steadyCall term).bind fun value => ?_
      refine (silent_noteSaying _ ?_).steady.bind fun _ => ?_
      · exact (limited_say node).bind fun _ => limited_ok _
      exact (resulting value).steady.bind fun _ => steady_pure _

mutual

theorem steady_exec (steadyCall : ∀ name, Steady (call name)) (action : Action) :
    Steady (exec call action) := by
  cases action with
  | skip => exact steady_pure _
  | fault cause => exact steady_throw _
  | assign target value =>
      exact (steady_eval steadyCall value).bind fun value => steady_assignTo target value
  | call term => exact steady_eval steadyCall term
  | yield value => exact (steady_eval steadyCall value).bind fun _ => steady_pure _
  | decide branches =>
      exact silent_openChoice.steady.bind fun _ => steady_execBranches steadyCall branches
  | forEach item source body =>
      exact steady_loopOver (steady_execBody steadyCall body) item source
  | forRange item bound body =>
      exact (steady_eval steadyCall bound).bind fun bound =>
        steady_loopBelow (steady_execBody steadyCall body) item bound
  | forEnumerated index element collection body =>
      exact steady_loopNumbered (steady_execBody steadyCall body) index element collection

theorem steady_execBody (steadyCall : ∀ name, Steady (call name)) (actions : List Action) :
    Steady (execBody call actions) := by
  cases actions with
  | nil => exact steady_pure _
  | cons action rest =>
      refine (steady_exec steadyCall action).bind fun result => ?_
      exact steady_ite (steady_pure result) (steady_execBody steadyCall rest)

theorem steady_execBranches (steadyCall : ∀ name, Steady (call name)) (branches : List Branch) :
    Steady (execBranches call branches) := by
  cases branches with
  | nil => exact (silent_explainedIndentBy _).steady.bind fun _ => steady_pure _
  | cons branch rest =>
      cases branch with
      | fault cause => exact steady_throw _
      | test isFirst test body =>
          refine (steady_evalTest steadyCall test).bind fun value => ?_
          exact steady_ite (steady_takeBranch (steady_execBody steadyCall body) _)
            (steady_execBranches steadyCall rest)
      | otherwise body => exact steady_takeBranch (steady_execBody steadyCall body) _

end

theorem steady_execAll (steadyCall : ∀ name, Steady (call name)) (actions : List Action) :
    Steady (execAll call actions) := by
  induction actions with
  | nil => exact steady_pure _
  | cons action rest ih => exact (steady_exec steadyCall action).bind fun _ => ih

end Calls

/-! ## Subtasks, tasks and programs -/

theorem steady_runSubtaskBody {call : Value → Run Value} (steadyCall : ∀ name, Steady (call name))
    (body : List Action) : Steady (runSubtaskBody call body) := by
  refine (steady_execBody steadyCall body).bind fun result => ?_
  refine (silent_indentBy _).steady.bind fun _ => ?_
  exact steady_ite (steady_lift _) (steady_pure _)

theorem steady_runSubtask (depth : Nat) (name : Value) : Steady (runSubtask depth name) := by
  induction depth generalizing name with
  | zero => exact steady_throw _
  | succ depth ih =>
      refine (steady_lift _).bind fun key => ?_
      refine steady_get_bind (fun left right same => ?_) fun machine => ?_
      · simp only [subtasks_eq same]
      split
      · refine steady_get_bind (fun left right same => ?_) fun machine => steady_throw _
        simp only [subtasks_eq same]
      · refine (steady_lift _).bind fun shown => ?_
        refine (silent_note _ _).steady.bind fun _ => ?_
        refine (silent_indentBy 1).steady.bind fun _ => ?_
        exact steady_runSubtaskBody ih _

section Tasks

variable {call : Value → Run Value}

theorem steady_runStep (steadyCall : ∀ name, Steady (call name)) (step : StepCode) :
    Steady (runStep call step) := by
  refine (steady_lift _).bind fun name => (steady_lift _).bind fun shown => ?_
  refine (silent_note _ _).steady.bind fun _ => ?_
  refine (silent_indentBy 1).steady.bind fun _ => ?_
  exact (steady_execAll steadyCall step.body).bind fun _ => (silent_indentBy _).steady

theorem steady_runItems (steadyCall : ∀ name, Steady (call name)) (items : List TaskItem) :
    Steady (runItems call items) := by
  induction items with
  | nil => exact steady_pure _
  | cons item rest ih =>
      cases item with
      | fault cause => exact steady_throw _
      | step step => exact (steady_runStep steadyCall step).bind fun _ => ih
      | subtask name body =>
          exact (steady_lift _).bind fun name => (steadyCall name).bind fun _ => ih
      | other => exact ih

theorem steady_runTask (steadyCall : ∀ name, Steady (call name)) (name : Value) :
    Steady (runTask call name) := by
  refine (steady_lift _).bind fun key => ?_
  refine steady_get_bind (fun left right same => ?_) fun machine => ?_
  · simp only [tasks_eq same]
  split
  · refine steady_get_bind (fun left right same => ?_) fun machine => steady_throw _
    simp only [tasks_eq same]
  · refine (steady_lift _).bind fun shown => ?_
    refine (silent_note _ _).steady.bind fun _ => ?_
    refine (silent_indentBy 1).steady.bind fun _ => ?_
    exact (steady_runItems steadyCall _).bind fun _ => (silent_indentBy _).steady

theorem steady_runTasks (steadyCall : ∀ name, Steady (call name)) (names : List Value) :
    Steady (runTasks call names) := by
  induction names with
  | nil => exact steady_pure _
  | cons name rest ih => exact (steady_runTask steadyCall name).bind fun _ => ih

end Tasks

theorem steady_registerItems (items : List TaskItem) : Steady (registerItems items) := by
  induction items with
  | nil => exact steady_pure _
  | cons item rest ih =>
      cases item with
      | fault cause => exact steady_throw _
      | step step => exact ih
      | other => exact ih
      | subtask name body =>
          refine (steady_lift _).bind fun name => (steady_lift _).bind fun key => ?_
          exact (steady_modify
            (fun computed => { computed with subtasks := Table.store key body computed.subtasks })
            fun _ => rfl).bind fun _ => ih

theorem steady_registerTask (task : Value) : Steady (registerTask task) := by
  refine (steady_lift _).bind fun name => (steady_lift _).bind fun key => ?_
  refine (steady_modify (fun computed =>
    { computed with tasks := Table.store key (TaskItem.itemsOf task) computed.tasks })
    fun _ => rfl).bind fun _ => ?_
  exact steady_registerItems _

theorem steady_registerAll (tasks : List Value) : Steady (registerAll tasks) := by
  induction tasks with
  | nil => exact steady_pure _
  | cons task rest ih => exact (steady_registerTask task).bind fun _ => ih

theorem steady_passing (result : Except Stop Unit) : Steady (passing result) := by
  cases result with
  | ok => exact steady_pure _
  | error stop => exact steady_throw stop

theorem steady_executeChecked (program : Program) : Steady (executeChecked program.node) := by
  have isText : program.node.part "objective" = .ok (.str program.objective) := rfl
  refine steady_get_bind (fun left right same => ?_) fun machine => ?_
  · simp only [source_eq same]
  refine (steady_passing _).bind fun _ => ?_
  refine (silent_announce isText).steady.bind fun _ => ?_
  refine (steady_lift _).bind fun tasks => ?_
  refine Steady.bind ((steady_lift _).bind steady_registerAll) fun _ => ?_
  refine (steady_lift _).bind fun runs => (steady_lift _).bind fun names => ?_
  exact steady_runTasks (steady_runSubtask maxDepth) names

/-- How the execution of a program ends: a fault is reported with the variables. -/
def reported (state : Table Value) : Except Stop Unit → Except Stop Unit
  | .error (.fault cause) => .error (Failure.broken cause state).stop
  | ended => ended

theorem outcome_tryCatch {α : Type} (run : Run α) (handle : Stop → Run α) (machine : Machine) :
    (tryCatch run handle).outcome machine =
      match run.outcome machine with
      | (.ok value, after) => (.ok value, after)
      | (.error stop, after) => (handle stop).outcome after := by
  simp only [outcome, ExceptT.run, tryCatch, tryCatchThe, MonadExceptOf.tryCatch, ExceptT.tryCatch,
    ExceptT.mk, StateT.run, bind, StateT.bind]
  cases run machine with
  | mk result after => cases result <;> rfl

theorem outcome_execute (tree : Value) (machine : Machine) :
    (execute tree).outcome machine =
      (reported ((executeChecked tree).outcome machine).2.variables
        ((executeChecked tree).outcome machine).1, ((executeChecked tree).outcome machine).2) := by
  rw [execute, outcome_tryCatch]
  rcases (executeChecked tree).outcome machine with ⟨ended, after⟩
  cases ended with
  | ok => rfl
  | error stop => cases stop <;> rfl

/-- Executing the program on a new machine does not stop because a value is too large to be shown or
counted. -/
def WithinLimits (program : Program) (source : Option String) (settings : Settings) : Prop :=
  atLimit ((executeChecked program.node).outcome (.fresh settings source)).1 = false

instance (program : Program) (source : Option String) (settings : Settings) :
    Decidable (WithinLimits program source settings) :=
  inferInstanceAs (Decidable (_ = false))

/-- Whether a machine explains itself, in which style and for how many iterations does not matter for
what a program computes: how it ends, the variables in their order and the lines of output. -/
theorem execute_fresh_settings (program : Program) (source : Option String)
    (first second : Settings) (firstWithin : WithinLimits program source first)
    (secondWithin : WithinLimits program source second) :
    let left := (execute program.node).outcome (.fresh first source)
    let right := (execute program.node).outcome (.fresh second source)
    left.1 = right.1 ∧ left.2.variables = right.2.variables ∧ left.2.outputs = right.2.outputs := by
  have agree := steady_executeChecked program (.fresh first source) (.fresh second source) rfl
  simp only [outcome_execute]
  rcases agree with limit | limit | ⟨sameEnd, sameComputed⟩
  · rw [WithinLimits, limit] at firstWithin
    cases firstWithin
  · rw [WithinLimits, limit] at secondWithin
    cases secondWithin
  · have sameVariables := variables_eq sameComputed
    rw [sameEnd, sameVariables]
    exact ⟨rfl, rfl, congrArg Computed.outputs sameComputed⟩

/-- A loop with a choice in it and a call of a subtask by another spelling of its name.  One of the
machines explains only the first iteration; both stop at an unknown variable, after some output. -/
theorem execute_fresh_settings_sample :
    let program : Program := ⟨"count", [⟨"t", [
      .step "s" [
        .assign "x" (.list [.int 1, .int 2, .int 3]),
        .forEach "i" (.name "x") [
          .decide (.binary .equal (.name "i") (.int 3)) [.assign "y" (.name "missing")] [] true,
          .call "show_it" []]],
      .subtask "Show It" [.call "print" [.text "i =", .name "i"]]]⟩], ["t"]⟩
    let quiet : Settings := ⟨false, .standard, 5⟩
    let explaining : Settings := ⟨true, .markdown, 1⟩
    let left := (execute program.node).outcome (.fresh quiet none)
    let right := (execute program.node).outcome (.fresh explaining none)
    (WithinLimits program none quiet ∧ WithinLimits program none explaining) ∧
      left.1 = right.1 ∧ left.2.variables = right.2.variables ∧
        left.2.outputs = right.2.outputs := by
  intro program quiet explaining
  have quietWithin : WithinLimits program none quiet := by decide +kernel
  have explainingWithin : WithinLimits program none explaining := by decide +kernel
  exact ⟨⟨quietWithin, explainingWithin⟩,
    execute_fresh_settings program none quiet explaining quietWithin explainingWithin⟩

end Stepwise.Run
