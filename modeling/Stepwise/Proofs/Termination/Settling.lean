import Stepwise.Proofs.Settings.Independence
import Stepwise.Proofs.Termination.Clock
import Stepwise.Proofs.Termination.Enumeration

/-!
# Runs with boundedly many active calls end

For every bound on the number of calls that are active at once, some amount of fuel suffices for a run
to finish or to need more room than there is.  A run that finishes ends as the execution with nested
calls ends, with the same machine.

The argument follows the recursion of the interpreter.  On the outside it is an induction on the bound,
which is smaller in the body of a subtask; inside, terms and actions are smaller than what they are parts
of.  The values that a test evaluates once more are terms like others.  A loop goes by the items that are
left, and a body never adds to the items of an enumeration.
-/

namespace Stepwise.Clocked

variable {α β γ : Type}

/-! ## Outcomes from some fuel on -/

theorem outcome_bind (run : Clocked α) (next : α → Clocked β) (machine : Machine) :
    (run >>= next).outcome machine =
      match run.outcome machine with
      | none => none
      | some (.ok value, after) => (next value).outcome after
      | some (.error halt, after) => some (.error halt, after) := by
  simp only [outcome, ExceptT.run, bind, ExceptT.bind, ExceptT.mk, StateT.run, StateT.bind]
  cases run machine with
  | none => rfl
  | some pair =>
      obtain ⟨result, after⟩ := pair
      cases result <;> rfl

/-- With enough fuel the computation has this outcome. -/
def Reaches (run : Nat → Clocked α) (machine : Machine) (last : Except Halt α × Machine) : Prop :=
  ∃ enough, ∀ fuel, enough ≤ fuel → (run fuel).outcome machine = some last

variable {machine after : Machine}

theorem Reaches.step {run : Nat → Clocked α} {last : Except Halt α × Machine}
    (reaches : Reaches (fun fuel => run (fuel + 1)) machine last) : Reaches run machine last := by
  obtain ⟨enough, ends⟩ := reaches
  refine ⟨enough + 1, fun fuel ample => ?_⟩
  obtain ⟨less, rfl⟩ : ∃ less, fuel = less + 1 := ⟨fuel - 1, by omega⟩
  exact ends less (by omega)

theorem reaches_lift (run : Run α) (machine : Machine) :
    Reaches (fun _ => lift run) machine (ended (run.outcome machine)) :=
  ⟨0, fun _ _ => rfl⟩

theorem Reaches.bind_ok {run : Nat → Clocked α} {next : Nat → α → Clocked β} {value : α}
    {last : Except Halt β × Machine} (reaches : Reaches run machine (.ok value, after))
    (reachesNext : Reaches (fun fuel => next fuel value) after last) :
    Reaches (fun fuel => run fuel >>= next fuel) machine last := by
  obtain ⟨enough, ends⟩ := reaches
  obtain ⟨enoughNext, endsNext⟩ := reachesNext
  refine ⟨max enough enoughNext, fun fuel ample => ?_⟩
  rw [outcome_bind, ends fuel (by omega)]
  exact endsNext fuel (by omega)

theorem Reaches.bind_error {run : Nat → Clocked α} {next : Nat → α → Clocked β} {halt : Halt}
    (reaches : Reaches run machine (.error halt, after)) :
    Reaches (fun fuel => run fuel >>= next fuel) machine (.error halt, after) := by
  obtain ⟨enough, ends⟩ := reaches
  refine ⟨enough, fun fuel ample => ?_⟩
  rw [outcome_bind, ends fuel ample]

/-! ## Settling -/

/-- With enough fuel the unlimited computation ends as a run does, and so does the one with some room;
or the one with some room exceeds it, where the run stops because calls are nested too deeply. -/
def SettlesAt (watched unlimited : Nat → Clocked α) (run : Run α) (machine : Machine) : Prop :=
  Reaches watched machine (ended (run.outcome machine)) ∧
      Reaches unlimited machine (ended (run.outcome machine)) ∨
    ∃ after, Reaches watched machine (.error .exceeded, after) ∧
      run.outcome machine = (.error (.fault .callsTooDeep), after)

/-- The computation settles on every machine, with room for some active calls. -/
def Settles (room : Nat) (clocked : Option Nat → Nat → Clocked α) (run : Run α) : Prop :=
  ∀ machine, SettlesAt (clocked (some room)) (clocked none) run machine

theorem SettlesAt.bind {watched unlimited : Nat → Clocked α} {run : Run α}
    {watchedNext unlimitedNext : Nat → α → Clocked β} {next : α → Run β}
    (settles : SettlesAt watched unlimited run machine)
    (settlesNext : ∀ value after, run.outcome machine = (.ok value, after) →
      SettlesAt (fun fuel => watchedNext fuel value) (fun fuel => unlimitedNext fuel value)
        (next value) after) :
    SettlesAt (fun fuel => watched fuel >>= watchedNext fuel)
      (fun fuel => unlimited fuel >>= unlimitedNext fuel) (run >>= next) machine := by
  rw [SettlesAt, Run.outcome_bind]
  rcases settles with ⟨watches, finishes⟩ | ⟨after, exceeds, stops⟩
  · rcases result : run.outcome machine with ⟨result | value, after⟩
    · rw [result] at watches finishes
      exact .inl ⟨watches.bind_error, finishes.bind_error⟩
    · rw [result] at watches finishes
      rcases settlesNext value after result with
        ⟨watchesNext, finishesNext⟩ | ⟨last, exceedsNext, stopsNext⟩
      · exact .inl ⟨watches.bind_ok watchesNext, finishes.bind_ok finishesNext⟩
      · exact .inr ⟨last, watches.bind_ok exceedsNext, stopsNext⟩
  · exact .inr ⟨after, exceeds.bind_error, by rw [stops]⟩

theorem SettlesAt.step {watched unlimited : Nat → Clocked α} {run : Run α}
    (settles : SettlesAt (fun fuel => watched (fuel + 1)) (fun fuel => unlimited (fuel + 1)) run
      machine) : SettlesAt watched unlimited run machine := by
  rcases settles with ⟨watches, finishes⟩ | ⟨after, exceeds, stops⟩
  · exact .inl ⟨watches.step, finishes.step⟩
  · exact .inr ⟨after, exceeds.step, stops⟩

theorem settlesAt_lift (run : Run α) (machine : Machine) :
    SettlesAt (fun _ => lift run) (fun _ => lift run) run machine :=
  .inl ⟨reaches_lift run machine, reaches_lift run machine⟩

section Rules

variable {room : Nat} {run other : Run α} {clocked clockedOther : Option Nat → Nat → Clocked α}

theorem settles_lift (run : Run α) : Settles room (fun _ _ => lift run) run :=
  settlesAt_lift run

theorem settles_pure (value : α) : Settles room (fun _ _ => pure value) (pure value) :=
  settlesAt_lift (pure value)

theorem Settles.bind {clockedNext : Option Nat → Nat → α → Clocked β} {next : α → Run β}
    (settles : Settles room clocked run)
    (settlesNext : ∀ value, Settles room (fun watch fuel => clockedNext watch fuel value)
      (next value)) :
    Settles room (fun watch fuel => clocked watch fuel >>= clockedNext watch fuel) (run >>= next) :=
  fun machine => (settles machine).bind fun value after _ => settlesNext value after

theorem Settles.step (settles : Settles room (fun watch fuel => clocked watch (fuel + 1)) run) :
    Settles room clocked run :=
  fun machine => (settles machine).step

theorem settles_ite {condition : Prop} [Decidable condition] (settles : Settles room clocked run)
    (settlesOther : Settles room clockedOther other) :
    Settles room (fun watch fuel =>
      if condition then clocked watch fuel else clockedOther watch fuel)
      (if condition then run else other) := by
  split
  · exact settles
  · exact settlesOther

end Rules

/-! ## Terms -/

/-- Calls of subtasks settle. -/
def CallsSettle (room : Nat) : Prop :=
  ∀ name, Settles room (fun watch fuel => runSubtask watch fuel name) (Run.runSubtask room name)

section Code

variable {room : Nat}

theorem settles_callFunction (calls : CallsSettle room) (function : Value) (arguments : List Value) :
    Settles room (fun watch fuel => callFunction watch fuel function arguments)
      (Run.callFunction (Run.runSubtask room) function arguments) := by
  refine Settles.step ?_
  have subtask : Settles room (fun watch fuel => do
      let key ← lift (Run.resolve function)
      runSubtask watch fuel key) (Run.callSubtask (Run.runSubtask room) function) := by
    rw [Run.callSubtask_eq]
    exact (settles_lift _).bind calls
  cases function with
  | str name =>
      simp only [callFunction, Run.callFunction]
      cases Run.builtin? name with
      | none => exact subtask
      | some run => exact settles_lift (run arguments)
  | _ => exact subtask

mutual

theorem settles_eval (calls : CallsSettle room) (term : Term) :
    Settles room (fun watch fuel => eval watch fuel term)
      (Run.eval (Run.runSubtask room) term) := by
  refine Settles.step ?_
  cases term with
  | const value => exact settles_pure value
  | var name => exact settles_lift _
  | fault cause => exact settles_lift _
  | after first last =>
      exact (settles_eval calls first).bind fun _ => settles_eval calls last
  | list items => exact (settles_evalItems calls items).bind fun _ => settles_pure _
  | dict entries => exact (settles_evalEntries calls entries []).bind fun _ => settles_pure _
  | index container key =>
      exact (settles_eval calls container).bind fun _ => (settles_eval calls key).bind fun _ =>
        settles_lift _
  | negate operand => exact (settles_eval calls operand).bind fun _ => settles_lift _
  | binary operator left right =>
      exact (settles_eval calls left).bind fun _ => (settles_eval calls right).bind fun _ =>
        settles_lift _
  | call function arguments =>
      exact (settles_evalAll calls arguments).bind fun values =>
        settles_callFunction calls function values

theorem settles_evalAll (calls : CallsSettle room) (terms : List Term) :
    Settles room (fun watch fuel => evalAll watch fuel terms)
      (Run.evalAll (Run.runSubtask room) terms) := by
  refine Settles.step ?_
  cases terms with
  | nil => exact settles_pure _
  | cons term rest =>
      exact (settles_eval calls term).bind fun _ => (settles_evalAll calls rest).bind fun _ =>
        settles_pure _

theorem settles_evalItems (calls : CallsSettle room) (terms : List Term) :
    Settles room (fun watch fuel => evalItems watch fuel terms)
      (Run.evalItems (Run.runSubtask room) terms) := by
  refine Settles.step ?_
  cases terms with
  | nil => exact settles_pure _
  | cons term rest =>
      exact (settles_eval calls term).bind fun _ => (settles_lift _).bind fun _ =>
        (settles_evalItems calls rest).bind fun _ => settles_pure _

theorem settles_evalEntries (calls : CallsSettle room) (entries : List (Term × Term))
    (stored : Table Value) :
    Settles room (fun watch fuel => evalEntries watch fuel entries stored)
      (Run.evalEntries (Run.runSubtask room) entries stored) := by
  refine Settles.step ?_
  cases entries with
  | nil => exact settles_pure _
  | cons entry rest =>
      obtain ⟨key, value⟩ := entry
      exact (settles_eval calls key).bind fun _ => (settles_eval calls value).bind fun _ =>
        (settles_lift _).bind fun _ => (settles_lift _).bind fun _ => (settles_lift _).bind fun _ =>
          settles_evalEntries calls rest _

end

theorem settles_evalTest (calls : CallsSettle room) (test : Test) :
    Settles room (fun watch fuel => evalTest watch fuel test)
      (Run.evalTest (Run.runSubtask room) test) := by
  refine Settles.step ?_
  cases test with
  | operation left right operator =>
      refine (settles_eval calls left).bind fun left => ?_
      refine (settles_eval calls right).bind fun right => (settles_lift _).bind fun operator => ?_
      refine (settles_lift _).bind fun _ => (settles_eval calls _).bind fun _ => ?_
      exact (settles_eval calls _).bind fun _ => (settles_lift _).bind fun _ =>
        (settles_lift _).bind fun _ => settles_pure _
  | plain term node =>
      exact (settles_eval calls term).bind fun _ => (settles_lift _).bind fun _ =>
        (settles_lift _).bind fun _ => settles_pure _

/-! ## Loops -/

theorem outcome_draw?_cursor (cursor : Nat) (machine : Machine) :
    (Run.draw? (.cursor cursor)).outcome machine =
      match Cursor.take? machine.cursors (cursor + 1) cursor with
      | none => (.ok none, machine)
      | some (item, cursors) =>
        (.ok (some (item, .cursor cursor)), { machine with cursors := cursors }) := by
  rw [Run.draw?, Run.takeCursor?, bind_assoc, Run.outcome_get_bind]
  cases Cursor.take? machine.cursors (cursor + 1) cursor <;> rfl

theorem forCursor_succ (step : Nat → Value → Run Value) (cursor count number : Nat) :
    Run.forCursor step cursor (count + 1) number = (do
      match ← Run.draw? (.cursor cursor) with
      | none => return .null
      | some (item, _) =>
        let result ← step number item
        if Run.endsBody result then return result
        else Run.forCursor step cursor count (number + 1)) := by
  rw [Run.forCursor, Run.draw?, bind_assoc]
  congr 1
  funext taken
  cases taken <;> rfl

/-- A loop over an enumeration without items has no iteration, whatever its count is. -/
theorem settlesAt_iterate_exhausted (step : Nat → Value → Run Value)
    (prepare : Nat → Value → Run Unit) (body : List Action) (cursor count number : Nat)
    (machine : Machine)
    (exhausted : Cursor.take? machine.cursors (cursor + 1) cursor = none) :
    SettlesAt (fun fuel => iterate (some room) fuel prepare body (.cursor cursor) number)
      (fun fuel => iterate none fuel prepare body (.cursor cursor) number)
      (Run.forCursor step cursor count number) machine := by
  have draws : (Run.draw? (.cursor cursor)).outcome machine = (.ok none, machine) := by
    rw [outcome_draw?_cursor, exhausted]
  have ends : (Run.forCursor step cursor count number).outcome machine = (.ok .null, machine) := by
    cases count with
    | zero => rfl
    | succ count =>
        rw [forCursor_succ, Run.outcome_bind, draws]
        rfl
  have reaches : ∀ watch, Reaches
      (fun fuel => iterate watch fuel prepare body (.cursor cursor) number) machine
      (.ok .null, machine) := by
    intro watch
    have drawn := reaches_lift (Run.draw? (.cursor cursor)) machine
    rw [draws] at drawn
    exact Reaches.step (drawn.bind_ok ⟨0, fun _ _ => rfl⟩)
  rw [SettlesAt, ends]
  exact .inl ⟨reaches _, reaches _⟩

section Loops

variable {prepare : Nat → Value → Run Unit} {body : List Action}
  (settles : Settles room (fun watch fuel => execBody watch fuel body)
    (Run.execBody (Run.runSubtask room) body))
include settles

theorem settles_iterate_items (items : List Value) (number : Nat) :
    Settles room (fun watch fuel => iterate watch fuel prepare body (.feed (.items items)) number)
      (Run.forItems (fun number item => do
        prepare number item
        Run.execBody (Run.runSubtask room) body) items number) := by
  induction items generalizing number with
  | nil => exact Settles.step (settles_pure _)
  | cons item items ih =>
      rw [Run.forItems, bind_assoc]
      refine Settles.step ?_
      exact (settles_lift (prepare number item)).bind fun _ => settles.bind fun result =>
        settles_ite (settles_pure result) (ih (number + 1))

theorem settles_iterate_span (step : Int) (count : Nat) (start : Int) (number : Nat) :
    Settles room
      (fun watch fuel => iterate watch fuel prepare body (.feed (.span start step count)) number)
      (Run.forSpan (fun number item => do
        prepare number item
        Run.execBody (Run.runSubtask room) body) step count start number) := by
  induction count generalizing start number with
  | zero => exact Settles.step (settles_pure _)
  | succ count ih =>
      rw [Run.forSpan, bind_assoc]
      refine Settles.step ?_
      exact (settles_lift (prepare number (.int start))).bind fun _ => settles.bind fun result =>
        settles_ite (settles_pure result) (ih (start + step) (number + 1))

/-- A loop that draws on an enumeration settles if its count is at least the number of items that are
left: each item leaves fewer of them, and the body adds none. -/
theorem settlesAt_iterate_cursor (moves : ∀ number item, (prepare number item).Moves)
    (cursor count number : Nat) (machine : Machine)
    (bounded : Cursor.remaining machine.cursors (cursor + 1) cursor ≤ count) :
    SettlesAt (fun fuel => iterate (some room) fuel prepare body (.cursor cursor) number)
      (fun fuel => iterate none fuel prepare body (.cursor cursor) number)
      (Run.forCursor (fun number item => do
        prepare number item
        Run.execBody (Run.runSubtask room) body) cursor count number) machine := by
  induction count generalizing number machine with
  | zero =>
      exact settlesAt_iterate_exhausted _ _ _ _ _ _ _
        (Cursor.take?_of_remaining_eq_zero (Nat.le_zero.mp bounded))
  | succ count ih =>
      cases taken : Cursor.take? machine.cursors (cursor + 1) cursor with
      | none => exact settlesAt_iterate_exhausted _ _ _ _ _ _ _ taken
      | some pair =>
          obtain ⟨item, cursors⟩ := pair
          rw [forCursor_succ]
          refine SettlesAt.step ((settlesAt_lift _ machine).bind fun drawn middle drew => ?_)
          rw [outcome_draw?_cursor, taken] at drew
          cases drew
          dsimp only
          rw [bind_assoc]
          refine (settlesAt_lift (prepare number item) _).bind fun _ second prepared => ?_
          refine (settles second).bind fun result third executed => ?_
          split
          · exact settlesAt_lift (pure result) third
          · refine ih (number + 1) third ?_
            have early := moves number item { machine with cursors := cursors }
            have late := Run.moves_execBody (Run.moves_runSubtask room) body second
            rw [prepared] at early
            rw [executed] at late
            have grounded :=
              ((Cursor.grounded_of_take? taken).advance (Cursor.advance_take? taken)).1
            have fewer := Cursor.remaining_take? taken
            have noMore := (grounded.advance (Machine.Changes.advance (early.trans late))).2
            exact Nat.le_of_lt_succ (Nat.lt_of_lt_of_le (Nat.lt_of_le_of_lt noMore fewer) bounded)

theorem settles_iterate (moves : ∀ number item, (prepare number item).Moves) (supply : Supply) :
    Settles room (fun watch fuel => iterate watch fuel prepare body supply 0)
      (Run.forSupply supply fun number item => do
        prepare number item
        Run.execBody (Run.runSubtask room) body) := by
  cases supply with
  | feed feed =>
      cases feed with
      | items items => exact settles_iterate_items settles items 0
      | span start step count => exact settles_iterate_span settles step count start 0
  | cursor cursor =>
      intro machine
      rw [SettlesAt, Run.forSupply, Run.outcome_get_bind]
      exact settlesAt_iterate_cursor settles moves cursor _ 0 machine (Nat.le_refl _)

theorem settles_runLoop (loop : Loop) :
    Settles room (fun watch fuel => runLoop watch fuel loop body)
      (Run.runLoop loop (Run.execBody (Run.runSubtask room) body)) :=
  Settles.step ((settles_iterate settles loop.moves loop.supply).bind fun _ => settles_lift _)

end Loops

/-! ## Actions -/

mutual

theorem settles_exec (calls : CallsSettle room) (action : Action) :
    Settles room (fun watch fuel => exec watch fuel action)
      (Run.exec (Run.runSubtask room) action) := by
  refine Settles.step ?_
  cases action with
  | skip => exact settles_pure _
  | fault cause => exact settles_lift _
  | assign target value => exact (settles_eval calls value).bind fun _ => settles_lift _
  | call term => exact settles_eval calls term
  | yield value => exact (settles_eval calls value).bind fun _ => settles_pure _
  | decide branches => exact (settles_lift _).bind fun _ => settles_execBranches calls branches
  | forEach item source body =>
      rw [Run.exec, Run.loopOver_eq]
      exact (settles_lift _).bind fun loop => settles_runLoop (settles_execBody calls body) loop
  | forRange item bound body =>
      rw [Run.exec]
      refine (settles_eval calls bound).bind fun bound => ?_
      rw [Run.loopBelow_eq]
      exact (settles_lift _).bind fun loop => settles_runLoop (settles_execBody calls body) loop
  | forEnumerated index element collection body =>
      rw [Run.exec, Run.loopNumbered_eq]
      exact (settles_lift _).bind fun loop => settles_runLoop (settles_execBody calls body) loop

theorem settles_execBody (calls : CallsSettle room) (actions : List Action) :
    Settles room (fun watch fuel => execBody watch fuel actions)
      (Run.execBody (Run.runSubtask room) actions) := by
  refine Settles.step ?_
  cases actions with
  | nil => exact settles_pure _
  | cons action rest =>
      exact (settles_exec calls action).bind fun result =>
        settles_ite (settles_pure result) (settles_execBody calls rest)

theorem settles_execBranches (calls : CallsSettle room) (branches : List Branch) :
    Settles room (fun watch fuel => execBranches watch fuel branches)
      (Run.execBranches (Run.runSubtask room) branches) := by
  refine Settles.step ?_
  match branches with
  | [] => exact settles_lift _
  | .fault cause :: _ => exact settles_lift _
  | .test isFirst test body :: rest =>
      exact (settles_evalTest calls test).bind fun _ =>
        settles_ite (settles_takeBranch calls _ body) (settles_execBranches calls rest)
  | .otherwise body :: _ => exact settles_takeBranch calls _ body

theorem settles_takeBranch (calls : CallsSettle room) (message : String) (body : List Action) :
    Settles room (fun watch fuel => takeBranch watch fuel message body)
      (Run.takeBranch message (Run.execBody (Run.runSubtask room) body)) := by
  rw [Run.takeBranch_eq]
  exact Settles.step ((settles_lift _).bind fun _ => (settles_execBody calls body).bind fun _ =>
    settles_lift _)

end

end Code

/-- Calls settle whatever the room is: the body of a subtask has room for one call less. -/
theorem callsSettle (room : Nat) : CallsSettle room := by
  induction room with
  | zero =>
      intro name machine
      exact .inr ⟨machine, Reaches.step ⟨0, fun _ _ => rfl⟩, rfl⟩
  | succ room ih =>
      intro name machine
      rw [SettlesAt, Run.runSubtask_eq]
      refine SettlesAt.step ?_
      refine (settlesAt_lift (Run.openSubtask name) machine).bind fun body inside _ => ?_
      exact (settles_execBody ih body inside).bind fun result last _ => settlesAt_lift _ last

/-! ## Programs -/

section Programs

variable {room : Nat}

theorem settles_execAll (actions : List Action) :
    Settles room (fun watch fuel => execAll watch fuel actions)
      (Run.execAll (Run.runSubtask room) actions) := by
  induction actions with
  | nil => exact settles_pure _
  | cons action rest ih =>
      exact (settles_exec (callsSettle room) action).bind fun _ => ih

theorem settles_runStep (step : StepCode) :
    Settles room (fun watch fuel => runStep watch fuel step)
      (Run.runStep (Run.runSubtask room) step) :=
  (settles_lift _).bind fun _ => (settles_lift _).bind fun _ => (settles_lift _).bind fun _ =>
    (settles_lift _).bind fun _ => (settles_execAll step.body).bind fun _ => settles_lift _

theorem settles_runItems (items : List TaskItem) :
    Settles room (fun watch fuel => runItems watch fuel items)
      (Run.runItems (Run.runSubtask room) items) := by
  induction items with
  | nil => exact settles_pure _
  | cons item rest ih =>
      cases item with
      | fault cause => exact settles_lift _
      | step step => exact (settles_runStep step).bind fun _ => ih
      | subtask name body =>
          exact (settles_lift _).bind fun name => (callsSettle room name).bind fun _ => ih
      | other => exact ih

theorem settles_runTasks (names : List Value) :
    Settles room (fun watch fuel => runTasks watch fuel names)
      (Run.runTasks (Run.runSubtask room) names) := by
  induction names with
  | nil => exact settles_pure _
  | cons name rest ih =>
      rw [Run.runTasks, Run.runTask_eq, bind_assoc]
      refine (settles_lift (Run.openTask name)).bind fun items => ?_
      rw [bind_assoc]
      exact (settles_runItems items).bind fun _ => (settles_lift _).bind fun _ => ih

theorem settles_executeChecked (tree : Value) :
    Settles room (fun watch fuel => executeChecked watch fuel tree)
      (Run.executeCheckedNested room tree) :=
  (settles_lift _).bind settles_runTasks

/-- What becomes of faults when a program has ended. -/
def faultsReported : Except Halt Unit × Machine → Except Halt Unit × Machine
  | (.error (.stopped (.fault cause)), after) =>
    (.error (.stopped (Failure.broken cause after.variables).stop), after)
  | last => last

theorem ended_executeNested (tree : Value) (machine : Machine) :
    ended ((Run.executeNested room tree).outcome machine) =
      faultsReported (ended ((Run.executeCheckedNested room tree).outcome machine)) := by
  rw [Run.executeNested, Run.outcome_tryCatch]
  rcases (Run.executeCheckedNested room tree).outcome machine with ⟨result, after⟩
  cases result with
  | ok => rfl
  | error stop => cases stop <;> rfl

theorem Reaches.execute {watch : Option Nat} {tree : Value} {machine : Machine}
    {last : Except Halt Unit × Machine}
    (reaches : Reaches (fun fuel => executeChecked watch fuel tree) machine last) :
    Reaches (fun fuel => execute watch fuel tree) machine (faultsReported last) := by
  obtain ⟨enough, ends⟩ := reaches
  refine ⟨enough, fun fuel ample => ?_⟩
  change ((executeChecked watch fuel tree).outcome machine).map _ = _
  rw [ends fuel ample]
  rcases last with ⟨result | value, after⟩
  · rcases result with (cause | report) | _ <;> rfl
  · rfl

end Programs

/-- With enough fuel, the execution of a program has finished or has needed more active calls than there
is room for.  If it has finished, it has ended as the execution with so deeply nested calls ends, and left
the same machine.  If not, that execution reports that calls are nested too deeply.  The executions of a
machine itself are the ones with calls nested up to `maxDepth`. -/
theorem execute_settles (tree : Value) (machine : Machine) (room : Nat) :
    Run.executeNested Run.maxDepth tree = Run.execute tree ∧
      (Reaches (fun fuel => execute none fuel tree) machine
            (ended ((Run.executeNested room tree).outcome machine)) ∧
          Reaches (fun fuel => execute (some room) fuel tree) machine
            (ended ((Run.executeNested room tree).outcome machine)) ∨
        ∃ after, Reaches (fun fuel => execute (some room) fuel tree) machine
            (.error .exceeded, after) ∧
          (Run.executeNested room tree).outcome machine =
            (.error (Failure.broken .callsTooDeep after.variables).stop, after)) := by
  refine ⟨Run.executeNested_maxDepth tree, ?_⟩
  have settles : Settles room (fun watch fuel => executeChecked watch fuel tree)
    (Run.executeCheckedNested room tree) := settles_executeChecked tree
  rcases settles machine with ⟨watches, finishes⟩ | ⟨after, exceeds, stops⟩
  · rw [ended_executeNested]
    exact .inl ⟨finishes.execute, watches.execute⟩
  · refine .inr ⟨after, exceeds.execute, ?_⟩
    rw [Run.executeNested, Run.outcome_tryCatch, stops]
    rfl

/-! ## Unbounded recursion -/

/-- The body of a subtask that does nothing but call a subtask. -/
def callBody (name : String) : List Action :=
  [.call (.call (.str name) [])]

theorem openSubtask_callBody {name : String} {machine : Machine}
    (found : Table.fetch? (.str name) machine.subtasks = some (callBody name)) :
    ∃ inside : Machine, (lift (Run.openSubtask (.str name))).outcome machine =
        some (.ok (callBody name), inside) ∧ inside.subtasks = machine.subtasks := by
  have keyed : (Run.lift (Value.str name).asKey).outcome machine = (.ok (.str name), machine) := rfl
  have said : (Run.lift (Value.str name).say).outcome machine = (.ok name, machine) := rfl
  have ends : ∃ inside, (Run.openSubtask (.str name)).outcome machine =
      (.ok (callBody name), inside) := by
    rw [Run.openSubtask, Run.outcome_bind, keyed]
    dsimp only
    rw [Run.outcome_get_bind, found]
    dsimp only
    rw [Run.outcome_bind, said]
    dsimp only
    rw [Run.outcome_bind, Run.outcome_note]
    exact ⟨_, rfl⟩
  obtain ⟨inside, ends⟩ := ends
  have changes := Run.moves_openSubtask (.str name) machine
  rw [ends] at changes
  exact ⟨inside, congrArg (fun last => some (ended last)) ends, changes.fixed.2.2.2⟩

theorem resolve_str {name : String} {machine : Machine}
    (found : Table.holds (.str name) machine.subtasks = true) :
    (lift (Run.resolve (.str name))).outcome machine = some (.ok (.str name), machine) := by
  have ends : (Run.resolve (.str name)).outcome machine = (.ok (.str name), machine) := by
    change (get >>= fun machine => if Table.holds (.str name) machine.subtasks = true then
      pure (.str name) else _ : Run Value).outcome machine = _
    rw [Run.outcome_get_bind, if_pos found]
    rfl
  exact congrArg (fun last => some (ended last)) ends

theorem callFunction_none {name : String} (notBuiltin : Run.builtin? name = none)
    {machine : Machine} (found : Table.holds (.str name) machine.subtasks = true) {fuel : Nat}
    (endless : ∀ less < fuel, (runSubtask none less (.str name)).outcome machine = none) :
    (callFunction none fuel (.str name) []).outcome machine = none := by
  cases fuel with
  | zero => rfl
  | succ fuel =>
      rw [callFunction, notBuiltin]
      dsimp only
      rw [outcome_bind, resolve_str found]
      exact endless fuel (Nat.lt_succ_self fuel)

theorem execBody_callBody_none {name : String} (notBuiltin : Run.builtin? name = none)
    {machine : Machine} (found : Table.holds (.str name) machine.subtasks = true) {fuel : Nat}
    (endless : ∀ less < fuel, (runSubtask none less (.str name)).outcome machine = none) :
    (execBody none fuel (callBody name)).outcome machine = none := by
  -- four levels lie between the body and the call: the body, the action, the term and its arguments
  match fuel with
  | 0 | 1 | 2 | 3 => rfl
  | fuel + 4 =>
      have calls : (callFunction none (fuel + 1) (.str name) []).outcome machine = none :=
        callFunction_none notBuiltin found fun less small => endless less (by omega)
      change ((pure [] >>= fun values => callFunction none (fuel + 1) (.str name) values) >>=
        _ : Clocked Value).outcome machine = none
      rw [outcome_bind, pure_bind, calls]

/-- Without a bound on the active calls, a subtask that calls itself never ends. -/
theorem runSubtask_callBody {name : String} (notBuiltin : Run.builtin? name = none)
    {machine : Machine}
    (found : Table.fetch? (.str name) machine.subtasks = some (callBody name)) (fuel : Nat) :
    (runSubtask none fuel (.str name)).outcome machine = none := by
  induction fuel using Nat.strongRecOn generalizing machine with
  | _ fuel ih =>
      cases fuel with
      | zero => rfl
      | succ fuel =>
          obtain ⟨inside, opens, same⟩ := openSubtask_callBody found
          rw [← same] at found
          have body : (execBody none fuel (callBody name)).outcome inside = none := by
            refine execBody_callBody_none notBuiltin (by rw [Table.holds, found]; rfl) ?_
            exact fun less small => ih less (by omega) found
          change (lift (Run.openSubtask (.str name)) >>= fun body =>
            execBody none fuel body >>= fun result => _ : Clocked Value).outcome machine = none
          rw [outcome_bind, opens]
          dsimp only
          rw [outcome_bind, body]

end Stepwise.Clocked
