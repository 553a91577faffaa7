import Stepwise.Proofs.Course.Frame
import Stepwise.Proofs.Course.Returns
import Stepwise.Proofs.Course.Triple

/-!
# Indentation

A machine that explains itself indents its notes.  Every loop and every body takes its indentation back
when it ends, with or without a return.  A choice takes one level too little back: where a branch was
taken and its body came to its end, only the level of the branch is, and that of the choice remains.

So the indentation after a run is the one before, and one level more for each branch that ended.  A
course is `At` a level if its indentation is the level with the branch ends added that are on record,
and every part of a course stays at its level.
-/

namespace Stepwise

def Incident.isBranchEnd : Incident → Bool
  | .branchEnd => true
  | .step _ => false

/-- How many branches have ended. -/
def Recorded.branchEnds (recorded : Recorded) : Nat :=
  recorded.incidents.countP Incident.isBranchEnd

namespace Course

open Run (lift fault fail note indentBy explainedIndentBy Shifts Quiet)

variable {α β σ : Type} {kept : Machine → σ} {settings : Settings} {level : Int}

/-- The machine has the settings, and its indentation is the level and the branch ends so far. -/
structure At (settings : Settings) (level : Int) (recorded : Recorded) : Prop where
  isSet : recorded.machine.settings = settings
  indent : recorded.machine.indent = level + settings.unit * recorded.branchEnds

/-- A course ends at one level if it goes on, and at another if it returns. -/
abbrev reaching (settings : Settings) (onward back : Int) : Ends α :=
  ⟨fun _ => At settings onward, fun _ => At settings back, fun _ => True⟩

/-- The course stays at its level, and so does a return that leaves it. -/
def Level (settings : Settings) (course : Course α) : Prop :=
  ∀ level, Meets (At settings level) course (reaching settings level level)

/-- The course stays at its level and does not return. -/
def Flat (settings : Settings) (course : Course α) : Prop :=
  ∀ level back, Meets (At settings level) course (reaching settings level back)

/-! ## Steps -/

theorem meets_shifts {run : Run α} {amount target back : Int}
    (shifts : Shifts kept settings amount run) (sum : level + amount = target) :
    Meets (At settings level) (step run) (reaching settings target back) := by
  refine meets_step (fun before value machine is ran => ?_) fun _ _ _ _ _ => trivial
  have shifted := shifts before.machine is.isSet
  rw [ran] at shifted
  have indented : machine.indent = before.machine.indent + amount := shifted.indent value rfl
  have counted : Recorded.branchEnds ⟨machine, .step machine :: before.incidents⟩ =
      before.branchEnds :=
    List.countP_cons_of_neg Bool.false_ne_true
  refine ⟨shifted.settings.trans is.isSet, ?_⟩
  rw [counted, indented, is.indent, ← sum]
  omega

theorem meets_throw {start : Recorded → Prop} {onward back : Int} (stop : Stop) :
    Meets start (step (throw stop : Run α)) (reaching settings onward back) :=
  fun _ _ => trivial

/-- The end of a branch leaves one level behind. -/
theorem meets_recordBranchEnd {back : Int} :
    Meets (At settings level) recordBranchEnd
      (reaching settings (level - settings.unit) back) := by
  intro before is
  have counted : Recorded.branchEnds ⟨before.machine, .branchEnd :: before.incidents⟩ =
      before.branchEnds + 1 :=
    List.countP_cons_of_pos rfl
  refine ⟨is.isSet, ?_⟩
  change before.machine.indent = _ + _ * (Recorded.branchEnds ⟨before.machine, _⟩ : Int)
  rw [counted, is.indent, Int.natCast_add, Int.mul_add]
  omega

theorem flat_step {run : Run α} (quiet : Shifts kept settings 0 run) : Flat settings (step run) :=
  fun level _ => meets_shifts quiet (Int.add_zero level)

theorem flat_pure (value : α) : Flat settings (pure value) :=
  fun _ _ => meets_pure fun _ => id

theorem flat_throw (stop : Stop) : Flat settings (step (throw stop : Run α)) :=
  fun _ _ => meets_throw stop

theorem flat_get_throw (stop : Machine → Stop) :
    Flat settings (step (get >>= fun machine => throw (stop machine) : Run α)) :=
  fun _ _ _ _ => trivial

theorem flat_lift (result : Except Fault α) : Flat settings (step (lift result)) :=
  flat_step (Run.shifts_lift result : Quiet settings (lift result))

theorem flat_get : Flat settings (step get) :=
  flat_step (Run.shifts_get : Quiet settings get)

theorem Flat.toLevel {course : Course α} (flat : Flat settings course) : Level settings course :=
  fun level => flat level level

theorem Flat.bind {course : Course α} {next : α → Course β} (flat : Flat settings course)
    (flatNext : ∀ value, Flat settings (next value)) : Flat settings (course >>= next) :=
  fun level back => (flat level back).bind fun value => flatNext value level back

theorem Level.bind {course : Course α} {next : α → Course β} (stays : Level settings course)
    (staysNext : ∀ value, Level settings (next value)) : Level settings (course >>= next) :=
  fun level => (stays level).bind fun value => staysNext value level

theorem Flat.before {course : Course α} {next : α → Course β} (flat : Flat settings course)
    (staysNext : ∀ value, Level settings (next value)) : Level settings (course >>= next) :=
  flat.toLevel.bind staysNext

theorem level_leave (value : Except Fault Value) : Level settings (leave value : Course α) :=
  fun _ => meets_leave fun _ => id

theorem flat_ite {condition : Prop} [Decidable condition] {course other : Course α}
    (flat : Flat settings course) (flatOther : Flat settings other) :
    Flat settings (if condition then course else other) :=
  fun level back => meets_ite (flat level back) (flatOther level back)

/-! ## Terms -/

section Terms

variable {call : Value → Course Value}

theorem flat_callSubtask (flat : ∀ name, Flat settings (call name)) (function : Value) :
    Flat settings (callSubtask call function) := by
  refine (flat_lift _).bind fun key => flat_get.bind fun machine => ?_
  refine flat_ite (flat key) ?_
  cases function with
  | str name =>
      refine flat_get.bind fun machine => flat_ite (flat _) ?_
      exact flat_get.bind fun machine => flat_throw _
  | _ => exact flat_throw _

theorem flat_callFunction (flat : ∀ name, Flat settings (call name)) (function : Value)
    (arguments : List Value) : Flat settings (callFunction call function arguments) := by
  cases function with
  | str name =>
      rw [callFunction]
      cases found : Run.builtin? name with
      | some run => exact flat_step (Run.quiet_builtin? found arguments)
      | none => exact flat_callSubtask flat _
  | _ => exact flat_callSubtask flat _

mutual

theorem flat_eval (flat : ∀ name, Flat settings (call name)) (term : Term) :
    Flat settings (eval call term) := by
  cases term with
  | const value => exact flat_pure value
  | var name => exact flat_step (Run.quiet_readVariable name)
  | fault cause => exact flat_throw _
  | after first last => exact (flat_eval flat first).bind fun _ => flat_eval flat last
  | list items => exact (flat_evalItems flat items).bind fun _ => flat_pure _
  | dict entries => exact (flat_evalEntries flat entries []).bind fun _ => flat_pure _
  | index container key =>
      refine (flat_eval flat container).bind fun container => ?_
      exact (flat_eval flat key).bind fun key => flat_step (Run.quiet_index container key)
  | negate operand => exact (flat_eval flat operand).bind fun _ => flat_lift _
  | binary operator left right =>
      refine (flat_eval flat left).bind fun left => ?_
      exact (flat_eval flat right).bind fun right =>
        flat_step (Run.quiet_operate operator left right)
  | call function arguments =>
      exact (flat_evalAll flat arguments).bind fun arguments =>
        flat_callFunction flat function arguments

theorem flat_evalAll (flat : ∀ name, Flat settings (call name)) (terms : List Term) :
    Flat settings (evalAll call terms) := by
  cases terms with
  | nil => exact flat_pure _
  | cons term rest =>
      exact (flat_eval flat term).bind fun _ =>
        (flat_evalAll flat rest).bind fun _ => flat_pure _

theorem flat_evalItems (flat : ∀ name, Flat settings (call name)) (terms : List Term) :
    Flat settings (evalItems call terms) := by
  cases terms with
  | nil => exact flat_pure _
  | cons term rest =>
      refine (flat_eval flat term).bind fun value => (flat_lift _).bind fun item => ?_
      exact (flat_evalItems flat rest).bind fun _ => flat_pure _

theorem flat_evalEntries (flat : ∀ name, Flat settings (call name))
    (entries : List (Term × Term)) (stored : Table Value) :
    Flat settings (evalEntries call entries stored) := by
  rcases entries with _ | ⟨⟨key, value⟩, rest⟩
  · exact flat_pure _
  · refine (flat_eval flat key).bind fun key => (flat_eval flat value).bind fun value => ?_
    refine (flat_lift _).bind fun key => (flat_lift _).bind fun value => ?_
    exact (flat_lift _).bind fun key => flat_evalEntries flat rest _

end

theorem flat_evalTest (flat : ∀ name, Flat settings (call name)) (test : Test) :
    Flat settings (evalTest call test) := by
  have noted (category : String) (message : Except Fault String) :
      Flat settings (step (Run.noteSaying category message)) :=
    flat_step (Run.quiet_noteSaying category message)
  cases test with
  | operation left right operator =>
      refine (flat_eval flat left).bind fun left => (flat_eval flat right).bind fun right => ?_
      refine (flat_lift _).bind fun operator => (noted _ _).bind fun _ => ?_
      refine (flat_eval flat _).bind fun left => (flat_eval flat _).bind fun right => ?_
      refine (flat_step (Run.quiet_operate operator left right)).bind fun value => ?_
      exact (noted _ _).bind fun _ => flat_pure _
  | plain term node =>
      refine (flat_eval flat term).bind fun value => ?_
      exact (noted _ _).bind fun _ => (noted _ _).bind fun _ => flat_pure _

end Terms

/-! ## Loops and branches -/

theorem flat_assign (name value : Value) : Flat settings (step (Run.assign name value)) := by
  have shifts : Shifts (fun _ => ()) settings 0 (Run.assign name value) := by
    refine (Run.shifts_lift _).before fun key => ?_
    exact Run.quiet_modify (fun _ => rfl) (fun _ => rfl) fun _ => rfl
  exact flat_step shifts

theorem flat_assignTo (target : Except Fault Value) (value : Value) :
    Flat settings (assignTo target value) := by
  refine (flat_lift _).bind fun value => (flat_lift _).bind fun target => ?_
  refine (flat_assign target value).bind fun _ => ?_
  refine (flat_lift _).bind fun shown => (flat_lift _).bind fun name => ?_
  exact flat_step (Run.quiet_note _ _)

theorem level_forSupply {body : Nat → Value → Course Unit}
    (stays : ∀ number item, Level settings (body number item)) (supply : Supply) :
    Level settings (forSupply supply body) := by
  intro level
  rcases supply with (items | ⟨first, gap, count⟩) | number
  · exact meets_forItems (reaching settings level level) items 0
      fun number item _ => stays number item level
  · exact meets_forSpan (reaching settings level level) gap count first 0
      fun number n => stays number (.int n) level
  · refine (flat_get level level).bind fun machine => ?_
    exact meets_forCursor (reaching settings level level) number _ 0
      (flat_step (Run.quiet_takeCursor? number) level level)
      fun number item => stays number item level

section Bodies

variable {body : Course Unit}

/-- A loop takes the level that it opens back when it ends, with or without a return. -/
theorem level_loop {opening complete : Run Unit} {iterations : Course Unit}
    (opens : Shifts Machine.contents settings settings.unit opening)
    (quiet : Quiet settings complete) (stays : Level settings iterations) :
    Level settings (step opening >>= fun _ => closing complete iterations) := by
  intro level
  have closes : Meets (At settings (level + settings.unit)) (step (explainedIndentBy (-1)))
      (reaching settings level level) :=
    meets_shifts (Run.shifts_explainedIndentBy (-1)) (by omega)
  refine (meets_shifts opens rfl).bind fun _ => ?_
  -- A return closes the loop on its way out; otherwise the last iteration is behind it.
  refine Meets.bind (Meets.afterReturn (stays _) fun _ => closes) fun _ => ?_
  exact (flat_step quiet _ _).bind fun _ => closes

theorem level_loopDirect (stays : Level settings body) (item node : Value) (supply : Supply) :
    Level settings (loopDirect item node supply body) := by
  refine level_loop (Run.shifts_openLoop node) Run.quiet_completeLoop (level_forSupply ?_ supply)
  intro _ value
  refine (flat_assign item value).before fun _ => ?_
  exact (flat_step (Run.quiet_noteIteration _)).before fun _ => stays

theorem level_loopEnumerated (stays : Level settings body) (index element node : Value)
    (supply : Supply) : Level settings (loopEnumerated index element node supply body) := by
  refine level_loop (Run.shifts_openLoop node) Run.quiet_completeLoop (level_forSupply ?_ supply)
  intro number value
  refine (flat_assign index _).before fun _ => (flat_assign element value).before fun _ => ?_
  exact (flat_step (Run.quiet_noteIteration _)).before fun _ => stays

theorem level_loopOver (stays : Level settings body) (item : Value) (source : LoopFeed) :
    Level settings (loopOver item source body) := by
  cases source with
  | direct name =>
      refine (flat_step (Run.quiet_valueNamed? name)).before fun found => ?_
      cases found with
      | none => exact (flat_get_throw _).toLevel
      | some value =>
          dsimp only
          cases value.supply? with
          | none => exact (flat_throw _).toLevel
          | some supply => exact level_loopDirect stays item name supply
  | enumerated name element node =>
      refine (flat_step (Run.quiet_valueNamed? name)).before fun found => ?_
      cases found with
      | none => exact (flat_throw _).toLevel
      | some value =>
          refine (flat_step (Run.quiet_supplyOf value)).before fun supply => ?_
          refine (flat_lift _).before fun element => ?_
          exact level_loopEnumerated stays item element node supply

theorem level_loopBelow (stays : Level settings body) (item bound : Value) :
    Level settings (loopBelow item bound body) := by
  refine (flat_lift _).before fun stop => ?_
  refine level_loop (Run.shifts_openRange _) (Run.quiet_note _ _) (level_forSupply ?_ _)
  intro number value
  refine (flat_assign item value).before fun _ => ?_
  exact (flat_step (Run.quiet_noteRangeIteration _ number item value)).before fun _ => stays

theorem level_loopNumbered (stays : Level settings body) (index element : Except Fault Value)
    (name : Value) : Level settings (loopNumbered index element name body) := by
  refine (flat_step (Run.quiet_valueNamed? name)).before fun found => ?_
  cases found with
  | none => exact (flat_throw _).toLevel
  | some value =>
      dsimp only
      cases value.supply? with
      | none => exact (flat_lift _).before fun _ => (flat_throw _).toLevel
      | some supply =>
          refine level_loop (Run.shifts_openNumbered name) (Run.quiet_note _ _)
            (level_forSupply ?_ supply)
          intro number item
          refine (flat_lift _).before fun index => (flat_assign index _).before fun _ => ?_
          refine (flat_lift _).before fun element => (flat_assign element item).before fun _ => ?_
          exact (flat_step (Run.quiet_whenShown _ (Run.quiet_noteSaying _ _))).before fun _ => stays

/-- From inside a choice, a branch ends outside it.  After a return two levels are taken back; at the
end of the body one level is, and the other one is on record. -/
theorem meets_takeBranch (stays : Level settings body) (message : String) (level : Int) :
    Meets (At settings (level + settings.unit)) (takeBranch message body)
      (reaching settings level level) := by
  refine (flat_step (Run.quiet_note _ _) _ _).bind fun _ => ?_
  refine (meets_shifts (Run.shifts_explainedIndentBy 1) rfl).bind fun _ => ?_
  refine Meets.bind (Meets.afterReturn (stays _) fun _ => ?_) fun _ => ?_
  · exact meets_shifts (Run.shifts_explainedIndentBy (-2)) (by omega)
  · refine meets_recordBranchEnd.bind fun _ => ?_
    exact meets_shifts (Run.shifts_explainedIndentBy (-1)) (by omega)

end Bodies

/-! ## Actions -/

section Calls

variable {call : Value → Course Value}

mutual

theorem level_exec (flat : ∀ name, Flat settings (call name)) (action : Action) :
    Level settings (exec call action) := by
  cases action with
  | skip => exact (flat_pure _).toLevel
  | fault cause => exact (flat_throw _).toLevel
  | assign target value =>
      exact (flat_eval flat value).before fun value => (flat_assignTo target value).toLevel
  | call term =>
      refine (flat_eval flat term).before fun value => ?_
      exact fun level => meets_ite (level_leave _ level) (flat_pure () level level)
  | yield value => exact (flat_eval flat value).before fun _ => level_leave _
  | decide branches =>
      exact fun level => (meets_shifts Run.shifts_openChoice rfl).bind fun _ =>
        meets_execBranches flat branches level
  | forEach item source body =>
      exact level_loopOver (level_execBody flat body) item source
  | forRange item bound body =>
      exact (flat_eval flat bound).before fun bound =>
        level_loopBelow (level_execBody flat body) item bound
  | forEnumerated index element collection body =>
      exact level_loopNumbered (level_execBody flat body) index element collection

theorem level_execBody (flat : ∀ name, Flat settings (call name)) (actions : List Action) :
    Level settings (execBody call actions) := by
  cases actions with
  | nil => exact (flat_pure _).toLevel
  | cons action rest =>
      exact (level_exec flat action).bind fun _ => level_execBody flat rest

theorem meets_execBranches (flat : ∀ name, Flat settings (call name)) (branches : List Branch)
    (level : Int) :
    Meets (At settings (level + settings.unit)) (execBranches call branches)
      (reaching settings level level) := by
  cases branches with
  | nil => exact meets_shifts (Run.shifts_explainedIndentBy (-1)) (by omega)
  | cons branch rest =>
      cases branch with
      | fault cause => exact meets_throw _
      | test isFirst test body =>
          refine (flat_evalTest flat test _ _).bind fun value => ?_
          exact meets_ite (meets_takeBranch (level_execBody flat body) _ level)
            (meets_execBranches flat rest level)
      | otherwise body => exact meets_takeBranch (level_execBody flat body) _ level

end

theorem flat_execAll (flat : ∀ name, Flat settings (call name)) (actions : List Action) :
    Flat settings (execAll call actions) := by
  induction actions with
  | nil => exact flat_pure _
  | cons action rest ih =>
      refine Flat.bind (fun level back => Meets.contained ?_) fun _ => ih
      exact level_exec flat action level

/-! ## Subtasks, tasks and programs -/

/-- The body of a subtask ends one level further out, however it ends. -/
theorem meets_runSubtaskBody (flat : ∀ name, Flat settings (call name)) (body : List Action)
    (level back : Int) :
    Meets (At settings (level + 1)) (runSubtaskBody call body) (reaching settings level back) := by
  have outdents : Meets (At settings (level + 1)) (step (indentBy (-1)))
      (reaching settings level level) :=
    meets_shifts (Run.shifts_indentBy (-1)) (by omega)
  refine Meets.handedBack ?_ fun value => flat_lift value level back
  exact Meets.bind (Meets.afterReturn (level_execBody flat body _) fun _ => outdents)
    fun _ => outdents

/-- What is run one level further in and takes that level back. -/
theorem flat_indented {course : Course Unit} (flat : Flat settings course) :
    Flat settings (do step (indentBy 1); course; step (indentBy (-1))) := by
  intro level back
  refine (meets_shifts (Run.shifts_indentBy 1) rfl).bind fun _ => ?_
  refine (flat _ _).bind fun _ => ?_
  exact meets_shifts (Run.shifts_indentBy (-1)) (by omega)

theorem flat_runStep (flat : ∀ name, Flat settings (call name)) (code : StepCode) :
    Flat settings (runStep call code) := by
  refine (flat_lift _).bind fun name => (flat_lift _).bind fun shown => ?_
  exact (flat_step (Run.quiet_note _ _)).bind fun _ => flat_indented (flat_execAll flat code.body)

theorem flat_runItems (flat : ∀ name, Flat settings (call name)) (items : List TaskItem) :
    Flat settings (runItems call items) := by
  induction items with
  | nil => exact flat_pure _
  | cons item rest ih =>
      cases item with
      | fault cause => exact flat_throw _
      | step code => exact (flat_runStep flat code).bind fun _ => ih
      | subtask name body => exact (flat_lift _).bind fun name => (flat name).bind fun _ => ih
      | other => exact ih

theorem flat_runTask (flat : ∀ name, Flat settings (call name)) (name : Value) :
    Flat settings (runTask call name) := by
  refine (flat_lift _).bind fun key => flat_get.bind fun machine => ?_
  cases Table.fetch? key machine.tasks with
  | none => exact flat_get_throw _
  | some items =>
      refine (flat_lift _).bind fun shown => ?_
      exact (flat_step (Run.quiet_note _ _)).bind fun _ => flat_indented (flat_runItems flat items)

theorem flat_runTasks (flat : ∀ name, Flat settings (call name)) (names : List Value) :
    Flat settings (runTasks call names) := by
  induction names with
  | nil => exact flat_pure _
  | cons name rest ih => exact (flat_runTask flat name).bind fun _ => ih

end Calls

theorem flat_runSubtask (depth : Nat) (name : Value) : Flat settings (runSubtask depth name) := by
  induction depth generalizing name with
  | zero => exact flat_throw _
  | succ depth ih =>
      refine (flat_lift _).bind fun key => flat_get.bind fun machine => ?_
      cases Table.fetch? key machine.subtasks with
      | none => exact flat_get_throw _
      | some body =>
          refine (flat_lift _).bind fun shown => (flat_step (Run.quiet_note _ _)).bind fun _ => ?_
          exact fun level back => (meets_shifts (Run.shifts_indentBy 1) rfl).bind fun _ =>
            meets_runSubtaskBody ih body level back

theorem shifts_registerItems (items : List TaskItem) :
    Shifts (fun _ => ()) settings 0 (Run.registerItems items) := by
  induction items with
  | nil => exact Run.shifts_pure _
  | cons item rest ih =>
      cases item with
      | fault cause => exact Run.shifts_throw _
      | step code => exact ih
      | other => exact ih
      | subtask name body =>
          refine (Run.shifts_lift _).before fun name => (Run.shifts_lift _).before fun key => ?_
          refine Run.Shifts.before ?_ fun _ => ih
          exact Run.quiet_modify (fun _ => rfl) (fun _ => rfl) fun _ => rfl

theorem shifts_registerTask (task : Value) :
    Shifts (fun _ => ()) settings 0 (Run.registerTask task) := by
  refine (Run.shifts_lift _).before fun name => (Run.shifts_lift _).before fun key => ?_
  refine Run.Shifts.before ?_ fun _ => shifts_registerItems _
  exact Run.quiet_modify (fun _ => rfl) (fun _ => rfl) fun _ => rfl

theorem shifts_registerTasks (tasks : Value) :
    Shifts (fun _ => ()) settings 0 (Run.registerTasks tasks) := by
  refine (Run.shifts_lift _).before fun values => ?_
  induction values with
  | nil => exact Run.shifts_pure _
  | cons task rest ih => exact (shifts_registerTask task).before fun _ => ih

theorem flat_execute (tree : Value) : Flat settings (execute tree) := by
  have checked : Flat settings (executeChecked tree) := by
    refine flat_get.bind fun machine => (flat_step (Run.quiet_passing _)).bind fun _ => ?_
    refine (flat_step (Run.quiet_announce tree)).bind fun _ => (flat_lift _).bind fun tasks => ?_
    refine (flat_step (shifts_registerTasks tasks)).bind fun _ => ?_
    refine (flat_lift _).bind fun runs => (flat_lift _).bind fun names => ?_
    exact flat_runTasks (flat_runSubtask Run.maxDepth) names
  exact fun level back => (checked level back).execute fun _ => id

/-! ## Whole runs -/

/-- How many branches end in a course that starts on the machine. -/
def branchEnds (course : Course α) (machine : Machine) : Nat :=
  (course.outcome ⟨machine, []⟩).2.branchEnds

/-- The course ends as the run does.  If the run does not stop, its indentation is the one before, and
one level more for each branch that ended in its course, if the machine explains itself. -/
def Accounts (meaning : β → Except Exit α) (course : Course α) (run : Run β)
    (machine : Machine) : Prop :=
  course.endingFrom machine = decoded meaning (run.outcome machine) ∧
    ∀ value after, run.outcome machine = (.ok value, after) →
      after.indent = machine.indent +
        if machine.settings.explain then (course.branchEnds machine : Int) else 0

theorem At.indent_eq {before : Machine} {after : Recorded}
    (is : At before.settings before.indent after) :
    after.machine.indent =
      before.indent + if before.settings.explain then (after.branchEnds : Int) else 0 := by
  rw [is.indent, Settings.unit]
  split <;> simp

/-- A result never means a stop, so a course that stays at its level accounts for its run. -/
theorem Level.accounts {meaning : β → Except Exit α} {course : Course α} {run : Run β}
    {machine : Machine} (stays : Level machine.settings course)
    (follows : Follows meaning course run)
    (goesOn : ∀ value stop, meaning value ≠ .error (.stopped stop)) :
    Accounts meaning course run machine := by
  refine ⟨follows.endingFrom machine, fun value after ran => ?_⟩
  have starts : At machine.settings machine.indent ⟨machine, []⟩ :=
    ⟨rfl, by simp [Recorded.branchEnds]⟩
  have ends := stays machine.indent _ starts
  rw [branchEnds]
  rcases follows.cases ⟨machine, []⟩ with ⟨stop, _, stopped, _⟩ | ⟨_, recorded, ended, went⟩
  · rw [ran] at stopped
    cases stopped
  · rw [ran] at ended
    cases ended
    rw [went] at ends ⊢
    have stops := goesOn value
    revert ends stops
    rcases meaning value with (_ | stop) | _
    · exact fun is _ => is.indent_eq
    · exact fun _ stops => absurd rfl (stops stop)
    · exact fun is _ => is.indent_eq

/-- The indentation of every statement, step, subtask, task and program that does not stop, from any
machine and with calls nested to any depth. -/
theorem indent_counts_branch_ends (depth : Nat) (machine : Machine) :
    let call := runSubtask depth
    let runCall := Run.runSubtask depth
    (∀ action, Accounts ended (exec call action) (Run.exec runCall action) machine) ∧
    (∀ code, Accounts .ok (runStep call code) (Run.runStep runCall code) machine) ∧
    (∀ name, Accounts .ok (call name) (runCall name) machine) ∧
    (∀ name, Accounts .ok (runTask call name) (Run.runTask runCall name) machine) ∧
    (∀ tree, Accounts .ok (execute tree) (Run.execute tree) machine) := by
  intro call runCall
  have flat : ∀ name, Flat machine.settings (call name) := flat_runSubtask depth
  have follows : ∀ name, Follows .ok (call name) (runCall name) := follows_runSubtask depth
  have goesOn {γ : Type} (value : γ) (stop : Stop) :
      (.ok value : Except Exit γ) ≠ .error (.stopped stop) := by simp
  refine ⟨fun action => ?_, fun code => ?_, fun name => ?_, fun name => ?_, fun tree => ?_⟩
  · refine (level_exec flat action).accounts (follows_exec follows action) fun value stop => ?_
    rw [ended]
    split <;> simp
  · exact (flat_runStep flat code).toLevel.accounts (follows_runStep follows code) goesOn
  · exact (flat name).toLevel.accounts (follows name) goesOn
  · exact (flat_runTask flat name).toLevel.accounts (follows_runTask follows name) goesOn
  · exact (flat_execute tree).toLevel.accounts (follows_execute tree) goesOn

/-- A loop that takes each branch of a choice once, and calls a subtask whose choice takes no branch, or
one that returns.  Three branches end. -/
theorem indent_counts_branch_ends_sample :
    let program : Program := ⟨"count", [⟨"t", [
      .step "s" [
        .assign "x" (.list [.int 1, .int 2, .int 3]),
        .forEach "i" (.name "x") [
          .call "pick" [],
          .decide (.binary .equal (.name "i") (.int 1)) [.assign "y" (.int 1)]
            [(.binary .equal (.name "i") (.int 2), [.assign "y" (.int 2)])] true]],
      .subtask "Pick" [
        .decide (.binary .equal (.name "i") (.int 2)) [.yield (.int 7)] [] false]]⟩], ["t"]⟩
    let machine := Machine.fresh ⟨true, .standard, 5⟩ none
    let ended := (Run.execute program.node).outcome machine
    (ended.1.isOk = true ∧ (execute program.node).branchEnds machine = 3) ∧
      ended.2.indent = 3 := by
  intro program machine ended
  have isOk : ended.1.isOk = true := by decide +kernel
  have three : (execute program.node).branchEnds machine = 3 := by decide +kernel
  refine ⟨⟨isOk, three⟩, ?_⟩
  have accounts := (indent_counts_branch_ends 0 machine).2.2.2.2 program.node
  cases result : ended.1 with
  | error stop =>
      rw [result] at isOk
      cases isOk
  | ok value =>
      have counted := accounts.2 value ended.2 (Prod.ext result rfl)
      rw [three] at counted
      exact counted

end Course

end Stepwise
