import Stepwise.Machine.Node
import Stepwise.Proofs.Settings.Independence
import Stepwise.Proofs.Writes.Code

/-!
# What a run leaves alone

A program registers its tasks and subtasks first, beside or over those that the machine has from earlier
programs, and all of this code may be reached by calls.  So the names that a run may write are the targets
of what is executed and of what was registered before.  All other variables keep their values, and those
that were there keep their places, whether the run ends or stops.
-/

namespace Stepwise

/-- The names that the tasks of a program assign. -/
def programTargets (tree : Value) : List Value :=
  match tree.part "tasks" >>= Value.elements with
  | .ok nodes => nodes.flatMap fun node => TaskItem.allTargets (TaskItem.itemsOf node)
  | .error _ => []

namespace Run

variable {α β : Type} {written : Value → Prop} {machine : Machine}

/-! ## Tasks -/

/-- A name that can be a key is the name of a task. -/
def Names (tasks : Table (List TaskItem)) (name : Value) : Prop :=
  ∀ key, name.asKey = .ok key → ∃ items, Table.fetch? key tasks = some items

theorem outcome_runTask {name key : Value} (isKey : name.asKey = .ok key) :
    (runTask call name).outcome machine =
      (match Table.fetch? key machine.tasks with
        | none => fail (.unknownTask name (Table.keys machine.tasks))
        | some items => do
          let shown ← lift name.say
          note "TASK" ("Executing " ++ shown)
          indentBy 1
          runItems call items
          indentBy (-1) : Run Unit).outcome machine := by
  rw [runTask, isKey]
  change outcome (match Table.fetch? key machine.tasks with | none => _ | some items => _) machine = _
  cases Table.fetch? key machine.tasks <;> rfl

/-- A task that is there obeys. -/
theorem obeyed_runTask (covered : machine.Covered written) {name : Value}
    (known : Names machine.tasks name) :
    Obeyed written machine ((runTask call name).outcome machine) := by
  cases isKey : name.asKey with
  | error cause =>
      rw [runTask, isKey]
      exact obeys_fault cause machine covered
  | ok key =>
      obtain ⟨items, found⟩ := known key isKey
      obtain ⟨_, stored⟩ := Table.mem_of_fetch? found
      rw [outcome_runTask isKey, found]
      refine Obeys.bind (obeys_lift _) (fun _ => (obeys_note _ _).bind fun _ =>
        (obeys_indentBy 1).bind fun _ => ?_) machine covered
      exact (obeys_runItems (obeys_runSubtask maxDepth) items (covered.tasks _ stored)).bind
        fun _ => obeys_indentBy (-1)

theorem runTask_of_not_names {name : Value} (unknown : ¬ Names machine.tasks name) :
    (runTask call name).outcome machine =
      (.error (Failure.unknownTask name (Table.keys machine.tasks)).stop, machine) := by
  simp only [Names, not_forall, not_exists] at unknown
  obtain ⟨key, isKey, missing⟩ := unknown
  rw [outcome_runTask isKey, Option.eq_none_iff_forall_ne_some.mpr missing]
  rfl

/-! ## Registration -/

/-- The computation writes only names with a property, and registers only code that does. -/
def Spares (written : Value → Prop) (run : Run α) : Prop :=
  ∀ machine : Machine, machine.Covered written →
    Table.Grown written machine.variables (run.outcome machine).2.variables ∧
      (run.outcome machine).2.Covered written

theorem Obeyed.spares {outcome : Except Stop α × Machine} (covered : machine.Covered written)
    (obeyed : Obeyed written machine outcome) :
    Table.Grown written machine.variables outcome.2.variables ∧ outcome.2.Covered written :=
  ⟨obeyed.writes, obeyed.tasks ▸ covered.tasks, obeyed.subtasks ▸ covered.subtasks⟩

theorem Obeys.spares {run : Run α} (obeys : Obeys written run) : Spares written run :=
  fun machine covered => (obeys machine covered).spares covered

theorem spares_throw (stop : Stop) : Spares written (throw stop : Run α) :=
  fun machine covered => ⟨.refl machine.variables, covered⟩

theorem Spares.bind {run : Run α} {next : α → Run β} (spares : Spares written run)
    (sparesNext : ∀ value, Spares written (next value)) : Spares written (run >>= next) := by
  intro machine covered
  obtain ⟨grown, coveredThen⟩ := spares machine covered
  rw [outcome_bind]
  generalize run.outcome machine = ended at grown coveredThen ⊢
  obtain ⟨result, middle⟩ := ended
  cases result with
  | error stop => exact ⟨grown, coveredThen⟩
  | ok value =>
      obtain ⟨grownNext, coveredNext⟩ := sparesNext value middle coveredThen
      exact ⟨grown.trans grownNext, coveredNext⟩

theorem spares_registerItems {items : List TaskItem}
    (within : ∀ target ∈ TaskItem.allTargets items, written target) :
    Spares written (registerItems items) := by
  induction items with
  | nil => exact (obeys_pure _).spares
  | cons item rest ih =>
      obtain ⟨first, others⟩ := List.forall_mem_append.mp within
      cases item with
      | fault cause => exact spares_throw _
      | step step => exact ih others
      | other => exact ih others
      | subtask name body =>
          refine (obeys_lift _).spares.bind fun name => (obeys_lift _).spares.bind fun key => ?_
          refine Spares.bind (fun machine covered => ?_) fun _ => ih others
          exact ⟨.refl machine.variables, covered.tasks,
            Table.forall_values_store (fun body => ∀ target ∈ Action.allTargets body, written target)
              covered.subtasks key first⟩

theorem spares_registerTask {task : Value}
    (within : ∀ target ∈ TaskItem.allTargets (TaskItem.itemsOf task), written target) :
    Spares written (registerTask task) := by
  refine (obeys_lift _).spares.bind fun name => (obeys_lift _).spares.bind fun key => ?_
  refine Spares.bind (fun machine covered => ?_) fun _ => spares_registerItems within
  exact ⟨.refl machine.variables,
    Table.forall_values_store (fun items => ∀ target ∈ TaskItem.allTargets items, written target)
      covered.tasks key within,
    covered.subtasks⟩

theorem spares_registerAll {nodes : List Value}
    (within : ∀ node ∈ nodes, ∀ target ∈ TaskItem.allTargets (TaskItem.itemsOf node), written target) :
    Spares written (registerAll nodes) := by
  induction nodes with
  | nil => exact (obeys_pure _).spares
  | cons node rest ih =>
      obtain ⟨first, others⟩ := List.forall_mem_cons.mp within
      exact (spares_registerTask first).bind fun _ => ih others

/-! ## Programs -/

theorem spares_runTasks (names : List Value) : Spares written (runTasks call names) := by
  induction names with
  | nil => exact (obeys_pure _).spares
  | cons name rest ih =>
      refine Spares.bind (fun machine covered => ?_) fun _ => ih
      by_cases known : Names machine.tasks name
      · exact (obeyed_runTask covered known).spares covered
      · rw [runTask_of_not_names known]
        exact ⟨.refl machine.variables, covered⟩

theorem spares_executeChecked {tree : Value} (within : ∀ target ∈ programTargets tree, written target) :
    Spares written (executeChecked tree) := by
  have checks : ∀ verdict, Spares written (passing verdict) := by
    intro verdict
    cases verdict with
    | ok => exact (obeys_pure _).spares
    | error stop => exact spares_throw stop
  have runs : Spares written
      (do runTasks call (← lift ((← lift (tree.part "runs")).elements)) : Run Unit) :=
    (obeys_lift _).spares.bind fun _ => (obeys_lift _).spares.bind fun _ => spares_runTasks _
  intro machine
  refine Spares.bind (checks _) (fun _ => (obeys_announce tree).spares.bind fun _ => ?_) machine
  rw [programTargets] at within
  cases isTasks : tree.part "tasks" with
  | error cause => exact spares_throw _
  | ok tasks =>
      change Spares written (registerTasks tasks >>= fun _ => _)
      refine Spares.bind ?_ fun _ => runs
      rw [registerTasks]
      cases isNodes : tasks.elements with
      | error cause => exact spares_throw _
      | ok nodes =>
          have listed : (tree.part "tasks" >>= Value.elements) = .ok nodes := by
            rw [isTasks]
            exact isNodes
          rw [listed] at within
          exact spares_registerAll (List.forall_mem_flatMap.mp within)

theorem spares_execute {tree : Value} (within : ∀ target ∈ programTargets tree, written target) :
    Spares written (execute tree) := by
  intro machine covered
  rw [outcome_execute]
  exact spares_executeChecked within machine covered

theorem spares_emitLines (lines : List String) : Spares written (emitLines lines) := by
  induction lines with
  | nil => exact (obeys_pure _).spares
  | cons line rest ih => exact (obeys_emit _).spares.bind fun _ => ih

theorem spares_executeSource {source : Value}
    (within : ∀ program, (Program.readValue source).outcome = .ok program →
      ∀ target ∈ programTargets program.node, written target) :
    Spares written (executeSource source) := by
  rw [executeSource, readProgram, bind_assoc]
  refine (spares_emitLines _).bind fun _ => ?_
  cases read : (Program.readValue source).outcome with
  | ok program => exact spares_execute (within program read)
  | error stop => exact spares_throw stop

end Run

/-! ## Everything that can be executed -/

/-- What a machine can be asked to execute. -/
inductive Executed where
  | text (source : Value)
  | program (tree : Value)
  | step (node : Value)
  | statement (node : Value)
  | announcedLoop (node : Value)
  | expression (node : Value)

namespace Executed

open Run

/-- The machine after something was executed on it, whichever way it ended. -/
def after (machine : Machine) : Executed → Machine
  | text source => ((executeSource source).outcome machine).2
  | program tree => ((execute tree).outcome machine).2
  | step node => ((stepNode node).outcome machine).2
  | statement node => ((execNode node).outcome machine).2
  | announcedLoop node => ((loopAnnouncedNode node).outcome machine).2
  | expression node => ((evalNode node).outcome machine).2

/-- The targets of assignments and the variables of loops in what is executed. -/
def targets : Executed → List Value
  | text source =>
    match (Program.readValue source).outcome with
    | .ok parsed => programTargets parsed.node
    | .error _ => []
  | program tree => programTargets tree
  | step node => Action.allTargets (StepCode.ofNode node).body
  | statement node => (Action.ofNode node).targets
  | announcedLoop node =>
    targetOf (node.part "index") ++ targetOf (node.part "element") ++
      Action.allTargets (Action.bodyIn "body" node)
  | expression _ => []

theorem grown_after {written : Value → Prop} {machine : Machine} (executed : Executed)
    (covered : machine.Covered written) (within : ∀ target ∈ executed.targets, written target) :
    Table.Grown written machine.variables (executed.after machine).variables := by
  have calls : CallsObey written call := obeys_runSubtask maxDepth
  cases executed with
  | text source =>
      refine (spares_executeSource (fun parsed read => ?_) machine covered).1
      simpa only [targets, read] using within
  | program tree => exact (spares_execute within machine covered).1
  | step node => exact (obeys_runStep calls _ within machine covered).writes
  | statement node => exact (obeys_exec calls _ within machine covered).writes
  | announcedLoop node =>
      obtain ⟨namesWithin, bodyWithin⟩ := List.forall_mem_append.mp within
      obtain ⟨indexWithin, elementWithin⟩ := List.forall_mem_append.mp namesWithin
      have obeys : Obeys written (loopAnnouncedNode node) :=
        obeys_lift_target indexWithin fun index indexWritten =>
          obeys_lift_target elementWithin fun element elementWritten => (obeys_lift _).bind fun name =>
            obeys_loopAnnounced (obeys_execBody calls _ bodyWithin) indexWritten elementWritten name
      exact (obeys machine covered).writes
  | expression node => exact (obeys_eval calls _ machine covered).writes

end Executed

/-- Whatever is executed on whatever machine, and whether it ends or stops: the variables that were there
are still there and in their order, before any new ones, and a variable keeps its value if its name is
not assigned, by an assignment or a loop, in what is executed or in the code registered before. -/
theorem Executed.keeps_other_variables (executed : Executed) (machine : Machine) :
    Table.keys machine.variables <+: Table.keys (executed.after machine).variables ∧
      ∀ name, (∀ target ∈ executed.targets ++ machine.targets, target.same name = false) →
        Table.fetch? name (executed.after machine).variables = Table.fetch? name machine.variables := by
  have grown : Table.Grown (· ∈ executed.targets ++ machine.targets) machine.variables
      (executed.after machine).variables := by
    refine executed.grown_after (Machine.covered_iff.mpr fun target member => ?_) fun target member => ?_
    · exact List.mem_append_right _ member
    · exact List.mem_append_left _ member
  exact ⟨grown.names, grown.others⟩

/-- A loop assigns its own variable and the one in its body, and leaves the others alone. -/
theorem Executed.keeps_other_variables_loop :
    let loop := Stmt.forEach "i" (.name "xs") [.assign "x" (.name "i")]
    let executed := Executed.statement loop.node
    let machine : Machine := { Machine.fresh ⟨false, .standard, 5⟩ none with
      «variables» := [(.str "xs", .texts ["a", "b"]), (.str "x", .str "c"), (.str "y", .str "d")] }
    let after := executed.after machine
    (∀ target ∈ executed.targets ++ machine.targets, target.same (.str "y") = false) ∧
    Table.keys machine.variables <+: Table.keys after.variables ∧
    Table.fetch? (.str "y") after.variables = Table.fetch? (.str "y") machine.variables ∧
    Table.keys after.variables = [.str "xs", .str "x", .str "y", .str "i"] ∧
    Table.fetch? (.str "x") after.variables = some (.str "b") := by
  intro loop executed machine after
  have named : executed.targets ++ machine.targets = [.str "i", .str "x"] := rfl
  have differs : ∀ target ∈ executed.targets ++ machine.targets, target.same (.str "y") = false := by
    rw [named]
    exact List.forall_mem_cons.mpr ⟨rfl, List.forall_mem_singleton.mpr rfl⟩
  obtain ⟨ordered, kept⟩ := Executed.keeps_other_variables executed machine
  exact ⟨differs, ordered, kept _ differs, rfl, rfl⟩

end Stepwise
