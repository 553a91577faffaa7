import Stepwise.Proofs.Changes
import Stepwise.Proofs.Checking
import Stepwise.Proofs.Settings.Independence

/-!
# Which definitions run

All tasks and subtasks of a program are registered before any of them runs, under their names alone.  So
of several tasks with one name the last one runs, each time the name is listed, and of several subtasks
with one name the last one in the whole program runs, also in the place of the others.

`performTasks` says directly what a program runs.  No table of names occurs in it, except where the code
of a step or subtask calls a function.
-/

namespace Stepwise

/-- The name and the parts of a task. -/
def taskOf (node : Value) : Except Fault (Value × List TaskItem) := do
  return (← node.part "name", TaskItem.itemsOf node)

/-- The tasks that a program defines. -/
def definedTasks (tree : Value) : Except Fault (List (Value × List TaskItem)) := do
  let tasks ← tree.part "tasks"
  let nodes ← tasks.elements
  nodes.mapM taskOf

/-- The names of the tasks that a program runs. -/
def runNames (tree : Value) : Except Fault (List Value) := do
  let runs ← tree.part "runs"
  runs.elements

/-- The subtasks among the parts of a task, with their names. -/
def subtasksOf : List TaskItem → List (Value × List Action)
  | [] => []
  | .subtask (.ok name) body :: rest => (name, body) :: subtasksOf rest
  | _ :: rest => subtasksOf rest

/-- The subtasks of all tasks in the order of the program. -/
def definedSubtasks (tasks : List (Value × List TaskItem)) : List (Value × List Action) :=
  tasks.flatMap fun task => subtasksOf task.2

/-- A task to run: the name in the list of runs, and the position and the parts of the task that is
meant. -/
structure Chosen where
  run : Value
  position : Nat
  items : List TaskItem

/-- The chosen task is the last one of its name. -/
structure Chosen.IsLastOf (chosen : Chosen) (tasks : List (Value × List TaskItem)) : Prop where
  defined : ∃ name, tasks[chosen.position]? = some (name, chosen.items)
  isLast : Table.IsLast tasks chosen.run chosen.position

namespace Run

/-- Runs the statements of a subtask in the place of a part of a task. -/
def performSubtask (name : Value) (body : List Action) : Run Value := do
  let shown ← lift name.say
  note "SUBTASK" ("Executing " ++ shown)
  indentBy 1
  runSubtaskBody (runSubtask (maxDepth - 1)) body

/-- Runs the last of the subtasks with a name. -/
def performLast (subtasks : List (Value × List Action)) (name : Value) : Run Value :=
  match Table.last? name subtasks with
  | some body => performSubtask name body
  | none => fail (.unknownSubtask name (Table.keys subtasks))

/-- Runs the parts of a task in order. -/
def performItems (subtasks : List (Value × List Action)) : List TaskItem → Run Unit
  | [] => pure ()
  | .fault cause :: _ => fault cause
  | .step step :: rest => do
    runStep call step
    performItems subtasks rest
  | .subtask name _ :: rest => do
    let name ← lift name
    let _ ← performLast subtasks name
    performItems subtasks rest
  | .other :: rest => performItems subtasks rest

/-- Runs a task under the name in the list of runs. -/
def performTask (subtasks : List (Value × List Action)) (chosen : Chosen) : Run Unit := do
  let shown ← lift chosen.run.say
  note "TASK" ("Executing " ++ shown)
  indentBy 1
  performItems subtasks chosen.items
  indentBy (-1)

/-- Runs tasks in order. -/
def performTasks (subtasks : List (Value × List Action)) : List Chosen → Run Unit
  | [] => pure ()
  | chosen :: rest => do
    performTask subtasks chosen
    performTasks subtasks rest

variable {α β : Type} {machine after : Machine}

/-! ## Runs that succeed -/

theorem bind_ok {run : Run α} {next : α → Run β} {value : β}
    (ends : (run >>= next).outcome machine = (.ok value, after)) :
    ∃ first middle, run.outcome machine = (.ok first, middle) ∧
      (next first).outcome middle = (.ok value, after) := by
  rw [outcome_bind] at ends
  rcases early : run.outcome machine with ⟨stop | first, middle⟩
  · rw [early] at ends
    cases ends
  · rw [early] at ends
    exact ⟨first, middle, rfl, ends⟩

theorem lift_ok {result : Except Fault α} {value : α}
    (ends : (lift result).outcome machine = (.ok value, after)) :
    result = .ok value ∧ after = machine := by
  cases result with
  | error cause => cases ends
  | ok found => cases ends; exact ⟨rfl, rfl⟩

theorem lift_of_ok {result : Except Fault α} {value : α} (same : result = .ok value)
    (machine : Machine) : (lift result).outcome machine = (.ok value, machine) := by
  rw [same]
  rfl

theorem bind_eq_of_ok {run : Run α} {next : α → Run β} {first : α} {middle : Machine}
    (early : run.outcome machine = (.ok first, middle)) :
    (run >>= next).outcome machine = (next first).outcome middle := by
  rw [outcome_bind, early]

theorem runSubtask_ok {depth : Nat} {name value : Value}
    (ends : (runSubtask (depth + 1) name).outcome machine = (.ok value, after)) :
    ∃ body, name.Hashable ∧ Table.fetch? name machine.subtasks = some body ∧
      (do
        let shown ← lift name.say
        note "SUBTASK" ("Executing " ++ shown)
        indentBy 1
        runSubtaskBody (runSubtask depth) body : Run Value).outcome machine = (.ok value, after) := by
  rw [runSubtask] at ends
  obtain ⟨key, middle, keyed, fetched⟩ := bind_ok ends
  obtain ⟨isKey, rfl⟩ := lift_ok keyed
  obtain ⟨rfl, hashable⟩ := Value.asKey_eq_ok_iff.mp isKey
  rw [outcome_get_bind] at fetched
  cases found : Table.fetch? key middle.subtasks with
  | none =>
      rw [found] at fetched
      cases fetched
  | some body =>
      rw [found] at fetched
      exact ⟨body, hashable, rfl, fetched⟩

theorem runTask_ok {name : Value}
    (ends : (runTask call name).outcome machine = (.ok (), after)) :
    ∃ items, name.Hashable ∧ Table.fetch? name machine.tasks = some items ∧
      (do
        let shown ← lift name.say
        note "TASK" ("Executing " ++ shown)
        indentBy 1
        runItems call items
        indentBy (-1) : Run Unit).outcome machine = (.ok (), after) := by
  rw [runTask] at ends
  obtain ⟨key, middle, keyed, fetched⟩ := bind_ok ends
  obtain ⟨isKey, rfl⟩ := lift_ok keyed
  obtain ⟨rfl, hashable⟩ := Value.asKey_eq_ok_iff.mp isKey
  rw [outcome_get_bind] at fetched
  cases found : Table.fetch? key middle.tasks with
  | none =>
      rw [found] at fetched
      cases fetched
  | some items =>
      rw [found] at fetched
      exact ⟨items, hashable, rfl, fetched⟩

/-! ## Registration -/

theorem registerItems_ok {items : List TaskItem}
    (ends : (registerItems items).outcome machine = (.ok (), after)) :
    Table.Keyed (subtasksOf items) ∧
      after = { machine with
        subtasks := Table.storeAll (subtasksOf items) machine.subtasks } := by
  induction items generalizing machine with
  | nil =>
      cases ends
      exact ⟨fun _ member => (by cases member), rfl⟩
  | cons item rest ih =>
      cases item with
      | fault cause => cases ends
      | step step => exact ih ends
      | other => exact ih ends
      | subtask name body =>
          obtain ⟨name, _, named, keyedLater⟩ := bind_ok ends
          obtain ⟨rfl, rfl⟩ := lift_ok named
          obtain ⟨key, _, keyed, storedLater⟩ := bind_ok keyedLater
          obtain ⟨isKey, rfl⟩ := lift_ok keyed
          obtain ⟨rfl, hashable⟩ := Value.asKey_eq_ok_iff.mp isKey
          obtain ⟨_, middle, changed, registered⟩ := bind_ok storedLater
          cases changed
          obtain ⟨keyedRest, rfl⟩ := ih registered
          exact ⟨List.forall_mem_cons.mpr ⟨hashable, keyedRest⟩, rfl⟩

theorem registerAll_ok {nodes : List Value}
    (ends : (registerAll nodes).outcome machine = (.ok (), after)) :
    ∃ tasks, nodes.mapM taskOf = .ok tasks ∧
      Table.Keyed tasks ∧ Table.Keyed (definedSubtasks tasks) ∧
        after = { machine with
          tasks := Table.storeAll tasks machine.tasks
          subtasks := Table.storeAll (definedSubtasks tasks) machine.subtasks } := by
  induction nodes generalizing machine with
  | nil =>
      cases ends
      exact ⟨[], rfl, fun _ member => (by cases member), fun _ member => (by cases member), rfl⟩
  | cons node rest ih =>
      obtain ⟨_, between, registered, registeredRest⟩ := bind_ok ends
      obtain ⟨name, _, named, keyedLater⟩ := bind_ok registered
      obtain ⟨isName, rfl⟩ := lift_ok named
      obtain ⟨key, _, keyed, storedLater⟩ := bind_ok keyedLater
      obtain ⟨isKey, rfl⟩ := lift_ok keyed
      obtain ⟨rfl, hashable⟩ := Value.asKey_eq_ok_iff.mp isKey
      obtain ⟨_, middle, changed, inner⟩ := bind_ok storedLater
      cases changed
      obtain ⟨keyedInner, rfl⟩ := registerItems_ok inner
      obtain ⟨tasks, read, keyedTasks, keyedSubtasks, rfl⟩ := ih registeredRest
      refine ⟨(key, TaskItem.itemsOf node) :: tasks, ?_, List.forall_mem_cons.mpr ⟨hashable, keyedTasks⟩,
        List.forall_mem_append.mpr ⟨keyedInner, keyedSubtasks⟩, ?_⟩
      · simp only [List.mapM_cons, taskOf, isName, read]
        rfl
      · simp only [definedSubtasks, List.flatMap_cons, Table.storeAll_append]
        rfl

/-! ## Running -/

/-- The tables of the machine hold the given tasks and their subtasks. -/
structure Registered (tasks : List (Value × List TaskItem)) (machine : Machine) : Prop where
  taskTable : machine.tasks = Table.storeAll tasks []
  subtaskTable : machine.subtasks = Table.storeAll (definedSubtasks tasks) []
  keyed : Table.Keyed tasks
  keyedSubtasks : Table.Keyed (definedSubtasks tasks)

variable {tasks : List (Value × List TaskItem)}

theorem Registered.moved (registered : Registered tasks machine) {run : Run α} (moves : Moves run)
    {result : Except Stop α} (ends : run.outcome machine = (result, after)) :
    Registered tasks after := by
  have changes := moves machine
  rw [ends] at changes
  obtain ⟨_, _, sameTasks, sameSubtasks⟩ := changes.fixed
  exact ⟨sameTasks.trans registered.taskTable, sameSubtasks.trans registered.subtaskTable,
    registered.keyed, registered.keyedSubtasks⟩

theorem call_ok (registered : Registered tasks machine) {name value : Value}
    (ends : (call name).outcome machine = (.ok value, after)) :
    (performLast (definedSubtasks tasks) name).outcome machine = (.ok value, after) := by
  obtain ⟨body, hashable, found, performed⟩ := runSubtask_ok ends
  rw [registered.subtaskTable, Table.fetch?_storeAll (fun _ member => (by cases member))
    registered.keyedSubtasks hashable, Table.fetch?, Option.or_none] at found
  rw [performLast, found]
  exact performed

theorem runItems_ok (registered : Registered tasks machine) {items : List TaskItem}
    (ends : (runItems call items).outcome machine = (.ok (), after)) :
    (performItems (definedSubtasks tasks) items).outcome machine = (.ok (), after) := by
  induction items generalizing machine with
  | nil => exact ends
  | cons item rest ih =>
      cases item with
      | fault cause => cases ends
      | other => exact ih registered ends
      | step step =>
          obtain ⟨_, middle, early, late⟩ := bind_ok ends
          have kept := registered.moved (moves_runStep (moves_runSubtask maxDepth) step) early
          exact (bind_eq_of_ok early).trans (ih kept late)
      | subtask name body =>
          obtain ⟨name, _, named, called⟩ := bind_ok ends
          obtain ⟨rfl, rfl⟩ := lift_ok named
          obtain ⟨_, middle, early, late⟩ := bind_ok called
          have kept := registered.moved (moves_runSubtask maxDepth name) early
          exact (bind_eq_of_ok (call_ok registered early)).trans (ih kept late)

theorem runTask_ok_chosen (registered : Registered tasks machine) {name : Value}
    (ends : (runTask call name).outcome machine = (.ok (), after)) :
    ∃ chosen : Chosen, chosen.run = name ∧ chosen.IsLastOf tasks ∧
      (performTask (definedSubtasks tasks) chosen).outcome machine = (.ok (), after) := by
  obtain ⟨items, hashable, found, performed⟩ := runTask_ok ends
  rw [registered.taskTable, Table.fetch?_storeAll (fun _ member => (by cases member))
    registered.keyed hashable, Table.fetch?, Option.or_none] at found
  obtain ⟨position, known, there, isLast⟩ := Table.last?_eq_some found
  refine ⟨⟨name, position, items⟩, rfl, ⟨⟨known, there⟩, isLast⟩, ?_⟩
  obtain ⟨shown, _, shows, noted⟩ := bind_ok performed
  obtain ⟨_, middle, early, indented⟩ := bind_ok noted
  obtain ⟨_, inner, earlyIndent, ran⟩ := bind_ok indented
  obtain ⟨_, outer, ranItems, late⟩ := bind_ok ran
  have keptShown := registered.moved (moves_lift _) shows
  have keptNote := keptShown.moved (moves_note _ _) early
  have keptIndent := keptNote.moved (moves_indentBy 1) earlyIndent
  calc (performTask (definedSubtasks tasks) ⟨name, position, items⟩).outcome machine
    _ = _ := bind_eq_of_ok shows
    _ = _ := bind_eq_of_ok early
    _ = _ := bind_eq_of_ok earlyIndent
    _ = _ := bind_eq_of_ok (runItems_ok keptIndent ranItems)
    _ = _ := late

theorem runTasks_ok (registered : Registered tasks machine) {names : List Value}
    (ends : (runTasks call names).outcome machine = (.ok (), after)) :
    ∃ chosen : List Chosen, chosen.map Chosen.run = names ∧ (∀ choice ∈ chosen, choice.IsLastOf tasks) ∧
      (performTasks (definedSubtasks tasks) chosen).outcome machine = (.ok (), after) := by
  induction names generalizing machine with
  | nil => exact ⟨[], rfl, fun _ member => (by cases member), ends⟩
  | cons name rest ih =>
      obtain ⟨_, middle, early, late⟩ := bind_ok ends
      have kept := registered.moved (moves_runTask (moves_runSubtask maxDepth) name) early
      obtain ⟨first, rfl, isLast, performed⟩ := runTask_ok_chosen registered early
      obtain ⟨others, rfl, areLast, performedRest⟩ := ih kept late
      exact ⟨first :: others, rfl, List.forall_mem_cons.mpr ⟨isLast, areLast⟩,
        (bind_eq_of_ok performed).trans performedRest⟩

/-! ## The whole program -/

theorem passing_ok {verdict : Except Stop Unit}
    (ends : (passing verdict).outcome machine = (.ok (), after)) :
    verdict = .ok () ∧ after = machine := by
  cases verdict with
  | error stop => cases ends
  | ok =>
      cases ends
      exact ⟨rfl, rfl⟩

theorem execute_ok {tree : Value} (ends : (execute tree).outcome machine = (.ok (), after)) :
    (executeChecked tree).outcome machine = (.ok (), after) := by
  rw [outcome_execute] at ends
  rcases checked : (executeChecked tree).outcome machine with ⟨stop | value, late⟩
  · rw [checked] at ends
    cases stop <;> cases ends
  · rw [checked] at ends
    exact ends

theorem outcome_executeChecked {tree : Value}
    (passes : (Check.program tree machine.source).outcome = .ok ()) :
    (executeChecked tree).outcome machine =
      (do
        announce tree
        registerTasks (← lift (tree.part "tasks"))
        runTasks call (← lift ((← lift (tree.part "runs")).elements)) : Run Unit).outcome machine := by
  rw [executeChecked, outcome_get_bind, passes]
  rfl

/-- The stages of a program that succeeds: it passes the check, the objective is announced, the tasks are
registered, and the tasks in the list of runs run. -/
theorem executeChecked_ok {tree : Value}
    (ends : (executeChecked tree).outcome machine = (.ok (), after)) :
    (Check.program tree machine.source).outcome = .ok () ∧
      ∃ tasks nodes names opened ready, tree.part "tasks" = .ok tasks ∧ tasks.elements = .ok nodes ∧
        runNames tree = .ok names ∧ (announce tree).outcome machine = (.ok (), opened) ∧
          (registerAll nodes).outcome opened = (.ok (), ready) ∧
            (runTasks call names).outcome ready = (.ok (), after) := by
  rw [executeChecked, outcome_get_bind] at ends
  obtain ⟨_, _, passed, announced⟩ := bind_ok ends
  obtain ⟨passes, rfl⟩ := passing_ok passed
  obtain ⟨_, opened, opening, tasksLater⟩ := bind_ok announced
  obtain ⟨tasks, _, liftedTasks, registered⟩ := bind_ok tasksLater
  obtain ⟨isTasks, rfl⟩ := lift_ok liftedTasks
  obtain ⟨_, ready, registering, runsLater⟩ := bind_ok registered
  obtain ⟨nodes, _, liftedNodes, registeringAll⟩ := bind_ok registering
  obtain ⟨isNodes, rfl⟩ := lift_ok liftedNodes
  obtain ⟨runs, _, liftedRuns, namesLater⟩ := bind_ok runsLater
  obtain ⟨isRuns, rfl⟩ := lift_ok liftedRuns
  obtain ⟨names, _, liftedNames, running⟩ := bind_ok namesLater
  obtain ⟨isNames, rfl⟩ := lift_ok liftedNames
  have read : runNames tree = .ok names := by
    rw [runNames, isRuns]
    exact isNames
  exact ⟨passes, tasks, nodes, names, _, _, isTasks, isNodes, read, opening, registeringAll, running⟩

theorem registered_of_registerAll {settings : Settings} {source : Option String} {tree : Value}
    {opened ready : Machine} {nodes : List Value}
    (opening : (announce tree).outcome (.fresh settings source) = (.ok (), opened))
    (registering : (registerAll nodes).outcome opened = (.ok (), ready)) :
    ∃ tasks, nodes.mapM taskOf = .ok tasks ∧ Registered tasks ready := by
  have changes := moves_announce tree (.fresh settings source)
  rw [opening] at changes
  obtain ⟨_, _, noTasks, noSubtasks⟩ := changes.fixed
  obtain ⟨tasks, read, keyed, keyedSubtasks, rfl⟩ := registerAll_ok registering
  refine ⟨tasks, read, ⟨?_, ?_, keyed, keyedSubtasks⟩⟩
  · exact congrArg (Table.storeAll tasks) noTasks
  · exact congrArg (Table.storeAll (definedSubtasks tasks)) noSubtasks

theorem names_of_tasks {nodes names : List Value} (read : nodes.mapM taskOf = .ok tasks)
    (named : nodes.mapM (Value.part "name") = .ok names) : names = tasks.map Prod.fst := by
  induction nodes generalizing tasks names with
  | nil =>
      cases read
      cases named
      rfl
  | cons node rest ih =>
      obtain ⟨task, tasks, readFirst, readRest, rfl⟩ := Check.mapM_cons_eq_ok read
      obtain ⟨name, names, namedFirst, namedRest, rfl⟩ := Check.mapM_cons_eq_ok named
      obtain ⟨known, part, made⟩ := exists_of_bind_eq_ok readFirst
      cases made
      rw [namedFirst] at part
      cases part
      rw [ih readRest namedRest]
      rfl

/-- A program that passes the check runs each of its tasks. -/
theorem covered_of_passes {tree part : Value} {source : Option String} {nodes runs : List Value}
    (passes : (Check.program tree source).outcome = .ok ()) (isPart : tree.part "tasks" = .ok part)
    (isNodes : part.elements = .ok nodes) (isRuns : runNames tree = .ok runs)
    (read : nodes.mapM taskOf = .ok tasks) :
    (∀ run ∈ runs, run.Hashable) ∧ ∀ task ∈ tasks, ∃ run ∈ runs, run.same task.1 = true := by
  obtain ⟨_, _, names, runsPart, _, isPart', isNodes', named, isRunsPart, isValues, hashable,
    covered, -⟩ := Check.program_eq_ok passes
  rw [isPart] at isPart'
  cases isPart'
  rw [isNodes] at isNodes'
  cases isNodes'
  rw [runNames, isRunsPart] at isRuns
  cases isValues.symm.trans isRuns
  refine ⟨hashable, fun task member => covered task.1 ?_⟩
  rw [names_of_tasks read named]
  exact List.mem_map_of_mem member

/-- If each task has a run, the tasks that run are those without a later task of their name. -/
theorem chosen_position_iff (keyed : Table.Keyed tasks) {chosen : List Chosen}
    (hashable : ∀ choice ∈ chosen, choice.run.Hashable)
    (areLast : ∀ choice ∈ chosen, choice.IsLastOf tasks)
    (covered : ∀ task ∈ tasks, ∃ choice ∈ chosen, choice.run.same task.1 = true)
    {position : Nat} {task : Value × List TaskItem} (there : tasks[position]? = some task) :
    (∃ choice ∈ chosen, choice.position = position) ↔
      ∀ later other, position < later → tasks[later]? = some other → other.1.same task.1 = false := by
  have known : task ∈ tasks := List.mem_of_getElem? there
  constructor
  · rintro ⟨choice, member, rfl⟩ later other after found
    obtain ⟨⟨entry, entryThere, same⟩, latest⟩ := (areLast choice member).isLast
    rw [there] at entryThere
    cases entryThere
    by_contra sameLater
    rw [Bool.not_eq_false] at sameLater
    have sameRun := Value.same_trans other.1 (keyed other (List.mem_of_getElem? found)) sameLater same
    rw [latest later other after found] at sameRun
    cases sameRun
  · intro unique
    obtain ⟨choice, member, sameTask⟩ := covered task known
    refine ⟨choice, member, (areLast choice member).isLast.unique ⟨⟨task, there, ?_⟩, ?_⟩⟩
    · exact Value.same_symm choice.run (hashable choice member) sameTask
    · intro later other after found
      by_contra sameRun
      rw [Bool.not_eq_false] at sameRun
      have sameLater :=
        Value.same_trans other.1 (keyed other (List.mem_of_getElem? found)) sameRun sameTask
      rw [unique later other after found] at sameLater
      cases sameLater

/-- A program that succeeds on a new machine runs, for each name in its list of runs, the last task of
this name, and in the place of each subtask the last subtask of its name in all tasks.  A task runs if
and only if no later one has its name. -/
theorem execute_last_definitions (tree : Value) (settings : Settings) (source : Option String)
    (after : Machine) (ends : (execute tree).outcome (.fresh settings source) = (.ok (), after)) :
    ∃ tasks runs chosen, definedTasks tree = .ok tasks ∧ runNames tree = .ok runs ∧
      chosen.map Chosen.run = runs ∧ (∀ choice ∈ chosen, choice.IsLastOf tasks) ∧
      (do
        announce tree
        registerTasks (← lift (tree.part "tasks"))
        performTasks (definedSubtasks tasks) chosen : Run Unit).outcome (.fresh settings source) =
          (.ok (), after) ∧
      ∀ position task, tasks[position]? = some task →
        ((∃ choice ∈ chosen, choice.position = position) ↔
          ∀ later other, position < later → tasks[later]? = some other →
            other.1.same task.1 = false) := by
  obtain ⟨passes, part, nodes, runs, opened, ready, isPart, isNodes, isRuns, opening, registering,
    running⟩ := executeChecked_ok (execute_ok ends)
  obtain ⟨tasks, read, registered⟩ := registered_of_registerAll opening registering
  obtain ⟨chosen, rfl, areLast, performed⟩ := runTasks_ok registered running
  obtain ⟨hashable, covered⟩ := covered_of_passes passes isPart isNodes isRuns read
  refine ⟨tasks, _, chosen, ?_, isRuns, rfl, areLast, ?_, ?_⟩
  · rw [definedTasks, isPart]
    exact (congrArg (· >>= _) isNodes).trans read
  · have lifted : (lift (tree.part "tasks")).outcome opened = (.ok part, opened) := by
      rw [isPart]
      rfl
    have registers : (registerTasks part).outcome opened = (.ok (), ready) := by
      rw [registerTasks, isNodes]
      exact registering
    calc _ = _ := bind_eq_of_ok opening
      _ = _ := bind_eq_of_ok lifted
      _ = _ := bind_eq_of_ok registers
      _ = _ := performed
  · intro position task there
    exact chosen_position_iff registered.keyed (List.forall_mem_map.mp hashable) areLast
      (fun task member => by simpa using covered task member) there

/-- Two tasks have one name, and so have subtasks of different tasks.  The first task does not run, and
the second one runs the subtask of the third. -/
theorem execute_last_definitions_repeated :
    let program : Program := ⟨"o", [
      ⟨"t", [.step "s" [.call "print" [.text "a"]]]⟩,
      ⟨"u", [.subtask "p" [.call "print" [.text "b"]]]⟩,
      ⟨"t", [.subtask "p" [.call "print" [.text "c"]], .step "s" [.call "print" [.text "d"]]]⟩],
      ["t", "u", "t"]⟩
    let machine := Machine.fresh ⟨false, .standard, 5⟩ none
    let after := ((execute program.node).outcome machine).2
    (execute program.node).outcome machine = (.ok (), after) ∧
      after.outputs = ["c", "d", "c", "c", "d"] ∧
      ∃ tasks runs chosen, definedTasks program.node = .ok tasks ∧ runNames program.node = .ok runs ∧
        chosen.map Chosen.run = runs ∧ (∀ choice ∈ chosen, choice.IsLastOf tasks) ∧
        (do
          announce program.node
          registerTasks (← lift (program.node.part "tasks"))
          performTasks (definedSubtasks tasks) chosen : Run Unit).outcome machine = (.ok (), after) ∧
        ∀ position task, tasks[position]? = some task →
          ((∃ choice ∈ chosen, choice.position = position) ↔
            ∀ later other, position < later → tasks[later]? = some other →
              other.1.same task.1 = false) := by
  intro program machine after
  have passes : (Check.program program.node machine.source).outcome = .ok () :=
    Check.program_ok (by simp [program]) (by simp [program]) (fun _ => Iff.rfl) none
  have ends : (execute program.node).outcome machine = (.ok (), after) := by
    simp only [after, outcome_execute, outcome_executeChecked passes]
    rfl
  have outputs : after.outputs = ["c", "d", "c", "c", "d"] := by
    simp only [after, outcome_execute, outcome_executeChecked passes]
    rfl
  exact ⟨ends, outputs, execute_last_definitions program.node _ _ after ends⟩

end Run

end Stepwise
