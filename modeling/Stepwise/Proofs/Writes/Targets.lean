import Stepwise.Proofs.Values.Sameness

/-!
# Targets

The names that code assigns can be read off it: the targets of its assignments and the variables of its
loops, at any depth.  `Action.targets` lists them, and `Machine.targets` lists those of all the code that
a machine has registered.

A table that is written only under some names has `Grown` from what it was.  No key is lost or moved, and
what is stored under other keys stays.
-/

namespace Stepwise

/-! ## Code -/

/-- The name that is assigned, unless it is missing. -/
def targetOf : Except Fault Value → List Value
  | .ok name => [name]
  | .error _ => []

/-- The variable that a loop assigns apart from its first one. -/
def LoopFeed.targets : LoopFeed → List Value
  | .direct _ => []
  | .enumerated _ element _ => targetOf element

mutual

/-- The names that an action assigns. -/
def Action.targets : Action → List Value
  | .skip | .fault _ | .call _ | .yield _ => []
  | .assign target _ => targetOf target
  | .decide branches => Branch.allTargets branches
  | .forEach item source body => item :: (source.targets ++ Action.allTargets body)
  | .forRange item _ body => item :: Action.allTargets body
  | .forEnumerated index element _ body =>
    targetOf index ++ targetOf element ++ Action.allTargets body

/-- The names that several actions assign. -/
def Action.allTargets : List Action → List Value
  | [] => []
  | action :: rest => action.targets ++ Action.allTargets rest

/-- The names that the branches of a choice assign. -/
def Branch.allTargets : List Branch → List Value
  | [] => []
  | .fault _ :: rest => Branch.allTargets rest
  | .test _ _ body :: rest => Action.allTargets body ++ Branch.allTargets rest
  | .otherwise body :: rest => Action.allTargets body ++ Branch.allTargets rest

end

/-- The names that a part of a task assigns. -/
def TaskItem.targets : TaskItem → List Value
  | .fault _ | .other => []
  | .step code => Action.allTargets code.body
  | .subtask _ body => Action.allTargets body

/-- The names that the parts of a task assign. -/
def TaskItem.allTargets (items : List TaskItem) : List Value :=
  items.flatMap TaskItem.targets

/-- The names that the registered tasks and subtasks assign. -/
def Machine.targets (machine : Machine) : List Value :=
  (machine.tasks.flatMap fun entry => TaskItem.allTargets entry.2) ++
    machine.subtasks.flatMap fun entry => Action.allTargets entry.2

/-- All names that registered code assigns have a property. -/
structure Machine.Covered (written : Value → Prop) (machine : Machine) : Prop where
  tasks : ∀ entry ∈ machine.tasks, ∀ target ∈ TaskItem.allTargets entry.2, written target
  subtasks : ∀ entry ∈ machine.subtasks, ∀ target ∈ Action.allTargets entry.2, written target

theorem Machine.covered_iff {written : Value → Prop} {machine : Machine} :
    machine.Covered written ↔ ∀ target ∈ machine.targets, written target := by
  simp only [Machine.targets, List.forall_mem_append, List.forall_mem_flatMap]
  exact ⟨fun covered => ⟨covered.tasks, covered.subtasks⟩, fun ⟨tasks, subtasks⟩ => ⟨tasks, subtasks⟩⟩

/-! ## Tables -/

namespace Table

variable {α : Type} {written : Value → Prop} {before middle after : Table α}

/-- How a table comes to be that is written only under some names. -/
structure Grown (written : Value → Prop) (before after : Table α) : Prop where
  names : keys before <+: keys after
  others : ∀ key, (∀ target, written target → target.same key = false) →
    fetch? key after = fetch? key before

theorem Grown.refl (table : Table α) : Grown written table table :=
  ⟨List.prefix_refl _, fun _ _ => rfl⟩

theorem Grown.trans (first : Grown written before middle) (second : Grown written middle after) :
    Grown written before after where
  names := first.names.trans second.names
  others key differs := (second.others key differs).trans (first.others key differs)

theorem grown_store {key : Value} (hashable : key.Hashable) (isWritten : written key) (value : α)
    (table : Table α) : Grown written table (store key value table) where
  names := keys_store key value table
  others _ differs := fetch?_store_of_differs hashable (differs key isWritten) value table

end Table

end Stepwise
