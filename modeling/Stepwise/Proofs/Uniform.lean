import Stepwise.Proofs.Changes
import Stepwise.Proofs.Values.Plain

/-!
# Uniform properties of computations

Two parts of a machine are of no use to the code that runs on it: the log, which it only adds to, and the
count of iterations, which only loops over items look at.  The rest is the `Machine.core`.

A property of computations is `Uniform` if it holds of computations without an effect, and is kept by
putting computations together, by reading the core and by changing the machine without the count.  Such a
property holds of all code in which there are no loops over items, and of all code if those loops keep it
too.  What subtasks do is covered by the same condition on the code that the machine has registered.
-/

namespace Stepwise

/-- The machine without its log and its count of iterations. -/
def Machine.core (machine : Machine) : Machine :=
  { machine with iterations := 0, log := [] }

/-- The machine with another depth of indentation. -/
def Machine.indented (machine : Machine) (amount : Int) : Machine :=
  { machine with indent := machine.indent + amount }

mutual

/-- Whether an action has a loop over items in it. -/
def Action.overItems : Action → Bool
  | .skip | .fault _ | .assign .. | .call _ | .yield _ => false
  | .decide branches => Branch.someOverItems branches
  | .forEach .. => true
  | .forRange _ _ body => Action.someOverItems body
  | .forEnumerated _ _ _ body => Action.someOverItems body

/-- Whether some of the actions have a loop over items in them. -/
def Action.someOverItems : List Action → Bool
  | [] => false
  | action :: rest => action.overItems || Action.someOverItems rest

/-- Whether some of the branches have a loop over items in them. -/
def Branch.someOverItems : List Branch → Bool
  | [] => false
  | .fault _ :: rest => Branch.someOverItems rest
  | .test _ _ body :: rest => Action.someOverItems body || Branch.someOverItems rest
  | .otherwise body :: rest => Action.someOverItems body || Branch.someOverItems rest

end

namespace Run

/-- A property of computations on machines with the given subtasks that putting computations together
keeps. -/
structure Uniform (subtasks : Table (List Action)) (holds : ∀ {α : Type}, Run α → Prop) : Prop where
  pure {α : Type} (value : α) : holds (pure value : Run α)
  throw {α : Type} (stop : Stop) : holds (throw stop : Run α)
  bind {α β : Type} {run : Run α} {next : α → Run β} : holds run → (∀ value, holds (next value)) →
    holds (run >>= next)
  read {α : Type} {next : Machine → Run α} : (∀ machine : Machine, next machine.core = next machine) →
    (∀ machine : Machine, machine.subtasks = subtasks → holds (next machine)) → holds (get >>= next)
  change {change : Machine → Machine} :
    (∀ machine, (change machine).core = (change machine.core).core ∧
      (change machine).iterations = machine.iterations ∧
      (change machine).settings = machine.settings ∧
      (change machine).subtasks = machine.subtasks) → holds (modify change : Run Unit)

/-- Loops over items keep a property. -/
def KeptByLoops (holds : ∀ {α : Type}, Run α → Prop) : Prop :=
  ∀ {body : Run Value} (item : Value) (source : LoopFeed), holds body →
    holds (loopOver item source body)

namespace Uniform

variable {subtasks : Table (List Action)} {holds : ∀ {α : Type}, Run α → Prop}
  (uniform : Uniform subtasks holds)
include uniform

/-! ## Effects -/

theorem still {α : Type} {run : Run α} (still : Still run) : holds run := by
  obtain ⟨result, same⟩ := still
  cases result with
  | ok value =>
      have isPure : run = Pure.pure value := funext same
      exact isPure ▸ uniform.pure value
  | error stop =>
      have isThrow : run = MonadExcept.throw stop := funext same
      exact isThrow ▸ uniform.throw stop

theorem lift {α : Type} (result : Except Fault α) : holds (Run.lift result) :=
  uniform.still (still_lift result)

omit uniform in
theorem choice {α : Type} {condition : Prop} [Decidable condition] {run other : Run α}
    (here : holds run) (there : holds other) : holds (if condition then run else other) := by
  split
  · exact here
  · exact there

theorem mapM {α γ : Type} {run : γ → Run α} (each : ∀ item, holds (run item)) (items : List γ) :
    holds (items.mapM run) := by
  induction items with
  | nil => exact uniform.pure []
  | cons item items ih =>
      rw [List.mapM_cons]
      exact uniform.bind (each item) fun _ => uniform.bind ih fun _ => uniform.pure _

theorem emit (event : Event) : holds (Run.emit event) :=
  uniform.change fun _ => ⟨rfl, rfl, rfl, rfl⟩

theorem whenExplaining {action : Run Unit} (does : holds action) :
    holds (Run.whenExplaining action) := by
  refine uniform.bind ?_ fun _ => choice does (uniform.pure ())
  exact uniform.read (fun _ => rfl) fun _ _ => uniform.pure _

theorem note (category message : String) : holds (Run.note category message) :=
  uniform.whenExplaining (uniform.read (fun _ => rfl) fun _ _ => uniform.emit _)

theorem output (text : String) : holds (Run.output text) :=
  uniform.read (fun _ => rfl) fun _ _ => uniform.emit _

theorem noteSaying (category : String) (message : Except Fault String) :
    holds (Run.noteSaying category message) :=
  uniform.whenExplaining (uniform.bind (uniform.lift message) fun _ => uniform.note category _)

theorem indentBy (amount : Int) : holds (Run.indentBy amount) :=
  uniform.change fun _ => ⟨rfl, rfl, rfl, rfl⟩

theorem explainedIndentBy (amount : Int) : holds (Run.explainedIndentBy amount) :=
  uniform.whenExplaining (uniform.indentBy amount)

theorem whenShown (number : Int) {action : Run Unit} (does : holds action) :
    holds (Run.whenShown number action) :=
  uniform.read (fun _ => rfl) fun _ _ => choice does (uniform.pure ())

theorem whenCut (number : Int) {action : Int → Run Unit} (does : ∀ shown, holds (action shown)) :
    holds (Run.whenCut number action) :=
  uniform.read (fun _ => rfl) fun _ _ => choice (does _) (uniform.pure ())

/-! ## Variables and supplies -/

theorem valueNamed? (name : Value) : holds (Run.valueNamed? name) :=
  uniform.bind (uniform.lift _) fun _ => uniform.read (fun _ => rfl) fun _ _ => uniform.pure _

theorem assign (name value : Value) : holds (Run.assign name value) :=
  uniform.bind (uniform.lift _) fun _ => uniform.change fun _ => ⟨rfl, rfl, rfl, rfl⟩

theorem readVariable (name : String) : holds (Run.readVariable name) := by
  refine uniform.read (fun _ => rfl) fun machine _ => ?_
  split
  · exact uniform.pure _
  · exact uniform.throw _

theorem startCursor (source : Supply) (next : Int) : holds (Run.startCursor source next) := by
  refine uniform.read (fun _ => rfl) fun _ _ => ?_
  exact uniform.bind (uniform.change fun _ => ⟨rfl, rfl, rfl, rfl⟩) fun _ => uniform.pure _

theorem takeCursor? (number : Nat) : holds (Run.takeCursor? number) := by
  refine uniform.read (fun _ => rfl) fun machine _ => ?_
  split
  · exact uniform.pure _
  · exact uniform.bind (uniform.change fun _ => ⟨rfl, rfl, rfl, rfl⟩) fun _ => uniform.pure _

section Loops

variable {body : Nat → Value → Run Value} (each : ∀ number item, holds (body number item))
include each

theorem forItems (items : List Value) (number : Nat) : holds (Run.forItems body items number) := by
  induction items generalizing number with
  | nil => exact uniform.pure _
  | cons item items ih =>
      exact uniform.bind (each number item) fun _ => choice (uniform.pure _) (ih (number + 1))

theorem forSpan (step : Int) (count : Nat) (start : Int) (number : Nat) :
    holds (Run.forSpan body step count start number) := by
  induction count generalizing start number with
  | zero => exact uniform.pure _
  | succ count ih =>
      exact uniform.bind (each number (.int start)) fun _ =>
        choice (uniform.pure _) (ih (start + step) (number + 1))

theorem forCursor (cursor count number : Nat) : holds (Run.forCursor body cursor count number) := by
  induction count generalizing number with
  | zero => exact uniform.pure _
  | succ count ih =>
      refine uniform.bind (uniform.takeCursor? cursor) fun taken => ?_
      cases taken with
      | none => exact uniform.pure _
      | some item =>
          exact uniform.bind (each number item) fun _ => choice (uniform.pure _) (ih (number + 1))

theorem forSupply (supply : Supply) : holds (Run.forSupply supply body) := by
  cases supply with
  | feed feed =>
      cases feed with
      | items items => exact uniform.forItems each items 0
      | span start step count => exact uniform.forSpan each step count start 0
  | cursor number =>
      exact uniform.read (fun _ => rfl) fun _ _ => uniform.forCursor each number _ 0

end Loops

theorem drainCursor (cursor count : Nat) : holds (Run.drainCursor cursor count) := by
  induction count with
  | zero => exact uniform.pure _
  | succ count ih =>
      refine uniform.bind (uniform.takeCursor? cursor) fun taken => ?_
      cases taken with
      | none => exact uniform.pure _
      | some item => exact uniform.bind ih fun _ => uniform.pure _

theorem drain (supply : Supply) : holds (Run.drain supply) := by
  cases supply with
  | feed feed => exact uniform.pure _
  | cursor number => exact uniform.read (fun _ => rfl) fun _ _ => uniform.drainCursor number _

/-! ## Functions -/

theorem printValues (values : List Value) : holds (Run.printValues values) := by
  refine uniform.bind (uniform.mapM (fun value => uniform.still (still_outputText value)) values)
    fun texts => uniform.bind (uniform.lift _) fun joined => ?_
  exact uniform.bind (uniform.output _) fun _ => uniform.pure _

theorem sumFrom (collection start : Value) : holds (Run.sumFrom collection start) := by
  refine uniform.bind (uniform.still (still_supplyOf collection)) fun supply => ?_
  split
  · exact uniform.throw _
  · exact uniform.bind (uniform.drain supply) fun items => uniform.still (still_total start items)

theorem sumOf (arguments : List Value) : holds (Run.sumOf arguments) := by
  unfold Run.sumOf
  split
  · exact uniform.throw _
  · exact uniform.sumFrom _ _
  · exact uniform.sumFrom _ _
  · exact uniform.throw _

theorem enumerationOf (arguments : List Value) : holds (Run.enumerationOf arguments) := by
  unfold Run.enumerationOf
  split
  · exact uniform.throw _
  · exact uniform.bind (uniform.still (still_supplyOf _)) fun _ => uniform.startCursor _ _
  · exact uniform.bind (uniform.lift _) fun _ =>
      uniform.bind (uniform.still (still_supplyOf _)) fun _ => uniform.startCursor _ _
  · exact uniform.throw _

theorem builtin {name : String} {run : List Value → Run Value} (found : builtin? name = some run)
    (arguments : List Value) : holds (run arguments) := by
  unfold builtin? at found
  split at found
  · cases found; exact uniform.still (still_rangeOf arguments)
  · cases found; exact uniform.sumOf arguments
  · cases found; exact uniform.still (still_lengthOf arguments)
  · cases found; exact uniform.printValues arguments
  · cases found; exact uniform.enumerationOf arguments
  · cases found

/-! ## Code -/

section Code

variable {call : Value → Run Value}

theorem callSubtask (calls : ∀ name, holds (call name)) (function : Value) :
    holds (Run.callSubtask call function) := by
  refine uniform.bind (uniform.lift _) fun key => uniform.read (fun _ => rfl) fun _ _ => ?_
  refine choice (calls key) ?_
  split
  · refine uniform.read (fun _ => rfl) fun _ _ => choice (calls _) ?_
    exact uniform.read (fun _ => rfl) fun _ _ => uniform.throw _
  · exact uniform.throw _

theorem callFunction (calls : ∀ name, holds (call name)) (function : Value) (arguments : List Value) :
    holds (Run.callFunction call function arguments) := by
  unfold Run.callFunction
  split
  · split
    · next found => exact uniform.builtin found arguments
    · exact uniform.callSubtask calls _
  · exact uniform.callSubtask calls function

omit uniform in
mutual

theorem eval (uniform : Uniform subtasks holds) (calls : ∀ name, holds (call name)) (term : Term) :
    holds (Run.eval call term) := by
  cases term with
  | const value => exact uniform.pure value
  | var name => exact uniform.readVariable name
  | fault cause => exact uniform.throw _
  | after first last =>
      exact uniform.bind (uniform.eval calls first) fun _ => uniform.eval calls last
  | list items => exact uniform.bind (uniform.evalItems calls items) fun _ => uniform.pure _
  | dict entries => exact uniform.bind (uniform.evalEntries calls entries []) fun _ => uniform.pure _
  | index container key =>
      exact uniform.bind (uniform.eval calls container) fun _ =>
        uniform.bind (uniform.eval calls key) fun _ => uniform.still (still_index _ _)
  | negate operand => exact uniform.bind (uniform.eval calls operand) fun _ => uniform.lift _
  | binary operator left right =>
      exact uniform.bind (uniform.eval calls left) fun _ =>
        uniform.bind (uniform.eval calls right) fun _ => uniform.still (still_operate operator _ _)
  | call function arguments =>
      exact uniform.bind (uniform.evalAll calls arguments) fun _ =>
        uniform.callFunction calls function _

theorem evalAll (uniform : Uniform subtasks holds) (calls : ∀ name, holds (call name))
    (terms : List Term) : holds (Run.evalAll call terms) := by
  cases terms with
  | nil => exact uniform.pure _
  | cons term rest =>
      exact uniform.bind (uniform.eval calls term) fun _ =>
        uniform.bind (uniform.evalAll calls rest) fun _ => uniform.pure _

theorem evalItems (uniform : Uniform subtasks holds) (calls : ∀ name, holds (call name))
    (terms : List Term) : holds (Run.evalItems call terms) := by
  cases terms with
  | nil => exact uniform.pure _
  | cons term rest =>
      exact uniform.bind (uniform.eval calls term) fun _ => uniform.bind (uniform.lift _) fun _ =>
        uniform.bind (uniform.evalItems calls rest) fun _ => uniform.pure _

theorem evalEntries (uniform : Uniform subtasks holds) (calls : ∀ name, holds (call name))
    (entries : List (Term × Term)) (stored : Table Value) :
    holds (Run.evalEntries call entries stored) := by
  cases entries with
  | nil => exact uniform.pure _
  | cons entry rest =>
      refine uniform.bind (uniform.eval calls entry.1) fun _ => ?_
      refine uniform.bind (uniform.eval calls entry.2) fun _ => ?_
      refine uniform.bind (uniform.lift _) fun _ => uniform.bind (uniform.lift _) fun _ => ?_
      exact uniform.bind (uniform.lift _) fun _ => uniform.evalEntries calls rest _

end

theorem evalTest (calls : ∀ name, holds (call name)) (test : Test) :
    holds (Run.evalTest call test) := by
  cases test with
  | operation left right operator =>
      refine uniform.bind (uniform.eval calls left) fun _ => ?_
      refine uniform.bind (uniform.eval calls right) fun _ => uniform.bind (uniform.lift _) fun _ => ?_
      refine uniform.bind (uniform.noteSaying _ _) fun _ => ?_
      refine uniform.bind (uniform.eval calls _) fun _ => uniform.bind (uniform.eval calls _) fun _ => ?_
      exact uniform.bind (uniform.still (still_operate _ _ _)) fun _ =>
        uniform.bind (uniform.noteSaying _ _) fun _ => uniform.pure _
  | plain term node =>
      exact uniform.bind (uniform.eval calls term) fun _ =>
        uniform.bind (uniform.noteSaying _ _) fun _ =>
          uniform.bind (uniform.noteSaying _ _) fun _ => uniform.pure _

end Code

theorem assignTo (target : Except Fault Value) (value : Value) : holds (Run.assignTo target value) := by
  refine uniform.bind (uniform.lift _) fun _ => uniform.bind (uniform.lift _) fun _ => ?_
  refine uniform.bind (uniform.assign _ _) fun _ => uniform.bind (uniform.lift _) fun _ => ?_
  exact uniform.bind (uniform.lift _) fun _ => uniform.bind (uniform.note _ _) fun _ => uniform.pure _

theorem closeLoop (result : Value) {closing : Run Unit} (closes : holds closing) :
    holds (Run.closeLoop result closing) := by
  refine choice ?_ (uniform.bind closes fun _ => ?_)
  · exact uniform.bind (uniform.explainedIndentBy _) fun _ => uniform.pure _
  · exact uniform.bind (uniform.explainedIndentBy _) fun _ => uniform.pure _

theorem openRange (range : Value) : holds (Run.openRange range) :=
  uniform.whenExplaining (uniform.bind (uniform.lift _) fun _ => uniform.bind (uniform.note _ _) fun _ =>
    uniform.bind (uniform.note _ _) fun _ => uniform.indentBy 1)

theorem noteRangeIteration (count number : Nat) (item value : Value) :
    holds (Run.noteRangeIteration count number item value) :=
  uniform.bind (uniform.whenShown _ (uniform.noteSaying _ _)) fun _ =>
    uniform.whenCut _ fun _ => uniform.note _ _

theorem openNumbered (name : Value) : holds (Run.openNumbered name) :=
  uniform.whenExplaining (uniform.bind (uniform.noteSaying _ _) fun _ => uniform.indentBy 1)

theorem openChoice : holds Run.openChoice :=
  uniform.whenExplaining (uniform.bind (uniform.note _ _) fun _ => uniform.indentBy 1)

section Bodies

variable {body : Run Value} (does : holds body)
include does

theorem loopBelow (item bound : Value) : holds (Run.loopBelow item bound body) := by
  refine uniform.bind (uniform.lift _) fun stop => uniform.bind (uniform.openRange _) fun _ => ?_
  refine uniform.bind (uniform.forSupply (fun number value => ?_) _) fun _ =>
    uniform.closeLoop _ (uniform.note _ _)
  exact uniform.bind (uniform.assign _ _) fun _ =>
    uniform.bind (uniform.noteRangeIteration _ _ _ _) fun _ => does

theorem loopNumbered (index element : Except Fault Value) (name : Value) :
    holds (Run.loopNumbered index element name body) := by
  refine uniform.bind (uniform.valueNamed? name) fun found => ?_
  cases found with
  | none => exact uniform.throw _
  | some value =>
      dsimp only
      split
      · exact uniform.bind (uniform.lift _) fun _ => uniform.throw _
      refine uniform.bind (uniform.openNumbered name) fun _ => ?_
      refine uniform.bind (uniform.forSupply (fun number item => ?_) _) fun _ =>
        uniform.closeLoop _ (uniform.note _ _)
      refine uniform.bind (uniform.lift _) fun _ => uniform.bind (uniform.assign _ _) fun _ => ?_
      refine uniform.bind (uniform.lift _) fun _ => uniform.bind (uniform.assign _ _) fun _ => ?_
      exact uniform.bind (uniform.whenShown _ (uniform.noteSaying _ _)) fun _ => does

theorem takeBranch (message : String) : holds (Run.takeBranch message body) := by
  refine uniform.bind (uniform.note _ _) fun _ => uniform.bind (uniform.explainedIndentBy 1) fun _ => ?_
  refine uniform.bind does fun _ => choice ?_ ?_
  · exact uniform.bind (uniform.explainedIndentBy _) fun _ => uniform.pure _
  · exact uniform.bind (uniform.explainedIndentBy _) fun _ => uniform.pure _

end Bodies

/-! ## Actions and subtasks -/

section Actions

variable {call : Value → Run Value}

omit uniform in
mutual

theorem exec (uniform : Uniform subtasks holds) (calls : ∀ name, holds (call name)) (action : Action)
    (kept : action.overItems = true → KeptByLoops holds) : holds (Run.exec call action) := by
  cases action with
  | skip => exact uniform.pure _
  | fault cause => exact uniform.throw _
  | assign target value =>
      exact uniform.bind (uniform.eval calls value) fun _ => uniform.assignTo target _
  | call term => exact uniform.eval calls term
  | yield value => exact uniform.bind (uniform.eval calls value) fun _ => uniform.pure _
  | decide branches =>
      exact uniform.bind uniform.openChoice fun _ => uniform.execBranches calls branches kept
  | forEach item source body =>
      exact kept rfl item source (uniform.execBody calls body fun _ => kept rfl)
  | forRange item bound body =>
      exact uniform.bind (uniform.eval calls bound) fun _ =>
        uniform.loopBelow (uniform.execBody calls body kept) item _
  | forEnumerated index element collection body =>
      exact uniform.loopNumbered (uniform.execBody calls body kept) index element collection

theorem execBody (uniform : Uniform subtasks holds) (calls : ∀ name, holds (call name))
    (actions : List Action) (kept : Action.someOverItems actions = true → KeptByLoops holds) :
    holds (Run.execBody call actions) := by
  cases actions with
  | nil => exact uniform.pure _
  | cons action rest =>
      rw [Action.someOverItems, Bool.or_eq_true, or_imp] at kept
      exact uniform.bind (uniform.exec calls action kept.1) fun _ =>
        choice (uniform.pure _) (uniform.execBody calls rest kept.2)

theorem execBranches (uniform : Uniform subtasks holds) (calls : ∀ name, holds (call name))
    (branches : List Branch) (kept : Branch.someOverItems branches = true → KeptByLoops holds) :
    holds (Run.execBranches call branches) := by
  cases branches with
  | nil => exact uniform.bind (uniform.explainedIndentBy _) fun _ => uniform.pure _
  | cons branch rest =>
      cases branch with
      | fault cause => exact uniform.throw _
      | test isFirst test body =>
          rw [Branch.someOverItems, Bool.or_eq_true, or_imp] at kept
          exact uniform.bind (uniform.evalTest calls test) fun _ =>
            choice (uniform.takeBranch (uniform.execBody calls body kept.1) _)
              (uniform.execBranches calls rest kept.2)
      | otherwise body =>
          rw [Branch.someOverItems, Bool.or_eq_true, or_imp] at kept
          exact uniform.takeBranch (uniform.execBody calls body kept.1) _

end

theorem runSubtaskBody (calls : ∀ name, holds (call name)) (body : List Action)
    (kept : Action.someOverItems body = true → KeptByLoops holds) :
    holds (Run.runSubtaskBody call body) :=
  uniform.bind (uniform.execBody calls body kept) fun _ =>
    uniform.bind (uniform.indentBy _) fun _ => choice (uniform.lift _) (uniform.pure _)

end Actions

/-- Subtasks have a uniform property, by induction on how deeply their calls may be nested. -/
theorem runSubtask (kept : ∀ entry ∈ subtasks, Action.someOverItems entry.2 = true → KeptByLoops holds)
    (depth : Nat) (name : Value) : holds (Run.runSubtask depth name) := by
  induction depth generalizing name with
  | zero => exact uniform.throw _
  | succ depth ih =>
      refine uniform.bind (uniform.lift _) fun key => uniform.read (fun _ => rfl) fun machine known => ?_
      split
      · exact uniform.read (fun _ => rfl) fun _ _ => uniform.throw _
      · next body found =>
          obtain ⟨_, stored⟩ := Table.mem_of_fetch? (known ▸ found)
          refine uniform.bind (uniform.lift _) fun _ => uniform.bind (uniform.note _ _) fun _ => ?_
          exact uniform.bind (uniform.indentBy 1) fun _ =>
            uniform.runSubtaskBody ih body (kept _ stored)

end Uniform

end Run

end Stepwise
