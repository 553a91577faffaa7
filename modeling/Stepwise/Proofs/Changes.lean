import Mathlib.Logic.Relation
import Stepwise.Proofs.Settings.Silent

/-!
# What running code changes

Code that runs shows something, changes the indentation, sets the count of iterations, assigns a
variable, starts an enumeration or takes an item from one.  `Machine.Change` is one such change, and
every run is a sequence of them, whichever way it ends (`Moves`).  What all changes keep is kept by all
runs: the settings, the registered tasks and subtasks, the kind of every enumeration.

A computation is `Still` if it does not even look at the machine.
-/

namespace Stepwise

/-- One change that running code makes to a machine. -/
inductive Machine.Change : Machine → Machine → Prop where
  | emit (machine : Machine) (event : Event) :
      Change machine { machine with log := event :: machine.log }
  | indent (machine : Machine) (indent : Int) : Change machine { machine with indent := indent }
  | iterations (machine : Machine) (count : Nat) :
      Change machine { machine with iterations := count }
  | assign (machine : Machine) (key value : Value) (hashable : key.asKey = .ok key) :
      Change machine { machine with «variables» := Table.store key value machine.variables }
  | start (machine : Machine) (cursor : Cursor) :
      Change machine { machine with cursors := machine.cursors ++ [cursor] }
  | take (machine : Machine) (number : Nat) (item : Value) (cursors : List Cursor)
      (taken : Cursor.take? machine.cursors (number + 1) number = some (item, cursors)) :
      Change machine { machine with cursors := cursors }

/-- Any number of changes. -/
def Machine.Changes : Machine → Machine → Prop :=
  Relation.ReflTransGen Change

/-- What no running code changes. -/
theorem Machine.Changes.fixed {before after : Machine} (changes : before.Changes after) :
    after.settings = before.settings ∧ after.source = before.source ∧
      after.tasks = before.tasks ∧ after.subtasks = before.subtasks := by
  induction changes with
  | refl => exact ⟨rfl, rfl, rfl, rfl⟩
  | tail _ change ih => cases change <;> exact ih

namespace Run

variable {α β γ : Type}

/-- The computation does not depend on the machine and leaves it as it is. -/
def Still (run : Run α) : Prop :=
  ∃ result, ∀ machine, run.outcome machine = (result, machine)

/-- The computation leads from every machine to another one by changes. -/
def Moves (run : Run α) : Prop :=
  ∀ machine : Machine, machine.Changes (run.outcome machine).2

/-! ## Outcomes -/

theorem outcome_pure (value : α) (machine : Machine) :
    (pure value : Run α).outcome machine = (.ok value, machine) := rfl

theorem outcome_note (category text : String) (machine : Machine) :
    (note category text).outcome machine =
      (.ok (), if machine.settings.explain then
        { machine with log := .note machine.indent category text :: machine.log } else machine) := by
  change (if machine.settings.explain = true then
    (do emit (.note (← get).indent category text)) else pure ()).outcome machine = _
  split <;> rfl

/-! ## Computations on values -/

theorem still_pure (value : α) : Still (pure value) :=
  ⟨.ok value, fun _ => rfl⟩

theorem still_throw (stop : Stop) : Still (throw stop : Run α) :=
  ⟨.error stop, fun _ => rfl⟩

theorem still_lift (result : Except Fault α) : Still (lift result) := by
  cases result with
  | ok value => exact still_pure value
  | error cause => exact still_throw _

theorem Still.bind {run : Run α} {next : α → Run β} (still : Still run)
    (stillNext : ∀ value, Still (next value)) : Still (run >>= next) := by
  obtain ⟨result, same⟩ := still
  cases result with
  | error stop => exact ⟨.error stop, fun machine => by rw [outcome_bind, same]⟩
  | ok value =>
      obtain ⟨last, sameNext⟩ := stillNext value
      exact ⟨last, fun machine => by simp only [outcome_bind, same, sameNext]⟩

theorem still_ite {condition : Prop} [Decidable condition] {run other : Run α}
    (still : Still run) (stillOther : Still other) :
    Still (if condition then run else other) := by
  split
  · exact still
  · exact stillOther

theorem still_plus (left right : Value) : Still (plus left right) := by
  unfold plus
  split
  · exact (still_lift _).bind fun _ => (still_lift _).bind fun _ => still_pure _
  · exact (still_lift _).bind fun _ => (still_lift _).bind fun _ => still_pure _
  · exact still_pure _
  · exact still_throw _
  · exact still_lift _

theorem still_quotient (left right : Value) : Still (quotient left right) := by
  refine still_ite (still_throw _) ?_
  refine (still_lift _).bind fun dividend => (still_lift _).bind fun divisor => ?_
  exact still_ite (still_throw _) (still_pure _)

theorem still_asFloat (value : Value) : Still (asFloat value) :=
  (still_lift _).bind fun _ => still_pure _

theorem still_operate (operator left right : Value) : Still (operate operator left right) := by
  unfold operate
  split
  · exact still_plus left right
  · exact (still_lift _).bind still_asFloat
  · exact (still_lift _).bind still_asFloat
  · exact still_quotient left right
  · exact still_pure _
  · exact still_pure _
  · exact (still_lift _).bind fun _ => still_pure _
  · exact (still_lift _).bind fun _ => still_pure _
  · exact (still_lift _).bind fun _ => still_pure _
  · exact (still_lift _).bind fun _ => still_pure _
  · exact still_throw _

theorem still_listItem (items : List Value) (position : Int) : Still (listItem items position) := by
  unfold listItem
  split
  · exact still_pure _
  · exact still_throw _

theorem still_indexList (items : List Value) (key : Value) : Still (indexList items key) := by
  unfold indexList
  split
  · exact still_listItem items _
  · split
    · exact still_listItem items _
    · exact still_throw _
  · exact still_throw _

theorem still_indexDict (entries : List (Value × Value)) (key : Value) :
    Still (indexDict entries key) := by
  unfold indexDict
  split
  · exact still_throw _
  · refine (still_lift _).bind fun key => ?_
    split
    · exact still_pure _
    · exact still_throw _

theorem still_index (container key : Value) : Still (index container key) := by
  unfold index
  split
  · exact still_indexList _ key
  · exact still_indexDict _ key
  · exact still_throw _

theorem still_outputText (value : Value) : Still (outputText value) := by
  refine still_ite (still_lift _) ?_
  split
  · exact still_pure _
  · exact (still_lift _).bind fun _ => still_pure _

theorem still_total (start : Value) (values : List Value) : Still (total start values) := by
  induction values generalizing start with
  | nil => exact still_pure _
  | cons value rest ih => exact (still_lift _).bind fun sum => ih sum

theorem still_supplyOf (value : Value) : Still (supplyOf value) := by
  rw [supplyOf]
  split
  · exact still_pure _
  · exact still_throw _

theorem still_rangeOf (arguments : List Value) : Still (rangeOf arguments) := by
  unfold rangeOf
  split
  · exact still_throw _
  · split
    · exact (still_lift _).bind fun _ => still_pure _
    · exact (still_lift _).bind fun _ => still_pure _
    · exact (still_lift _).bind fun _ => still_pure _
    · exact still_throw _

theorem still_lengthOf (arguments : List Value) : Still (lengthOf arguments) := by
  unfold lengthOf
  split
  · exact (still_lift _).bind fun _ => still_pure _
  · exact still_throw _

/-! ## Rules -/

theorem Still.moves {run : Run α} (still : Still run) : Moves run := by
  obtain ⟨result, same⟩ := still
  intro machine
  rw [same]
  exact .refl

theorem moves_pure (value : α) : Moves (pure value) :=
  (still_pure value).moves

theorem moves_throw (stop : Stop) : Moves (throw stop : Run α) :=
  (still_throw stop).moves

theorem moves_lift (result : Except Fault α) : Moves (lift result) :=
  (still_lift result).moves

theorem Moves.bind {run : Run α} {next : α → Run β} (moves : Moves run)
    (movesNext : ∀ value, Moves (next value)) : Moves (run >>= next) := by
  intro machine
  have first := moves machine
  rw [outcome_bind]
  generalize run.outcome machine = ended at first ⊢
  obtain ⟨result, middle⟩ := ended
  cases result with
  | error stop => exact first
  | ok value => exact first.trans (movesNext value middle)

theorem moves_get_bind {next : Machine → Run α} (moves : ∀ machine, Moves (next machine)) :
    Moves (get >>= next) := by
  intro machine
  rw [outcome_get_bind]
  exact moves machine machine

theorem moves_modify {change : Machine → Machine}
    (changes : ∀ machine : Machine, machine.Change (change machine)) : Moves (modify change) :=
  fun machine => .single (changes machine)

theorem moves_ite {condition : Prop} [Decidable condition] {run other : Run α}
    (moves : Moves run) (movesOther : Moves other) :
    Moves (if condition then run else other) := by
  split
  · exact moves
  · exact movesOther

theorem moves_mapM {run : γ → Run α} (moves : ∀ item, Moves (run item)) (items : List γ) :
    Moves (items.mapM run) := by
  induction items with
  | nil => exact moves_pure []
  | cons item items ih =>
      rw [List.mapM_cons]
      exact (moves item).bind fun _ => ih.bind fun _ => moves_pure _

/-! ## Notes and output -/

theorem moves_emit (event : Event) : Moves (emit event) :=
  moves_modify fun machine => .emit machine event

theorem moves_indentBy (amount : Int) : Moves (indentBy amount) :=
  moves_modify fun machine => .indent machine _

theorem moves_explains : Moves explains :=
  moves_get_bind fun _ => moves_pure _

theorem moves_whenExplaining {action : Run Unit} (moves : Moves action) :
    Moves (whenExplaining action) :=
  moves_explains.bind fun _ => moves_ite moves (moves_pure _)

theorem moves_note (category message : String) : Moves (note category message) :=
  moves_whenExplaining (moves_get_bind fun _ => moves_emit _)

theorem moves_output (text : String) : Moves (output text) :=
  moves_get_bind fun _ => moves_emit _

theorem moves_explainedIndentBy (amount : Int) : Moves (explainedIndentBy amount) :=
  moves_whenExplaining (moves_indentBy amount)

theorem moves_noteSaying (category : String) (message : Except Fault String) :
    Moves (noteSaying category message) :=
  moves_whenExplaining ((moves_lift _).bind fun _ => moves_note _ _)

theorem moves_whenShown (number : Int) {action : Run Unit} (moves : Moves action) :
    Moves (whenShown number action) :=
  moves_get_bind fun _ => moves_ite moves (moves_pure _)

theorem moves_whenCut (number : Int) {action : Int → Run Unit}
    (moves : ∀ shown, Moves (action shown)) : Moves (whenCut number action) :=
  moves_get_bind fun _ => moves_ite (moves _) (moves_pure _)

theorem moves_setIterations (count : Nat) : Moves (setIterations count) :=
  moves_modify fun machine => .iterations machine count

theorem moves_countIteration : Moves countIteration :=
  moves_modify fun machine => .iterations machine _

theorem moves_noteIteration (message : Int → Except Fault String) :
    Moves (noteIteration message) := by
  refine Moves.bind (moves_get_bind fun _ => moves_pure _) fun count => ?_
  refine (moves_whenShown count (moves_noteSaying _ _)).bind fun _ => ?_
  exact (moves_whenCut count fun _ => moves_note _ _).bind fun _ => moves_countIteration

theorem moves_openLoop (node : Value) : Moves (openLoop node) :=
  moves_whenExplaining ((moves_noteSaying _ _).bind fun _ =>
    (moves_indentBy 1).bind fun _ => moves_setIterations 0)

theorem moves_completeLoop : Moves completeLoop :=
  moves_get_bind fun _ => moves_note _ _

theorem moves_closeLoop (result : Value) {closing : Run Unit} (moves : Moves closing) :
    Moves (closeLoop result closing) :=
  moves_ite ((moves_explainedIndentBy (-1)).bind fun _ => moves_pure _)
    (moves.bind fun _ => (moves_explainedIndentBy (-1)).bind fun _ => moves_pure _)

theorem moves_openRange (range : Value) : Moves (openRange range) :=
  moves_whenExplaining ((moves_lift _).bind fun _ => (moves_note _ _).bind fun _ =>
    (moves_note _ _).bind fun _ => moves_indentBy 1)

theorem moves_noteRangeIteration (count number : Nat) (item value : Value) :
    Moves (noteRangeIteration count number item value) :=
  (moves_whenShown number (moves_noteSaying _ _)).bind fun _ =>
    moves_whenCut number fun _ => moves_note _ _

theorem moves_notNumbered (name value : Value) : Moves (notNumbered name value) :=
  (moves_lift _).bind fun _ => moves_throw _

theorem moves_openNumbered (name : Value) : Moves (openNumbered name) :=
  moves_whenExplaining ((moves_noteSaying _ _).bind fun _ => moves_indentBy 1)

theorem moves_openChoice : Moves openChoice :=
  moves_whenExplaining ((moves_note _ _).bind fun _ => moves_indentBy 1)

theorem moves_announce (tree : Value) : Moves (announce tree) :=
  moves_whenExplaining ((moves_lift _).bind fun _ => (moves_lift _).bind fun _ =>
    moves_get_bind fun _ => moves_emit _)

/-! ## Variables and enumerations -/

theorem asKey_idem {name key : Value} (named : name.asKey = .ok key) : key.asKey = .ok key := by
  have same : name = key := by
    revert named
    rw [Value.asKey]
    split
    · exact fun named => nomatch named
    · exact fun named => Except.ok.inj named
  exact same ▸ named

theorem moves_valueNamed? (name : Value) : Moves (valueNamed? name) :=
  (moves_lift _).bind fun _ => moves_get_bind fun _ => moves_pure _

theorem moves_assign (name value : Value) : Moves (assign name value) := by
  rw [assign]
  cases named : name.asKey with
  | error cause => exact moves_throw _
  | ok key => exact moves_modify fun machine => .assign machine key value (asKey_idem named)

theorem moves_startCursor (source : Supply) (next : Int) : Moves (startCursor source next) :=
  moves_get_bind fun _ => (moves_modify fun machine => .start machine _).bind fun _ => moves_pure _

theorem moves_takeCursor? (number : Nat) : Moves (takeCursor? number) := by
  intro machine
  rw [takeCursor?, outcome_get_bind]
  cases taken : Cursor.take? machine.cursors (number + 1) number with
  | none => exact .refl
  | some pair =>
      obtain ⟨item, cursors⟩ := pair
      exact .single (.take machine number item cursors taken)

section Loops

variable {body : Nat → Value → Run Value} (moves : ∀ number item, Moves (body number item))
include moves

theorem moves_forItems (items : List Value) (number : Nat) :
    Moves (forItems body items number) := by
  induction items generalizing number with
  | nil => exact moves_pure _
  | cons item items ih =>
      exact (moves number item).bind fun result =>
        moves_ite (moves_pure result) (ih (number + 1))

theorem moves_forSpan (step : Int) (count : Nat) (start : Int) (number : Nat) :
    Moves (forSpan body step count start number) := by
  induction count generalizing start number with
  | zero => exact moves_pure _
  | succ count ih =>
      exact (moves number (.int start)).bind fun result =>
        moves_ite (moves_pure result) (ih (start + step) (number + 1))

theorem moves_forCursor (cursor count number : Nat) :
    Moves (forCursor body cursor count number) := by
  induction count generalizing number with
  | zero => exact moves_pure _
  | succ count ih =>
      refine (moves_takeCursor? cursor).bind fun taken => ?_
      cases taken with
      | none => exact moves_pure _
      | some item =>
          exact (moves number item).bind fun result =>
            moves_ite (moves_pure result) (ih (number + 1))

theorem moves_forSupply (supply : Supply) : Moves (forSupply supply body) := by
  cases supply with
  | feed feed =>
      cases feed with
      | items items => exact moves_forItems moves items 0
      | span start step count => exact moves_forSpan moves step count start 0
  | cursor number => exact moves_get_bind fun _ => moves_forCursor moves number _ 0

end Loops

theorem moves_drainCursor (cursor count : Nat) : Moves (drainCursor cursor count) := by
  induction count with
  | zero => exact moves_pure _
  | succ count ih =>
      refine (moves_takeCursor? cursor).bind fun taken => ?_
      cases taken with
      | none => exact moves_pure _
      | some item => exact ih.bind fun _ => moves_pure _

theorem moves_drain (supply : Supply) : Moves (drain supply) := by
  cases supply with
  | feed feed => exact moves_pure _
  | cursor number => exact moves_get_bind fun _ => moves_drainCursor number _

/-! ## Functions -/

theorem moves_printValues (values : List Value) : Moves (printValues values) := by
  refine (moves_mapM (fun value => (still_outputText value).moves) values).bind fun texts => ?_
  exact (moves_lift _).bind fun joined => (moves_output _).bind fun _ => moves_pure _

theorem moves_sumFrom (collection start : Value) : Moves (sumFrom collection start) := by
  refine (still_supplyOf collection).moves.bind fun supply => ?_
  split
  · exact moves_throw _
  · exact (moves_drain supply).bind fun items => (still_total start items).moves

theorem moves_sumOf (arguments : List Value) : Moves (sumOf arguments) := by
  unfold sumOf
  split
  · exact moves_throw _
  · exact moves_sumFrom _ _
  · exact moves_sumFrom _ _
  · exact moves_throw _

theorem moves_enumerationOf (arguments : List Value) : Moves (enumerationOf arguments) := by
  unfold enumerationOf
  split
  · exact moves_throw _
  · exact (still_supplyOf _).moves.bind fun _ => moves_startCursor _ _
  · exact (moves_lift _).bind fun _ => (still_supplyOf _).moves.bind fun _ => moves_startCursor _ _
  · exact moves_throw _

theorem moves_builtin {name : String} {run : List Value → Run Value}
    (found : builtin? name = some run) (arguments : List Value) : Moves (run arguments) := by
  unfold builtin? at found
  split at found
  · cases found; exact (still_rangeOf arguments).moves
  · cases found; exact moves_sumOf arguments
  · cases found; exact (still_lengthOf arguments).moves
  · cases found; exact moves_printValues arguments
  · cases found; exact moves_enumerationOf arguments
  · cases found

/-! ## Code -/

theorem moves_readVariable (name : String) : Moves (readVariable name) := by
  refine moves_get_bind fun machine => ?_
  split
  · exact moves_pure _
  · exact moves_throw _

section Code

variable {call : Value → Run Value}

theorem moves_callSubtask (moves : ∀ name, Moves (call name)) (function : Value) :
    Moves (callSubtask call function) := by
  refine (moves_lift _).bind fun key => moves_get_bind fun _ => moves_ite (moves key) ?_
  split
  · exact moves_get_bind fun _ =>
      moves_ite (moves _) (moves_get_bind fun _ => moves_throw _)
  · exact moves_throw _

theorem moves_callFunction (moves : ∀ name, Moves (call name)) (function : Value)
    (arguments : List Value) : Moves (callFunction call function arguments) := by
  unfold callFunction
  split
  · split
    · next found => exact moves_builtin found arguments
    · exact moves_callSubtask moves _
  · exact moves_callSubtask moves function

mutual

theorem moves_eval (moves : ∀ name, Moves (call name)) (term : Term) :
    Moves (eval call term) := by
  cases term with
  | const value => exact moves_pure value
  | var name => exact moves_readVariable name
  | fault cause => exact moves_throw _
  | after first last => exact (moves_eval moves first).bind fun _ => moves_eval moves last
  | list items => exact (moves_evalItems moves items).bind fun _ => moves_pure _
  | dict entries => exact (moves_evalEntries moves entries []).bind fun _ => moves_pure _
  | index container key =>
      exact (moves_eval moves container).bind fun _ => (moves_eval moves key).bind fun _ =>
        (still_index _ _).moves
  | negate operand => exact (moves_eval moves operand).bind fun _ => moves_lift _
  | binary operator left right =>
      exact (moves_eval moves left).bind fun _ => (moves_eval moves right).bind fun _ =>
        (still_operate operator _ _).moves
  | call function arguments =>
      exact (moves_evalAll moves arguments).bind fun _ => moves_callFunction moves function _

theorem moves_evalAll (moves : ∀ name, Moves (call name)) (terms : List Term) :
    Moves (evalAll call terms) := by
  cases terms with
  | nil => exact moves_pure _
  | cons term rest =>
      exact (moves_eval moves term).bind fun _ => (moves_evalAll moves rest).bind fun _ => moves_pure _

theorem moves_evalItems (moves : ∀ name, Moves (call name)) (terms : List Term) :
    Moves (evalItems call terms) := by
  cases terms with
  | nil => exact moves_pure _
  | cons term rest =>
      exact (moves_eval moves term).bind fun _ => (moves_lift _).bind fun _ =>
        (moves_evalItems moves rest).bind fun _ => moves_pure _

theorem moves_evalEntries (moves : ∀ name, Moves (call name)) (entries : List (Term × Term))
    (stored : Table Value) : Moves (evalEntries call entries stored) := by
  cases entries with
  | nil => exact moves_pure _
  | cons entry rest =>
      obtain ⟨key, value⟩ := entry
      exact (moves_eval moves key).bind fun _ => (moves_eval moves value).bind fun _ =>
        (moves_lift _).bind fun _ => (moves_lift _).bind fun _ => (moves_lift _).bind fun _ =>
          moves_evalEntries moves rest _

end

theorem moves_evalTest (moves : ∀ name, Moves (call name)) (test : Test) :
    Moves (evalTest call test) := by
  cases test with
  | operation left right operator =>
      refine (moves_eval moves left).bind fun _ => (moves_eval moves right).bind fun _ => ?_
      refine (moves_lift _).bind fun _ => (moves_noteSaying _ _).bind fun _ => ?_
      refine (moves_eval moves _).bind fun _ => (moves_eval moves _).bind fun _ => ?_
      exact (still_operate _ _ _).moves.bind fun _ => (moves_noteSaying _ _).bind fun _ =>
        moves_pure _
  | plain term node =>
      exact (moves_eval moves term).bind fun _ => (moves_noteSaying _ _).bind fun _ =>
        (moves_noteSaying _ _).bind fun _ => moves_pure _

end Code

theorem moves_takeBranch (message : String) {body : Run Value} (moves : Moves body) :
    Moves (takeBranch message body) :=
  (moves_note _ _).bind fun _ => (moves_explainedIndentBy 1).bind fun _ => moves.bind fun _ =>
    moves_ite ((moves_explainedIndentBy (-2)).bind fun _ => moves_pure _)
      ((moves_explainedIndentBy (-1)).bind fun _ => moves_pure _)

theorem moves_assignTo (target : Except Fault Value) (value : Value) :
    Moves (assignTo target value) :=
  (moves_lift _).bind fun _ => (moves_lift _).bind fun _ => (moves_assign _ _).bind fun _ =>
    (moves_lift _).bind fun _ => (moves_lift _).bind fun _ => (moves_note _ _).bind fun _ =>
      moves_pure _

section Bodies

variable {body : Run Value} (moves : Moves body)
include moves

theorem moves_loopOver (item : Value) (source : LoopFeed) : Moves (loopOver item source body) := by
  cases source with
  | direct name =>
      refine (moves_valueNamed? name).bind fun found => ?_
      cases found with
      | none => exact moves_get_bind fun _ => moves_throw _
      | some value =>
          dsimp only
          split
          · exact moves_throw _
          · next supply _ =>
              refine (moves_openLoop _).bind fun _ => Moves.bind
                (moves_forSupply (fun number value => ?_) supply)
                fun _ => moves_closeLoop _ moves_completeLoop
              exact (moves_assign _ _).bind fun _ => (moves_noteIteration _).bind fun _ => moves
  | enumerated name element node =>
      refine (moves_valueNamed? name).bind fun found => ?_
      cases found with
      | none => exact moves_throw _
      | some value =>
          refine (still_supplyOf value).moves.bind fun supply => (moves_lift _).bind fun element => ?_
          refine (moves_openLoop _).bind fun _ => Moves.bind
            (moves_forSupply (fun number value => ?_) supply)
            fun _ => moves_closeLoop _ moves_completeLoop
          exact (moves_assign _ _).bind fun _ => (moves_assign _ _).bind fun _ =>
            (moves_noteIteration _).bind fun _ => moves

theorem moves_loopBelow (item bound : Value) : Moves (loopBelow item bound body) := by
  refine (moves_lift _).bind fun stop => (moves_openRange _).bind fun _ => Moves.bind
    (moves_forSupply (fun number value => ?_) _) fun _ => moves_closeLoop _ (moves_note _ _)
  exact (moves_assign _ _).bind fun _ => (moves_noteRangeIteration _ _ _ _).bind fun _ => moves

theorem moves_loopNumbered (index element : Except Fault Value) (name : Value) :
    Moves (loopNumbered index element name body) := by
  refine (moves_valueNamed? name).bind fun found => ?_
  cases found with
  | none => exact moves_throw _
  | some value =>
      dsimp only
      split
      · exact moves_notNumbered name value
      · next supply _ =>
          refine (moves_openNumbered name).bind fun _ => Moves.bind
            (moves_forSupply (fun number value => ?_) supply)
            fun _ => moves_closeLoop _ (moves_note _ _)
          exact (moves_lift _).bind fun _ => (moves_assign _ _).bind fun _ =>
            (moves_lift _).bind fun _ => (moves_assign _ _).bind fun _ =>
              (moves_whenShown _ (moves_noteSaying _ _)).bind fun _ => moves

end Bodies

section Actions

variable {call : Value → Run Value}

mutual

theorem moves_exec (moves : ∀ name, Moves (call name)) (action : Action) :
    Moves (exec call action) := by
  cases action with
  | skip => exact moves_pure _
  | fault cause => exact moves_throw _
  | assign target value => exact (moves_eval moves value).bind fun _ => moves_assignTo target _
  | call term => exact moves_eval moves term
  | yield value => exact (moves_eval moves value).bind fun _ => moves_pure _
  | decide branches => exact moves_openChoice.bind fun _ => moves_execBranches moves branches
  | forEach item source body => exact moves_loopOver (moves_execBody moves body) item source
  | forRange item bound body =>
      exact (moves_eval moves bound).bind fun _ => moves_loopBelow (moves_execBody moves body) item _
  | forEnumerated index element collection body =>
      exact moves_loopNumbered (moves_execBody moves body) index element collection

theorem moves_execBody (moves : ∀ name, Moves (call name)) (actions : List Action) :
    Moves (execBody call actions) := by
  cases actions with
  | nil => exact moves_pure _
  | cons action rest =>
      exact (moves_exec moves action).bind fun _ => moves_ite (moves_pure _) (moves_execBody moves rest)

theorem moves_execBranches (moves : ∀ name, Moves (call name)) (branches : List Branch) :
    Moves (execBranches call branches) := by
  match branches with
  | [] => exact (moves_explainedIndentBy (-1)).bind fun _ => moves_pure _
  | .fault cause :: _ => exact moves_throw _
  | .test isFirst test body :: rest =>
      exact (moves_evalTest moves test).bind fun _ =>
        moves_ite (moves_takeBranch _ (moves_execBody moves body)) (moves_execBranches moves rest)
  | .otherwise body :: _ => exact moves_takeBranch _ (moves_execBody moves body)

end

theorem moves_execAll (moves : ∀ name, Moves (call name)) (actions : List Action) :
    Moves (execAll call actions) := by
  induction actions with
  | nil => exact moves_pure _
  | cons action rest ih => exact (moves_exec moves action).bind fun _ => ih

theorem moves_runSubtaskBody (moves : ∀ name, Moves (call name)) (body : List Action) :
    Moves (runSubtaskBody call body) :=
  (moves_execBody moves body).bind fun _ => (moves_indentBy (-1)).bind fun _ =>
    moves_ite (moves_lift _) (moves_pure _)

theorem moves_runStep (moves : ∀ name, Moves (call name)) (step : StepCode) :
    Moves (runStep call step) :=
  (moves_lift _).bind fun _ => (moves_lift _).bind fun _ => (moves_note _ _).bind fun _ =>
    (moves_indentBy 1).bind fun _ => (moves_execAll moves step.body).bind fun _ =>
      moves_indentBy (-1)

theorem moves_runItems (moves : ∀ name, Moves (call name)) (items : List TaskItem) :
    Moves (runItems call items) := by
  induction items with
  | nil => exact moves_pure _
  | cons item rest ih =>
      cases item with
      | fault cause => exact moves_throw _
      | step step => exact (moves_runStep moves step).bind fun _ => ih
      | subtask name body => exact (moves_lift _).bind fun name => (moves name).bind fun _ => ih
      | other => exact ih

theorem moves_runTask (moves : ∀ name, Moves (call name)) (name : Value) :
    Moves (runTask call name) := by
  refine (moves_lift _).bind fun key => moves_get_bind fun machine => ?_
  split
  · exact moves_get_bind fun _ => moves_throw _
  · exact (moves_lift _).bind fun _ => (moves_note _ _).bind fun _ => (moves_indentBy 1).bind fun _ =>
      (moves_runItems moves _).bind fun _ => moves_indentBy (-1)

end Actions

/-- Whatever a subtask does is a sequence of changes. -/
theorem moves_runSubtask (depth : Nat) (name : Value) : Moves (runSubtask depth name) := by
  induction depth generalizing name with
  | zero => exact moves_throw _
  | succ depth ih =>
      refine (moves_lift _).bind fun key => moves_get_bind fun machine => ?_
      split
      · exact moves_get_bind fun _ => moves_throw _
      · next body _ =>
          exact (moves_lift _).bind fun _ => (moves_note _ _).bind fun _ =>
            (moves_indentBy 1).bind fun _ => moves_runSubtaskBody ih body

end Run

end Stepwise
