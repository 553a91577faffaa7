import Stepwise.Proofs.Faults.Ordinary
import Stepwise.Proofs.Faults.Traced
import Stepwise.Proofs.Faults.Whole
import Stepwise.Proofs.Reading.Outcome
import Stepwise.Proofs.Settings.Independence

/-!
# Where missing entries come from

A run of a program that was read from a text stops for a missing entry in three cases: a condition is
the opposite of an operand, a loop over an enumeration has one variable only, or a value of the run has
one of the language's own tags and lacks an entry that goes with it (`Explained`).

The traced run tells which reader misses an entry, and the run `Follows` it: both end alike, every
missing entry is explained, all other stops are ordinary, and nothing unknown is met.  The invariant is
that the registered code is whole.
-/

namespace Stepwise

open Value (Misses)

/-- Why a reader misses an entry of a name, when a machine is as given. -/
inductive Explained (tree : Value) (machine : Machine) : String → Reader → Prop where
  /-- A condition of a choice in the tree is the opposite of an operand. -/
  | negation {first : Value × List Value} {others : List (Value × List Value)} {hasElse : Bool}
      {operand : Value} (choice : (choiceNode (branchNodes first others hasElse)).Occurs tree)
      (isTest : negationNode operand ∈ (first :: others).map Prod.fst) :
      Explained tree machine "left" (.condition (Test.ofNode (negationNode operand)))
  /-- A loop of the tree runs through the enumeration of a variable that can be run through. -/
  | enumeration {item word : String} {body : List Value} {feed : LoopFeed} {value : Value}
      (loop : (loopNode item (enumerationNode word) body).Occurs tree)
      (isSource : LoopFeed.ofNode (enumerationNode word) = .ok feed)
      (defined : Table.fetch? (.str word) machine.variables = some value)
      (supplies : value.supply?.isSome = true) : Explained tree machine "value_var" (.source feed)
  /-- A value with one of the language's own tags lacks an entry, itself or in a dictionary in it. -/
  | value {place : Place} {value : Value} {tag name : String} (isOwn : tag ∈ Value.ownTags)
      (tagged : value.hasTag tag = true) (misses : Misses place value name) :
      Explained tree machine name (.value place value)

/-- The registered code is whole. -/
structure Machine.Whole (tree : Value) (machine : Machine) : Prop where
  tasks : ∀ entry ∈ machine.tasks, ∀ item ∈ entry.2, item.Whole tree
  subtasks : ∀ entry ∈ machine.subtasks, ∀ action ∈ entry.2, action.Whole tree

theorem Machine.Changes.whole {tree : Value} {before after : Machine} (changes : before.Changes after)
    (whole : before.Whole tree) : after.Whole tree := by
  obtain ⟨_, _, sameTasks, sameSubtasks⟩ := changes.fixed
  exact ⟨sameTasks ▸ whole.tasks, sameSubtasks ▸ whole.subtasks⟩

namespace Traced

open Run (lift fault fail note indentBy explainedIndentBy Ordinary Moves Gives)

variable {α β γ : Type} {tree : Value} {holds : α → Prop}

/-- How the outcomes of a traced run and of a run compare. -/
inductive Agrees (tree : Value) (holds : α → Prop) :
    Except Trouble α × Machine → Except Stop α × Machine → Prop where
  | ok {value : α} {machine : Machine} (is : holds value) :
      Agrees tree holds (.ok value, machine) (.ok value, machine)
  | missing {name : String} {reader : Reader} {machine : Machine}
      (explained : Explained tree machine name reader) :
      Agrees tree holds (.error (.missing name reader), machine)
        (.error (.fault (missingEntry name)), machine)
  | stopped {stop : Stop} {machine : Machine} (ordinary : stop.Ordinary) :
      Agrees tree holds (.error (.stopped stop), machine) (.error stop, machine)

theorem Agrees.known {traced : Except Trouble α × Machine} {ran : Except Stop α × Machine}
    (agrees : Agrees tree holds traced ran) : traced.1 ≠ .error .unknown := by
  cases agrees <;> exact nofun

theorem Agrees.explained {traced : Except Trouble α × Machine} {key : Value} {machine : Machine}
    (agrees : Agrees tree holds traced (.error (.fault (.missingKey key)), machine)) :
    ∃ name reader, key = .str name ∧ traced = (.error (.missing name reader), machine) ∧
      Explained tree machine name reader := by
  cases agrees with
  | missing explained => exact ⟨_, _, rfl, rfl, explained⟩
  | stopped ordinary => exact absurd rfl ordinary

/-- On machines with whole code the two runs agree, and the code stays whole. -/
def Follows (tree : Value) (holds : α → Prop) (traced : Traced α) (run : Run α) : Prop :=
  ∀ machine : Machine, machine.Whole tree →
    Agrees tree holds (traced.outcome machine) (run.outcome machine) ∧
      (run.outcome machine).2.Whole tree

/-- A run whose results do not matter. -/
abbrev Tracks (tree : Value) (traced : Traced α) (run : Run α) : Prop :=
  Follows tree (fun _ => True) traced run

/-! ## Rules -/

theorem ofStop_of_ordinary {stop : Stop} (ordinary : stop.Ordinary) (reader : Reader) :
    Trouble.ofStop reader stop = .stopped stop := by
  unfold Trouble.ofStop
  split
  · exact absurd rfl ordinary
  · rfl

theorem follows_pure {value : α} (is : holds value) : Follows tree holds (pure value) (pure value) :=
  fun _ whole => ⟨.ok is, whole⟩

theorem tracks_pure (value : α) : Tracks tree (pure value) (pure value) :=
  follows_pure trivial

theorem follows_step (reader : Reader) {run : Run α} (ordinary : Ordinary run) (moves : Moves run)
    (gives : ∀ machine value after, machine.Whole tree → run.outcome machine = (.ok value, after) →
      holds value) : Follows tree holds (step reader run) run := by
  intro machine whole
  refine ⟨?_, (moves machine).whole whole⟩
  rw [outcome_step]
  cases ran : run.outcome machine with
  | mk result after =>
      cases result with
      | ok value => exact .ok (gives machine value after whole ran)
      | error stop =>
          have isOrdinary := ordinary machine stop after ran
          rw [Except.mapError, ofStop_of_ordinary isOrdinary]
          exact .stopped isOrdinary

theorem tracks_step (reader : Reader) {run : Run α} (ordinary : Ordinary run) (moves : Moves run) :
    Tracks tree (step reader run) run :=
  follows_step reader ordinary moves fun _ _ _ _ _ => trivial

/-- A result in which only entries are missing whose reader is explained. -/
theorem tracks_reading {missing : String → Prop} {result : Except Fault α} (reader : Reader)
    (reading : Term.Reading missing holds result)
    (explains : ∀ name, missing name → ∀ machine, Explained tree machine name reader) :
    Tracks tree (step reader (lift result)) (lift result) := by
  intro machine whole
  cases result with
  | ok value => exact ⟨.ok trivial, whole⟩
  | error cause =>
      refine ⟨?_, whole⟩
      by_cases isKey : cause.kind = .key
      · obtain ⟨name, rfl, isMissing⟩ := reading isKey
        exact .missing (explains name isMissing machine)
      · have ordinary : (Stop.fault cause).Ordinary := isKey
        change Agrees tree _ (.error (.ofStop reader (.fault cause)), machine) _
        rw [ofStop_of_ordinary ordinary]
        exact .stopped ordinary

theorem Follows.bind {isGiven : β → Prop} {traced : Traced β} {run : Run β} {next : β → Traced α}
    {nextRun : β → Run α} (follows : Follows tree isGiven traced run)
    (followsNext : ∀ value, isGiven value → Follows tree holds (next value) (nextRun value)) :
    Follows tree holds (traced >>= next) (run >>= nextRun) := by
  intro machine whole
  have first := follows machine whole
  rw [outcome_bind, Run.outcome_bind]
  revert first
  rcases traced.outcome machine with ⟨result, after⟩
  rcases run.outcome machine with ⟨ran, ended⟩
  rintro ⟨agrees, isWhole⟩
  cases agrees with
  | ok is => exact followsNext _ is _ isWhole
  | missing explained => exact ⟨.missing explained, isWhole⟩
  | stopped ordinary => exact ⟨.stopped ordinary, isWhole⟩

theorem Follows.then {traced : Traced β} {run : Run β} {next : β → Traced α} {nextRun : β → Run α}
    (follows : Tracks tree traced run)
    (followsNext : ∀ value, Follows tree holds (next value) (nextRun value)) :
    Follows tree holds (traced >>= next) (run >>= nextRun) :=
  follows.bind fun value _ => followsNext value

theorem follows_ite {condition : Prop} [Decidable condition] {traced other : Traced α}
    {run otherRun : Run α} (follows : Follows tree holds traced run)
    (followsOther : Follows tree holds other otherRun) :
    Follows tree holds (if condition then traced else other)
      (if condition then run else otherRun) := by
  split
  · exact follows
  · exact followsOther

theorem tracks_mapM {traced : γ → Traced α} {run : γ → Run α}
    (tracks : ∀ item, Tracks tree (traced item) (run item)) (items : List γ) :
    Tracks tree (items.mapM traced) (items.mapM run) := by
  induction items with
  | nil => exact tracks_pure []
  | cons item items ih =>
      rw [List.mapM_cons, List.mapM_cons]
      exact (tracks item).then fun _ => ih.then fun _ => tracks_pure _

/-! ## Values that are read -/

theorem reading_part {place : Place} {tag : String} (some : tag ≠ "")
    (needs : ∀ entries, nodeTag entries = tag → "value" ∈ place.needs entries) {value : Value}
    (tagged : value.hasTag tag = true) :
    Term.Reading (Misses place value) (fun _ => True) (value.part "value") := by
  cases value with
  | dict entries =>
      rw [Value.hasTag_dict tag entries some, beq_iff_eq] at tagged
      rw [Run.part_dict]
      exact (Term.reading_entryOf (.inl (needs entries tagged))).imp fun _ _ => trivial
  | _ => cases tagged

theorem explained_misses {place : Place} (byTag : place.byTag = true) {value : Value} {name : String}
    (misses : Misses place value name) (machine : Machine) :
    Explained tree machine name (.value place value) := by
  obtain ⟨tag, isOwn, tagged⟩ := misses.tagged byTag
  exact .value isOwn tagged misses

theorem reading_text {value : Value} (tagged : value.hasTag Value.textTag = true) :
    Term.Reading (Misses .text value) (fun _ => True) (value.part "value") :=
  reading_part (by decide) (fun entries isText => by simp [Place.needs, isText]) tagged

theorem tracks_unwrapped (value : Value) : Tracks tree (unwrapped value) (lift value.unwrapped) := by
  have reading : Term.Reading (Misses .text value) (fun _ => True) value.unwrapped := by
    rw [Value.unwrapped]
    split
    · next tagged => exact reading_text tagged
    · trivial
  exact tracks_reading _ reading fun _ => explained_misses rfl

theorem tracks_outputText (value : Value) :
    Tracks tree (step (.value .text value) (Run.outputText value)) (Run.outputText value) := by
  unfold Run.outputText
  split
  · next tagged => exact tracks_reading _ (reading_text tagged) fun _ => explained_misses rfl
  · split
    · exact tracks_step _ (Run.ordinary_pure _) (Run.moves_pure _)
    · refine tracks_step _ ?_ ((Run.moves_lift _).bind fun _ => Run.moves_pure _)
      exact (Run.ordinary_lift (Run.keyless_say _)).bind fun _ => Run.ordinary_pure _

/-- The result of the body of a subtask. -/
theorem tracks_closeSubtask (result : Value) :
    Tracks tree (step (.value .result result) (Run.closeSubtask result))
      (Run.closeSubtask result) := by
  have outdents : Ordinary (indentBy (-1)) := (Run.silent_indentBy (-1)).ordinary
  unfold Run.closeSubtask
  split
  · next returns =>
      have reading : Term.Reading (Misses .result result) (fun _ => True) (result.part "value") :=
        reading_part (by decide) (fun entries isReturn => by simp [Place.needs, isReturn]) returns
      intro machine whole
      have outdented : { machine with indent := machine.indent + -1 }.Whole tree :=
        ⟨whole.tasks, whole.subtasks⟩
      exact tracks_reading _ reading (fun _ => explained_misses rfl) _ outdented
  · exact tracks_step _ (outdents.bind fun _ => Run.ordinary_pure _)
      ((Run.moves_indentBy (-1)).bind fun _ => Run.moves_pure _)

/-! ## Terms -/

/-- A reader that misses an entry of a name is explained, whatever the machine. -/
def Explains (tree : Value) (reader : Reader) (name : String) : Prop :=
  ∀ machine, Explained tree machine name reader

theorem tracks_printValues (values : List Value) :
    Tracks tree (printValues values) (Run.printValues values) := by
  refine (tracks_mapM tracks_outputText values).then fun texts => tracks_step _ ?_ ?_
  · refine (Run.ordinary_lift (Run.keyless_joinTexts 0 texts)).bind fun joined => ?_
    refine Ordinary.bind ?_ fun _ => Run.ordinary_pure _
    exact Run.ordinary_get_bind fun _ => Run.ordinary_modify _
  · exact (Run.moves_lift _).bind fun _ => (Run.moves_output _).bind fun _ => Run.moves_pure _

/-- Every call of a subtask is tracked. -/
abbrev CallsTrack (tree : Value) (call : Value → Traced Value) (runCall : Value → Run Value) : Prop :=
  ∀ name, Tracks tree (call name) (runCall name)

section Calls

variable {call : Value → Traced Value} {runCall : Value → Run Value} {reader : Reader}

theorem tracks_callSubtask (calls : CallsTrack tree call runCall) (function : Value) :
    Tracks tree (do call (← step .code (Run.resolve function)))
      (Run.callSubtask runCall function) := by
  rw [Run.callSubtask_eq]
  exact (tracks_step _ (Run.ordinary_resolve function) (Run.moves_resolve function)).then calls

theorem tracks_callFunction (calls : CallsTrack tree call runCall)
    (function : Value) (arguments : List Value) :
    Tracks tree (callFunction call function arguments)
      (Run.callFunction runCall function arguments) := by
  unfold callFunction
  split
  · exact tracks_printValues arguments
  · next name notPrint =>
      rw [Run.callFunction]
      cases found : Run.builtin? name with
      | some run =>
          exact tracks_step _ (Run.ordinary_builtin found notPrint arguments)
            (Run.moves_builtin found arguments)
      | none => exact tracks_callSubtask calls _
  · next notText =>
      cases function with
      | str name => exact absurd rfl (notText name)
      | _ => exact tracks_callSubtask calls _

mutual

theorem tracks_eval (calls : CallsTrack tree call runCall) (term : Term)
    (within : term.Within (Explains tree reader)) :
    Tracks tree (eval call reader term) (Run.eval runCall term) := by
  cases within with
  | const value => exact tracks_pure value
  | var name => exact tracks_step _ (Run.ordinary_readVariable name) (Run.moves_readVariable name)
  | @fault cause known =>
      have reading : Term.Reading _ (fun _ : Value => True) (.error cause) := known
      exact tracks_reading _ reading fun _ => id
  | after isFirst isLast =>
      exact (tracks_eval calls _ isFirst).then fun _ => tracks_eval calls _ isLast
  | list each => exact (tracks_evalItems calls _ each).then fun _ => tracks_pure _
  | dict keys values =>
      exact (tracks_evalEntries calls _ keys values []).then fun _ => tracks_pure _
  | index inside isKey =>
      refine (tracks_eval calls _ inside).then fun _ => (tracks_eval calls _ isKey).then fun _ => ?_
      exact tracks_step _ (Run.ordinary_index _ _) (Run.still_index _ _).moves
  | negate inside =>
      refine (tracks_eval calls _ inside).then fun value => ?_
      exact tracks_step _ (Run.ordinary_lift (Run.keyless_negate value)) (Run.moves_lift _)
  | binary operator isLeft isRight =>
      refine (tracks_eval calls _ isLeft).then fun _ => (tracks_eval calls _ isRight).then fun _ => ?_
      exact tracks_step _ (Run.ordinary_operate _ _ _) (Run.still_operate _ _ _).moves
  | call function each =>
      exact (tracks_evalAll calls _ each).then fun values => tracks_callFunction calls function values

theorem tracks_evalAll (calls : CallsTrack tree call runCall) (terms : List Term)
    (each : ∀ term ∈ terms, term.Within (Explains tree reader)) :
    Tracks tree (evalAll call reader terms) (Run.evalAll runCall terms) := by
  cases terms with
  | nil => exact tracks_pure _
  | cons term rest =>
      rw [List.forall_mem_cons] at each
      exact (tracks_eval calls term each.1).then fun _ =>
        (tracks_evalAll calls rest each.2).then fun _ => tracks_pure _

theorem tracks_evalItems (calls : CallsTrack tree call runCall)
    (terms : List Term) (each : ∀ term ∈ terms, term.Within (Explains tree reader)) :
    Tracks tree (evalItems call reader terms) (Run.evalItems runCall terms) := by
  cases terms with
  | nil => exact tracks_pure _
  | cons term rest =>
      rw [List.forall_mem_cons] at each
      refine (tracks_eval calls term each.1).then fun value => ?_
      refine (tracks_unwrapped value).then fun _ => ?_
      exact (tracks_evalItems calls rest each.2).then fun _ => tracks_pure _

theorem tracks_evalEntries (calls : CallsTrack tree call runCall) (entries : List (Term × Term))
    (keys : ∀ entry ∈ entries, entry.1.Within (Explains tree reader))
    (values : ∀ entry ∈ entries, entry.2.Within (Explains tree reader)) (stored : Table Value) :
    Tracks tree (evalEntries call reader entries stored)
      (Run.evalEntries runCall entries stored) := by
  rcases entries with _ | ⟨⟨key, value⟩, rest⟩
  · exact tracks_pure _
  · rw [List.forall_mem_cons] at keys values
    refine (tracks_eval calls key keys.1).then fun key => ?_
    refine (tracks_eval calls value values.1).then fun value => ?_
    refine (tracks_unwrapped key).then fun key => (tracks_unwrapped value).then fun value => ?_
    refine (tracks_step _ (Run.ordinary_lift (Run.keyless_asKey key)) (Run.moves_lift _)).then
      fun key => ?_
    exact tracks_evalEntries calls rest keys.2 values.2 _

end

/-- The value of an operand, which is read as code. -/
theorem tracks_reread (calls : CallsTrack tree call runCall) (value : Value) :
    Tracks tree (eval call (.value .term value) (Term.ofNode value))
      (Run.eval runCall (Term.ofNode value)) := by
  refine tracks_eval calls _ ((Term.within_ofNode value).mono fun name misses => ?_)
  exact explained_misses rfl misses

theorem tracks_note (category : String) {message : Except Fault String}
    (limited : Run.Limited message) :
    Tracks tree (step .code (Run.noteSaying category message)) (Run.noteSaying category message) :=
  tracks_step _ (Run.silent_noteSaying category limited).ordinary (Run.moves_noteSaying _ _)

theorem tracks_evalTest (calls : CallsTrack tree call runCall) {test : Test}
    (whole : test.Whole tree) : Tracks tree (evalTest call test) (Run.evalTest runCall test) := by
  have result (value : Value) : Run.Limited (Run.resultText value) :=
    (Run.limited_say value).bind fun _ => Run.limited_ok _
  cases whole with
  | @plain term tame node =>
      have check : Run.Limited (do return "Checking condition: " ++ (← node.say)) :=
        (Run.limited_say node).bind fun _ => Run.limited_ok _
      refine (tracks_eval calls term tame.within).then fun value => ?_
      refine (tracks_note _ check).then fun _ => (tracks_note _ (result value)).then fun _ => ?_
      exact tracks_pure value
  | operation isLeft isRight operator =>
      have check (left operator right : Value) : Run.Limited (Run.checkText left operator right) :=
        (Run.limited_say left).bind fun _ => (Run.limited_say operator).bind fun _ =>
          (Run.limited_say right).bind fun _ => Run.limited_ok _
      refine (tracks_eval calls _ isLeft.within).then fun left => ?_
      refine (tracks_eval calls _ isRight.within).then fun right => ?_
      refine (tracks_step _ (Run.ordinary_pure operator) (Run.moves_pure operator)).then
        fun operator => ?_
      refine (tracks_note _ (check left operator right)).then fun _ => ?_
      refine (tracks_reread calls left).then fun left => (tracks_reread calls right).then fun right => ?_
      refine (tracks_step _ (Run.ordinary_operate _ _ _) (Run.still_operate _ _ _).moves).then
        fun value => ?_
      exact (tracks_note _ (result value)).then fun _ => tracks_pure value
  | negation choice isTest =>
      -- The first operand is missing, so nothing comes after it.
      exact fun machine whole => ⟨.missing (.negation choice isTest), whole⟩

/-! ## Actions -/

theorem tracks_assignTo (target value : Value) :
    Tracks tree (assignTo (.ok target) value) (Run.assignTo (.ok target) value) := by
  refine (tracks_unwrapped value).then fun value => tracks_step _ ?_ ?_
  · refine (Run.ordinary_pure target).bind fun target => (Run.ordinary_assign _ _).bind fun _ => ?_
    refine (Run.ordinary_lift (Run.keyless_noteText value)).bind fun shown => ?_
    refine (Run.ordinary_lift (Run.keyless_say target)).bind fun name => ?_
    exact (Run.silent_note _ _).ordinary.bind fun _ => Run.ordinary_pure _
  · refine (Run.moves_pure target).bind fun target => (Run.moves_assign _ _).bind fun _ => ?_
    exact (Run.moves_lift _).bind fun _ => (Run.moves_lift _).bind fun _ =>
      (Run.moves_note _ _).bind fun _ => Run.moves_pure _

section Loops

variable {body : Nat → Value → Traced Value} {runBody : Nat → Value → Run Value}
  (tracks : ∀ number item, Tracks tree (body number item) (runBody number item))
include tracks

theorem tracks_forItems (items : List Value) (number : Nat) :
    Tracks tree (forItems body items number) (Run.forItems runBody items number) := by
  induction items generalizing number with
  | nil => exact tracks_pure _
  | cons item items ih =>
      exact (tracks number item).then fun result =>
        follows_ite (tracks_pure result) (ih (number + 1))

theorem tracks_forSpan (gap : Int) (count : Nat) (start : Int) (number : Nat) :
    Tracks tree (forSpan body gap count start number)
      (Run.forSpan runBody gap count start number) := by
  induction count generalizing start number with
  | zero => exact tracks_pure _
  | succ count ih =>
      exact (tracks number (.int start)).then fun result =>
        follows_ite (tracks_pure result) (ih (start + gap) (number + 1))

theorem tracks_forCursor (cursor count number : Nat) :
    Tracks tree (forCursor body cursor count number) (Run.forCursor runBody cursor count number) := by
  induction count generalizing number with
  | zero => exact tracks_pure _
  | succ count ih =>
      refine (tracks_step _ (Run.ordinary_takeCursor? cursor) (Run.moves_takeCursor? cursor)).then
        fun taken => ?_
      cases taken with
      | none => exact tracks_pure _
      | some item =>
          exact (tracks number item).then fun result =>
            follows_ite (tracks_pure result) (ih (number + 1))

theorem tracks_forSupply (supply : Supply) :
    Tracks tree (forSupply body supply) (Run.forSupply supply runBody) := by
  cases supply with
  | feed feed =>
      cases feed with
      | items items => exact tracks_forItems tracks items 0
      | span start gap count => exact tracks_forSpan tracks gap count start 0
  | cursor number =>
      refine Follows.then (tracks_step _ ?_ ?_) fun machine => tracks_forCursor tracks number _ 0
      · exact fun _ _ _ ran => by cases ran
      · exact fun _ => .refl

end Loops

theorem tracks_runLoop {loop : Loop} (ordinary : loop.Ordinary) {body : Traced Value}
    {runBody : Run Value} (tracks : Tracks tree body runBody) :
    Tracks tree (runLoop loop body) (Run.runLoop loop runBody) := by
  refine Follows.then (tracks_forSupply (fun number item => ?_) loop.supply) fun result => ?_
  · exact (tracks_step _ (ordinary.prepare number item) (loop.moves number item)).then fun _ => tracks
  · exact tracks_step _ (Run.ordinary_closeLoop result ordinary.closing)
      (Run.moves_closeLoop result ordinary.closes)

theorem tracks_takeBranch (message : String) {body : Traced Value} {runBody : Run Value}
    (tracks : Tracks tree body runBody) :
    Tracks tree (takeBranch message body) (Run.takeBranch message runBody) := by
  rw [Run.takeBranch_eq]
  refine (tracks_step _ (Run.ordinary_openBranch message) (Run.moves_openBranch message)).then
    fun _ => tracks.then fun result => ?_
  exact tracks_step _ (Run.ordinary_closeBranch result) (Run.moves_closeBranch result)

/-- A loop over items starts, unless it runs through an enumeration. -/
theorem follows_startOver (item : Value) {source : LoopFeed} (whole : source.Whole tree) :
    Follows tree Loop.Ordinary (step (.source source) (Run.startOver item source))
      (Run.startOver item source) := by
  cases whole with
  | direct name =>
      exact follows_step _ (Run.ordinary_startOver_direct item name) (Run.moves_startOver _ _)
        fun machine value after _ => Run.gives_startOver _ _ machine value after
  | @enumerated name word body loop =>
      intro machine whole
      rw [outcome_step, Run.outcome_startOver_enumerated]
      cases defined : Table.fetch? (.str word) machine.variables with
      | none =>
          have ordinary := (Failure.undefinedEnumerated (.str word)).ordinary_stop
          refine ⟨?_, whole⟩
          simp only [Except.mapError, ofStop_of_ordinary ordinary]
          exact .stopped ordinary
      | some value =>
          dsimp only
          cases supplies : value.supply? with
          | none => exact ⟨.stopped (show Stop.Ordinary (.fault _) from nofun), whole⟩
          | some supply =>
              exact ⟨.missing (.enumeration loop rfl defined (by rw [supplies]; rfl)), whole⟩

mutual

theorem tracks_exec (calls : CallsTrack tree call runCall) (action : Action)
    (whole : action.Whole tree) : Tracks tree (exec call action) (Run.exec runCall action) := by
  cases whole with
  | assign target inside =>
      exact (tracks_eval calls _ inside.within).then fun value => tracks_assignTo target value
  | call inside => exact tracks_eval calls _ inside.within
  | yield inside => exact (tracks_eval calls _ inside.within).then fun _ => tracks_pure _
  | decide each =>
      exact (tracks_step _ Run.silent_openChoice.ordinary Run.moves_openChoice).then fun _ =>
        tracks_execBranches calls _ each
  | forEach item known each =>
      rw [Run.exec, Run.loopOver_eq]
      exact (follows_startOver item known).bind fun loop ordinary =>
        tracks_runLoop ordinary (tracks_execBody calls _ each)
  | forRange item inside each =>
      refine (tracks_eval calls _ inside.within).then fun bound => ?_
      rw [Run.loopBelow_eq]
      refine Follows.bind (follows_step _ (Run.ordinary_startBelow item bound)
        (Run.moves_startBelow item bound) fun machine value after _ =>
          Run.gives_startBelow item bound machine value after) fun loop ordinary => ?_
      exact tracks_runLoop ordinary (tracks_execBody calls _ each)
  | forEnumerated index element collection each =>
      rw [Run.exec, Run.loopNumbered_eq]
      refine Follows.bind (follows_step _ (Run.ordinary_startNumbered _ _ collection)
        (Run.moves_startNumbered _ _ collection) fun machine value after _ =>
          Run.gives_startNumbered index element collection machine value after) fun loop ordinary => ?_
      exact tracks_runLoop ordinary (tracks_execBody calls _ each)

theorem tracks_execBody (calls : CallsTrack tree call runCall)
    (actions : List Action) (whole : ∀ action ∈ actions, action.Whole tree) :
    Tracks tree (execBody call actions) (Run.execBody runCall actions) := by
  cases actions with
  | nil => exact tracks_pure _
  | cons action rest =>
      rw [List.forall_mem_cons] at whole
      exact (tracks_exec calls action whole.1).then fun result =>
        follows_ite (tracks_pure result) (tracks_execBody calls rest whole.2)

theorem tracks_execBranches (calls : CallsTrack tree call runCall)
    (branches : List Branch) (whole : ∀ branch ∈ branches, branch.Whole tree) :
    Tracks tree (execBranches call branches) (Run.execBranches runCall branches) := by
  cases branches with
  | nil =>
      exact tracks_step _ ((Run.silent_explainedIndentBy (-1)).ordinary.bind fun _ =>
        Run.ordinary_pure _) ((Run.moves_explainedIndentBy (-1)).bind fun _ => Run.moves_pure _)
  | cons branch rest =>
      rw [List.forall_mem_cons] at whole
      obtain ⟨first, others⟩ := whole
      cases first with
      | test isFirst known each =>
          refine (tracks_evalTest calls known).then fun value => ?_
          exact follows_ite (tracks_takeBranch _ (tracks_execBody calls _ each))
            (tracks_execBranches calls rest others)
      | otherwise each => exact tracks_takeBranch _ (tracks_execBody calls _ each)

end

/-! ## Tasks -/

theorem tracks_execAll (calls : CallsTrack tree call runCall)
    (actions : List Action) (whole : ∀ action ∈ actions, action.Whole tree) :
    Tracks tree (execAll call actions) (Run.execAll runCall actions) := by
  induction actions with
  | nil => exact tracks_pure _
  | cons action rest ih =>
      rw [List.forall_mem_cons] at whole
      exact (tracks_exec calls action whole.1).then fun _ => ih whole.2

theorem tracks_indentBy (amount : Int) : Tracks tree (step .code (indentBy amount)) (indentBy amount) :=
  tracks_step _ (Run.silent_indentBy amount).ordinary (Run.moves_indentBy amount)

theorem tracks_runItems (calls : CallsTrack tree call runCall)
    (items : List TaskItem) (whole : ∀ item ∈ items, item.Whole tree) :
    Tracks tree (runItems call items) (Run.runItems runCall items) := by
  induction items with
  | nil => exact tracks_pure _
  | cons item rest ih =>
      rw [List.forall_mem_cons] at whole
      obtain ⟨first, others⟩ := whole
      cases first with
      | step name each =>
          refine Follows.then ?_ fun _ => ih others
          refine (tracks_step _ (Run.ordinary_pure name) (Run.moves_pure name)).then fun name => ?_
          refine (tracks_step _ (Run.ordinary_lift (Run.keyless_say name)) (Run.moves_lift _)).then
            fun shown => ?_
          refine (tracks_step _ (Run.silent_note _ _).ordinary (Run.moves_note _ _)).then fun _ => ?_
          exact (tracks_indentBy 1).then fun _ => (tracks_execAll calls _ each).then fun _ =>
            tracks_indentBy (-1)
      | subtask name each =>
          refine (tracks_step _ (Run.ordinary_pure name) (Run.moves_pure name)).then fun name => ?_
          exact (calls name).then fun _ => ih others

theorem follows_openTask (name : Value) :
    Follows tree (fun items => ∀ item ∈ items, TaskItem.Whole tree item)
      (step .code (Run.openTask name)) (Run.openTask name) := by
  refine follows_step _ (Run.ordinary_openTask name) (Run.moves_openTask name) ?_
  intro machine items after whole opened
  obtain ⟨key, found⟩ := Run.fetch_of_openTask opened
  obtain ⟨known, member⟩ := Table.mem_of_fetch? found
  exact whole.tasks _ member

theorem follows_openSubtask (name : Value) :
    Follows tree (fun body => ∀ action ∈ body, Action.Whole tree action)
      (step .code (Run.openSubtask name)) (Run.openSubtask name) := by
  refine follows_step _ (Run.ordinary_openSubtask name) (Run.moves_openSubtask name) ?_
  intro machine body after whole opened
  obtain ⟨key, found⟩ := Run.fetch_of_openSubtask opened
  obtain ⟨known, member⟩ := Table.mem_of_fetch? found
  exact whole.subtasks _ member

theorem tracks_runTasks (calls : CallsTrack tree call runCall)
    (names : List Value) : Tracks tree (runTasks call names) (Run.runTasks runCall names) := by
  induction names with
  | nil => exact tracks_pure _
  | cons name rest ih =>
      rw [Run.runTasks, Run.runTask_eq]
      simp only [bind_assoc]
      refine (follows_openTask name).bind fun items each => ?_
      exact (tracks_runItems calls items each).then fun _ => (tracks_indentBy (-1)).then fun _ => ih

end Calls

theorem tracks_runSubtask (depth : Nat) (name : Value) :
    Tracks tree (runSubtask depth name) (Run.runSubtask depth name) := by
  induction depth generalizing name with
  | zero => exact tracks_step _ (Run.ordinary_fault nofun) (Run.moves_throw _)
  | succ depth ih =>
      rw [Run.runSubtask_eq]
      refine (follows_openSubtask name).bind fun body each => ?_
      exact (tracks_execBody ih body each).then tracks_closeSubtask

/-! ## Registration -/

theorem step_bind (reader : Reader) (run : Run α) (next : α → Run β) :
    step reader (run >>= next) = step reader run >>= fun value => step reader (next value) := by
  refine congrArg ExceptT.mk (funext fun machine => ?_)
  change (step reader (run >>= next)).outcome machine =
    (step reader run >>= fun value => step reader (next value)).outcome machine
  rw [outcome_bind, outcome_step, outcome_step, Run.outcome_bind]
  rcases run.outcome machine with ⟨_ | _, after⟩ <;> rfl

/-- The computation is one in which nothing is missing, and the registered code stays whole. -/
abbrev Registers (tree : Value) (run : Run α) : Prop :=
  Tracks tree (step .code run) run

theorem Registers.bind {run : Run α} {next : α → Run β} (registers : Registers tree run)
    (registersNext : ∀ value, Registers tree (next value)) : Registers tree (run >>= next) := by
  rw [Registers, step_bind]
  exact Follows.then registers registersNext

theorem registers_pure (value : α) : Registers tree (pure value : Run α) :=
  tracks_step _ (Run.ordinary_pure value) (Run.moves_pure value)

theorem registers_get_bind {next : Machine → Run α}
    (registers : ∀ machine, Registers tree (next machine)) : Registers tree (get >>= next) :=
  fun machine => registers machine machine

theorem registers_modify {change : Machine → Machine}
    (keeps : ∀ machine : Machine, machine.Whole tree → (change machine).Whole tree) :
    Registers tree (modify change) :=
  fun machine whole => ⟨.ok trivial, keeps machine whole⟩

theorem registers_asKey (name : Value) : Registers tree (lift name.asKey) :=
  tracks_step _ (Run.ordinary_lift (Run.keyless_asKey name)) (Run.moves_lift _)

theorem registers_registerItems (items : List TaskItem) (whole : ∀ item ∈ items, item.Whole tree) :
    Registers tree (Run.registerItems items) := by
  induction items with
  | nil => exact registers_pure ()
  | cons item rest ih =>
      rw [List.forall_mem_cons] at whole
      obtain ⟨first, others⟩ := whole
      cases first with
      | step name each => exact ih others
      | subtask name each =>
          refine (registers_pure name).bind fun name => (registers_asKey name).bind fun key => ?_
          refine Registers.bind (registers_modify fun machine isWhole => ⟨isWhole.tasks, ?_⟩)
            fun _ => ih others
          exact Table.forall_values_store (fun body => ∀ action ∈ body, Action.Whole tree action)
            isWhole.subtasks key each

theorem registers_registerTask {task : Value} (isTask : TaskTree task) (occurs : task.Occurs tree) :
    Registers tree (Run.registerTask task) := by
  have whole := isTask.whole occurs
  have named : ∃ name, task.part "name" = .ok (.str name) := by
    cases isTask with
    | task some each => exact ⟨_, rfl⟩
  obtain ⟨name, named⟩ := named
  rw [Run.registerTask, named]
  refine (registers_pure _).bind fun name => (registers_asKey name).bind fun key => ?_
  refine Registers.bind (registers_modify fun machine isWhole => ⟨?_, isWhole.subtasks⟩)
    fun _ => registers_registerItems _ whole
  exact Table.forall_values_store (fun items => ∀ item ∈ items, TaskItem.Whole tree item)
    isWhole.tasks key whole

theorem registers_registerAll (tasks : List Value) (each : ∀ task ∈ tasks, TaskTree task)
    (occurs : ∀ task ∈ tasks, task.Occurs tree) : Registers tree (Run.registerAll tasks) := by
  induction tasks with
  | nil => exact registers_pure ()
  | cons task rest ih =>
      rw [List.forall_mem_cons] at each occurs
      exact (registers_registerTask each.1 occurs.1).bind fun _ => ih each.2 occurs.2

/-! ## Programs -/

theorem registers_openProgram {tree : Value} (isProgram : ProgramTree tree)
    (passes : ∀ text, (Check.program tree text).outcome = .ok ()) :
    Registers tree (Run.openProgram tree) := by
  refine registers_get_bind fun machine => ?_
  rw [passes]
  refine (registers_pure ()).bind fun _ => ?_
  cases isProgram with
  | @program objective tasks runs someTask each someRun =>
      refine Registers.bind (tracks_step _ (Run.silent_announce rfl).ordinary (Run.moves_announce _))
        fun _ => ?_
      have occurs : ∀ task ∈ tasks, task.Occurs (.record [("objective", .str objective),
          ("tasks", .list tasks), ("runs", .texts runs)]) :=
        fun task member => Value.occurs_field "tasks" (by simp) member
      exact (registers_registerAll tasks each occurs).bind fun _ =>
        registers_pure (runs.map Value.str)

end Traced

/-- A program that is read passes its check once more. -/
theorem Program.checked_of_read {source : String} {program : Program}
    (read : (Program.read source).outcome = .ok program) (text : Option String) :
    (Check.program program.node text).outcome = .ok () := by
  obtain ⟨parsed, finished⟩ := Program.parsed_of_read read
  obtain ⟨someTask, someRun⟩ := (ProgramTree.of_parseTokens (lex_named source) parsed).nonempty
  have same : (Check.program program.node text).outcome =
      (Check.program program.node (some source)).outcome :=
    (Check.program_outcome someTask someRun text).trans
      (Check.program_outcome someTask someRun (some source)).symm
  rw [same]
  simp only [Program.read, parsed, finished, Reading.atEnd] at read
  split at read
  · next passes => exact passes
  · cases read
  · cases read

namespace Traced

theorem whole_fresh (tree : Value) (settings : Settings) (text : Option String) :
    (Machine.fresh settings text).Whole tree where
  tasks := by simp [Machine.fresh]
  subtasks := by simp [Machine.fresh]

theorem tracks_executeChecked {tree : Value} (isProgram : ProgramTree tree)
    (passes : ∀ text, (Check.program tree text).outcome = .ok ()) :
    Tracks tree (executeChecked tree) (Run.executeChecked tree) := by
  have opened : Run.executeChecked tree = Run.openProgram tree >>= Run.runTasks Run.call := by
    simp only [Run.executeChecked, Run.openProgram, bind_assoc]
  rw [opened]
  exact (registers_openProgram isProgram passes).then fun names =>
    tracks_runTasks (tracks_runSubtask Run.maxDepth) names

/-- A run of a program that was read from a text, on a new machine, stops for a missing entry only where
a traced run of the same program does, and the reader of that entry is explained.  The report on the run
then shows the entry and the variables.  No other entry of the program's tree is missing where it is
read, and every action and part of a task is known. -/
theorem missing_entries_explained (source : String) (program : Program)
    (read : (Program.read source).outcome = .ok program) (settings : Settings)
    (text : Option String) :
    let start := Machine.fresh settings text
    let traced := (executeChecked program.node).outcome start
    let ran := (Run.executeChecked program.node).outcome start
    Agrees program.node (fun _ => True) traced ran ∧ traced.1 ≠ .error .unknown ∧
      ∀ key after, ran = (.error (.fault (.missingKey key)), after) →
        (Run.execute program.node).outcome start =
          (.error (Failure.broken (.missingKey key) after.variables).stop, after) ∧
        ∃ name reader, key = .str name ∧ traced = (.error (.missing name reader), after) ∧
          Explained program.node after name reader := by
  intro start traced ran
  have isProgram : ProgramTree program.node :=
    .of_parseTokens (lex_named source) (Program.parsed_of_read read).1
  have agrees : Agrees program.node (fun _ => True) traced ran :=
    (tracks_executeChecked isProgram (Program.checked_of_read read) start
      (whole_fresh _ settings text)).1
  refine ⟨agrees, agrees.known, fun key after stopped => ⟨?_, ?_⟩⟩
  · rw [Run.outcome_execute, show (Run.executeChecked program.node).outcome start = _ from stopped]
    rfl
  · rw [stopped] at agrees
    exact agrees.explained

/-- Whether a run stopped for a missing entry. -/
def missesEntry : Except Stop Unit × Machine → Bool
  | (.error (.fault (.missingKey _)), _) => true
  | _ => false

theorem missesEntry_iff {outcome : Except Stop Unit × Machine} :
    missesEntry outcome = true ↔ ∃ key after, outcome = (.error (.fault (.missingKey key)), after) := by
  constructor
  · intro holds
    unfold missesEntry at holds
    split at holds
    · exact ⟨_, _, rfl⟩
    · cases holds
  · rintro ⟨key, after, rfl⟩
    rfl

/-- The opposite of a variable as a condition, a loop over an enumeration, and a value that is compared
and in which, two levels down, an operation lacks its operands. -/
theorem missing_entries_explained_sample :
    let before := "objective \"o\" task \"t\": step \"s\": "
    let negated := before ++ "x = 1 decide: if - x then: y = 1 run \"t\""
    let enumerated := before ++ "xs = [1, 2] for i in enumerate(xs): y = i end run \"t\""
    let nested := before ++ "d = \x7b\"type\": \"list\", \"items\": [\x7b\"type\": \"operation\"\x7d]\x7d " ++
      "decide: if d == 1 then: y = 1 run \"t\""
    let start := Machine.fresh ⟨false, .standard, 5⟩ none
    ∀ source ∈ [negated, enumerated, nested], ∃ program,
      (Program.read source).outcome = .ok program ∧
        ∃ name reader after, (Run.executeChecked program.node).outcome start =
          (.error (.fault (missingEntry name)), after) ∧ Explained program.node after name reader := by
  intro before negated enumerated nested start source member
  have misses : (Program.read source).outcome.toOption.any (fun program =>
      missesEntry ((Run.executeChecked program.node).outcome start)) = true := by
    simp only [List.mem_cons, List.not_mem_nil, or_false] at member
    rcases member with rfl | rfl | rfl <;> decide +kernel
  cases read : (Program.read source).outcome with
  | error stop =>
      rw [read] at misses
      cases misses
  | ok program =>
      rw [read] at misses
      obtain ⟨key, after, stopped⟩ := missesEntry_iff.mp misses
      obtain ⟨_, name, reader, rfl, _, explained⟩ :=
        (missing_entries_explained source program read ⟨false, .standard, 5⟩ none).2.2 _ _ stopped
      exact ⟨program, rfl, name, reader, after, stopped, explained⟩

end Traced

end Stepwise
