import Mathlib.Data.List.Chain
import Stepwise.Proofs.Course.Frame
import Stepwise.Proofs.Course.Returns
import Stepwise.Proofs.Course.Triple
import Stepwise.Proofs.Shape.Parsed
import Stepwise.Proofs.Values.Code

/-!
# The variables of a run are plain

While a program runs, all variables are plain values, at every point of the run.  The points are the
machines on record, one after each step, and from one to the next at most one variable is assigned.

The invariant that carries this is `Machine.Sound`: the variables are plain, and the code that is
registered is tame.  Tame code evaluates to loose values, of which one layer is taken off before they are
stored.  A test evaluates the values of its operands once more, as code.  That code may be anything, so
evaluation has to keep the invariant for all terms; what such a term gives is never stored.
-/

namespace Stepwise

open Value (Simple Plain Loose)

/-- The variables are plain values, and the tasks and subtasks are tame code. -/
structure Machine.Sound (machine : Machine) : Prop where
  plain : ∀ entry ∈ machine.variables, entry.2.Plain
  tasks : ∀ entry ∈ machine.tasks, ∀ item ∈ entry.2, item.Tame
  subtasks : ∀ entry ∈ machine.subtasks, ∀ action ∈ entry.2, action.Tame

/-- One variable is assigned at most. -/
def Machine.Next (after before : Machine) : Prop :=
  after.variables = before.variables ∨
    ∃ name value, after.variables = Table.store name value before.variables

/-- The machine that a step left. -/
def Incident.machine? : Incident → Option Machine
  | .step machine => some machine
  | .branchEnd => none

/-- The points of a run that started on a machine, the last first. -/
def Recorded.points (start : Machine) (recorded : Recorded) : List Machine :=
  recorded.incidents.filterMap Incident.machine? ++ [start]

/-- All points of a run so far are sound, and each follows from the one before. -/
structure Recorded.Sound (start : Machine) (recorded : Recorded) : Prop where
  current : (recorded.points start).head? = some recorded.machine
  each : ∀ machine ∈ recorded.points start, machine.Sound
  linked : (recorded.points start).IsChain Machine.Next

theorem Recorded.Sound.machine {start : Machine} {recorded : Recorded}
    (sound : recorded.Sound start) : recorded.machine.Sound :=
  sound.each _ (List.mem_of_mem_head? sound.current)

theorem Recorded.Sound.step {start machine : Machine} {before : Recorded}
    (sound : before.Sound start) (isSound : machine.Sound) (next : machine.Next before.machine) :
    Recorded.Sound start ⟨machine, .step machine :: before.incidents⟩ where
  current := rfl
  each := List.forall_mem_cons.mpr ⟨isSound, sound.each⟩
  linked := by
    refine List.isChain_cons.mpr ⟨fun point isHead => ?_, sound.linked⟩
    have isCurrent : some before.machine = some point := sound.current.symm.trans isHead
    cases isCurrent
    exact next

theorem Machine.Sound.of_contents {before after : Machine} (sound : before.Sound)
    (same : after.contents = before.contents) : after.Sound := by
  simp only [Machine.contents, Prod.mk.injEq] at same
  obtain ⟨sameVariables, sameTasks, sameSubtasks⟩ := same
  exact ⟨sameVariables ▸ sound.plain, sameTasks ▸ sound.tasks, sameSubtasks ▸ sound.subtasks⟩

theorem Machine.Sound.fetch {machine : Machine} (sound : machine.Sound) {name value : Value}
    (found : Table.fetch? name machine.variables = some value) : value.Plain := by
  obtain ⟨known, member⟩ := Table.mem_of_fetch? found
  exact sound.plain _ member

namespace Course

open Run (lift fault fail note indentBy explainedIndentBy Shifts Quiet Gives)

variable {α β : Type} {start : Machine} {holds : α → Prop}

/-- A course that keeps all points sound, gives what is required, and returns loose values. -/
def keeping (start : Machine) (holds : α → Prop) : Ends α where
  ok value after := holds value ∧ after.Sound start
  returned value after := (∀ found, value = .ok found → found.Loose) ∧ after.Sound start
  stopped after := after.Sound start

def Keeps (start : Machine) (holds : α → Prop) (course : Course α) : Prop :=
  Meets (Recorded.Sound start) course (keeping start holds)

/-! ## Rules -/

theorem keeps_pure {value : α} (is : holds value) : Keeps start holds (pure value) :=
  meets_pure fun _ sound => ⟨is, sound⟩

theorem keeps_leave {value : Except Fault Value}
    (isLoose : ∀ found, value = .ok found → found.Loose) :
    Keeps start holds (leave value) :=
  meets_leave fun _ sound => ⟨isLoose, sound⟩

theorem keeps_step {run : Run α}
    (moves : ∀ machine, machine.Sound →
      (run.outcome machine).2.Sound ∧ (run.outcome machine).2.Next machine)
    (gives : ∀ machine value after, machine.Sound → run.outcome machine = (.ok value, after) →
      holds value) :
    Keeps start holds (step run) := by
  refine meets_step (fun before value machine sound ran => ?_)
    fun before stop machine sound ran => ?_
  · have moved := moves before.machine sound.machine
    rw [ran] at moved
    exact ⟨gives _ value machine sound.machine ran, sound.step moved.1 moved.2⟩
  · have moved := moves before.machine sound.machine
    rw [ran] at moved
    exact sound.step moved.1 moved.2

/-- A step that leaves the contents of the machine alone. -/
theorem keeps_frame {run : Run α} {amount : Settings → Int}
    (shifts : ∀ settings, Shifts Machine.contents settings (amount settings) run)
    (gives : ∀ machine value after, machine.Sound → run.outcome machine = (.ok value, after) →
      holds value) :
    Keeps start holds (step run) := by
  refine keeps_step (fun machine sound => ?_) gives
  have same := (shifts machine.settings machine rfl).kept
  exact ⟨sound.of_contents same, .inl (congrArg Prod.fst same)⟩

theorem keeps_quiet {run : Run α} {amount : Settings → Int}
    (shifts : ∀ settings, Shifts Machine.contents settings (amount settings) run) :
    Keeps start (fun _ => True) (step run) :=
  keeps_frame shifts fun _ _ _ _ _ => trivial

theorem keeps_throw (stop : Stop) : Keeps start holds (step (throw stop : Run α)) :=
  keeps_step (fun _ sound => ⟨sound, .inl rfl⟩) fun _ _ _ _ ran => by cases ran

theorem keeps_get_throw (stop : Machine → Stop) :
    Keeps start holds (step (get >>= fun machine => throw (stop machine) : Run α)) :=
  keeps_step (fun _ sound => ⟨sound, .inl rfl⟩) fun _ _ _ _ ran => by cases ran

theorem keeps_get : Keeps start Machine.Sound (step get) := by
  refine keeps_frame (fun _ => Run.shifts_get) fun machine value after sound ran => ?_
  cases ran
  exact sound

theorem keeps_lift {result : Except Fault α} (is : ∀ value, result = .ok value → holds value) :
    Keeps start holds (step (lift result)) :=
  keeps_frame (fun _ => Run.shifts_lift result)
    fun machine value after _ => Run.gives_lift is machine value after

/-- A result whose kind does not matter. -/
theorem keeps_result (result : Except Fault α) :
    Keeps start (fun _ => True) (step (lift result)) :=
  keeps_lift fun _ _ => trivial

theorem Keeps.bind {isGiven : β → Prop} {course : Course β} {next : β → Course α}
    (keeps : Keeps start isGiven course)
    (keepsNext : ∀ value, isGiven value → Keeps start holds (next value)) :
    Keeps start holds (course >>= next) :=
  Meets.bind keeps fun value before given => keepsNext value given.1 before given.2

theorem Keeps.imp {other : α → Prop} {course : Course α} (keeps : Keeps start holds course)
    (implies : ∀ value, holds value → other value) : Keeps start other course := by
  rw [← bind_pure course]
  exact keeps.bind fun value is => keeps_pure (implies value is)

theorem Keeps.sound {course : Course α} (keeps : Keeps start holds course) {before : Recorded}
    (sound : before.Sound start) : (course.outcome before).2.Sound start := by
  have kept := keeps before sound
  revert kept
  rcases course.outcome before with ⟨(_ | _) | _, after⟩
  · exact And.right
  · exact id
  · exact And.right

theorem keeps_ite {condition : Prop} [Decidable condition] {course other : Course α}
    (keeps : Keeps start holds course) (keepsOther : Keeps start holds other) :
    Keeps start holds (if condition then course else other) :=
  meets_ite keeps keepsOther

/-- What is done on the way out of a return keeps what is returned. -/
theorem Keeps.afterReturn {course : Course α} {cleanup : Course Unit}
    (keeps : Keeps start holds course) (cleans : Keeps start (fun _ => True) cleanup) :
    Keeps start holds (afterReturn course cleanup) := by
  refine Meets.afterReturn keeps fun value before leaving => ?_
  have cleaned := cleans before leaving.2
  revert cleaned
  rcases cleanup.outcome before with ⟨(_ | _) | _, after⟩
  · exact id
  · exact id
  · exact fun cleaned => ⟨leaving.1, cleaned.2⟩

theorem Keeps.contained {course : Course Unit} (keeps : Keeps start (fun _ => True) course) :
    Keeps start (fun _ => True) (contained course) := by
  refine Meets.contained fun before sound => ?_
  have kept := keeps before sound
  revert kept
  rcases course.outcome before with ⟨(_ | _) | _, after⟩
  · exact fun kept => ⟨trivial, kept.2⟩
  · exact id
  · exact id

/-! ## Terms -/

section Terms

variable {call : Value → Course Value}

theorem keeps_callSubtask (keeps : ∀ name, Keeps start Loose (call name)) (function : Value) :
    Keeps start Loose (callSubtask call function) := by
  refine (keeps_result _).bind fun key _ => keeps_get.bind fun machine _ => ?_
  refine keeps_ite (keeps key) ?_
  cases function with
  | str name =>
      refine keeps_get.bind fun machine _ => keeps_ite (keeps _) ?_
      exact keeps_get.bind fun machine _ => keeps_throw _
  | _ => exact keeps_throw _

/-- A call with loose arguments gives a loose value, unless it calls one of the two functions whose
names are reserved. -/
theorem keeps_callFunction (keeps : ∀ name, Keeps start Loose (call name)) (function : Value)
    (arguments : List Value) :
    Keeps start (fun value => ∀ name, function = .str name → name ≠ "range" → name ≠ "enumerate" →
      (∀ argument ∈ arguments, argument.Loose) → value.Loose)
      (callFunction call function arguments) := by
  have called := (keeps_callSubtask keeps function).imp fun value isLoose (name : String)
    (_ : function = .str name) (_ : name ≠ "range") (_ : name ≠ "enumerate")
    (_ : ∀ argument ∈ arguments, argument.Loose) => isLoose
  cases function with
  | str name =>
      rw [callFunction]
      cases found : Run.builtin? name with
      | none => exact called
      | some run =>
          refine keeps_frame (fun _ => Run.quiet_builtin? found arguments) ?_
          rintro machine value after _ ran _ ⟨⟩ notRange notEnumerate each
          exact Run.gives_builtin? found notRange notEnumerate each machine value after ran
  | _ => exact called

mutual

theorem keeps_eval (keeps : ∀ name, Keeps start Loose (call name)) (term : Term) :
    Keeps start (fun value => term.Tame → value.Loose) (eval call term) := by
  cases term with
  | const value =>
      refine keeps_pure fun tame => ?_
      cases tame with
      | const isLoose => exact isLoose
  | var name =>
      refine keeps_frame (fun _ => Run.quiet_readVariable name) ?_
      intro machine value after sound ran _
      rw [Run.readVariable, Run.outcome_get_bind] at ran
      split at ran
      · next found =>
          cases ran
          exact .plain (sound.fetch found)
      · cases ran
  | fault cause => exact keeps_throw _
  | after first last =>
      -- No expression is read as such a term, so nothing is required of its value.
      refine (keeps_eval keeps first).bind fun _ _ => (keeps_eval keeps last).imp ?_
      rintro value _ ⟨⟩
  | list items =>
      refine (keeps_evalItems keeps items).bind fun values isEach => keeps_pure fun tame => ?_
      cases tame with
      | list each => exact .plain (.list (isEach each))
  | dict entries =>
      refine (keeps_evalEntries keeps entries []).bind fun stored isEach => ?_
      refine keeps_pure fun tame => ?_
      cases tame with
      | dict keys values =>
          have each := isEach keys values (by simp) (by simp)
          exact .dict each.1 each.2
  | index container key =>
      refine (keeps_eval keeps container).bind fun container isContainer => ?_
      refine (keeps_eval keeps key).bind fun key _ => ?_
      refine keeps_frame (fun _ => Run.quiet_index container key) ?_
      intro machine value after _ ran tame
      cases tame with
      | index inside isKey =>
          exact .plain (Run.gives_index (isContainer inside) key machine value after ran)
  | negate operand =>
      refine (keeps_eval keeps operand).bind fun operand _ => keeps_lift ?_
      exact fun value negates _ => (Value.negate_simple negates).loose
  | binary operator left right =>
      refine (keeps_eval keeps left).bind fun left isLeft => ?_
      refine (keeps_eval keeps right).bind fun right isRight => ?_
      refine keeps_frame (fun _ => Run.quiet_operate operator left right) ?_
      intro machine value after _ ran tame
      cases tame with
      | binary _ leftTame rightTame =>
          have gives := Run.gives_operate operator (isLeft leftTame) (isRight rightTame)
          exact .plain (gives machine value after ran)
  | call function arguments =>
      refine (keeps_evalAll keeps arguments).bind fun values isEach => ?_
      refine (keeps_callFunction keeps function values).imp fun value gives tame => ?_
      cases tame with
      | call notRange notEnumerate each => exact gives _ rfl notRange notEnumerate (isEach each)

theorem keeps_evalAll (keeps : ∀ name, Keeps start Loose (call name)) (terms : List Term) :
    Keeps start (fun values => (∀ term ∈ terms, term.Tame) → ∀ value ∈ values, value.Loose)
      (evalAll call terms) := by
  cases terms with
  | nil => exact keeps_pure (by simp)
  | cons term rest =>
      refine (keeps_eval keeps term).bind fun value isLoose => ?_
      refine (keeps_evalAll keeps rest).bind fun values isEach => keeps_pure fun tame => ?_
      simp only [List.forall_mem_cons] at tame ⊢
      exact ⟨isLoose tame.1, isEach tame.2⟩

theorem keeps_evalItems (keeps : ∀ name, Keeps start Loose (call name)) (terms : List Term) :
    Keeps start (fun values => (∀ term ∈ terms, term.Tame) → ∀ value ∈ values, value.Plain)
      (evalItems call terms) := by
  cases terms with
  | nil => exact keeps_pure (by simp)
  | cons term rest =>
      refine (keeps_eval keeps term).bind fun value isLoose => ?_
      refine (keeps_lift fun item isItem => ?_).bind fun item
        (isPlain : term.Tame → item.Plain) => ?_
      · exact fun tame => (isLoose tame).unwrapped isItem
      refine (keeps_evalItems keeps rest).bind fun values isEach => keeps_pure fun tame => ?_
      simp only [List.forall_mem_cons] at tame ⊢
      exact ⟨isPlain tame.1, isEach tame.2⟩

theorem keeps_evalEntries (keeps : ∀ name, Keeps start Loose (call name))
    (entries : List (Term × Term)) (stored : Table Value) :
    Keeps start (fun result =>
      (∀ entry ∈ entries, entry.1.Tame) → (∀ entry ∈ entries, entry.2.Tame) →
      (∀ entry ∈ stored, entry.1.Simple) → (∀ entry ∈ stored, entry.2.Plain) →
        (∀ entry ∈ result, entry.1.Simple) ∧ ∀ entry ∈ result, entry.2.Plain)
      (evalEntries call entries stored) := by
  rcases entries with _ | ⟨⟨key, value⟩, rest⟩
  · exact keeps_pure fun _ _ isKey isStored => ⟨isKey, isStored⟩
  · refine (keeps_eval keeps key).bind fun wrappedKey keyLoose => ?_
    refine (keeps_eval keeps value).bind fun wrapped valueLoose => ?_
    refine (keeps_lift fun found isFound => ?_).bind fun plainKey
      (keyPlain : key.Tame → plainKey.Plain) => ?_
    · exact fun tame => (keyLoose tame).unwrapped isFound
    refine (keeps_lift fun found isFound => ?_).bind fun item
      (itemPlain : value.Tame → item.Plain) => ?_
    · exact fun tame => (valueLoose tame).unwrapped isFound
    refine (keeps_lift fun found isFound => ?_).bind fun name
      (nameSimple : key.Tame → name.Simple) => ?_
    · exact fun tame => (keyPlain tame).asKey isFound
    refine (keeps_evalEntries keeps rest _).imp fun result each keys values isKey isStored => ?_
    simp only [List.forall_mem_cons] at keys values
    exact each keys.2 values.2 (Table.forall_keys_store Simple isKey (nameSimple keys.1) item)
      (Table.forall_values_store Plain isStored name (itemPlain values.1))

end

/-- The value of a test may be anything. -/
theorem keeps_evalTest (keeps : ∀ name, Keeps start Loose (call name)) (test : Test) :
    Keeps start (fun _ => True) (evalTest call test) := by
  have noted (category : String) (message : Except Fault String) :
      Keeps start (fun _ => True) (step (Run.noteSaying category message)) :=
    keeps_quiet fun _ => Run.quiet_noteSaying category message
  cases test with
  | operation left right operator =>
      refine (keeps_eval keeps left).bind fun left _ => ?_
      refine (keeps_eval keeps right).bind fun right _ => ?_
      refine (keeps_result _).bind fun operator _ => (noted _ _).bind fun _ _ => ?_
      -- The operands are values now, and are read as terms of any kind.
      refine (keeps_eval keeps _).bind fun left _ => (keeps_eval keeps _).bind fun right _ => ?_
      refine (keeps_quiet fun _ => Run.quiet_operate operator left right).bind fun value _ => ?_
      exact (noted _ _).bind fun _ _ => keeps_pure trivial
  | plain term node =>
      refine (keeps_eval keeps term).bind fun value _ => ?_
      exact (noted _ _).bind fun _ _ => (noted _ _).bind fun _ _ => keeps_pure trivial

end Terms

/-! ## Assignments, loops and branches -/

theorem keeps_assign (name : Value) {value : Value} (isPlain : value.Plain) :
    Keeps start (fun _ => True) (step (Run.assign name value)) := by
  refine keeps_step (fun machine sound => ?_) fun _ _ _ _ _ => trivial
  rw [Run.assign]
  cases name.asKey with
  | error cause => exact ⟨sound, .inl rfl⟩
  | ok key =>
      refine ⟨⟨?_, sound.tasks, sound.subtasks⟩, .inr ⟨key, value, rfl⟩⟩
      exact Table.forall_values_store Plain sound.plain key isPlain

theorem keeps_assignTo (target : Except Fault Value) {value : Value} (isLoose : value.Loose) :
    Keeps start (fun _ => True) (assignTo target value) := by
  refine (keeps_lift fun found isFound => isLoose.unwrapped isFound).bind fun value isPlain => ?_
  refine (keeps_result _).bind fun target _ => ?_
  refine (keeps_assign target isPlain).bind fun _ _ => ?_
  refine (keeps_result _).bind fun shown _ => ?_
  refine (keeps_result _).bind fun name _ => ?_
  exact keeps_quiet fun _ => Run.quiet_note _ _

theorem keeps_valueNamed? (name : Value) :
    Keeps start (fun found => ∀ value, found = some value → value.Plain)
      (step (Run.valueNamed? name)) := by
  refine keeps_frame (fun _ => Run.quiet_valueNamed? name) fun machine found after sound ran => ?_
  rw [Run.valueNamed?] at ran
  cases keyed : name.asKey with
  | error cause =>
      rw [keyed] at ran
      cases ran
  | ok key =>
      rw [keyed] at ran
      cases ran
      exact fun value fetched => sound.fetch fetched

section Loops

variable {body : Nat → Value → Course Unit}

theorem keeps_forItems {items : List Value} (each : ∀ item ∈ items, item.Plain)
    (keeps : ∀ number item, item.Plain → Keeps start (fun _ => True) (body number item)) :
    Keeps start (fun _ => True) (forSupply (.feed (.items items)) body) := by
  have loops := meets_forItems (keeping start fun _ => True) items 0
    fun number item member before kept => keeps number item (each item member) before kept.2
  exact fun before sound => loops before ⟨trivial, sound⟩

theorem keeps_forSpan (first gap : Int) (count : Nat)
    (keeps : ∀ number n, Keeps start (fun _ => True) (body number (.int n))) :
    Keeps start (fun _ => True) (forSupply (.feed (.span first gap count)) body) := by
  have loops := meets_forSpan (keeping start fun _ => True) gap count first 0
    fun number n before kept => keeps number n before kept.2
  exact fun before sound => loops before ⟨trivial, sound⟩

end Loops

theorem keeps_closing {iterations : Course Unit} (keeps : Keeps start (fun _ => True) iterations)
    {complete : Run Unit} (quiet : ∀ settings, Quiet settings complete) :
    Keeps start (fun _ => True) (closing complete iterations) := by
  have closes : Keeps start (fun _ => True) (step (explainedIndentBy (-1))) :=
    keeps_quiet fun _ => Run.shifts_explainedIndentBy (-1)
  exact (keeps.afterReturn closes).bind fun _ _ => (keeps_quiet quiet).bind fun _ _ => closes

section Bodies

variable {body : Course Unit}

theorem keeps_loopDirect (keeps : Keeps start (fun _ => True) body) (item node : Value)
    {items : List Value} (each : ∀ item ∈ items, item.Plain) :
    Keeps start (fun _ => True) (loopDirect item node (.feed (.items items)) body) := by
  refine (keeps_quiet fun _ => Run.shifts_openLoop node).bind fun _ _ => ?_
  refine keeps_closing (keeps_forItems each fun _ value isPlain => ?_)
    fun _ => Run.quiet_completeLoop
  refine (keeps_assign item isPlain).bind fun _ _ => ?_
  exact (keeps_quiet fun _ => Run.quiet_noteIteration _).bind fun _ _ => keeps

theorem keeps_loopEnumerated (keeps : Keeps start (fun _ => True) body)
    (index element node : Value) {items : List Value} (each : ∀ item ∈ items, item.Plain) :
    Keeps start (fun _ => True)
      (loopEnumerated index element node (.feed (.items items)) body) := by
  refine (keeps_quiet fun _ => Run.shifts_openLoop node).bind fun _ _ => ?_
  refine keeps_closing (keeps_forItems each fun number value isPlain => ?_)
    fun _ => Run.quiet_completeLoop
  refine (keeps_assign index (.simple (.int number))).bind fun _ _ => ?_
  refine (keeps_assign element isPlain).bind fun _ _ => ?_
  exact (keeps_quiet fun _ => Run.quiet_noteIteration _).bind fun _ _ => keeps

theorem keeps_loopOver (keeps : Keeps start (fun _ => True) body) (item : Value)
    (source : LoopFeed) : Keeps start (fun _ => True) (loopOver item source body) := by
  cases source with
  | direct name =>
      refine (keeps_valueNamed? name).bind fun found isPlain => ?_
      cases found with
      | none => exact keeps_get_throw _
      | some value =>
          dsimp only
          cases supplies : value.supply? with
          | none => exact keeps_throw _
          | some supply =>
              -- A variable is no enumeration, so the items are at hand and plain.
              obtain ⟨items, rfl, each⟩ := (Loose.plain (isPlain value rfl)).supply supplies
              exact keeps_loopDirect keeps item name each
  | enumerated name element node =>
      refine (keeps_valueNamed? name).bind fun found isPlain => ?_
      cases found with
      | none => exact keeps_throw _
      | some value =>
          have gives := Run.gives_supplyOf (Loose.plain (isPlain value rfl))
          refine (keeps_frame (fun _ => Run.quiet_supplyOf value)
            fun machine value after _ => gives machine value after).bind fun supply isSupply => ?_
          obtain ⟨items, rfl, each⟩ := isSupply
          refine (keeps_result _).bind fun element _ => ?_
          exact keeps_loopEnumerated keeps item element node each

theorem keeps_loopBelow (keeps : Keeps start (fun _ => True) body) (item bound : Value) :
    Keeps start (fun _ => True) (loopBelow item bound body) := by
  refine (keeps_result _).bind fun stop _ => ?_
  refine (keeps_quiet fun _ => Run.shifts_openRange _).bind fun _ _ => ?_
  refine keeps_closing (keeps_forSpan 0 1 _ fun number n => ?_) fun _ => Run.quiet_note _ _
  refine (keeps_assign item (.simple (.int n))).bind fun _ _ => ?_
  exact (keeps_quiet fun _ => Run.quiet_noteRangeIteration _ number item _).bind fun _ _ => keeps

theorem keeps_loopNumbered (keeps : Keeps start (fun _ => True) body)
    (index element : Except Fault Value) (name : Value) :
    Keeps start (fun _ => True) (loopNumbered index element name body) := by
  refine (keeps_valueNamed? name).bind fun found isPlain => ?_
  cases found with
  | none => exact keeps_throw _
  | some value =>
      dsimp only
      cases supplies : value.supply? with
      | none => exact (keeps_result _).bind fun _ _ => keeps_throw _
      | some supply =>
          obtain ⟨items, rfl, each⟩ := (Loose.plain (isPlain value rfl)).supply supplies
          refine (keeps_quiet fun _ => Run.shifts_openNumbered name).bind fun _ _ => ?_
          refine keeps_closing (keeps_forItems each fun number item isItem => ?_)
            fun _ => Run.quiet_note _ _
          refine (keeps_result _).bind fun index _ => ?_
          refine (keeps_assign index (.simple (.int number))).bind fun _ _ => ?_
          refine (keeps_result _).bind fun element _ => ?_
          refine (keeps_assign element isItem).bind fun _ _ => ?_
          exact (keeps_quiet fun _ => Run.quiet_whenShown _ (Run.quiet_noteSaying _ _)).bind
            fun _ _ => keeps

theorem keeps_takeBranch (keeps : Keeps start (fun _ => True) body) (message : String) :
    Keeps start (fun _ => True) (takeBranch message body) := by
  have indents (amount : Int) : Keeps start (fun _ => True) (step (explainedIndentBy amount)) :=
    keeps_quiet fun _ => Run.shifts_explainedIndentBy amount
  have records : Keeps start (fun _ => True) recordBranchEnd :=
    fun _ sound => ⟨trivial, sound.current, sound.each, sound.linked⟩
  refine (keeps_quiet fun _ => Run.quiet_note _ _).bind fun _ _ => (indents 1).bind fun _ _ => ?_
  refine (keeps.afterReturn (indents (-2))).bind fun _ _ => ?_
  exact records.bind fun _ _ => indents (-1)

end Bodies

/-! ## Actions -/

section Calls

variable {call : Value → Course Value}

mutual

theorem keeps_exec (keeps : ∀ name, Keeps start Loose (call name)) (action : Action)
    (tame : action.Tame) : Keeps start (fun _ => True) (exec call action) := by
  cases tame with
  | skip => exact keeps_pure trivial
  | fault cause => exact keeps_throw _
  | assign target inside =>
      exact (keeps_eval keeps _).bind fun value isLoose => keeps_assignTo target (isLoose inside)
  | call inside =>
      refine (keeps_eval keeps _).bind fun value isLoose => keeps_ite ?_ (keeps_pure trivial)
      exact keeps_leave fun found isPart => .plain ((isLoose inside).part isPart)
  | yield inside =>
      refine (keeps_eval keeps _).bind fun value isLoose => keeps_leave fun found same => ?_
      cases same
      exact isLoose inside
  | decide each =>
      refine (keeps_quiet fun _ => Run.shifts_openChoice).bind fun _ _ => ?_
      exact keeps_execBranches keeps _ each
  | forEach item source each => exact keeps_loopOver (keeps_execBody keeps _ each) item source
  | forRange item bound each =>
      exact (keeps_eval keeps bound).bind fun bound _ =>
        keeps_loopBelow (keeps_execBody keeps _ each) item bound
  | forEnumerated index element collection each =>
      exact keeps_loopNumbered (keeps_execBody keeps _ each) index element collection

theorem keeps_execBody (keeps : ∀ name, Keeps start Loose (call name)) (actions : List Action)
    (tame : ∀ action ∈ actions, action.Tame) :
    Keeps start (fun _ => True) (execBody call actions) := by
  cases actions with
  | nil => exact keeps_pure trivial
  | cons action rest =>
      simp only [List.forall_mem_cons] at tame
      exact (keeps_exec keeps action tame.1).bind fun _ _ => keeps_execBody keeps rest tame.2

theorem keeps_execBranches (keeps : ∀ name, Keeps start Loose (call name))
    (branches : List Branch) (tame : ∀ branch ∈ branches, branch.Tame) :
    Keeps start (fun _ => True) (execBranches call branches) := by
  cases branches with
  | nil => exact keeps_quiet fun _ => Run.shifts_explainedIndentBy (-1)
  | cons branch rest =>
      simp only [List.forall_mem_cons] at tame
      obtain ⟨first, others⟩ := tame
      cases first with
      | fault cause => exact keeps_throw _
      | test isFirst test each =>
          refine (keeps_evalTest keeps test).bind fun value _ => ?_
          exact keeps_ite (keeps_takeBranch (keeps_execBody keeps _ each) _)
            (keeps_execBranches keeps rest others)
      | otherwise each => exact keeps_takeBranch (keeps_execBody keeps _ each) _

end

theorem keeps_execAll (keeps : ∀ name, Keeps start Loose (call name)) (actions : List Action)
    (tame : ∀ action ∈ actions, action.Tame) :
    Keeps start (fun _ => True) (execAll call actions) := by
  induction actions with
  | nil => exact keeps_pure trivial
  | cons action rest ih =>
      simp only [List.forall_mem_cons] at tame
      exact (keeps_exec keeps action tame.1).contained.bind fun _ _ => ih tame.2

/-! ## Subtasks, tasks and programs -/

theorem keeps_runSubtaskBody (keeps : ∀ name, Keeps start Loose (call name))
    {body : List Action} (tame : ∀ action ∈ body, action.Tame) :
    Keeps start Loose (runSubtaskBody call body) := by
  have outdents : Keeps start (fun _ => True) (step (indentBy (-1))) :=
    keeps_quiet fun _ => Run.shifts_indentBy (-1)
  have runs : Keeps start (fun _ => Loose .null)
      (afterReturn (execBody call body) (step (indentBy (-1))) >>= fun _ => step (indentBy (-1))) :=
    ((keeps_execBody keeps body tame).afterReturn outdents).bind fun _ _ =>
      outdents.imp fun _ _ => Simple.null.loose
  exact Meets.handedBack runs fun value before leaving => keeps_lift leaving.1 before leaving.2

/-- What is run one level further in. -/
theorem keeps_indented {course : Course Unit} (keeps : Keeps start (fun _ => True) course) :
    Keeps start (fun _ => True) (do step (indentBy 1); course; step (indentBy (-1))) := by
  refine (keeps_quiet fun _ => Run.shifts_indentBy 1).bind fun _ _ => ?_
  exact keeps.bind fun _ _ => keeps_quiet fun _ => Run.shifts_indentBy (-1)

theorem keeps_runStep (keeps : ∀ name, Keeps start Loose (call name)) {code : StepCode}
    (tame : ∀ action ∈ code.body, action.Tame) :
    Keeps start (fun _ => True) (runStep call code) := by
  refine (keeps_result _).bind fun name _ => ?_
  refine (keeps_result _).bind fun shown _ => ?_
  refine (keeps_quiet fun _ => Run.quiet_note _ _).bind fun _ _ => ?_
  exact keeps_indented (keeps_execAll keeps code.body tame)

theorem keeps_runItems (keeps : ∀ name, Keeps start Loose (call name)) (items : List TaskItem)
    (tame : ∀ item ∈ items, item.Tame) : Keeps start (fun _ => True) (runItems call items) := by
  induction items with
  | nil => exact keeps_pure trivial
  | cons item rest ih =>
      simp only [List.forall_mem_cons] at tame
      obtain ⟨first, others⟩ := tame
      cases first with
      | fault cause => exact keeps_throw _
      | step each => exact (keeps_runStep keeps each).bind fun _ _ => ih others
      | subtask name each =>
          refine (keeps_result _).bind fun name _ => ?_
          exact (keeps name).bind fun _ _ => ih others
      | other => exact ih others

theorem keeps_runTask (keeps : ∀ name, Keeps start Loose (call name)) (name : Value) :
    Keeps start (fun _ => True) (runTask call name) := by
  refine (keeps_result _).bind fun key _ => keeps_get.bind fun machine sound => ?_
  cases found : Table.fetch? key machine.tasks with
  | none => exact keeps_get_throw _
  | some items =>
      obtain ⟨known, member⟩ := Table.mem_of_fetch? found
      refine (keeps_result _).bind fun shown _ => ?_
      refine (keeps_quiet fun _ => Run.quiet_note _ _).bind fun _ _ => ?_
      exact keeps_indented (keeps_runItems keeps items (sound.tasks _ member))

theorem keeps_runTasks (keeps : ∀ name, Keeps start Loose (call name)) (names : List Value) :
    Keeps start (fun _ => True) (runTasks call names) := by
  induction names with
  | nil => exact keeps_pure trivial
  | cons name rest ih => exact (keeps_runTask keeps name).bind fun _ _ => ih

end Calls

theorem keeps_runSubtask (depth : Nat) (name : Value) :
    Keeps start Loose (runSubtask depth name) := by
  induction depth generalizing name with
  | zero => exact keeps_throw _
  | succ depth ih =>
      refine (keeps_result _).bind fun key _ => keeps_get.bind fun machine sound => ?_
      cases found : Table.fetch? key machine.subtasks with
      | none => exact keeps_get_throw _
      | some body =>
          obtain ⟨known, member⟩ := Table.mem_of_fetch? found
          refine (keeps_result _).bind fun shown _ => ?_
          refine (keeps_quiet fun _ => Run.quiet_note _ _).bind fun _ _ => ?_
          refine (keeps_quiet fun _ => Run.shifts_indentBy 1).bind fun _ _ => ?_
          exact keeps_runSubtaskBody ih (sound.subtasks _ member)

/-! ## Registration -/

/-- The computation keeps the machine sound and leaves its variables alone. -/
def Registers (run : Run α) : Prop :=
  ∀ machine, machine.Sound →
    (run.outcome machine).2.Sound ∧ (run.outcome machine).2.variables = machine.variables

theorem registers_lift (result : Except Fault α) : Registers (lift result) := by
  cases result <;> exact fun _ sound => ⟨sound, rfl⟩

theorem Registers.bind {run : Run β} {next : β → Run α} (registers : Registers run)
    (registersNext : ∀ value, Registers (next value)) : Registers (run >>= next) := by
  intro machine sound
  have first := registers machine sound
  rw [Run.outcome_bind]
  revert first
  rcases run.outcome machine with ⟨stop | value, after⟩
  · exact id
  · intro first
    have second := registersNext value after first.1
    exact ⟨second.1, second.2.trans first.2⟩

theorem registers_registerItems (items : List TaskItem) (tame : ∀ item ∈ items, item.Tame) :
    Registers (Run.registerItems items) := by
  induction items with
  | nil => exact fun _ sound => ⟨sound, rfl⟩
  | cons item rest ih =>
      simp only [List.forall_mem_cons] at tame
      obtain ⟨first, others⟩ := tame
      cases first with
      | fault cause => exact fun _ sound => ⟨sound, rfl⟩
      | step each => exact ih others
      | other => exact ih others
      | subtask name each =>
          refine (registers_lift _).bind fun name => (registers_lift _).bind fun key => ?_
          refine Registers.bind (fun machine sound => ⟨⟨sound.plain, sound.tasks, ?_⟩, rfl⟩)
            fun _ => ih others
          exact Table.forall_values_store (fun body => ∀ action ∈ body, Action.Tame action)
            sound.subtasks key each

theorem registers_registerTask {task : Value} (tree : TaskTree task) :
    Registers (Run.registerTask task) := by
  refine (registers_lift _).bind fun name => (registers_lift _).bind fun key => ?_
  refine Registers.bind (fun machine sound => ⟨⟨sound.plain, ?_, sound.subtasks⟩, rfl⟩)
    fun _ => registers_registerItems _ tree.tame
  exact Table.forall_values_store (fun items => ∀ item ∈ items, TaskItem.Tame item)
    sound.tasks key tree.tame

theorem registers_registerAll (tasks : List Value) (each : ∀ task ∈ tasks, TaskTree task) :
    Registers (Run.registerAll tasks) := by
  induction tasks with
  | nil => exact fun _ sound => ⟨sound, rfl⟩
  | cons task rest ih =>
      simp only [List.forall_mem_cons] at each
      exact (registers_registerTask each.1).bind fun _ => ih each.2

theorem keeps_execute {tree : Value} (isProgram : ProgramTree tree) :
    Keeps start (fun _ => True) (execute tree) := by
  have checked : Keeps start (fun _ => True) (executeChecked tree) := by
    cases isProgram with
    | @program objective tasks runs someTask each someRun =>
        refine keeps_get.bind fun machine _ => ?_
        refine (keeps_quiet fun _ => Run.quiet_passing _).bind fun _ _ => ?_
        refine (keeps_quiet fun _ => Run.quiet_announce _).bind fun _ _ => ?_
        refine (keeps_lift fun found isFound => ?_).bind fun found
          (isTasks : found = .list tasks) => ?_
        · cases isFound
          rfl
        subst isTasks
        -- From here on the tame code of the tree is registered, and only that is run.
        refine (keeps_step (fun machine sound => ?_) fun _ _ _ _ _ => trivial).bind fun _ _ => ?_
        · have registered := registers_registerAll tasks each machine sound
          exact ⟨registered.1, .inl registered.2⟩
        refine (keeps_result _).bind fun runs _ => ?_
        refine (keeps_result _).bind fun names _ => ?_
        exact keeps_runTasks (keeps_runSubtask Run.maxDepth) names
  exact Meets.execute checked fun after sound => sound.step sound.machine (.inl rfl)

theorem sound_fresh (settings : Settings) (source : Option String) :
    Recorded.Sound (.fresh settings source) ⟨.fresh settings source, []⟩ where
  current := rfl
  each := by
    simp only [Recorded.points, List.filterMap_nil, List.nil_append, List.forall_mem_singleton]
    exact ⟨by simp [Machine.fresh], by simp [Machine.fresh], by simp [Machine.fresh]⟩
  linked := List.isChain_singleton _

/-- At every point of a run of a program that was read from a text, also of a run that stops, all
variables have plain values. -/
theorem variables_plain (source : String) (program : Program)
    (read : (Program.read source).outcome = .ok program) (settings : Settings)
    (text : Option String) :
    let start := Machine.fresh settings text
    let ended := (Run.execute program.node).outcome start
    let points := ((execute program.node).outcome ⟨start, []⟩).2.points start
    (execute program.node).endingFrom start = decoded .ok ended ∧
      points.head? = some ended.2 ∧ points.getLast? = some start ∧ points.IsChain Machine.Next ∧
        ∀ machine ∈ points, ∀ entry ∈ machine.variables, entry.2.Plain := by
  intro start ended points
  have tree : ProgramTree program.node :=
    .of_parseTokens (lex_named source) (Program.parsed_of_read read).1
  have agrees := (follows_execute program.node).endingFrom start
  have sound := (keeps_execute tree).sound (sound_fresh settings text)
  refine ⟨agrees, ?_, by simp [points, Recorded.points], sound.linked, fun machine member => ?_⟩
  · have same := congrArg Prod.snd agrees
    rw [decoded_snd] at same
    exact sound.current.trans (congrArg some same)
  · exact (sound.each machine member).plain

/-- A dictionary that is tagged like a quoted text, quoted texts in a list, the value of a subtask that
returns one, and a loop.  The run stops at an unknown variable, with four variables assigned. -/
theorem variables_plain_sample :
    let source := "objective \"o\" task \"t\": step \"s\": " ++
      "d = \x7b\"type\": \"string_literal\", \"value\": ['a', 'b']\x7d e = [d, \"c\", f()] " ++
      "for x in e: y = \x7b\"k\": x\x7d end z = missing subtask \"F\": return \"r\" run \"t\""
    let start := Machine.fresh ⟨true, .standard, 1⟩ none
    ∃ program, (Program.read source).outcome = .ok program ∧
      let ended := (Run.execute program.node).outcome start
      let points := ((execute program.node).outcome ⟨start, []⟩).2.points start
      (ended.1.isOk = false ∧ ended.2.variables.length = 4) ∧
        points.head? = some ended.2 ∧
          ∀ machine ∈ points, ∀ entry ∈ machine.variables, entry.2.Plain := by
  intro source start
  have ends : (Program.read source).outcome.toOption.map (fun program =>
      let ended := (Run.execute program.node).outcome start
      (ended.1.isOk, ended.2.variables.length)) = some (false, 4) := by decide +kernel
  cases read : (Program.read source).outcome with
  | error stop =>
      rw [read] at ends
      cases ends
  | ok program =>
      rw [read] at ends
      simp only [Except.toOption, Option.map_some, Option.some.injEq, Prod.mk.injEq] at ends
      have plain := variables_plain source program read ⟨true, .standard, 1⟩ none
      exact ⟨program, rfl, ends, plain.2.1, plain.2.2.2.2⟩

end Course

end Stepwise
