import Stepwise.Proofs.Definitions
import Stepwise.Proofs.Loops.Basic
import Stepwise.Proofs.Uniform
import Stepwise.Proofs.Values.Sameness

/-!
# What loops report about their iterations

A loop of a machine that explains itself notes its first iterations one by one, says when it stops to do
so, and at its end how many iterations there were.  Loops over ranges number their iterations by
themselves and always tell the truth.

All loops over items number theirs by one count of the machine, which each of them sets to zero when it
starts.  So a loop over items tells the truth if its body leaves the count as it found it, and the body
does if there is no loop over items in it or in a subtask.  A loop inside a loop makes the outer one go
on with the wrong numbers.
-/

namespace Stepwise

/-- The machine after it has noted something, each time with a category and a text. -/
def Machine.noted (machine : Machine) (notes : List (String × String)) : Machine :=
  { machine with
    log := (notes.map fun note => .note machine.indent note.1 note.2).reverse ++ machine.log }

theorem Machine.noted_nil (machine : Machine) : machine.noted [] = machine := rfl

theorem Machine.noted_append (machine : Machine) (notes more : List (String × String)) :
    machine.noted (notes ++ more) = (machine.noted notes).noted more := by
  simp only [noted, List.map_append, List.reverse_append, List.append_assoc]

/-- The body of a loop over items or over a range. -/
def Action.loopBody? : Action → Option (List Action)
  | .forEach _ _ body | .forRange _ _ body => some body
  | _ => none

/-! ## Manners of loops -/

/-- How a loop assigns its items and what it notes on them. -/
structure Manner where
  /-- Whether it numbers its iterations by the count of the machine. -/
  counts : Bool
  /-- The variables after the item with a number is assigned. -/
  binds : (number : Nat) → (item : Value) → Table Value → Table Value
  /-- The text on an iteration, where the number of items before it is taken to be `count`. -/
  line : (count number : Nat) → (item : Value) → String
  /-- The text that announces the iterations that are not noted. -/
  cut : (total : Nat) → (shown : Int) → String

namespace Manner

/-- A loop over items that assigns a variable. -/
def direct (item : Value) : Manner where
  counts := true
  binds _ value := Table.store item value
  line count _ value := Run.iterationHead count ++ (item.shown ++ " = " ++ value.shown)
  cut _ _ := "... more iterations will be processed ..."

/-- A loop over items that also assigns their numbers. -/
def enumerated (index element : Value) : Manner where
  counts := true
  binds number value table := Table.store element value (Table.store index (.int number) table)
  line count number value := Run.iterationHead count ++
    (index.shown ++ " = " ++ (Value.int number).shown) ++ ", " ++ (element.shown ++ " = " ++ value.shown)
  cut _ _ := "... more iterations will be processed ..."

/-- A loop over the integers of a range. -/
def below (item : Value) : Manner where
  counts := false
  binds _ value := Table.store item value
  line count _ value := Run.iterationHead count ++ (item.shown ++ " = " ++ value.shown)
  cut total shown :=
    "... " ++ toString ((total : Int) - shown) ++ " more iterations will be processed ..."

variable (manner : Manner)

/-- The number by which a loop calls the iteration that starts on a machine. -/
def count (number : Nat) (machine : Machine) : Nat :=
  if manner.counts then machine.iterations else number

/-- What a loop notes on an iteration that it calls by a number. -/
def notesOn (total : Nat) (shown : Int) (count number : Nat) (item : Value) : List (String × String) :=
  (if count < shown then [("ITERATION", manner.line count number item)] else []) ++
    if count = shown then [("INFO", manner.cut total shown)] else []

/-- What a loop over some items should note: the first items, as many as are shown, and once that there
are more, if not all of them are shown. -/
def reports (total : Nat) (shown : Int) (items : List Value) : List (String × String) :=
  ((items.take shown.toNat).mapIdx fun number item => ("ITERATION", manner.line number number item)) ++
    if 0 ≤ shown ∧ shown < items.length then [("INFO", manner.cut total shown)] else []

/-- The notes of a loop from the item with a number on, if it calls each iteration by its number. -/
def reportsFrom (total : Nat) (shown : Int) (number : Nat) (items : List Value) :
    List (String × String) :=
  ((items.take (shown - number).toNat).mapIdx fun position item =>
      ("ITERATION", manner.line (number + position) (number + position) item)) ++
    if number ≤ shown ∧ shown < number + items.length then [("INFO", manner.cut total shown)] else []

theorem reportsFrom_zero (total : Nat) (shown : Int) (items : List Value) :
    manner.reportsFrom total shown 0 items = manner.reports total shown items := by
  simp only [reportsFrom, reports, Int.natCast_zero, Int.sub_zero, Int.zero_add, Nat.zero_add]

theorem reportsFrom_nil (total : Nat) (shown : Int) (number : Nat) :
    manner.reportsFrom total shown number [] = [] := by
  have past : ¬ ((number : Int) ≤ shown ∧ shown < number + (0 : Nat)) := by omega
  simp only [reportsFrom, List.take_nil, List.mapIdx_nil, List.length_nil, if_neg past, List.append_nil]

/-- The notes on one iteration and on those after it. -/
theorem reportsFrom_cons (total : Nat) (shown : Int) (number : Nat) (item : Value) (items : List Value) :
    manner.reportsFrom total shown number (item :: items) =
      manner.notesOn total shown number number item ++
        manner.reportsFrom total shown (number + 1) items := by
  rcases Int.lt_trichotomy number shown with before | rfl | after
  · have left : (shown - number).toNat = (shown - (number + 1 : Nat)).toNat + 1 := by omega
    have ends : ((number : Int) ≤ shown ∧ shown < number + (items.length + 1 : Nat)) ↔
        ((number + 1 : Nat) : Int) ≤ shown ∧ shown < (number + 1 : Nat) + items.length := by omega
    simp only [reportsFrom, notesOn, left, List.take_succ_cons, List.mapIdx_cons, List.length_cons,
      if_pos before, if_neg (Int.ne_of_lt before), ends, Nat.add_zero, List.append_nil,
      List.cons_append, List.nil_append]
    simp only [Nat.add_assoc, Nat.add_comm 1]
  · have here : (number : Int) ≤ number ∧ (number : Int) < number + (items.length + 1 : Nat) := by omega
    have beyond : ¬ (((number + 1 : Nat) : Int) ≤ number ∧
        (number : Int) < (number + 1 : Nat) + items.length) := by omega
    have none : ((number : Int) - (number + 1 : Nat)).toNat = 0 := by omega
    simp only [reportsFrom, notesOn, Int.sub_self, Int.toNat_zero, none, List.take_zero, List.mapIdx_nil,
      List.length_cons, if_pos here, if_neg beyond, if_neg (Int.lt_irrefl _), if_true, List.append_nil,
      List.nil_append]
  · have none (more : Nat) : (shown - (number + more : Nat)).toNat = 0 := by omega
    have past (more length : Nat) : ¬ (((number + more : Nat) : Int) ≤ shown ∧
        shown < (number + more : Nat) + length) := by omega
    have noneHere := none 0
    have pastHere := past 0 (items.length + 1)
    simp only [Nat.add_zero] at noneHere pastHere
    simp only [reportsFrom, notesOn, noneHere, none 1, List.take_zero, List.mapIdx_nil, List.length_cons,
      if_neg pastHere, if_neg (past 1 _), if_neg (Int.not_lt.mpr (Int.le_of_lt after)),
      if_neg (Int.ne_of_gt after), List.append_nil]

end Manner

/-! ## Rounds -/

/-- One round of a loop: its item, what the loop notes on it, and the machine before and after the
body. -/
structure Round where
  item : Value
  notes : List (String × String)
  start : Machine
  finish : Machine

/-- How a round begins: the loop notes the item with a number and assigns it, and counts the round if it
counts.  The item may come from a running enumeration. -/
structure Manner.Begins (manner : Manner) (total number : Nat) (first : Machine) (round : Round) :
    Prop where
  notes : round.notes = manner.notesOn total first.settings.shownIterations
    (manner.count number first) number round.item
  log : round.start.log = (first.noted round.notes).log
  iterations : round.start.iterations =
    if manner.counts then first.iterations + 1 else first.iterations
  core : round.start.core = Machine.core { first with
    «variables» := manner.binds number round.item first.variables
    cursors := round.start.cursors }

theorem Manner.Begins.of_drawn {manner : Manner} {total number : Nat} {first : Machine} {round : Round}
    {cursors : List Cursor} (begins : manner.Begins total number { first with cursors } round) :
    manner.Begins total number first round where
  notes := begins.notes
  log := begins.log
  iterations := begins.iterations
  core := begins.core

/-- The rounds of a loop that runs to its end, from the one for the item with a number on. -/
inductive Rounds (manner : Manner) (total : Nat) (body : Run Value) :
    (number : Nat) → List Round → Machine → Machine → Prop where
  | done (number : Nat) (machine : Machine) : Rounds manner total body number [] machine machine
  | round {number : Nat} {result : Value} {round : Round} {rounds : List Round} {first last : Machine}
      (begins : manner.Begins total number first round)
      (ran : body.outcome round.start = (.ok result, round.finish))
      (goesOn : Run.endsBody result = false)
      (rest : Rounds manner total body (number + 1) rounds round.finish last) :
      Rounds manner total body number (round :: rounds) first last

namespace Rounds

variable {manner : Manner} {total number : Nat} {body : Run Value} {rounds : List Round}
  {first last : Machine}

theorem settings_of_round (moves : body.Moves) {round : Round} {result : Value}
    (begins : manner.Begins total number first round)
    (ran : body.outcome round.start = (.ok result, round.finish)) :
    round.finish.settings = first.settings := by
  have kept := (moves round.start).fixed.1
  rw [ran] at kept
  have same : round.start.core.settings = first.settings := by rw [begins.core]; rfl
  exact kept.trans same

theorem settings_eq (moves : body.Moves) (ran : Rounds manner total body number rounds first last) :
    last.settings = first.settings := by
  induction ran with
  | done => rfl
  | round begins ran _ _ ih => exact ih.trans (settings_of_round moves begins ran)

/-- Loops whose bodies leave the count as it is count their rounds. -/
theorem iterations_eq (counts : manner.counts = true)
    (ran : Rounds manner total body number rounds first last)
    (steady : ∀ round ∈ rounds, round.finish.iterations = round.start.iterations) :
    last.iterations = first.iterations + rounds.length := by
  induction ran with
  | done => rfl
  | round begins _ _ _ ih =>
      rw [List.forall_mem_cons] at steady
      rw [ih steady.2, steady.1, begins.iterations, counts, if_pos rfl, List.length_cons]
      omega

/-- If a loop calls its rounds by their positions, its notes from one round on are those that it should
make.  The induction is on the rounds that are left. -/
theorem notes_eq (moves : body.Moves) (ran : Rounds manner total body number rounds first last)
    (steady : manner.counts = true → first.iterations = number ∧
      ∀ round ∈ rounds, round.finish.iterations = round.start.iterations) :
    rounds.flatMap Round.notes =
      manner.reportsFrom total first.settings.shownIterations number (rounds.map Round.item) := by
  induction ran with
  | done => rw [List.map_nil, Manner.reportsFrom_nil, List.flatMap_nil]
  | @round number _ round rounds first _ begins ran _ _ ih =>
      have called : manner.count number first = number := by
        rw [Manner.count]
        split
        · next counts => exact (steady counts).1
        · rfl
      have rest := ih fun counts => by
        obtain ⟨position, same⟩ := steady counts
        rw [List.forall_mem_cons] at same
        refine ⟨?_, same.2⟩
        rw [same.1, begins.iterations, counts, if_pos rfl, position]
      rw [List.flatMap_cons, List.map_cons, Manner.reportsFrom_cons, rest, begins.notes, called,
        settings_of_round moves begins ran]

/-- Which total is announced does not matter to loops that announce none. -/
theorem of_total {other : Nat} (same : ∀ shown, manner.cut total shown = manner.cut other shown)
    (ran : Rounds manner total body number rounds first last) :
    Rounds manner other body number rounds first last := by
  induction ran with
  | done number machine => exact .done number machine
  | round begins ran goesOn _ ih =>
      refine .round { begins with notes := ?_ } ran goesOn ih
      rw [begins.notes, Manner.notesOn, Manner.notesOn, same]

end Rounds

namespace Run

/-! ## Notes that are made -/

section Notes

variable {machine after : Machine}

theorem assign_ok {name value : Value}
    (ran : (assign name value).outcome machine = (.ok (), after)) :
    after = { machine with «variables» := Table.store name value machine.variables } := by
  obtain ⟨key, middle, keyed, stored⟩ := bind_ok ran
  obtain ⟨isKey, rfl⟩ := lift_ok keyed
  obtain ⟨rfl, _⟩ := Value.asKey_eq_ok_iff.mp isKey
  cases stored
  rfl

theorem valueNamed?_ok {name : Value} {found : Option Value}
    (ran : (valueNamed? name).outcome machine = (.ok found, after)) :
    found = Table.fetch? name machine.variables ∧ after = machine := by
  obtain ⟨key, middle, keyed, fetched⟩ := bind_ok ran
  obtain ⟨isKey, rfl⟩ := lift_ok keyed
  obtain ⟨rfl, _⟩ := Value.asKey_eq_ok_iff.mp isKey
  cases fetched
  exact ⟨rfl, rfl⟩

theorem supplyOf_ok {value : Value} {supply : Supply}
    (ran : (supplyOf value).outcome machine = (.ok supply, after)) :
    value.supply? = some supply ∧ after = machine := by
  rw [supplyOf] at ran
  split at ran
  · next supplied => cases ran; exact ⟨supplied, rfl⟩
  · cases ran

theorem takeCursor?_ok {number : Nat} {taken : Option Value}
    (ran : (takeCursor? number).outcome machine = (.ok taken, after)) :
    ∃ cursors, after = { machine with cursors } ∧ (taken = none → cursors = machine.cursors) := by
  obtain ⟨read, middle, reads, took⟩ := bind_ok ran
  cases reads
  split at took
  · cases took
    exact ⟨machine.cursors, rfl, fun _ => rfl⟩
  · next cursors _ =>
      cases took
      exact ⟨cursors, rfl, fun none => by cases none⟩

theorem say_ok {value : Value} {text : String} (said : value.say = .ok text) : text = value.shown := by
  rw [Value.say] at said
  split at said
  · cases said
    rfl
  · cases said

theorem binding_ok {name value : Value} {text : String} (said : binding name value = .ok text) :
    text = name.shown ++ " = " ++ value.shown := by
  rw [binding] at said
  cases named : name.say with
  | error cause => rw [named] at said; cases said
  | ok nameText =>
      cases told : value.say with
      | error cause => rw [named, told] at said; cases said
      | ok valueText =>
          rw [named, told] at said
          cases said
          rw [say_ok named, say_ok told]

theorem iterationNote_ok {number : Int} {name value : Value} {text : String}
    (said : iterationNote number name value = .ok text) :
    text = iterationHead number ++ (name.shown ++ " = " ++ value.shown) := by
  rw [iterationNote] at said
  cases bound : binding name value with
  | error cause => rw [bound] at said; cases said
  | ok shown =>
      rw [bound] at said
      cases said
      rw [binding_ok bound]

theorem numberedNote_ok {number : Int} {index position element value : Value} {text : String}
    (said : numberedNote number index position element value = .ok text) :
    text = iterationHead number ++ (index.shown ++ " = " ++ position.shown) ++ ", " ++
      (element.shown ++ " = " ++ value.shown) := by
  rw [numberedNote] at said
  cases indexed : binding index position with
  | error cause => rw [indexed] at said; cases said
  | ok shown =>
      cases bound : binding element value with
      | error cause => rw [indexed, bound] at said; cases said
      | ok otherShown =>
          rw [indexed, bound] at said
          cases said
          rw [binding_ok indexed, binding_ok bound]

variable (explains : machine.settings.explain = true)
include explains

theorem note_ok (category text : String) :
    (note category text).outcome machine = (.ok (), machine.noted [(category, text)]) := by
  rw [outcome_note, explains, if_pos rfl]
  rfl

theorem noteSaying_ok {category : String} {message : Except Fault String}
    (ran : (noteSaying category message).outcome machine = (.ok (), after)) :
    ∃ text, message = .ok text ∧ after = machine.noted [(category, text)] := by
  rw [outcome_noteSaying, explains, if_pos rfl] at ran
  cases message with
  | error cause => cases ran
  | ok text =>
      dsimp only at ran
      rw [note_ok explains] at ran
      cases ran
      exact ⟨text, rfl, rfl⟩

theorem whenShown_ok {number : Int} {category line : String} {message : Except Fault String}
    (told : ∀ text, message = .ok text → text = line)
    (ran : (whenShown number (noteSaying category message)).outcome machine = (.ok (), after)) :
    after = machine.noted (if number < machine.settings.shownIterations then [(category, line)] else []) := by
  rw [outcome_whenShown, explains, Bool.true_and] at ran
  simp only [decide_eq_true_eq] at ran
  split at ran
  · next shown =>
      obtain ⟨text, said, rfl⟩ := noteSaying_ok explains ran
      rw [told text said, if_pos shown]
  · next hidden =>
      cases ran
      rw [if_neg hidden, Machine.noted_nil]

theorem whenCut_ok {number : Int} {category : String} {cut : Int → String}
    (ran : (whenCut number fun shown => note category (cut shown)).outcome machine = (.ok (), after)) :
    after = machine.noted (if number = machine.settings.shownIterations then
      [(category, cut machine.settings.shownIterations)] else []) := by
  rw [outcome_whenCut, explains, Bool.true_and] at ran
  simp only [beq_iff_eq] at ran
  split at ran
  · next first =>
      rw [note_ok explains] at ran
      cases ran
      rw [if_pos first]
  · next other =>
      cases ran
      rw [if_neg other, Machine.noted_nil]

theorem noteIteration_ok {message : Int → Except Fault String} {line : String}
    (told : ∀ text, message machine.iterations = .ok text → text = line)
    (ran : (noteIteration message).outcome machine = (.ok (), after)) :
    after = { machine.noted ((if machine.iterations < machine.settings.shownIterations then
        [("ITERATION", line)] else []) ++
        if machine.iterations = machine.settings.shownIterations then
          [("INFO", "... more iterations will be processed ...")] else []) with
      iterations := machine.iterations + 1 } := by
  obtain ⟨count, middle, counted, noting⟩ := bind_ok ran
  cases counted
  obtain ⟨_, shown, showing, cutting⟩ := bind_ok noting
  have first := whenShown_ok explains told showing
  obtain ⟨_, cut, cuttingOff, counting⟩ := bind_ok cutting
  have explainsStill : shown.settings.explain = true := by rw [first]; exact explains
  have second := whenCut_ok explainsStill cuttingOff
  cases counting
  rw [second, first, Machine.noted_append]
  rfl

theorem noteRangeIteration_ok {total number : Nat} {item value : Value}
    (ran : (noteRangeIteration total number item value).outcome machine = (.ok (), after)) :
    after = machine.noted ((Manner.below item).notesOn total machine.settings.shownIterations number number
      value) := by
  obtain ⟨_, shown, showing, cutting⟩ := bind_ok ran
  have isShown := whenShown_ok explains (fun _ => iterationNote_ok) showing
  have same : shown.settings = machine.settings := by rw [isShown]; rfl
  have isCut := whenCut_ok (same ▸ explains) cutting
  rw [same, isShown, ← Machine.noted_append] at isCut
  exact isCut

end Notes

/-! ## Loops that run to their ends -/

/-- What is done for each item begins as the manner says and goes on with the body. -/
def Iterates (manner : Manner) (total : Nat) (body : Run Value) (iteration : Nat → Value → Run Value) :
    Prop :=
  ∀ {number : Nat} {item result : Value} {first finish : Machine}, first.settings.explain = true →
    (iteration number item).outcome first = (.ok result, finish) →
    ∃ round : Round, round.item = item ∧ round.finish = finish ∧ manner.Begins total number first round ∧
      body.outcome round.start = (.ok result, finish)

section Rounds

variable {manner : Manner} {total : Nat} {body : Run Value} {iteration : Nat → Value → Run Value}
  (iterates : Iterates manner total body iteration) (moves : body.Moves)
  {result : Value} {first last : Machine}
include iterates moves

theorem rounds_of_forItems {items : List Value} {number : Nat} (explains : first.settings.explain = true)
    (ran : (forItems iteration items number).outcome first = (.ok result, last))
    (completed : endsBody result = false) :
    ∃ rounds, Rounds manner total body number rounds first last ∧ rounds.map Round.item = items := by
  induction items generalizing number first with
  | nil =>
      cases ran
      exact ⟨[], .done number _, rfl⟩
  | cons item items ih =>
      obtain ⟨value, finish, iterated, rest⟩ := bind_ok ran
      obtain ⟨round, rfl, rfl, begins, bodyRan⟩ := iterates explains iterated
      split at rest
      · next ends =>
          cases rest
          rw [endsBody, ends] at completed
          cases completed
      · next goesOn =>
          have settings := Rounds.settings_of_round moves begins bodyRan
          obtain ⟨rounds, others, same⟩ := ih (settings ▸ explains) rest
          exact ⟨round :: rounds, .round begins bodyRan (Bool.not_eq_true _ ▸ goesOn) others,
            congrArg (round.item :: ·) same⟩

theorem rounds_of_forCursor {cursor count number : Nat} (explains : first.settings.explain = true)
    (ran : (forCursor iteration cursor count number).outcome first = (.ok result, last))
    (completed : endsBody result = false) :
    ∃ rounds, Rounds manner total body number rounds first last := by
  induction count generalizing number first with
  | zero =>
      cases ran
      exact ⟨[], .done number _⟩
  | succ count ih =>
      obtain ⟨taken, drawn, took, rest⟩ := bind_ok ran
      obtain ⟨cursors, rfl, untouched⟩ := takeCursor?_ok took
      have explainsDrawn : ({ first with cursors } : Machine).settings.explain = true := explains
      cases taken with
      | none =>
          cases rest
          rw [untouched rfl]
          exact ⟨[], .done number _⟩
      | some item =>
          obtain ⟨value, finish, iterated, rest⟩ := bind_ok rest
          obtain ⟨round, rfl, rfl, begins, bodyRan⟩ := iterates explainsDrawn iterated
          split at rest
          · next ends =>
              cases rest
              rw [endsBody, ends] at completed
              cases completed
          · next goesOn =>
              have settings := Rounds.settings_of_round moves begins bodyRan
              obtain ⟨rounds, others⟩ := ih (settings ▸ explains) rest
              exact ⟨round :: rounds,
                .round begins.of_drawn bodyRan (Bool.not_eq_true _ ▸ goesOn) others⟩

theorem rounds_of_forSupply {supply : Supply} (explains : first.settings.explain = true)
    (ran : (forSupply supply iteration).outcome first = (.ok result, last))
    (completed : endsBody result = false) :
    ∃ rounds, Rounds manner total body 0 rounds first last ∧
      ∀ feed, supply = .feed feed → rounds.map Round.item = feed.toList := by
  cases supply with
  | feed feed =>
      rw [forSupply_feed] at ran
      obtain ⟨rounds, ran, items⟩ := rounds_of_forItems iterates moves explains ran completed
      refine ⟨rounds, ran, fun other same => ?_⟩
      cases same
      exact items
  | cursor number =>
      obtain ⟨rounds, ran⟩ := rounds_of_forCursor iterates moves explains ran completed
      exact ⟨rounds, ran, fun feed same => by cases same⟩

end Rounds

/-! ### The three manners -/

section Iterates

variable {body : Run Value}

theorem iterates_direct (item : Value) (total : Nat) :
    Iterates (.direct item) total body (fun _ value => do
      assign item value
      noteIteration fun count => iterationNote count item value
      body) := by
  intro number value result first finish explains ran
  obtain ⟨_, assigned, assigning, noting⟩ := bind_ok ran
  obtain ⟨_, start, noted, bodyRan⟩ := bind_ok noting
  have isAssigned := assign_ok assigning
  have explainsStill : assigned.settings.explain = true := by rw [isAssigned]; exact explains
  have isNoted := noteIteration_ok explainsStill (fun _ => iterationNote_ok) noted
  subst isAssigned isNoted
  exact ⟨⟨value, _, _, finish⟩, rfl, rfl, ⟨rfl, rfl, rfl, rfl⟩, bodyRan⟩

theorem iterates_enumerated (index element : Value) (total : Nat) :
    Iterates (.enumerated index element) total body (fun number value => do
      assign index (.int number)
      assign element value
      noteIteration fun count => numberedNote count index (.int number) element value
      body) := by
  intro number value result first finish explains ran
  obtain ⟨_, indexed, indexing, assigning⟩ := bind_ok ran
  obtain ⟨_, assigned, assigning, noting⟩ := bind_ok assigning
  obtain ⟨_, start, noted, bodyRan⟩ := bind_ok noting
  have isIndexed := assign_ok indexing
  have isAssigned := assign_ok assigning
  have explainsStill : assigned.settings.explain = true := by
    rw [isAssigned, isIndexed]; exact explains
  have isNoted := noteIteration_ok explainsStill (fun _ => numberedNote_ok) noted
  subst isIndexed isAssigned isNoted
  exact ⟨⟨value, _, _, finish⟩, rfl, rfl, ⟨rfl, rfl, rfl, rfl⟩, bodyRan⟩

theorem iterates_below (item : Value) (total : Nat) :
    Iterates (.below item) total body (fun number value => do
      assign item value
      noteRangeIteration total number item value
      body) := by
  intro number value result first finish explains ran
  obtain ⟨_, assigned, assigning, noting⟩ := bind_ok ran
  obtain ⟨_, start, noted, bodyRan⟩ := bind_ok noting
  have isAssigned := assign_ok assigning
  have explainsStill : assigned.settings.explain = true := by rw [isAssigned]; exact explains
  have isNoted := noteRangeIteration_ok explainsStill noted
  rw [isAssigned] at isNoted
  refine ⟨⟨value, (Manner.below item).notesOn total first.settings.shownIterations number number value,
    start, finish⟩, rfl, rfl, ⟨rfl, ?_, ?_, ?_⟩, bodyRan⟩
  all_goals
    rw [isNoted]
    rfl

end Iterates

/-! ### Openings and closings -/

section Ends

variable {machine first last after : Machine} {result : Value}

theorem openLoop_ok {node : Value} (explains : machine.settings.explain = true)
    (ran : (openLoop node).outcome machine = (.ok (), first)) :
    first.iterations = 0 ∧ first.core = machine.core.indented 1 := by
  rw [openLoop, outcome_whenExplaining, explains, if_pos rfl] at ran
  obtain ⟨_, noted, noting, rest⟩ := bind_ok ran
  obtain ⟨text, _, rfl⟩ := noteSaying_ok explains noting
  cases rest
  exact ⟨rfl, rfl⟩

theorem openRange_ok {range : Value} (explains : machine.settings.explain = true)
    (ran : (openRange range).outcome machine = (.ok (), first)) :
    first.core = machine.core.indented 1 := by
  rw [openRange, outcome_whenExplaining, explains, if_pos rfl] at ran
  obtain ⟨length, measured, measuring, rest⟩ := bind_ok ran
  obtain ⟨_, rfl⟩ := lift_ok measuring
  obtain ⟨_, noted, noting, rest⟩ := bind_ok rest
  rw [note_ok explains] at noting
  cases noting
  obtain ⟨_, told, telling, rest⟩ := bind_ok rest
  have explainsStill : (measured.noted [("LOOP", "Starting range loop from 0 to " ++
    toString length)]).settings.explain = true := explains
  rw [note_ok explainsStill] at telling
  cases telling
  cases rest
  rfl

/-- A loop that was not left by a return notes its end. -/
theorem closeLoop_ok {closing : Run Unit} {final : Value} (completed : endsBody result = false)
    (ran : (closeLoop result closing).outcome last = (.ok final, after)) :
    ∃ closed, closing.outcome last = (.ok (), closed) ∧ after.log = closed.log := by
  rw [closeLoop, completed, if_neg Bool.false_ne_true] at ran
  obtain ⟨_, closed, ended, rest⟩ := bind_ok ran
  refine ⟨closed, ended, ?_⟩
  obtain ⟨_, dedented, dedenting, rest⟩ := bind_ok rest
  cases rest
  rw [explainedIndentBy, outcome_whenExplaining] at dedenting
  split at dedenting
  · cases dedenting
    rfl
  · cases dedenting
    rfl

/-- A loop whose rounds ended with a return ends with it. -/
theorem completed_of_closeLoop {closing : Run Unit} {final : Value}
    (ran : (closeLoop result closing).outcome last = (.ok final, after))
    (completed : endsBody final = false) : endsBody result = false := by
  by_contra ends
  rw [Bool.not_eq_false] at ends
  rw [closeLoop, ends, if_pos rfl] at ran
  obtain ⟨_, dedented, _, rest⟩ := bind_ok ran
  cases rest
  rw [ends] at completed
  cases completed

end Ends

/-! ## Code that leaves the count as it is -/

/-- A computation on a machine with the given subtasks that leaves the count of iterations as it is. -/
def KeepsCount {α : Type} (subtasks : Table (List Action)) (run : Run α) : Prop :=
  ∀ machine : Machine, machine.subtasks = subtasks →
    (run.outcome machine).2.iterations = machine.iterations ∧
      (run.outcome machine).2.subtasks = subtasks

section KeepsCount

variable {subtasks : Table (List Action)}

theorem uniform_keepsCount : Uniform subtasks (KeepsCount subtasks) where
  pure _ _ registered := ⟨rfl, registered⟩
  throw _ _ registered := ⟨rfl, registered⟩
  bind := by
    intro α β run next keeps keepsNext machine registered
    have kept := keeps machine registered
    rw [outcome_bind]
    generalize run.outcome machine = course at kept ⊢
    rcases course with ⟨stop | value, after⟩
    · exact kept
    · obtain ⟨same, registeredLast⟩ := keepsNext value after kept.2
      exact ⟨same.trans kept.1, registeredLast⟩
  read _ each machine registered := each machine registered machine registered
  change fixed machine registered :=
    ⟨(fixed machine).2.1, (fixed machine).2.2.2.trans registered⟩

theorem keepsCount_execBody {body : List Action} (without : Action.someOverItems body = false)
    (subtasksWithout : ∀ entry ∈ subtasks, Action.someOverItems entry.2 = false) (depth : Nat) :
    KeepsCount subtasks (execBody (runSubtask depth) body) := by
  refine uniform_keepsCount.execBody (uniform_keepsCount.runSubtask ?_ depth) body ?_
  · intro entry member looping
    rw [subtasksWithout entry member] at looping
    cases looping
  · intro looping
    rw [without] at looping
    cases looping

theorem steady_of_keepsCount {manner : Manner} {total number : Nat} {body : Run Value}
    {rounds : List Round} {first last : Machine} (keeps : KeepsCount subtasks body)
    (registered : first.subtasks = subtasks) (ran : Rounds manner total body number rounds first last) :
    ∀ round ∈ rounds, round.finish.iterations = round.start.iterations := by
  induction ran with
  | done => exact fun _ member => by cases member
  | @round _ _ round _ first _ begins ran _ _ ih =>
      have same : round.start.core.subtasks = first.subtasks := by rw [begins.core]; rfl
      have kept := keeps round.start (same.trans registered)
      rw [ran] at kept
      exact List.forall_mem_cons.mpr ⟨kept.1, ih kept.2⟩

end KeepsCount

/-! ## Loops tell the truth -/

/-- How a loop begins on a machine: its manner, the items that it runs through, and the machine on which
its first round starts.  The items of a running enumeration are drawn while the loop runs. -/
inductive Begun (call : Value → Run Value) (machine : Machine) :
    Action → Manner → List Value → Machine → Prop where
  | below {item : Value} {bound : Term} {body : List Action} {value : Value} {stop : Int}
      {evaluated first : Machine}
      (evaluates : (eval call bound).outcome machine = (.ok value, evaluated))
      (isStop : value.asInt? = some stop) (opened : first.core = evaluated.core.indented 1) :
      Begun call machine (.forRange item bound body) (.below item)
        (Value.rangeItems 1 stop.toNat 0) first
  | direct {item name : Value} {body : List Action} {value : Value} {items : List Value}
      {first : Machine} (bound : Table.fetch? name machine.variables = some value)
      (runs : ∀ feed, value.feed? = some feed → items = feed.toList)
      (opened : first.iterations = 0 ∧ first.core = machine.core.indented 1) :
      Begun call machine (.forEach item (.direct name) body) (.direct item) items first
  | enumerated {index name element node : Value} {body : List Action} {value : Value}
      {items : List Value} {first : Machine} (bound : Table.fetch? name machine.variables = some value)
      (runs : ∀ feed, value.feed? = some feed → items = feed.toList)
      (opened : first.iterations = 0 ∧ first.core = machine.core.indented 1) :
      Begun call machine (.forEach index (.enumerated name (.ok element) node) body)
        (.enumerated index element) items first

section Truth

variable {body : Run Value} (moves : body.Moves) {machine after : Machine} {result : Value}
  (explains : machine.settings.explain = true) (completed : endsBody result = false)

/-- The notes of a loop whose rounds start on a machine, and that it closes with a number, are the ones
that it should make. -/
def Truthful (manner : Manner) (rounds : List Round) (shown : Int) (last after : Machine) : Prop :=
  rounds.flatMap Round.notes = manner.reports rounds.length shown (rounds.map Round.item) ∧
    after.log = .note last.indent "COMPLETE"
      ("Loop finished after " ++ toString rounds.length ++ " iterations") :: last.log

theorem settings_of_opened {first : Machine} (opened : first.core = machine.core.indented 1) :
    first.settings = machine.settings := by
  have same : first.core.settings = (machine.core.indented 1).settings := by rw [opened]
  exact same

theorem subtasks_of_opened {first : Machine} (opened : first.core = machine.core.indented 1) :
    first.subtasks = machine.subtasks := by
  have same : first.core.subtasks = (machine.core.indented 1).subtasks := by rw [opened]
  exact same

include moves explains completed

/-- Loops that count their rounds by the count of the machine. -/
theorem truthful_of_counts {manner : Manner} (counts : manner.counts = true)
    (constant : ∀ total other shown, manner.cut total shown = manner.cut other shown)
    {iteration : Nat → Value → Run Value} (iterates : ∀ total, Iterates manner total body iteration)
    {node value : Value} {supply : Supply} (supplied : value.supply? = some supply)
    (ran : (do
      openLoop node
      let result ← forSupply supply iteration
      closeLoop result completeLoop : Run Value).outcome machine = (.ok result, after)) :
    ∃ rounds first last, (first.iterations = 0 ∧ first.core = machine.core.indented 1) ∧
      (∀ feed, value.feed? = some feed → rounds.map Round.item = feed.toList) ∧
      Rounds manner rounds.length body 0 rounds first last ∧
      ((∀ round ∈ rounds, round.finish.iterations = round.start.iterations) →
        Truthful manner rounds machine.settings.shownIterations last after) := by
  obtain ⟨_, first, opening, rest⟩ := bind_ok ran
  obtain ⟨looped, last, looping, closing⟩ := bind_ok rest
  have opened := openLoop_ok explains opening
  have settings := settings_of_opened opened.2
  have goneOn := completed_of_closeLoop closing completed
  obtain ⟨rounds, ran, items⟩ :=
    rounds_of_forSupply (iterates 0) moves (settings ▸ explains) looping goneOn
  refine ⟨rounds, first, last, opened, fun feed feeds => ?_, ran.of_total (constant _ _),
    fun steady => ⟨?_, ?_⟩⟩
  · rw [Value.supply?_of_feed? feeds, Option.some.injEq] at supplied
    exact items feed supplied.symm
  · have noted := (ran.of_total (constant 0 rounds.length)).notes_eq moves fun _ => ⟨opened.1, steady⟩
    rw [noted, Manner.reportsFrom_zero, settings]
  · obtain ⟨closed, completing, same⟩ := closeLoop_ok goneOn closing
    have explainsLast : last.settings.explain = true := by
      rw [ran.settings_eq moves, settings, explains]
    rw [completeLoop, outcome_get_bind, note_ok explainsLast] at completing
    cases completing
    rw [same, ran.iterations_eq counts steady, opened.1, Nat.zero_add]
    rfl

theorem truthful_of_below {item value : Value} (evaluated : (loopBelow item value body).outcome machine =
      (.ok result, after)) :
    ∃ rounds first last stop, value.asInt? = some stop ∧ first.core = machine.core.indented 1 ∧
      rounds.map Round.item = Value.rangeItems 1 stop.toNat 0 ∧
      Rounds (.below item) rounds.length body 0 rounds first last ∧
      Truthful (.below item) rounds machine.settings.shownIterations last after := by
  obtain ⟨stop, _, bounded, rest⟩ := bind_ok evaluated
  obtain ⟨isStop, rfl⟩ := lift_ok bounded
  obtain ⟨_, first, opening, rest⟩ := bind_ok rest
  obtain ⟨looped, last, looping, closing⟩ := bind_ok rest
  have opened := openRange_ok explains opening
  have settings := settings_of_opened opened
  have goneOn := completed_of_closeLoop closing completed
  obtain ⟨rounds, ran, items⟩ :=
    rounds_of_forSupply (iterates_below item _) moves (settings ▸ explains) looping goneOn
  have items := items _ rfl
  have total : rounds.length = stop.toNat := by
    rw [← List.length_map (f := Round.item), items]
    exact Value.length_rangeItems _ _ _
  have isInteger : value.asInt? = some stop := by
    rw [Value.bound] at isStop
    split at isStop
    · next found => cases isStop; exact found
    · cases isStop
  refine ⟨rounds, first, last, stop, isInteger, opened, items, total ▸ ran, ?_, ?_⟩
  · have noted := ran.notes_eq moves fun counts => by cases counts
    rw [noted, Manner.reportsFrom_zero, total, settings]
  · obtain ⟨closed, completing, same⟩ := closeLoop_ok goneOn closing
    have explainsLast : last.settings.explain = true := by
      rw [ran.settings_eq moves, settings, explains]
    rw [note_ok explainsLast] at completing
    cases completing
    rw [same, total]
    rfl

end Truth

section Actions

variable {depth : Nat} {body : List Action} {machine after : Machine} {result : Value}
  (explains : machine.settings.explain = true) (completed : endsBody result = false)
include explains completed

theorem rounds_of_forRange {item : Value} {bound : Term}
    (ran : (exec (runSubtask depth) (.forRange item bound body)).outcome machine = (.ok result, after)) :
    ∃ rounds first last,
      Begun (runSubtask depth) machine (.forRange item bound body) (.below item)
        (rounds.map Round.item) first ∧
      first.subtasks = machine.subtasks ∧
      Rounds (.below item) rounds.length (execBody (runSubtask depth) body) 0 rounds first last ∧
      Truthful (.below item) rounds machine.settings.shownIterations last after := by
  have moves := moves_execBody (moves_runSubtask depth) body
  obtain ⟨value, evaluated, evaluates, looping⟩ := bind_ok ran
  have fixed := (moves_eval (moves_runSubtask depth) bound machine).fixed
  rw [evaluates] at fixed
  obtain ⟨rounds, first, last, stop, isStop, opened, items, ran, truthful⟩ :=
    truthful_of_below moves (fixed.1 ▸ explains) completed looping
  refine ⟨rounds, first, last, ?_, (subtasks_of_opened opened).trans fixed.2.2.2, ran,
    fixed.1 ▸ truthful⟩
  rw [items]
  exact .below evaluates isStop opened

theorem rounds_of_forEach {item : Value} {source : LoopFeed}
    (ran : (exec (runSubtask depth) (.forEach item source body)).outcome machine = (.ok result, after)) :
    ∃ manner rounds first last,
      Begun (runSubtask depth) machine (.forEach item source body) manner (rounds.map Round.item) first ∧
      first.subtasks = machine.subtasks ∧
      Rounds manner rounds.length (execBody (runSubtask depth) body) 0 rounds first last ∧
      manner.counts = true ∧
      ((∀ round ∈ rounds, round.finish.iterations = round.start.iterations) →
        Truthful manner rounds machine.settings.shownIterations last after) := by
  have moves := moves_execBody (moves_runSubtask depth) body
  cases source with
  | direct name =>
      obtain ⟨found, _, naming, looping⟩ := bind_ok ran
      obtain ⟨bound, rfl⟩ := valueNamed?_ok naming
      cases found with
      | none => cases looping
      | some value =>
          dsimp only at looping
          split at looping
          · cases looping
          · next supply supplied =>
              obtain ⟨rounds, first, last, opened, items, ran, truthful⟩ :=
                truthful_of_counts moves explains completed rfl (fun _ _ _ => rfl)
                  (iterates_direct item) supplied looping
              exact ⟨.direct item, rounds, first, last, .direct bound.symm items opened,
                subtasks_of_opened opened.2, ran, rfl, truthful⟩
  | enumerated name element node =>
      obtain ⟨found, _, naming, supplyingLoop⟩ := bind_ok ran
      obtain ⟨bound, rfl⟩ := valueNamed?_ok naming
      cases found with
      | none => cases supplyingLoop
      | some value =>
          obtain ⟨supply, _, supplying, namedLoop⟩ := bind_ok supplyingLoop
          obtain ⟨supplied, rfl⟩ := supplyOf_ok supplying
          obtain ⟨named, _, naming, looping⟩ := bind_ok namedLoop
          obtain ⟨rfl, rfl⟩ := lift_ok naming
          obtain ⟨rounds, first, last, opened, items, ran, truthful⟩ :=
            truthful_of_counts moves explains completed rfl (fun _ _ _ => rfl)
              (iterates_enumerated item named) supplied looping
          exact ⟨.enumerated item named, rounds, first, last, .enumerated bound.symm items opened,
            subtasks_of_opened opened.2, ran, rfl, truthful⟩

end Actions

/-- A loop over items or over a range that runs to its end on a machine that explains itself goes in
rounds, one for each item.  The notes of a loop over a range tell the truth about them: they number the
first items, as many as are shown, announce once that there are more, and give their number at the end.
The notes of a loop over items do so too if the body leaves the count of iterations as it found it in
every round, and it does if no loop over items is in it and in the subtasks. -/
theorem completed_loop_reports {depth : Nat} {action : Action} {body : List Action}
    (isLoop : action.loopBody? = some body) {machine after : Machine} {result : Value}
    (explains : machine.settings.explain = true)
    (ran : (exec (runSubtask depth) action).outcome machine = (.ok result, after))
    (completed : endsBody result = false) :
    ∃ manner rounds first last,
      Begun (runSubtask depth) machine action manner (rounds.map Round.item) first ∧
      Rounds manner rounds.length (execBody (runSubtask depth) body) 0 rounds first last ∧
      ((manner.counts = true → ∀ round ∈ rounds, round.finish.iterations = round.start.iterations) →
        Truthful manner rounds machine.settings.shownIterations last after) ∧
      (Action.someOverItems body = false →
        (∀ entry ∈ machine.subtasks, Action.someOverItems entry.2 = false) →
        ∀ round ∈ rounds, round.finish.iterations = round.start.iterations) := by
  cases action with
  | forRange item bound loopBody =>
      cases isLoop
      obtain ⟨rounds, first, last, begun, registered, went, truthful⟩ :=
        rounds_of_forRange explains completed ran
      exact ⟨_, rounds, first, last, begun, went, fun _ => truthful, fun without subtasksWithout =>
        steady_of_keepsCount (keepsCount_execBody without subtasksWithout depth) registered went⟩
  | forEach item source loopBody =>
      cases isLoop
      obtain ⟨manner, rounds, first, last, begun, registered, went, counts, truthful⟩ :=
        rounds_of_forEach explains completed ran
      exact ⟨manner, rounds, first, last, begun, went, fun steady => truthful (steady counts),
        fun without subtasksWithout =>
          steady_of_keepsCount (keepsCount_execBody without subtasksWithout depth) registered went⟩
  | _ => cases isLoop

theorem exists_completed {run : Run Value} {machine : Machine}
    (ends : (run.outcome machine).1.toOption.any (fun result => !endsBody result) = true) :
    ∃ result after, run.outcome machine = (.ok result, after) ∧ endsBody result = false := by
  rcases course : run.outcome machine with ⟨stop | result, after⟩
  · rw [course] at ends
    cases ends
  · rw [course] at ends
    have goesOn : (!endsBody result) = true := ends
    rw [Bool.not_eq_true'] at goesOn
    exact ⟨result, after, rfl, goesOn⟩

/-- A loop over two texts without a loop in it, on a machine that shows only one iteration. -/
theorem completed_loop_reports_texts :
    let machine : Machine := { Machine.fresh ⟨true, .standard, 1⟩ none with
      «variables» := [(.str "xs", .texts ["a", "b"])] }
    let body := [Action.assign (.ok (.str "y")) (.var "x")]
    let loop := Action.forEach (.str "x") (.direct (.str "xs")) body
    ∃ result after manner rounds first last,
      (loop.loopBody? = some body ∧ machine.settings.explain = true ∧
        (exec (runSubtask 0) loop).outcome machine = (.ok result, after) ∧ endsBody result = false) ∧
      Begun (runSubtask 0) machine loop manner (rounds.map Round.item) first ∧
      Rounds manner rounds.length (execBody (runSubtask 0) body) 0 rounds first last ∧
      Truthful manner rounds 1 last after := by
  intro machine body loop
  have ends : ((exec (runSubtask 0) loop).outcome machine).1.toOption.any (!endsBody ·) = true := by
    decide +kernel
  obtain ⟨result, after, ran, completed⟩ := exists_completed ends
  have isLoop : loop.loopBody? = some body := rfl
  have explains : machine.settings.explain = true := rfl
  obtain ⟨manner, rounds, first, last, begun, went, truthful, steady⟩ :=
    completed_loop_reports isLoop explains ran completed
  have without : ∀ entry ∈ machine.subtasks, Action.someOverItems entry.2 = false :=
    fun _ member => by cases member
  exact ⟨result, after, manner, rounds, first, last, ⟨isLoop, explains, ran, completed⟩, begun, went,
    truthful fun _ => steady rfl without⟩

/-- A loop over three items inside a loop over two: the outer loop calls its second iteration the fourth
and says at its end that there were three. -/
theorem nested_loop_misnumbers :
    let machine : Machine := { Machine.fresh ⟨true, .standard, 5⟩ none with
      «variables» := [(.str "xs", .texts ["a", "b"]), (.str "ys", .texts ["c", "d", "e"])] }
    let inner := Action.forEach (.str "y") (.direct (.str "ys")) []
    let outer := Action.forEach (.str "x") (.direct (.str "xs")) [inner]
    let course := (exec (runSubtask 0) outer).outcome machine
    course.1.toOption.any (fun result => !endsBody result) = true ∧
    course.2.log.filter (fun event => event matches .note 1 "ITERATION" _ | .note 1 "COMPLETE" _) =
      [.note 1 "COMPLETE" "Loop finished after 3 iterations", .note 1 "ITERATION" "Loop #4: x = b",
        .note 1 "ITERATION" "Loop #1: x = a"] := by
  decide +kernel

end Run

end Stepwise
