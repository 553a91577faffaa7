import Stepwise.Proofs.Loops.Reports

/-!
# Bounds of loops over ranges

The bound of a loop over a range is evaluated once.  If it is an integer, the body runs with the loop
variable at zero, one and so on below the bound, until a return or a stop ends it, whatever the body
assigns.  `CountsUp` says so without mention of the loop.

A number with a fraction part is refused as a bound even if that part is zero, and differences, products
and quotients are such numbers.  A machine that explains itself cannot tell lengths above `maxLength`, and
refuses them as well.
-/

namespace Stepwise

theorem Machine.silenced_eq_iff {left right : Machine} :
    left.silenced = right.silenced ↔ left.core = right.core ∧ left.iterations = right.iterations := by
  constructor
  · intro same
    have counts : left.silenced.iterations = right.silenced.iterations := by rw [same]
    refine ⟨?_, counts⟩
    calc left.core = { left.silenced with iterations := 0 } := rfl
      _ = { right.silenced with iterations := 0 } := by rw [same]
  · rintro ⟨same, counts⟩
    calc left.silenced = { left.core with iterations := left.iterations } := rfl
      _ = { right.core with iterations := right.iterations } := by rw [same, counts]

namespace Run

/-- The run of a body with a variable counting up from a number to below a bound: how it ends, and on
which machine.  A machine may show something before each round. -/
inductive CountsUp (name : String) (body : Run Value) (bound : Int) :
    Int → Machine → Except Stop Value × Machine → Prop where
  | done {number : Int} {machine : Machine} (reached : bound ≤ number) :
      CountsUp name body bound number machine (.ok .null, machine)
  | goesOn {number : Int} {machine start finish : Machine} {result : Value}
      {course : Except Stop Value × Machine} (below : number < bound)
      (assigned : start.silenced = Machine.silenced { machine with
        «variables» := Table.store (.str name) (.int number) machine.variables })
      (ran : body.outcome start = (.ok result, finish)) (completed : endsBody result = false)
      (rest : CountsUp name body bound (number + 1) finish course) :
      CountsUp name body bound number machine course
  | returned {number : Int} {machine start finish : Machine} {result : Value} (below : number < bound)
      (assigned : start.silenced = Machine.silenced { machine with
        «variables» := Table.store (.str name) (.int number) machine.variables })
      (ran : body.outcome start = (.ok result, finish)) (ends : endsBody result = true) :
      CountsUp name body bound number machine (.ok result, finish)
  | stopped {number : Int} {machine start finish : Machine} {stop : Stop} (below : number < bound)
      (assigned : start.silenced = Machine.silenced { machine with
        «variables» := Table.store (.str name) (.int number) machine.variables })
      (ran : body.outcome start = (.error stop, finish)) :
      CountsUp name body bound number machine (.error stop, finish)

section Counting

variable {name : String} {body : Run Value} {total number : Nat} {machine : Machine}

theorem presents_noteRangeIteration {explain : Bool}
    (small : explain = true → number ≤ maxLength) :
    Presents explain 0 (noteRangeIteration total number (.str name) (.int number)) := by
  refine (presents_whenShown _ fun explaining => presents_noteSaying "ITERATION" fun _ => ?_).append
    (presents_whenCut _ fun _ => presents_note _ _)
  exact ⟨_, iterationNote_eq number (Value.speakable_str name) (Value.speakable_count (small explaining))⟩

/-- What only presents something and leaves the count as it is changes the log and the indentation. -/
theorem exists_silenced {explain : Bool} {amount : Int} {run : Run Unit}
    (presents : Presents explain amount run) (machine : Machine) (keeps : KeepsCount machine.subtasks run)
    (explains : machine.settings.explain = explain) :
    ∃ shown, run.outcome machine = (.ok (), shown) ∧
      shown.silenced = (machine.indented amount).silenced := by
  obtain ⟨shown, ended, same⟩ := presents machine explains
  have kept := (keeps machine rfl).1
  rw [ended] at kept
  exact ⟨shown, ended, Machine.silenced_eq_iff.mpr ⟨same, kept⟩⟩

/-- Before the body runs, the loop variable is assigned and the round is noted. -/
theorem outcome_rangeIteration (name : String) (body : Run Value) (total number : Nat) (machine : Machine)
    (small : machine.settings.explain = true → number ≤ maxLength) :
    ∃ start : Machine, start.silenced = Machine.silenced { machine with
        «variables» := Table.store (.str name) (.int number) machine.variables } ∧
      (do
        assign (.str name) (.int number)
        noteRangeIteration total number (.str name) (.int number)
        body : Run Value).outcome machine = body.outcome start := by
  let assigned : Machine := { machine with
    «variables» := Table.store (.str name) (.int number) machine.variables }
  obtain ⟨start, noted, same⟩ := exists_silenced (presents_noteRangeIteration small) assigned
    (uniform_keepsCount.noteRangeIteration total number (.str name) (.int number)) rfl
  rw [Machine.indented_zero] at same
  refine ⟨start, same, ?_⟩
  have assigning : (assign (.str name) (.int number)).outcome machine = (.ok (), assigned) := rfl
  rw [bind_eq_of_ok assigning, bind_eq_of_ok noted]

/-- The induction is on the number of rounds that are left. -/
theorem countsUp_forItems (name : String) (moves : body.Moves) (total count number : Nat) (machine : Machine)
    (small : machine.settings.explain = true → number + count ≤ maxLength) :
    CountsUp name body ((number + count : Nat) : Int) number machine
      ((forItems (fun number value => do
        assign (.str name) value
        noteRangeIteration total number (.str name) value
        body) (Value.rangeItems 1 count number) number).outcome machine) := by
  induction count generalizing number machine with
  | zero => exact .done (by omega)
  | succ count ih =>
      have smallHere (explains : machine.settings.explain = true) : number ≤ maxLength := by
        have := small explains
        omega
      obtain ⟨start, assigned, same⟩ := outcome_rangeIteration name body total number machine smallHere
      have below : (number : Int) < ((number + (count + 1) : Nat) : Int) := by omega
      rw [Value.rangeItems, forItems, outcome_bind, same]
      have kept := (moves start).fixed.1
      rcases ran : body.outcome start with ⟨stop | result, finish⟩
      · exact .stopped below assigned ran
      · rw [ran] at kept
        dsimp only
        split
        · next ends => exact .returned below assigned ran ends
        · next goesOn =>
            have settings : start.silenced.settings = machine.settings := by rw [assigned]; rfl
            have rest := ih (number + 1) finish fun explains => by
              have := small (settings ▸ kept ▸ explains)
              omega
            rw [Nat.add_assoc, Nat.add_comm 1] at rest
            exact .goesOn below assigned ran (Bool.eq_false_of_not_eq_true goesOn) rest

end Counting

/-! ## Loops -/

theorem rangeLength_below (stop : Int) : Value.rangeLength 0 stop 1 = stop.toNat := by
  rw [Value.rangeLength, if_pos Int.one_pos, Int.ediv_one]
  omega

theorem length_below {stop : Int} (small : stop ≤ maxLength) :
    (Value.range 0 stop 1).length = .ok stop.toNat := by
  have feeds : (Value.range 0 stop 1).feed? = some (.span 0 1 stop.toNat) := by
    rw [Value.feed?, rangeLength_below]
  have short : (Feed.span 0 1 stop.toNat).length ≤ maxLength := by
    rw [Feed.length]
    omega
  exact Value.length_of_feed? feeds short

theorem presents_openRange {explain : Bool} {stop : Int} (small : explain = true → stop ≤ maxLength) :
    Presents explain (if explain then 1 else 0) (openRange (.range 0 stop 1)) :=
  presents_whenExplaining fun explaining => by
    rw [length_below (small explaining)]
    exact (presents_note _ _).append ((presents_note _ _).append presents_indentBy)

theorem outcome_closeLoop {explain : Bool} {closing : Run Unit} (presents : Presents explain 0 closing)
    (result : Value) (last : Machine) (keeps : KeepsCount last.subtasks closing)
    (explains : last.settings.explain = explain) :
    ∃ after, (closeLoop result closing).outcome last =
        (.ok (if endsBody result then result else .null), after) ∧
      after.silenced = (last.indented (if explain then -1 else 0)).silenced := by
  have dedents : Presents explain (if explain then -1 else 0) (explainedIndentBy (-1)) :=
    presents_whenExplaining fun _ => presents_indentBy
  have keepsDedenting : KeepsCount last.subtasks (explainedIndentBy (-1)) :=
    uniform_keepsCount.explainedIndentBy (-1)
  rw [closeLoop]
  split
  · obtain ⟨after, ended, same⟩ := exists_silenced dedents last keepsDedenting explains
    exact ⟨after, bind_eq_of_ok ended, same⟩
  · obtain ⟨after, ended, same⟩ := exists_silenced (presents.append dedents) last
      (uniform_keepsCount.bind keeps fun _ => keepsDedenting) explains
    refine ⟨after, ?_, same⟩
    rw [← bind_assoc, bind_eq_of_ok ended]
    rfl

namespace CountsUp

variable {name : String} {body : Run Value} {bound number : Int} {machine : Machine}
  {course : Except Stop Value × Machine}

theorem settings_eq (moves : body.Moves) (counts : CountsUp name body bound number machine course) :
    course.2.settings = machine.settings := by
  have kept {start finish : Machine} {result : Except Stop Value} {number : Int} {machine : Machine}
      (assigned : start.silenced = Machine.silenced { machine with
        «variables» := Table.store (.str name) (.int number) machine.variables })
      (ran : body.outcome start = (result, finish)) : finish.settings = machine.settings := by
    have fixed := (moves start).fixed.1
    rw [ran] at fixed
    have same : start.silenced.settings = machine.settings := by rw [assigned]; rfl
    exact fixed.trans same
  induction counts with
  | done => rfl
  | goesOn _ assigned ran _ _ ih => exact ih.trans (kept assigned ran)
  | returned _ assigned ran _ => exact kept assigned ran
  | stopped _ assigned ran => exact kept assigned ran

/-- The result is null or that of a return. -/
theorem result_eq (counts : CountsUp name body bound number machine course) (result : Value)
    (ended : course.1 = .ok result) : (if endsBody result then result else .null) = result := by
  induction counts with
  | done =>
      cases ended
      exact ite_self _
  | goesOn _ _ _ _ _ ih => exact ih ended
  | returned _ _ _ ends =>
      cases ended
      exact if_pos ends
  | stopped => cases ended

end CountsUp

section LoopBelow

variable {name : String} {body : Run Value} {value : Value} {stop : Int} {machine : Machine}
  (isStop : value.asInt? = some stop)
include isStop

theorem outcome_bound : (lift value.bound).outcome machine = (.ok stop, machine) := by
  rw [Value.bound, isStop]
  rfl

theorem outcome_loopBelow_large (explains : machine.settings.explain = true) (large : maxLength < stop) :
    (loopBelow (.str name) value body).outcome machine = (.error (.fault .lengthTooLarge), machine) := by
  have tooLong : (Value.range 0 stop 1).length = .error .lengthTooLarge := by
    have long : maxLength < stop.toNat := by omega
    rw [Value.length, Value.feed?, rangeLength_below]
    exact if_pos long
  have refused : (openRange (.range 0 stop 1)).outcome machine =
      (.error (.fault .lengthTooLarge), machine) := by
    rw [openRange, outcome_whenExplaining, explains, if_pos rfl, tooLong]
    rfl
  rw [loopBelow, bind_eq_of_ok (outcome_bound isStop), outcome_bind, refused]

theorem countsUp_loopBelow (name : String) (moves : body.Moves)
    (small : machine.settings.explain = true → stop ≤ maxLength) :
    ∃ first course,
      first.silenced = (machine.indented (if machine.settings.explain then 1 else 0)).silenced ∧
      CountsUp name body stop 0 first course ∧
      ((loopBelow (.str name) value body).outcome machine).1 = course.1 ∧
      ((loopBelow (.str name) value body).outcome machine).2.silenced =
        (course.2.indented (if machine.settings.explain && course.1.isOk then -1 else 0)).silenced := by
  obtain ⟨first, opened, same⟩ := exists_silenced (presents_openRange small) machine
    (uniform_keepsCount.openRange _) rfl
  have settings : first.silenced.settings = machine.settings := by rw [same]; rfl
  have counted : CountsUp name body stop 0 first
      ((forItems (fun number value => do
        assign (.str name) value
        noteRangeIteration stop.toNat number (.str name) value
        body) (Feed.span 0 1 stop.toNat).toList 0).outcome first) := by
    rcases Int.le_total stop 0 with none | some
    · rw [Int.toNat_of_nonpos none]
      exact .done none
    · have counts := countsUp_forItems name moves stop.toNat stop.toNat 0 first fun explains => by
        have := small (settings ▸ explains)
        omega
      rw [Nat.zero_add, Int.toNat_of_nonneg some] at counts
      exact counts
  refine ⟨first, _, same, counted, ?_⟩
  rw [loopBelow, bind_eq_of_ok (outcome_bound isStop), bind_eq_of_ok opened]
  dsimp only
  rw [forSupply_feed, outcome_bind]
  have kept := counted.settings_eq moves
  have resulting := counted.result_eq
  generalize (forItems _ _ _).outcome first = course at kept resulting ⊢
  rcases course with ⟨failure | result, last⟩
  · have unfinished : (Except.error failure : Except Stop Value).isOk = false := rfl
    rw [unfinished, Bool.and_false, if_neg Bool.false_ne_true, Machine.indented_zero]
    exact ⟨rfl, rfl⟩
  · have finished : (Except.ok result : Except Stop Value).isOk = true := rfl
    have explains : last.settings.explain = machine.settings.explain := by
      rw [kept]
      exact congrArg Settings.explain settings
    obtain ⟨after, closed, dedented⟩ := outcome_closeLoop (presents_note _ _) result last
      (uniform_keepsCount.note "COMPLETE" ("Loop finished after " ++ toString stop.toNat ++ " iterations"))
      explains
    dsimp only
    rw [closed, finished, Bool.and_true]
    exact ⟨congrArg Except.ok (resulting result rfl), dedented⟩

end LoopBelow

/-- A loop over a range whose bound evaluates to an integer runs its body with the loop variable counting
up from zero to below it, unless a return or a stop ends it.  It is indented while it runs, and a stop
leaves it so.  A machine that explains itself refuses bounds above `maxLength`, and every machine refuses
numbers with a fraction part. -/
theorem range_loop_counts_up {depth : Nat} {name : String} {bound : Term} {body : List Action}
    {machine evaluated : Machine} {value : Value}
    (evaluates : (eval (runSubtask depth) bound).outcome machine = (.ok value, evaluated)) :
    let loop := (exec (runSubtask depth) (.forRange (.str name) bound body)).outcome machine
    let explain := machine.settings.explain
    (∀ stop : Int, value.asInt? = some stop → (explain = true → stop ≤ maxLength) →
      ∃ first course, first.silenced = (evaluated.indented (if explain then 1 else 0)).silenced ∧
        CountsUp name (execBody (runSubtask depth) body) stop 0 first course ∧
        loop.1 = course.1 ∧
        loop.2.silenced =
          (course.2.indented (if explain && course.1.isOk then -1 else 0)).silenced) ∧
    (∀ stop : Int, value.asInt? = some stop → explain = true → maxLength < stop →
      loop = (.error (.fault .lengthTooLarge), evaluated)) ∧
    (∀ x, value = .float x → loop = (.error (.fault (.notInteger "float")), evaluated)) := by
  intro loop
  dsimp only
  have kept : evaluated.settings = machine.settings := by
    have fixed := (moves_eval (moves_runSubtask depth) bound machine).fixed.1
    rwa [evaluates] at fixed
  have moves := moves_execBody (moves_runSubtask depth) body
  have entered : loop = (loopBelow (.str name) value (execBody (runSubtask depth) body)).outcome evaluated :=
    bind_eq_of_ok evaluates
  refine ⟨fun stop isStop small => ?_, fun stop isStop explains large => ?_, ?_⟩
  · rw [← kept] at small
    have counts := countsUp_loopBelow isStop name moves small
    rw [kept] at counts
    rwa [entered]
  · rw [entered]
    exact outcome_loopBelow_large isStop (kept ▸ explains) large
  · rintro x rfl
    exact entered

/-- A loop that counts up to a length, on a machine that explains itself. -/
theorem range_loop_counts_up_length :
    let machine : Machine := { Machine.fresh ⟨true, .standard, 5⟩ none with
      «variables» := [(.str "xs", .texts ["a", "b"])] }
    let bound := Term.call (.str "len") [.var "xs"]
    let body := [Action.assign (.ok (.str "i")) (.var "xs")]
    let loop := (exec (runSubtask 0) (.forRange (.str "i") bound body)).outcome machine
    (eval (runSubtask 0) bound).outcome machine = (.ok (.int 2), machine) ∧
    ∃ first course, first.silenced = (machine.indented 1).silenced ∧
      CountsUp "i" (execBody (runSubtask 0) body) 2 0 first course ∧ loop.1 = course.1 ∧
      loop.2.silenced = (course.2.indented (if course.1.isOk then -1 else 0)).silenced := by
  intro machine bound body loop
  have evaluates : (eval (runSubtask 0) bound).outcome machine = (.ok (.int 2), machine) := rfl
  exact ⟨evaluates, (range_loop_counts_up evaluates).1 2 rfl fun _ => by decide⟩

/-- One less than a length is a number with a fraction part, which is zero, and is refused. -/
theorem range_loop_refuses_difference :
    let machine : Machine := { Machine.fresh ⟨false, .standard, 5⟩ none with
      «variables» := [(.str "xs", .texts ["a", "b", "c"])] }
    let bound := Term.binary (.str "-") (.call (.str "len") [.var "xs"]) (.const (.int 1))
    (exec (runSubtask 0) (.forRange (.str "i") bound [])).outcome machine =
      (.error (.fault (.notInteger "float")), machine) :=
  rfl

end Run

end Stepwise
