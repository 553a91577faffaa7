import Stepwise.Proofs.Conditions
import Stepwise.Proofs.Uniform

/-!
# What loops run through and note

A loop over a value that is no running enumeration runs through a list of items that is known before it
starts, whether the items are laid out or are the integers of a range.

What it notes on them changes the log and the indentation only, and nothing on machines that do not
explain themselves (`Presents`).  The texts of the notes exist if the integers in them do not have too
many digits, which the numbers of iterations never have.
-/

namespace Stepwise

/-! ## Feeds -/

@[simp]
theorem Value.length_rangeItems (step : Int) (count : Nat) (start : Int) :
    (rangeItems step count start).length = count := by
  induction count generalizing start with
  | zero => rfl
  | succ count ih => rw [rangeItems, List.length_cons, ih]

@[simp]
theorem Feed.length_toList (feed : Feed) : feed.toList.length = feed.length := by
  cases feed with
  | items values => rfl
  | span start step count => exact Value.length_rangeItems step count start

theorem Value.supply?_of_feed? {value : Value} {feed : Feed} (runs : value.feed? = some feed) :
    value.supply? = some (.feed feed) := by
  unfold supply?
  split
  · cases runs
  · rw [runs, Option.map_some]

theorem Value.length_of_feed? {value : Value} {feed : Feed} (runs : value.feed? = some feed)
    (short : feed.length ≤ maxLength) : value.length = .ok feed.length := by
  simp only [Value.length, runs, if_neg (Nat.not_lt.mpr short)]

namespace Run

theorem forSpan_eq_forItems (body : Nat → Value → Run Value) (step : Int) (count : Nat) (start : Int)
    (number : Nat) :
    forSpan body step count start number = forItems body (Value.rangeItems step count start) number := by
  induction count generalizing start number with
  | zero => rfl
  | succ count ih => simp only [forSpan, Value.rangeItems, forItems, ih]

theorem forSupply_feed (feed : Feed) (body : Nat → Value → Run Value) :
    forSupply (.feed feed) body = forItems body feed.toList 0 := by
  cases feed with
  | items values => rfl
  | span start step count => exact forSpan_eq_forItems body step count start 0

end Run

/-! ## Notes and their texts -/

theorem Machine.indented_zero (machine : Machine) : machine.indented 0 = machine := by
  rw [indented, Int.add_zero]

theorem Machine.indented_indented (machine : Machine) (amount other : Int) :
    (machine.indented amount).indented other = machine.indented (amount + other) := by
  simp only [indented, Int.add_assoc]

theorem Value.speakable_str (text : String) : (Value.str text).speakable = true :=
  rfl

theorem Value.speakable_count {count : Nat} (small : count ≤ maxLength) :
    (Value.int count).speakable = true := by
  have fits : 63 ≤ maxDigits := by decide
  rw [speakable, fewDigits, decide_eq_true_iff, Int.natAbs_natCast]
  generalize maxDigits = digits at fits
  calc count < 2 ^ 63 := Nat.lt_of_le_pred (Nat.two_pow_pos 63) small
    _ ≤ 10 ^ 63 := Nat.pow_le_pow_left (by decide) 63
    _ ≤ 10 ^ digits := Nat.pow_le_pow_right (by decide) fits

namespace Run

theorem outcome_whenExplaining (action : Run Unit) (machine : Machine) :
    (whenExplaining action).outcome machine =
      if machine.settings.explain then action.outcome machine else (.ok (), machine) := by
  have opened : (whenExplaining action).outcome machine =
      (if machine.settings.explain then action else pure () : Run Unit).outcome machine := rfl
  rw [opened]
  split <;> rfl

theorem outcome_whenShown (number : Int) (action : Run Unit) (machine : Machine) :
    (whenShown number action).outcome machine =
      if machine.settings.explain && number < machine.settings.shownIterations then
        action.outcome machine
      else (.ok (), machine) := by
  have opened : (whenShown number action).outcome machine =
      (if machine.settings.explain && number < machine.settings.shownIterations then action
        else pure () : Run Unit).outcome machine := rfl
  rw [opened]
  split <;> rfl

theorem outcome_whenCut (number : Int) (action : Int → Run Unit) (machine : Machine) :
    (whenCut number action).outcome machine =
      if machine.settings.explain && number == machine.settings.shownIterations then
        (action machine.settings.shownIterations).outcome machine
      else (.ok (), machine) := by
  have opened : (whenCut number action).outcome machine =
      (if machine.settings.explain && number == machine.settings.shownIterations then
        action machine.settings.shownIterations else pure () : Run Unit).outcome machine := rfl
  rw [opened]
  split <;> rfl

theorem binding_eq {name value : Value} (named : name.speakable = true)
    (speakable : value.speakable = true) :
    binding name value = .ok (name.shown ++ " = " ++ value.shown) := by
  rw [binding, Report.say_of_speakable named, Report.say_of_speakable speakable]
  rfl

theorem iterationNote_eq (number : Int) {name value : Value} (named : name.speakable = true)
    (speakable : value.speakable = true) :
    iterationNote number name value =
      .ok (iterationHead number ++ (name.shown ++ " = " ++ value.shown)) := by
  rw [iterationNote, binding_eq named speakable]
  rfl

theorem numberedNote_eq (number : Int) {index position element value : Value}
    (indexed : index.speakable = true) (positioned : position.speakable = true)
    (named : element.speakable = true) (speakable : value.speakable = true) :
    numberedNote number index position element value =
      .ok (iterationHead number ++ (index.shown ++ " = " ++ position.shown) ++ ", " ++
        (element.shown ++ " = " ++ value.shown)) := by
  rw [numberedNote, binding_eq indexed positioned, binding_eq named speakable]
  rfl

/-! ## Computations that present something -/

/-- A computation that only presents something, on machines that explain themselves or do not: it ends
without a stop and changes at most the indentation, the log and the count of iterations. -/
def Presents (explain : Bool) (amount : Int) (run : Run Unit) : Prop :=
  ∀ machine : Machine, machine.settings.explain = explain → ∃ shown : Machine,
    run.outcome machine = (.ok (), shown) ∧ shown.core = machine.core.indented amount

section Presents

variable {explain : Bool} {amount other : Int}

theorem Presents.bind {run next : Run Unit} (presents : Presents explain amount run)
    (presentsNext : Presents explain other next) :
    Presents explain (amount + other) (do run; next) := by
  intro machine explains
  obtain ⟨shown, ended, same⟩ := presents machine explains
  have still : shown.core.settings = (machine.core.indented amount).settings := by rw [same]
  have explainsStill : shown.settings.explain = explain :=
    (congrArg Settings.explain still).trans explains
  obtain ⟨last, endedLast, sameLast⟩ := presentsNext shown explainsStill
  refine ⟨last, by rw [outcome_bind, ended]; exact endedLast, ?_⟩
  rw [sameLast, same, Machine.indented_indented]

theorem Presents.append {run next : Run Unit} (presents : Presents explain 0 run)
    (presentsNext : Presents explain other next) : Presents explain other (do run; next) := by
  have both := presents.bind presentsNext
  rwa [Int.zero_add] at both

theorem presents_indentBy : Presents explain amount (indentBy amount) := fun _ _ =>
  ⟨_, rfl, rfl⟩

/-- What leaves the core as it is presents something. -/
theorem presents_of_core_eq {run : Run Unit} (change : Machine → Machine)
    (ends : ∀ machine, run.outcome machine = (.ok (), change machine))
    (same : ∀ machine, (change machine).core = machine.core) : Presents explain 0 run := fun machine _ =>
  ⟨change machine, ends machine, by rw [same, Machine.indented_zero]⟩

theorem presents_pure : Presents explain 0 (pure ()) :=
  presents_of_core_eq id (fun _ => rfl) fun _ => rfl

theorem presents_setIterations (count : Nat) : Presents explain 0 (setIterations count) :=
  presents_of_core_eq _ (fun _ => rfl) fun _ => rfl

theorem presents_countIteration : Presents explain 0 countIteration :=
  presents_of_core_eq _ (fun _ => rfl) fun _ => rfl

theorem presents_note (category message : String) : Presents explain 0 (note category message) :=
  presents_of_core_eq _ (outcome_note category message) fun _ => by split <;> rfl

theorem presents_whenExplaining {action : Run Unit}
    (presents : explain = true → Presents true amount action) :
    Presents explain (if explain then amount else 0) (whenExplaining action) := by
  intro machine explains
  rw [outcome_whenExplaining, explains]
  cases explain with
  | true => exact presents rfl machine explains
  | false => exact presents_pure machine explains

theorem presents_whenExplaining_zero {action : Run Unit}
    (presents : explain = true → Presents true 0 action) :
    Presents explain 0 (whenExplaining action) := by
  have shown := presents_whenExplaining presents
  rwa [ite_self] at shown

theorem presents_noteSaying (category : String) {message : Except Fault String}
    (said : explain = true → ∃ text, message = .ok text) :
    Presents explain 0 (noteSaying category message) := by
  refine presents_whenExplaining_zero fun explaining => ?_
  obtain ⟨text, rfl⟩ := said explaining
  exact presents_note category text

theorem presents_whenShown (number : Int) {action : Run Unit}
    (presents : explain = true → Presents true 0 action) :
    Presents explain 0 (whenShown number action) := by
  intro machine explains
  rw [outcome_whenShown, explains]
  cases explain with
  | false => exact presents_pure machine explains
  | true =>
      split
      · exact presents rfl machine explains
      · exact presents_pure machine explains

theorem presents_whenCut (number : Int) {action : Int → Run Unit}
    (presents : ∀ shown, Presents explain 0 (action shown)) :
    Presents explain 0 (whenCut number action) := by
  intro machine explains
  rw [outcome_whenCut]
  split
  · exact presents _ machine explains
  · exact presents_pure machine explains

end Presents

end Run

end Stepwise
