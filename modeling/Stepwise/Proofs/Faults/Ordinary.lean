import Stepwise.Proofs.Termination.Clock
import Stepwise.Proofs.Values.Plain

/-!
# Ordinary stops

Running code reads entries of dictionaries, and an entry may be missing.  Everything else that stops a
run is `Ordinary`: a report on the run that can be worded, or a fault of another kind.

Operations on values, functions, and the parts of the interpreter that do not read code stop in no other
way.  What is left are the few places where a dictionary is read.
-/

namespace Stepwise

/-- A report on a run that can be worded. -/
def Report.IsShown (report : Report) : Prop :=
  (∃ message task step state, report = .running message task step state) ∧
    report.stop = .report report

/-- A stop that is not due to a missing entry. -/
def Stop.Ordinary : Stop → Prop
  | .fault cause => cause.kind ≠ .key
  | .report made => made.IsShown

namespace Run

variable {α β γ : Type}

/-! ## Results of operations -/

/-- A result that does not fail for a missing entry. -/
def Keyless (result : Except Fault α) : Prop :=
  ∀ cause, result = .error cause → cause.kind ≠ .key

theorem keyless_ok (value : α) : Keyless (.ok value) :=
  nofun

theorem keyless_error {cause : Fault} (other : cause.kind ≠ .key) :
    Keyless (.error cause : Except Fault α) := by
  rintro _ ⟨⟩
  exact other

theorem Keyless.bind {result : Except Fault α} {next : α → Except Fault β} (keyless : Keyless result)
    (keylessNext : ∀ value, Keyless (next value)) : Keyless (result >>= next) := by
  cases result with
  | ok value => exact keylessNext value
  | error cause => exact keyless_error (keyless cause rfl)

theorem Limited.keyless {result : Except Fault α} (limited : Limited result) : Keyless result := by
  intro cause failed
  have limit := limited cause failed
  rw [Fault.isLimit.eq_def] at limit
  split at limit
  · exact nofun
  · exact nofun
  · cases limit

theorem keyless_say (value : Value) : Keyless value.say :=
  (limited_say value).keyless

theorem keyless_asKey (value : Value) : Keyless value.asKey := by
  rw [Value.asKey]
  split
  · exact keyless_error (by rintro ⟨⟩)
  · exact keyless_ok _

mutual

theorem keyless_compareBy (comparison : Comparison) (left right : Value) :
    Keyless (left.compareBy comparison right) := by
  unfold Value.compareBy
  split
  · exact keyless_ok _
  · exact keyless_compareItemsBy comparison _ _
  · exact keyless_compareItemsBy comparison _ _
  · split
    · exact keyless_ok _
    · exact keyless_error nofun

theorem keyless_compareItemsBy (comparison : Comparison) (left right : List Value) :
    Keyless (Value.compareItemsBy comparison left right) := by
  unfold Value.compareItemsBy
  split
  · exact keyless_ok _
  · exact keyless_ok _
  · exact keyless_ok _
  · split
    · exact keyless_compareItemsBy comparison _ _
    · exact keyless_compareBy comparison _ _

end

theorem keyless_floatOfInt (n : Int) : Keyless (Value.floatOfInt n) := by
  rw [Value.floatOfInt]
  split
  · exact keyless_ok _
  · exact keyless_error nofun

theorem keyless_readFloat (text : String) : Keyless (Number.readFloat text) := by
  unfold Number.readFloat
  split
  · exact keyless_error nofun
  · dsimp only
    split
    · exact keyless_ok _
    · exact keyless_error nofun

theorem keyless_toFloat (value : Value) : Keyless value.toFloat := by
  unfold Value.toFloat
  split
  · exact keyless_ok _
  · exact keyless_readFloat _
  · split
    · exact keyless_floatOfInt _
    · exact keyless_error nofun

theorem keyless_numeric? (onInts : Int → Int → Int) (onFloats : Float → Float → Float)
    (left right : Value) :
    ∀ result ∈ Value.numeric? onInts onFloats left right, Keyless result := by
  unfold Value.numeric?
  split
  · rintro _ ⟨⟩
    exact keyless_ok _
  · intro result isResult
    obtain ⟨n, _, rfl⟩ := Option.map_eq_some_iff.mp isResult
    exact (keyless_floatOfInt n).bind fun _ => keyless_ok _
  · intro result isResult
    obtain ⟨n, _, rfl⟩ := Option.map_eq_some_iff.mp isResult
    exact (keyless_floatOfInt n).bind fun _ => keyless_ok _
  · split
    · rintro _ ⟨⟩
      exact keyless_ok _
    · rintro _ ⟨⟩

theorem keyless_add (left right : Value) : Keyless (left.add right) := by
  unfold Value.add
  split
  · next result isResult => exact keyless_numeric? _ _ left right result isResult
  · split
    · exact keyless_ok _
    · exact keyless_ok _
    · exact keyless_ok _
    · exact keyless_error nofun
    · exact keyless_error nofun
    · exact keyless_error nofun
    · exact keyless_error nofun

theorem keyless_subtract (left right : Value) : Keyless (left.subtract right) := by
  rw [Value.subtract]
  split
  · next result isResult => exact keyless_numeric? _ _ left right result isResult
  · exact keyless_error nofun

theorem keyless_repetitions (size : Nat) (isText : Bool) (count : Value) :
    Keyless (Value.repetitions size isText count) := by
  rw [Value.repetitions]
  split
  · exact keyless_error nofun
  · repeat' split
    · exact keyless_error nofun
    · exact keyless_error nofun
    · exact keyless_error nofun
    · exact keyless_ok _
    · exact keyless_ok _

theorem keyless_repeated? (value count : Value) :
    ∀ result ∈ value.repeated? count, Keyless result := by
  unfold Value.repeated?
  split
  · rintro _ ⟨⟩
    exact (keyless_repetitions _ _ _).bind fun _ => keyless_ok _
  · rintro _ ⟨⟩
    exact (keyless_repetitions _ _ _).bind fun _ => keyless_ok _
  · rintro _ ⟨⟩
    exact (keyless_repetitions _ _ _).bind fun _ => keyless_ok _
  · rintro _ ⟨⟩

theorem keyless_multiply (left right : Value) : Keyless (left.multiply right) := by
  rw [Value.multiply]
  split
  · next result isResult => exact keyless_numeric? _ _ left right result isResult
  · split
    · next isResult => exact keyless_repeated? left right _ isResult
    · next isResult => exact keyless_repeated? right left _ isResult
    · exact keyless_error nofun

theorem keyless_negate (value : Value) : Keyless value.negate := by
  unfold Value.negate
  split
  · exact keyless_ok _
  · split
    · exact keyless_ok _
    · exact keyless_error nofun

theorem keyless_truncated (value : Value) : Keyless value.truncated := by
  unfold Value.truncated
  split
  · split
    · exact keyless_ok _
    · refine keyless_error ?_
      split <;> exact nofun
  · split
    · exact keyless_ok _
    · exact keyless_error nofun

theorem keyless_bound (value : Value) : Keyless value.bound := by
  rw [Value.bound]
  split
  · exact keyless_ok _
  · exact keyless_error nofun

theorem keyless_length (value : Value) : Keyless value.length := by
  rw [Value.length]
  split
  · split
    · exact keyless_error (by rintro ⟨⟩)
    · exact keyless_ok _
  · exact keyless_error (by rintro ⟨⟩)

theorem keyless_joinTexts (position : Nat) (values : List Value) :
    Keyless (joinTexts position values) := by
  fun_induction joinTexts position values with
  | case1 => exact keyless_ok _
  | case2 position text rest ih => exact ih.bind fun _ => keyless_ok _
  | case3 => exact keyless_error nofun

theorem keyless_noteText (value : Value) : Keyless (noteText value) := by
  unfold noteText
  split
  · exact keyless_ok _
  · exact keyless_say _

end Run

/-! ## Failures -/

namespace Report

open Run (Keyless keyless_ok keyless_error keyless_say)

theorem keyless_contextLine (before : String) (value : Value) (after : String) :
    Keyless (contextLine before value after) := by
  rw [contextLine]
  split
  · exact (keyless_say value).bind fun _ => keyless_ok _
  · exact keyless_ok _

theorem keyless_variableLines (entries : List (Value × Value)) : Keyless (variableLines entries) := by
  induction entries with
  | nil => exact keyless_ok _
  | cons entry rest ih =>
      exact (keyless_say _).bind fun _ => (keyless_say _).bind fun _ => ih.bind fun _ => keyless_ok _

theorem keyless_textLine (name : String) (value : Value) : Keyless (textLine name value) := by
  unfold textLine
  split
  · exact keyless_ok _
  · exact (keyless_say _).bind fun _ => keyless_ok _

theorem keyless_context_running (message task step state : Value) :
    Keyless (Report.running message task step state).context := by
  refine (keyless_contextLine _ _ _).bind fun inTask => ?_
  refine (keyless_contextLine _ _ _).bind fun inStep => ?_
  split
  · refine Keyless.bind ?_ fun entries =>
      (keyless_variableLines entries).bind fun _ => keyless_ok _
    unfold variableEntries
    split
    · exact keyless_ok _
    · exact keyless_error nofun
  · exact keyless_ok _

/-- A report on a run stops it with itself, or with a fault that is no missing entry. -/
theorem ordinary_stop_running (message task step state : Value) :
    (Report.running message task step state).stop.Ordinary := by
  have keyless : Keyless (Report.running message task step state).text := by
    refine (keyless_context_running _ _ _ _).bind fun context => ?_
    refine (keyless_say _).bind fun _ => (keyless_textLine _ _).bind fun _ => ?_
    exact (keyless_textLine _ _).bind fun _ => (keyless_textLine _ _).bind fun _ => keyless_ok _
  cases worded : (Report.running message task step state).text with
  | ok text =>
      have stops : (Report.running message task step state).stop =
          .report (.running message task step state) := by
        rw [stop, worded]
      rw [stops]
      exact ⟨⟨message, task, step, state, rfl⟩, stops⟩
  | error cause =>
      rw [stop, worded]
      exact keyless cause worded

end Report

namespace Failure

open Run (Keyless keyless_ok keyless_error keyless_say)

/-- A result that is a report on a run, unless it fails for something else than a missing entry. -/
def Worded (result : Except Fault Report) : Prop :=
  Keyless result ∧
    ∀ report, result = .ok report → ∃ message task step state, report = .running message task step state

theorem worded_ok (message task step state : Value) :
    Worded (.ok (.running message task step state)) := by
  refine ⟨keyless_ok _, ?_⟩
  rintro _ ⟨⟩
  exact ⟨_, _, _, _, rfl⟩

theorem worded_saying (value : Value) {build : String → Except Fault Report}
    (each : ∀ text, Worded (build text)) : Worded (value.say >>= build) := by
  refine ⟨(keyless_say value).bind fun text => (each text).1, fun report made => ?_⟩
  rw [Value.say] at made
  split at made
  · exact (each _).2 report made
  · cases made

theorem worded_report (failure : Failure) : Worded failure.report := by
  cases failure with
  | badListKey | concatenation | divisionByZero | rangeWithoutBound | rangeOfNonNumber =>
      exact worded_ok _ _ _ _
  | broken cause state =>
      rw [report]
      split
      · exact worded_ok _ _ _ _
      · exact ⟨keyless_error nofun, fun _ made => by cases made⟩
  | _ => exact worded_saying _ fun text => worded_ok _ _ _ _

theorem ordinary_stop (failure : Failure) : failure.stop.Ordinary := by
  obtain ⟨keyless, running⟩ := worded_report failure
  cases made : failure.report with
  | ok report =>
      obtain ⟨message, task, step, state, rfl⟩ := running report made
      rw [stop, made]
      exact Report.ordinary_stop_running message task step state
  | error cause =>
      rw [stop, made]
      exact keyless cause made

end Failure

/-! ## Computations -/

namespace Run

variable {α β γ : Type}

/-- Every stop of the computation is ordinary. -/
def Ordinary (run : Run α) : Prop :=
  ∀ machine stop after, run.outcome machine = (.error stop, after) → stop.Ordinary

theorem ordinary_pure (value : α) : Ordinary (pure value) := by
  rintro machine stop after ⟨⟩

theorem ordinary_throw {stop : Stop} (ordinary : stop.Ordinary) : Ordinary (throw stop : Run α) := by
  rintro machine _ after ⟨⟩
  exact ordinary

theorem ordinary_fault {cause : Fault} (other : cause.kind ≠ .key) :
    Ordinary (fault cause : Run α) :=
  ordinary_throw (show Stop.Ordinary (.fault cause) from other)

theorem ordinary_fail (failure : Failure) : Ordinary (fail failure : Run α) :=
  ordinary_throw failure.ordinary_stop

theorem ordinary_lift {result : Except Fault α} (keyless : Keyless result) :
    Ordinary (lift result) := by
  cases result with
  | ok value => exact ordinary_pure value
  | error cause => exact ordinary_fault (keyless cause rfl)

theorem Ordinary.bind {run : Run α} {next : α → Run β} (ordinary : Ordinary run)
    (ordinaryNext : ∀ value, Ordinary (next value)) : Ordinary (run >>= next) := by
  intro machine stop after ran
  rw [outcome_bind] at ran
  cases first : run.outcome machine with
  | mk result middle =>
      rw [first] at ran
      cases result with
      | ok value => exact ordinaryNext value middle stop after ran
      | error earlier =>
          cases ran
          exact ordinary machine _ _ first

theorem ordinary_get_bind {next : Machine → Run α} (ordinary : ∀ machine, Ordinary (next machine)) :
    Ordinary (get >>= next) :=
  fun machine => ordinary machine machine

theorem ordinary_modify (change : Machine → Machine) : Ordinary (modify change : Run Unit) := by
  rintro machine stop after ⟨⟩

theorem ordinary_ite {condition : Prop} [Decidable condition] {run other : Run α}
    (ordinary : Ordinary run) (ordinaryOther : Ordinary other) :
    Ordinary (if condition then run else other) := by
  split
  · exact ordinary
  · exact ordinaryOther

/-- What only presents something stops because a value is too large, if at all. -/
theorem Silent.ordinary {run : Run α} (silent : Silent run) : Ordinary run := by
  intro machine stop after ran
  have ends := silent machine
  rw [ran] at ends
  rcases ends with limit | ⟨⟨value, isOk⟩, _⟩
  · cases stop with
    | report report => cases limit
    | fault cause =>
        have limited : Limited (.error cause : Except Fault Unit) := by
          rintro _ ⟨⟩
          exact limit
        exact limited.keyless cause rfl
  · cases isOk

/-! ## Variables, operations and functions -/

theorem ordinary_valueNamed? (name : Value) : Ordinary (valueNamed? name) :=
  (ordinary_lift (keyless_asKey name)).bind fun _ => ordinary_get_bind fun _ => ordinary_pure _

theorem ordinary_assign (name value : Value) : Ordinary (assign name value) :=
  (ordinary_lift (keyless_asKey name)).bind fun _ => ordinary_modify _

theorem ordinary_readVariable (name : String) : Ordinary (readVariable name) := by
  refine ordinary_get_bind fun machine => ?_
  split
  · exact ordinary_pure _
  · exact ordinary_fail _

theorem ordinary_plus (left right : Value) : Ordinary (plus left right) := by
  have texts : Ordinary (do return .str ((← lift left.say) ++ (← lift right.say)) : Run Value) :=
    (ordinary_lift (keyless_say left)).bind fun _ =>
      (ordinary_lift (keyless_say right)).bind fun _ => ordinary_pure _
  unfold plus
  split
  · exact texts
  · exact texts
  · exact ordinary_pure _
  · exact ordinary_fail _
  · exact ordinary_lift (keyless_add left right)

theorem ordinary_quotient (left right : Value) : Ordinary (quotient left right) := by
  refine ordinary_ite (ordinary_fail _) ?_
  refine (ordinary_lift (keyless_toFloat left)).bind fun dividend => ?_
  refine (ordinary_lift (keyless_toFloat right)).bind fun divisor => ?_
  exact ordinary_ite (ordinary_fault nofun) (ordinary_pure _)

theorem ordinary_asFloat (value : Value) : Ordinary (asFloat value) :=
  (ordinary_lift (keyless_toFloat value)).bind fun _ => ordinary_pure _

theorem ordinary_operate (operator left right : Value) : Ordinary (operate operator left right) := by
  have compares (comparison : Comparison) :
      Ordinary (do return .bool (← lift (left.compareBy comparison right)) : Run Value) :=
    (ordinary_lift (keyless_compareBy comparison left right)).bind fun _ => ordinary_pure _
  unfold operate
  split
  · exact ordinary_plus left right
  · exact (ordinary_lift (keyless_subtract left right)).bind ordinary_asFloat
  · exact (ordinary_lift (keyless_multiply left right)).bind ordinary_asFloat
  · exact ordinary_quotient left right
  · exact ordinary_pure _
  · exact ordinary_pure _
  · exact compares _
  · exact compares _
  · exact compares _
  · exact compares _
  · exact ordinary_fail _

theorem ordinary_listItem (items : List Value) (position : Int) :
    Ordinary (listItem items position) := by
  unfold listItem
  split
  · exact ordinary_pure _
  · exact ordinary_fail _

theorem ordinary_indexList (items : List Value) (key : Value) : Ordinary (indexList items key) := by
  unfold indexList
  split
  · exact ordinary_listItem items _
  · split
    · exact ordinary_listItem items _
    · exact ordinary_fail _
  · exact ordinary_fail _

/-- A key that stands for a quoted text may lack what it holds, but then the key itself is reported. -/
theorem ordinary_indexDict (entries : List (Value × Value)) (key : Value) :
    Ordinary (indexDict entries key) := by
  unfold indexDict
  split
  · exact ordinary_fail _
  · refine (ordinary_lift (keyless_asKey _)).bind fun key => ?_
    split
    · exact ordinary_pure _
    · exact ordinary_fail _

theorem ordinary_index (container key : Value) : Ordinary (index container key) := by
  unfold index
  split
  · exact ordinary_indexList _ key
  · exact ordinary_indexDict _ key
  · exact ordinary_fail _

theorem ordinary_supplyOf (value : Value) : Ordinary (supplyOf value) := by
  rw [supplyOf]
  split
  · exact ordinary_pure _
  · exact ordinary_fault (by rintro ⟨⟩)

theorem ordinary_takeCursor? (number : Nat) : Ordinary (takeCursor? number) := by
  refine ordinary_get_bind fun machine => ?_
  split
  · exact ordinary_pure _
  · exact (ordinary_modify _).bind fun _ => ordinary_pure _

theorem ordinary_drainCursor (cursor count : Nat) : Ordinary (drainCursor cursor count) := by
  induction count with
  | zero => exact ordinary_pure _
  | succ count ih =>
      refine (ordinary_takeCursor? cursor).bind fun taken => ?_
      cases taken with
      | none => exact ordinary_pure _
      | some item => exact ih.bind fun _ => ordinary_pure _

theorem ordinary_drain (supply : Supply) : Ordinary (drain supply) := by
  cases supply with
  | feed feed => exact ordinary_pure _
  | cursor number => exact ordinary_get_bind fun _ => ordinary_drainCursor number _

theorem ordinary_total (start : Value) (values : List Value) : Ordinary (total start values) := by
  induction values generalizing start with
  | nil => exact ordinary_pure _
  | cons value rest ih => exact (ordinary_lift (keyless_add start value)).bind ih

theorem ordinary_sumFrom (collection start : Value) : Ordinary (sumFrom collection start) := by
  refine (ordinary_supplyOf collection).bind fun supply => ?_
  split
  · exact ordinary_fault nofun
  · exact (ordinary_drain supply).bind fun items => ordinary_total start items

theorem ordinary_sumOf (arguments : List Value) : Ordinary (sumOf arguments) := by
  unfold sumOf
  split
  · exact ordinary_fault nofun
  · exact ordinary_sumFrom _ _
  · exact ordinary_sumFrom _ _
  · exact ordinary_fault nofun

theorem ordinary_lengthOf (arguments : List Value) : Ordinary (lengthOf arguments) := by
  unfold lengthOf
  split
  · exact (ordinary_lift (keyless_length _)).bind fun _ => ordinary_pure _
  · exact ordinary_fault nofun

theorem ordinary_startCursor (source : Supply) (next : Int) : Ordinary (startCursor source next) :=
  ordinary_get_bind fun _ => (ordinary_modify _).bind fun _ => ordinary_pure _

theorem ordinary_enumerationOf (arguments : List Value) : Ordinary (enumerationOf arguments) := by
  unfold enumerationOf
  split
  · exact ordinary_fault nofun
  · exact (ordinary_supplyOf _).bind fun _ => ordinary_startCursor _ _
  · refine (ordinary_lift (keyless_bound _)).bind fun first => ?_
    exact (ordinary_supplyOf _).bind fun _ => ordinary_startCursor _ _
  · exact ordinary_fault nofun

theorem ordinary_rangeOf (arguments : List Value) : Ordinary (rangeOf arguments) := by
  unfold rangeOf
  split
  · exact ordinary_fail _
  · split
    · exact (ordinary_lift (keyless_truncated _)).bind fun _ => ordinary_pure _
    · exact (ordinary_lift (keyless_truncated _)).bind fun _ => ordinary_pure _
    · exact (ordinary_lift (keyless_truncated _)).bind fun _ => ordinary_pure _
    · exact ordinary_fail _

/-- Of the built-in functions only the output of values reads dictionaries. -/
theorem ordinary_builtin {name : String} {run : List Value → Run Value}
    (found : builtin? name = some run) (notPrint : name ≠ "print") (arguments : List Value) :
    Ordinary (run arguments) := by
  unfold builtin? at found
  split at found
  · cases found; exact ordinary_rangeOf arguments
  · cases found; exact ordinary_sumOf arguments
  · cases found; exact ordinary_lengthOf arguments
  · exact absurd rfl notPrint
  · cases found; exact ordinary_enumerationOf arguments
  · cases found

theorem ordinary_resolve (function : Value) : Ordinary (resolve function) := by
  refine (ordinary_lift (keyless_asKey function)).bind fun key => ordinary_get_bind fun _ => ?_
  refine ordinary_ite (ordinary_pure _) ?_
  split
  · exact ordinary_get_bind fun _ =>
      ordinary_ite (ordinary_pure _) (ordinary_get_bind fun _ => ordinary_fail _)
  · exact ordinary_fault nofun

/-! ## Loops -/

end Run

/-- A loop that stops for something else than a missing entry, apart from its body. -/
structure Loop.Ordinary (loop : Loop) : Prop where
  prepare : ∀ number item, (loop.prepare number item).Ordinary
  closing : loop.closing.Ordinary
  closes : loop.closing.Moves

namespace Run

theorem ordinary_closeLoop (result : Value) {closing : Run Unit} (ordinary : Ordinary closing) :
    Ordinary (closeLoop result closing) :=
  ordinary_ite ((silent_explainedIndentBy (-1)).ordinary.bind fun _ => ordinary_pure _)
    (ordinary.bind fun _ => (silent_explainedIndentBy (-1)).ordinary.bind fun _ => ordinary_pure _)

theorem ordinary_startDirect (item node : Value) (supply : Supply) :
    Ordinary (startDirect item node supply) :=
  (silent_openLoop node).ordinary.bind fun _ => ordinary_pure _

theorem gives_startDirect (item node : Value) (supply : Supply) :
    Gives Loop.Ordinary (startDirect item node supply) := by
  refine gives_after fun _ => gives_pure ⟨fun number value => ?_, ?_, moves_completeLoop⟩
  · refine (ordinary_assign _ _).bind fun _ => ?_
    exact (silent_noteIteration fun count => limited_iterationNote count item value).ordinary
  · exact silent_completeLoop.ordinary

theorem gives_startEnumerated (index element node : Value) (supply : Supply) :
    Gives Loop.Ordinary (startEnumerated index element node supply) := by
  refine gives_after fun _ => gives_pure ⟨fun number value => ?_, ?_, moves_completeLoop⟩
  · refine (ordinary_assign _ _).bind fun _ => (ordinary_assign _ _).bind fun _ => ?_
    exact (silent_noteIteration fun count =>
      limited_numberedNote count index (.int number) element value).ordinary
  · exact silent_completeLoop.ordinary

theorem ordinary_startOver_direct (item name : Value) :
    Ordinary (startOver item (.direct name)) := by
  refine (ordinary_valueNamed? name).bind fun found => ?_
  cases found with
  | none => exact ordinary_get_bind fun _ => ordinary_fail _
  | some value =>
      dsimp only
      split
      · exact ordinary_fail _
      · exact ordinary_startDirect _ _ _

theorem gives_startOver (item : Value) (source : LoopFeed) :
    Gives Loop.Ordinary (startOver item source) := by
  cases source with
  | direct name =>
      refine gives_after fun found => ?_
      cases found with
      | none => exact gives_after fun _ => gives_throw _
      | some value =>
          dsimp only
          split
          · exact gives_throw _
          · exact gives_startDirect _ _ _
  | enumerated name element node =>
      refine gives_after fun found => ?_
      cases found with
      | none => exact gives_throw _
      | some value =>
          exact gives_after fun supply => gives_after fun element =>
            gives_startEnumerated _ _ _ _

theorem outcome_startOver_enumerated (item : Value) (word : String) (cause : Fault) (node : Value)
    (machine : Machine) :
    (startOver item (.enumerated (.str word) (.error cause) node)).outcome machine =
      match Table.fetch? (.str word) machine.variables with
      | none => (.error (Failure.undefinedEnumerated (.str word)).stop, machine)
      | some value =>
        match value.supply? with
        | none => (.error (.fault (.notIterable value.typeName)), machine)
        | some _ => (.error (.fault cause), machine) := by
  have opened : (startOver item (.enumerated (.str word) (.error cause) node)).outcome machine =
      (match Table.fetch? (.str word) machine.variables with
        | none => fail (.undefinedEnumerated (.str word))
        | some value => do
          let supply ← supplyOf value
          let element ← lift (.error cause)
          startEnumerated item element node supply).outcome machine := rfl
  rw [opened]
  cases Table.fetch? (.str word) machine.variables with
  | none => rfl
  | some value =>
      dsimp only
      rw [supplyOf]
      cases value.supply? <;> rfl

theorem ordinary_startBelow (item bound : Value) : Ordinary (startBelow item bound) :=
  (ordinary_lift (keyless_bound bound)).bind fun stop =>
    (silent_openRange stop).ordinary.bind fun _ => ordinary_pure _

theorem gives_startBelow (item bound : Value) : Gives Loop.Ordinary (startBelow item bound) := by
  refine gives_after fun stop => gives_after fun _ => gives_pure ⟨fun number value => ?_, ?_, ?_⟩
  · exact (ordinary_assign _ _).bind fun _ => (silent_noteRangeIteration _ _ _ _).ordinary
  · exact (silent_note _ _).ordinary
  · exact moves_note _ _

theorem ordinary_startNumbered (index element : Except Fault Value) (name : Value) :
    Ordinary (startNumbered index element name) := by
  refine (ordinary_valueNamed? name).bind fun found => ?_
  cases found with
  | none => exact ordinary_fail _
  | some value =>
      dsimp only
      split
      · exact (ordinary_lift (keyless_say name)).bind fun _ => ordinary_fault nofun
      · exact (silent_openNumbered name).ordinary.bind fun _ => ordinary_pure _

theorem gives_startNumbered (index element name : Value) :
    Gives Loop.Ordinary (startNumbered (.ok index) (.ok element) name) := by
  refine gives_after fun found => ?_
  cases found with
  | none => exact gives_throw _
  | some value =>
      dsimp only
      split
      · exact gives_after fun _ => gives_throw _
      · refine gives_after fun _ => gives_pure ⟨fun number item => ?_, ?_, moves_note _ _⟩
        · refine (ordinary_pure index).bind fun index => (ordinary_assign _ _).bind fun _ => ?_
          refine (ordinary_pure element).bind fun element => (ordinary_assign _ _).bind fun _ => ?_
          exact (silent_whenShown _ (silent_noteSaying _
            (limited_numberedNote _ index (.int number) element item))).ordinary
        · exact (silent_note _ _).ordinary

/-! ## Choices, subtasks and tasks -/

theorem outcome_lift_get_bind (result : Except Fault α) (next : α → Machine → Run β)
    (machine : Machine) :
    (lift result >>= fun value => get >>= next value).outcome machine =
      match result with
      | .ok value => (next value machine).outcome machine
      | .error cause => (.error (.fault cause), machine) := by
  cases result <;> rfl

theorem ordinary_openBranch (message : String) : Ordinary (openBranch message) :=
  (silent_note _ _).ordinary.bind fun _ => (silent_explainedIndentBy 1).ordinary

theorem ordinary_closeBranch (result : Value) : Ordinary (closeBranch result) :=
  ordinary_ite ((silent_explainedIndentBy (-2)).ordinary.bind fun _ => ordinary_pure _)
    ((silent_explainedIndentBy (-1)).ordinary.bind fun _ => ordinary_pure _)

theorem ordinary_openSubtask (name : Value) : Ordinary (openSubtask name) := by
  refine (ordinary_lift (keyless_asKey name)).bind fun key => ordinary_get_bind fun _ => ?_
  split
  · exact ordinary_get_bind fun _ => ordinary_fail _
  · refine (ordinary_lift (keyless_say name)).bind fun shown => ?_
    exact (silent_note _ _).ordinary.bind fun _ => (silent_indentBy 1).ordinary.bind fun _ =>
      ordinary_pure _

theorem ordinary_openTask (name : Value) : Ordinary (openTask name) := by
  refine (ordinary_lift (keyless_asKey name)).bind fun key => ordinary_get_bind fun _ => ?_
  split
  · exact ordinary_get_bind fun _ => ordinary_fail _
  · refine (ordinary_lift (keyless_say name)).bind fun shown => ?_
    exact (silent_note _ _).ordinary.bind fun _ => (silent_indentBy 1).ordinary.bind fun _ =>
      ordinary_pure _

/-- The body of a subtask is a registered one. -/
theorem fetch_of_openSubtask {name : Value} {machine after : Machine} {body : List Action}
    (opened : (openSubtask name).outcome machine = (.ok body, after)) :
    ∃ key, Table.fetch? key machine.subtasks = some body := by
  rw [openSubtask, outcome_lift_get_bind] at opened
  split at opened
  · next key _ =>
      split at opened
      · cases opened
      · next found isFound =>
          suffices gives : Gives (found = ·) _ from
            ⟨key, isFound.trans (congrArg some (gives machine body after opened))⟩
          exact gives_after fun _ => gives_after fun _ => gives_after fun _ => gives_pure rfl
  · cases opened

/-- The parts of a task are registered ones. -/
theorem fetch_of_openTask {name : Value} {machine after : Machine} {items : List TaskItem}
    (opened : (openTask name).outcome machine = (.ok items, after)) :
    ∃ key, Table.fetch? key machine.tasks = some items := by
  rw [openTask, outcome_lift_get_bind] at opened
  split at opened
  · next key _ =>
      split at opened
      · cases opened
      · next found isFound =>
          suffices gives : Gives (found = ·) _ from
            ⟨key, isFound.trans (congrArg some (gives machine items after opened))⟩
          exact gives_after fun _ => gives_after fun _ => gives_after fun _ => gives_pure rfl
  · cases opened

end Run

end Stepwise
