import Stepwise.Machine.Function
import Stepwise.Proofs.Settings.Silent

/-!
# Plain values

The values that variables may have: null, truth values, numbers and texts, and lists and dictionaries
of plain values.  A quoted text is a dictionary while an expression is evaluated, with a tag that tells
it from others, and a plain value holds no such dictionary.

What an expression evaluates to is only `Loose`: it may be a dictionary with that tag, but the values in
it are plain.  One layer is all that has to be taken off.  The operations of the language and the
built-in functions turn loose values into loose ones, and most of them into plain ones.
-/

namespace Stepwise

/-! ## Tables -/

namespace Table

variable {α : Type}

theorem mem_of_fetch? {key : Value} {table : Table α} {value : α}
    (found : fetch? key table = some value) : ∃ known, (known, value) ∈ table := by
  induction table with
  | nil => cases found
  | cons entry rest ih =>
      rw [fetch?] at found
      split at found
      · cases found
        exact ⟨entry.1, List.mem_cons_self⟩
      · obtain ⟨known, member⟩ := ih found
        exact ⟨known, List.mem_cons_of_mem _ member⟩

theorem forall_keys_store (isKey : Value → Prop) {table : Table α} {key : Value}
    (each : ∀ entry ∈ table, isKey entry.1) (holds : isKey key) (value : α) :
    ∀ entry ∈ store key value table, isKey entry.1 := by
  induction table with
  | nil => simpa [store] using holds
  | cons known rest ih =>
      simp only [List.forall_mem_cons] at each
      rw [store]
      split
      · simpa [each.1] using each.2
      · simpa [each.1] using ih each.2

theorem forall_values_store (isStored : α → Prop) {table : Table α} {value : α}
    (each : ∀ entry ∈ table, isStored entry.2) (key : Value) (holds : isStored value) :
    ∀ entry ∈ store key value table, isStored entry.2 := by
  induction table with
  | nil => simpa [store] using holds
  | cons known rest ih =>
      simp only [List.forall_mem_cons] at each
      rw [store]
      split
      · simpa [holds] using each.2
      · simpa [each.1] using ih each.2

end Table

namespace Value

/-! ## Plain and loose values -/

/-- Null, truth values, numbers and texts: the keys of dictionaries. -/
inductive Simple : Value → Prop where
  | null : Simple .null
  | bool (value : Bool) : Simple (.bool value)
  | int (value : Int) : Simple (.int value)
  | float (value : Float) : Simple (.float value)
  | str (text : String) : Simple (.str text)

/-- Values that hold no dictionary with the tag of a quoted text. -/
inductive Plain : Value → Prop where
  | simple {value : Value} (isSimple : Simple value) : Plain value
  | list {items : List Value} (each : ∀ item ∈ items, Plain item) : Plain (.list items)
  | dict {entries : List (Value × Value)} (keys : ∀ entry ∈ entries, Simple entry.1)
      (values : ∀ entry ∈ entries, Plain entry.2)
      (untagged : (Value.dict entries).hasTag textTag = false) : Plain (.dict entries)

/-- Plain values, and dictionaries of plain values with any tag. -/
inductive Loose : Value → Prop where
  | plain {value : Value} (isPlain : Plain value) : Loose value
  | dict {entries : List (Value × Value)} (keys : ∀ entry ∈ entries, Simple entry.1)
      (values : ∀ entry ∈ entries, Plain entry.2) : Loose (.dict entries)

theorem Simple.loose {value : Value} (isSimple : Simple value) : Loose value :=
  .plain (.simple isSimple)

/-- The tagged dictionary of a quoted text. -/
theorem loose_textLiteral (text : String) : Loose (textLiteral (.str text)) := by
  refine .dict ?_ ?_ <;> simp only [List.map_cons, List.map_nil, List.forall_mem_cons]
  · exact ⟨.str _, .str _, by simp⟩
  · exact ⟨.simple (.str _), .simple (.str _), by simp⟩

theorem Loose.items {items : List Value} (isLoose : Loose (.list items)) :
    ∀ item ∈ items, Plain item := by
  cases isLoose with
  | plain isPlain =>
      cases isPlain with
      | list each => exact each
      | simple isSimple => cases isSimple

theorem Loose.values {entries : List (Value × Value)} (isLoose : Loose (.dict entries)) :
    ∀ entry ∈ entries, Plain entry.2 := by
  cases isLoose with
  | dict keys values => exact values
  | plain isPlain =>
      cases isPlain with
      | dict keys values untagged => exact values
      | simple isSimple => cases isSimple

theorem not_loose_tuple (items : List Value) : ¬ Loose (.tuple items) := by
  intro isLoose
  cases isLoose with
  | plain isPlain =>
      cases isPlain with
      | simple isSimple => cases isSimple

theorem Loose.part {value found : Value} {name : String} (isLoose : Loose value)
    (isPart : value.part name = .ok found) : Plain found := by
  cases value with
  | dict entries =>
      rw [Value.part] at isPart
      split at isPart
      · next stored =>
          cases isPart
          obtain ⟨known, member⟩ := Table.mem_of_fetch? stored
          exact isLoose.values _ member
      · cases isPart
  | _ => cases isPart

/-- One layer is all that has to be taken off a loose value. -/
theorem Loose.unwrapped {value found : Value} (isLoose : Loose value)
    (isFound : value.unwrapped = .ok found) : Plain found := by
  rw [Value.unwrapped] at isFound
  split at isFound
  · exact isLoose.part isFound
  · next untagged =>
      cases isFound
      cases isLoose with
      | plain isPlain => exact isPlain
      | dict keys values => exact .dict keys values (by simpa using untagged)

/-- A plain value that can serve as a key is simple. -/
theorem Plain.asKey {value key : Value} (isPlain : Plain value) (isKey : value.asKey = .ok key) :
    Simple key := by
  cases isPlain with
  | simple isSimple => cases isSimple <;> cases isKey <;> constructor
  | list each => cases isKey
  | dict keys values untagged => cases isKey

/-- A loop over a loose value draws on plain items. -/
theorem Loose.supply {value : Value} {supply : Supply} (isLoose : Loose value)
    (supplies : value.supply? = some supply) :
    ∃ items, supply = .feed (.items items) ∧ ∀ item ∈ items, Plain item := by
  have ofKeys {entries : List (Value × Value)} (keys : ∀ entry ∈ entries, Simple entry.1) :
      ∀ key ∈ Table.keys entries, Plain key := by
    intro key member
    obtain ⟨entry, isEntry, rfl⟩ := List.mem_map.mp member
    exact .simple (keys entry isEntry)
  cases isLoose with
  | dict keys values =>
      cases supplies
      exact ⟨_, rfl, ofKeys keys⟩
  | plain isPlain =>
      cases isPlain with
      | dict keys values untagged =>
          cases supplies
          exact ⟨_, rfl, ofKeys keys⟩
      | list each =>
          cases supplies
          exact ⟨_, rfl, each⟩
      | simple isSimple =>
          cases isSimple with
          | str text =>
              cases supplies
              refine ⟨_, rfl, fun item member => ?_⟩
              obtain ⟨c, _, rfl⟩ := List.mem_map.mp member
              exact .simple (.str _)
          | _ => cases supplies

/-! ## Arithmetic -/

theorem numeric?_simple {onInts : Int → Int → Int} {onFloats : Float → Float → Float}
    {left right value : Value} (isNumber : numeric? onInts onFloats left right = some (.ok value)) :
    Simple value := by
  have converted {n : Int} {build : Float → Float}
      (isFloat : (do return .float (build (← floatOfInt n)) : Except Fault Value) = .ok value) :
      Simple value := by
    cases found : floatOfInt n with
    | error cause =>
        rw [found] at isFloat
        cases isFloat
    | ok x =>
        rw [found] at isFloat
        cases isFloat
        exact .float _
  unfold numeric? at isNumber
  split at isNumber
  · cases isNumber
    exact .float _
  · obtain ⟨n, _, isFloat⟩ := Option.map_eq_some_iff.mp isNumber
    exact converted isFloat
  · obtain ⟨n, _, isFloat⟩ := Option.map_eq_some_iff.mp isNumber
    exact converted isFloat
  · split at isNumber
    · cases isNumber
      exact .int _
    · cases isNumber

theorem Loose.add {left right sum : Value} (isLeft : Loose left) (isRight : Loose right)
    (adds : left.add right = .ok sum) : Plain sum := by
  unfold Value.add at adds
  split at adds
  · next isNumber =>
      subst adds
      exact .simple (numeric?_simple isNumber)
  · split at adds
    · cases adds
      exact .simple (.str _)
    · cases adds
      exact .list (List.forall_mem_append.mpr ⟨isLeft.items, isRight.items⟩)
    · -- Tuples come from enumerations only, and a loose value holds none.
      exact absurd isLeft (not_loose_tuple _)
    · cases adds
    · cases adds
    · cases adds
    · cases adds

theorem negate_simple {value negative : Value} (negates : value.negate = .ok negative) :
    Simple negative := by
  unfold Value.negate at negates
  split at negates
  · cases negates
    exact .float _
  · split at negates
    · cases negates
      exact .int _
    · cases negates

end Value

/-! ## Results of computations -/

namespace Run

open Value (Simple Plain Loose)

variable {α β : Type} {holds : α → Prop}

/-- Every result of the computation is of a kind. -/
def Gives (holds : α → Prop) (run : Run α) : Prop :=
  ∀ machine value after, run.outcome machine = (.ok value, after) → holds value

theorem gives_pure {value : α} (is : holds value) : Gives holds (pure value) := by
  rintro machine _ after ⟨⟩
  exact is

theorem gives_throw (stop : Stop) : Gives holds (throw stop : Run α) := by
  rintro machine _ after ⟨⟩

theorem gives_lift {result : Except Fault α} (each : ∀ value, result = .ok value → holds value) :
    Gives holds (lift result) := by
  cases result with
  | ok value => exact gives_pure (each value rfl)
  | error cause => exact gives_throw _

theorem gives_any (run : Run α) : Gives (fun _ => True) run :=
  fun _ _ _ _ => trivial

theorem Gives.bind {isGiven : β → Prop} {run : Run β} {next : β → Run α} (gives : Gives isGiven run)
    (givesNext : ∀ value, isGiven value → Gives holds (next value)) :
    Gives holds (run >>= next) := by
  intro machine value after ran
  rw [outcome_bind] at ran
  cases first : run.outcome machine with
  | mk result middle =>
      rw [first] at ran
      cases result with
      | error stop => cases ran
      | ok given => exact givesNext given (gives machine given middle first) middle value after ran

/-- A computation after one whose result does not matter. -/
theorem gives_after {run : Run β} {next : β → Run α}
    (givesNext : ∀ value, Gives holds (next value)) : Gives holds (run >>= next) :=
  (gives_any run).bind fun value _ => givesNext value

theorem gives_ite {condition : Prop} [Decidable condition] {run other : Run α}
    (gives : Gives holds run) (givesOther : Gives holds other) :
    Gives holds (if condition then run else other) := by
  split
  · exact gives
  · exact givesOther

theorem gives_plus {left right : Value} (isLeft : Loose left) (isRight : Loose right) :
    Gives Plain (plus left right) := by
  unfold plus
  split
  · exact gives_after fun _ => gives_after fun _ => gives_pure (.simple (.str _))
  · exact gives_after fun _ => gives_after fun _ => gives_pure (.simple (.str _))
  · exact gives_pure (.list (List.forall_mem_append.mpr ⟨isLeft.items, isRight.items⟩))
  · exact gives_throw _
  · exact gives_lift fun sum adds => isLeft.add isRight adds

theorem gives_quotient (left right : Value) : Gives Plain (quotient left right) := by
  refine gives_ite (gives_throw _) (gives_after fun dividend => gives_after fun divisor => ?_)
  exact gives_ite (gives_throw _) (gives_pure (.simple (.float _)))

theorem gives_asFloat (value : Value) : Gives Plain (asFloat value) :=
  gives_after fun _ => gives_pure (.simple (.float _))

theorem gives_operate (operator : Value) {left right : Value} (isLeft : Loose left)
    (isRight : Loose right) : Gives Plain (operate operator left right) := by
  unfold operate
  split
  · exact gives_plus isLeft isRight
  · exact gives_after gives_asFloat
  · exact gives_after gives_asFloat
  · exact gives_quotient left right
  · exact gives_pure (.simple (.bool _))
  · exact gives_pure (.simple (.bool _))
  · exact gives_after fun _ => gives_pure (.simple (.bool _))
  · exact gives_after fun _ => gives_pure (.simple (.bool _))
  · exact gives_after fun _ => gives_pure (.simple (.bool _))
  · exact gives_after fun _ => gives_pure (.simple (.bool _))
  · exact gives_throw _

theorem itemAt?_mem {items : List Value} {position : Int} {item : Value}
    (found : itemAt? items position = some item) : item ∈ items := by
  unfold itemAt? at found
  split at found
  · exact List.mem_of_getElem? found
  · split at found
    · exact List.mem_of_getElem? found
    · cases found

theorem gives_listItem {items : List Value} (each : ∀ item ∈ items, Plain item) (position : Int) :
    Gives Plain (listItem items position) := by
  unfold listItem
  split
  · next found => exact gives_pure (each _ (itemAt?_mem found))
  · exact gives_throw _

theorem gives_indexList {items : List Value} (each : ∀ item ∈ items, Plain item) (key : Value) :
    Gives Plain (indexList items key) := by
  unfold indexList
  split
  · exact gives_listItem each _
  · split
    · exact gives_listItem each _
    · exact gives_throw _
  · exact gives_throw _

theorem gives_indexDict {entries : List (Value × Value)} (values : ∀ entry ∈ entries, Plain entry.2)
    (key : Value) : Gives Plain (indexDict entries key) := by
  unfold indexDict
  split
  · exact gives_throw _
  · refine gives_after fun key => ?_
    split
    · next found =>
        obtain ⟨known, member⟩ := Table.mem_of_fetch? found
        exact gives_pure (values _ member)
    · exact gives_throw _

theorem gives_index {container : Value} (isLoose : Loose container) (key : Value) :
    Gives Plain (index container key) := by
  unfold index
  split
  · exact gives_indexList isLoose.items key
  · exact gives_indexDict isLoose.values key
  · exact gives_throw _

/-! ## Built-in functions -/

theorem gives_total {start : Value} (isStart : Loose start) {values : List Value}
    (each : ∀ value ∈ values, Plain value) : Gives Loose (total start values) := by
  induction values generalizing start with
  | nil => exact gives_pure isStart
  | cons value rest ih =>
      simp only [List.forall_mem_cons] at each
      refine Gives.bind (gives_lift fun sum adds => isStart.add (.plain each.1) adds) ?_
      exact fun sum isSum => ih (.plain isSum) each.2

theorem gives_supplyOf {value : Value} (isLoose : Loose value) :
    Gives (fun supply => ∃ items, supply = .feed (.items items) ∧ ∀ item ∈ items, Plain item)
      (supplyOf value) := by
  unfold supplyOf
  split
  · next supplies => exact gives_pure (isLoose.supply supplies)
  · exact gives_throw _

theorem gives_sumFrom {collection start : Value} (isCollection : Loose collection)
    (isStart : Loose start) : Gives Loose (sumFrom collection start) := by
  refine (gives_supplyOf isCollection).bind fun supply isSupply => ?_
  obtain ⟨items, rfl, each⟩ := isSupply
  split
  · exact gives_throw _
  · exact (gives_pure each).bind fun values isEach => gives_total isStart isEach

theorem gives_sumOf {arguments : List Value} (each : ∀ argument ∈ arguments, Loose argument) :
    Gives Loose (sumOf arguments) := by
  unfold sumOf
  split
  · exact gives_throw _
  · simp only [List.forall_mem_cons] at each
    exact gives_sumFrom each.1 (Simple.int 0).loose
  · simp only [List.forall_mem_cons] at each
    exact gives_sumFrom each.1 each.2.1
  · exact gives_throw _

theorem gives_lengthOf (arguments : List Value) : Gives Loose (lengthOf arguments) := by
  unfold lengthOf
  split
  · exact gives_after fun _ => gives_pure (Simple.int _).loose
  · exact gives_throw _

theorem gives_printValues (values : List Value) : Gives Loose (printValues values) :=
  gives_after fun _ => gives_after fun _ => gives_after fun _ => gives_pure Simple.null.loose

/-- The built-in functions that a program can name.  The other two are reserved words. -/
theorem gives_builtin? {name : String} {run : List Value → Run Value}
    (found : builtin? name = some run) (notRange : name ≠ "range")
    (notEnumerate : name ≠ "enumerate")
    {arguments : List Value} (each : ∀ argument ∈ arguments, Loose argument) :
    Gives Loose (run arguments) := by
  unfold builtin? at found
  split at found
  · exact absurd rfl notRange
  · cases found
    exact gives_sumOf each
  · cases found
    exact gives_lengthOf arguments
  · cases found
    exact gives_printValues arguments
  · exact absurd rfl notEnumerate
  · cases found

end Run

end Stepwise
