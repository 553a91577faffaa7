import Stepwise.Machine.Node
import Stepwise.Proofs.Conditions
import Stepwise.Proofs.Definitions
import Stepwise.Proofs.Values.Whole

/-!
# Indexing

An index expression finds an item of a list exactly if its key stands for a position in the list.  A key
stands for a position if it is the same as an integer and no truth value.  Every other key is refused with
a report, and so is everything that is neither a list nor a dictionary.  Only a value with too many digits
to be shown keeps a report from being made.  In a chain of indices this holds of every link, and a link
that is refused stops the chain.

A plain look-up takes the same containers, but its keys are not converted.  It differs from an index
expression only for truth values and floating point numbers as keys of lists, and for keys of dictionaries
that stand for quoted texts.
-/

namespace Stepwise

/-! ## Keys and positions -/

/-- The key stands for a position in a list: it is the same as an integer, and no truth value. -/
def Value.IsPosition (key : Value) (position : Int) : Prop :=
  (∀ flag, key ≠ .bool flag) ∧ key.same (.int position) = true

/-- A list of this length has an item at the position, which counts from the end if it is negative. -/
def Within (length : Nat) (position : Int) : Prop :=
  -(length : Int) ≤ position ∧ position < length

instance (length : Nat) (position : Int) : Decidable (Within length position) :=
  inferInstanceAs (Decidable (_ ∧ _))

namespace Value

theorem isPosition_int {n position : Int} : (Value.int n).IsPosition position ↔ n = position := by
  simp [IsPosition, same, sameInt]

theorem isPosition_float {x : Float} {position : Int} :
    (Value.float x).IsPosition position ↔
      Number.isWhole x = true ∧ Number.truncate? x = some position := by
  rw [Number.whole_iff]
  simp [IsPosition, same, sameFloat]

theorem not_isPosition_bool {flag : Bool} {position : Int} : ¬(Value.bool flag).IsPosition position :=
  fun isPosition => isPosition.1 flag rfl

/-- Only integers and floating point numbers stand for positions. -/
theorem IsPosition.int_or_float {key : Value} {position : Int} (isPosition : key.IsPosition position) :
    key = .int position ∨ ∃ x, key = .float x := by
  cases key with
  | int n => exact .inl (congrArg Value.int (isPosition_int.mp isPosition))
  | float x => exact .inr ⟨x, rfl⟩
  | bool flag => exact absurd isPosition not_isPosition_bool
  | _ => cases isPosition.2

theorem IsPosition.unique {key : Value} {position other : Int} (isPosition : key.IsPosition position)
    (isOther : key.IsPosition other) : position = other := by
  rcases isPosition.int_or_float with rfl | ⟨x, rfl⟩
  · exact isPosition_int.mp isOther
  · exact Option.some.inj
      ((isPosition_float.mp isPosition).2.symm.trans (isPosition_float.mp isOther).2)

/-- A position has a text if the key has one, and the other way around. -/
theorem IsPosition.speakable {key : Value} {position : Int} (isPosition : key.IsPosition position) :
    key.speakable = (Value.int position).speakable := by
  rcases isPosition.int_or_float with rfl | ⟨x, rfl⟩
  · rfl
  · exact (Number.fewDigits_truncate (isPosition_float.mp isPosition).2).symm

theorem not_hashable_of_hasTag {value : Value} {tag : String} (tagged : value.hasTag tag = true) :
    ¬value.Hashable := by
  cases value with
  | dict entries => exact fun hashable => (by cases hashable)
  | _ => cases tagged

theorem unwrapped_of_hashable {value : Value} (hashable : value.Hashable) :
    value.unwrapped = .ok value :=
  if_neg fun tagged => not_hashable_of_hasTag tagged hashable

end Value

namespace Run

end Run

/-! ## Refusals -/

/-- The stop is a report on a run, and its message begins with a text. -/
def Stop.Says (text : String) (stop : Stop) : Prop :=
  ∃ rest task step state, stop = .report (.running (.str (text ++ rest)) task step state)

/-- The stop is a report that begins with a text and shows some values, unless one of them has too many
digits to be shown. -/
def Stop.Refuses (text : String) (shown : List Value) (stop : Stop) : Prop :=
  if shown.all Value.speakable then stop.Says text else stop = .fault .digitsShown

namespace Failure

theorem speakableEntries_record (fields : List (String × Value)) :
    Value.speakableEntries (fields.map fun field => (.str field.1, field.2)) =
      fields.all fun field => field.2.speakable := by
  induction fields with
  | nil => rfl
  | cons field rest ih => simp [Value.speakableEntries, Value.speakable, ih]

/-- A failure whose report shows some values stops with the report, if all of them have texts. -/
theorem stop_of_report {failure : Failure} {message : String} {field : String × Value}
    {fields : List (String × Value)}
    (words : failure.report = .ok (plainReport message (field :: fields))) :
    failure.stop =
      if (field :: fields).all fun field => field.2.speakable then
        .report (plainReport message (field :: fields))
      else .fault .digitsShown := by
  rw [Failure.stop, words, ← speakableEntries_record]
  exact Run.running_stop message _ _

theorem refuses_of_report {failure : Failure} {message text rest : String} {field : String × Value}
    {fields : List (String × Value)} {shown : List Value}
    (words : failure.report = .ok (plainReport message (field :: fields)))
    (opens : text ++ rest = message)
    (all : ((field :: fields).all fun field => field.2.speakable) = shown.all Value.speakable) :
    failure.stop.Refuses text shown := by
  rw [Stop.Refuses, stop_of_report words, all]
  split
  · exact ⟨rest, .null, .null, .record (field :: fields), opens ▸ rfl⟩
  · rfl

theorem append_of_opens {text opening full : String} (opens : text ++ opening = full) (rest : String) :
    text ++ (opening ++ rest) = full ++ rest := by
  rw [← String.append_assoc, opens]

theorem refuses_badListKey (key : Value) :
    (badListKey key).stop.Refuses "Invalid index/key: " [key] := by
  have opens : "Invalid index/key: " ++ "List indices must be integers, got " =
    "Invalid index/key: List indices must be integers, got " := rfl
  refine refuses_of_report rfl (append_of_opens opens _) ?_
  simp [Value.speakable]

theorem refuses_fractionalListKey (x : Float) :
    (fractionalListKey (.float x)).stop.Refuses "Invalid index/key: " [.float x] := by
  have opens : "Invalid index/key: " ++ "List indices must be whole numbers, got " =
    "Invalid index/key: List indices must be whole numbers, got " := rfl
  exact refuses_of_report rfl (append_of_opens opens _) rfl

end Failure

namespace Run

variable {machine after : Machine} {value : Value}

/-! ## Looking into a container -/

theorem outcome_fail {α : Type} (failure : Failure) (machine : Machine) :
    (fail failure : Run α).outcome machine = (.error failure.stop, machine) :=
  rfl

theorem still_lookUp (container key : Value) : Still (lookUp container key) := by
  unfold lookUp
  split
  · split
    · exact still_throw _
    · split
      · exact still_pure _
      · exact still_throw _
  · refine (still_lift _).bind fun key => ?_
    split
    · exact still_pure _
    · exact still_throw _
  · exact still_throw _

theorem outcome_listItem_eq_ok_iff {items : List Value} {position : Int} :
    (listItem items position).outcome machine = (.ok value, after) ↔
      itemAt? items position = some value ∧ machine = after := by
  rw [listItem]
  cases itemAt? items position with
  | none => simp [outcome_fail]
  | some found => simp [outcome_pure]

/-- A key that stands for a position is looked up there. -/
theorem indexList_of_isPosition {key : Value} {position : Int} (isPosition : key.IsPosition position)
    (items : List Value) : indexList items key = listItem items position := by
  rcases isPosition.int_or_float with rfl | ⟨x, rfl⟩
  · rfl
  · obtain ⟨whole, truncated⟩ := Value.isPosition_float.mp isPosition
    simp only [indexList, whole, truncated]

/-- A key that stands for no position is refused. -/
theorem indexList_of_not_isPosition {key : Value} (noPosition : ∀ position, ¬key.IsPosition position)
    (items : List Value) :
    ∃ failure, indexList items key = fail failure ∧ failure.stop.Refuses "Invalid index/key: " [key] := by
  unfold indexList
  split
  · next n => exact absurd (Value.isPosition_int.mpr rfl) (noPosition n)
  · next x =>
      split
      · next position whole truncated =>
          exact absurd (Value.isPosition_float.mpr ⟨whole, truncated⟩) (noPosition position)
      · exact ⟨_, rfl, Failure.refuses_fractionalListKey x⟩
  · exact ⟨_, rfl, Failure.refuses_badListKey key⟩

theorem outcome_indexList_eq_ok_iff {items : List Value} {key : Value} :
    (indexList items key).outcome machine = (.ok value, after) ↔
      (∃ position, key.IsPosition position ∧ itemAt? items position = some value) ∧ machine = after := by
  by_cases stands : ∃ position, key.IsPosition position
  · obtain ⟨position, isPosition⟩ := stands
    rw [indexList_of_isPosition isPosition, outcome_listItem_eq_ok_iff]
    refine and_congr_left fun _ => ⟨fun there => ⟨position, isPosition, there⟩, ?_⟩
    rintro ⟨other, isOther, there⟩
    rwa [isPosition.unique isOther]
  · obtain ⟨failure, fails, -⟩ := indexList_of_not_isPosition (not_exists.mp stands) items
    rw [fails, outcome_fail]
    refine ⟨fun ends => (by cases ends), ?_⟩
    rintro ⟨⟨position, isPosition, -⟩, -⟩
    exact absurd ⟨position, isPosition⟩ stands

/-- A value is found in a dictionary exactly if it is the value of a hashable key. -/
theorem outcome_fetch_eq_ok_iff {entries : List (Value × Value)} {key : Value}
    {failure : Value → Failure} :
    (do
      let key ← lift key.asKey
      match Table.fetch? key entries with
      | some value => pure value
      | none => fail (failure key) : Run Value).outcome machine = (.ok value, after) ↔
      (key.Hashable ∧ Table.fetch? key entries = some value) ∧ machine = after := by
  cases hashes : key.asKey with
  | error cause =>
      refine ⟨fun ends => (by cases ends), ?_⟩
      rintro ⟨⟨hashable, -⟩, -⟩
      rw [Value.asKey_eq_ok_iff.mpr ⟨rfl, hashable⟩] at hashes
      cases hashes
  | ok usable =>
      obtain ⟨rfl, hashable⟩ := Value.asKey_eq_ok_iff.mp hashes
      rw [show (lift (.ok usable) : Run Value) = pure usable from rfl, pure_bind]
      cases Table.fetch? usable entries with
      | none => simp [outcome_fail]
      | some found => simp [outcome_pure, hashable]

theorem outcome_lookUp_dict_eq_ok_iff {entries : List (Value × Value)} {key : Value} :
    (lookUp (.dict entries) key).outcome machine = (.ok value, after) ↔
      (key.Hashable ∧ Table.fetch? key entries = some value) ∧ machine = after :=
  outcome_fetch_eq_ok_iff

theorem outcome_indexDict_eq_ok_iff {entries : List (Value × Value)} {key : Value} :
    (indexDict entries key).outcome machine = (.ok value, after) ↔
      (∃ plain, key.unwrapped = .ok plain ∧ plain.Hashable ∧ Table.fetch? plain entries = some value) ∧
        machine = after := by
  rw [indexDict]
  cases key.unwrapped with
  | error cause => simp [outcome_fail]
  | ok plain => exact outcome_fetch_eq_ok_iff.trans (by simp)

theorem outcome_lookUp_list_eq_ok_iff {items : List Value} {key : Value} :
    (lookUp (.list items) key).outcome machine = (.ok value, after) ↔
      (∃ position, key.asInt? = some position ∧ itemAt? items position = some value) ∧
        machine = after := by
  rw [lookUp]
  cases key.asInt? with
  | none => exact ⟨fun ends => (by cases ends), by simp⟩
  | some position =>
      cases there : itemAt? items position with
      | none => simp [outcome_fail, there]
      | some found => simp [outcome_pure, there]

/-- What a plain look-up finds, an index expression finds too, unless a truth value is a position. -/
theorem outcome_index_of_lookUp {container key : Value}
    (looks : (lookUp container key).outcome machine = (.ok value, after)) :
    (index container key).outcome machine = (.ok value, after) ↔
      ¬((∃ items, container = .list items) ∧ ∃ flag, key = .bool flag) := by
  cases container with
  | list items =>
      obtain ⟨⟨position, stands, there⟩, rfl⟩ := outcome_lookUp_list_eq_ok_iff.mp looks
      rw [index, outcome_indexList_eq_ok_iff]
      cases key with
      | int n =>
          obtain rfl := Option.some.inj stands
          simp [Value.isPosition_int, there]
      | bool flag => simp [Value.not_isPosition_bool]
      | _ => cases stands
  | dict entries =>
      obtain ⟨⟨hashable, there⟩, rfl⟩ := outcome_lookUp_dict_eq_ok_iff.mp looks
      rw [index, outcome_indexDict_eq_ok_iff]
      simp [Value.unwrapped_of_hashable hashable, hashable, there]
  | _ => cases looks

/-- What an index expression finds, a plain look-up finds too, unless the key is a floating point
number or stands for a quoted text. -/
theorem outcome_lookUp_of_index {container key : Value}
    (indexes : (index container key).outcome machine = (.ok value, after)) :
    (lookUp container key).outcome machine = (.ok value, after) ↔
      ¬((∃ items, container = .list items) ∧ (∃ x, key = .float x) ∨
        (∃ entries, container = .dict entries) ∧ key.hasTag Value.textTag = true) := by
  cases container with
  | list items =>
      obtain ⟨⟨position, isPosition, there⟩, rfl⟩ := outcome_indexList_eq_ok_iff.mp indexes
      rw [outcome_lookUp_list_eq_ok_iff]
      rcases isPosition.int_or_float with rfl | ⟨x, rfl⟩
      · simp [Value.asInt?, there]
      · simp [Value.asInt?]
  | dict entries =>
      obtain ⟨⟨plain, unwrapped, hashable, there⟩, rfl⟩ := outcome_indexDict_eq_ok_iff.mp indexes
      rw [outcome_lookUp_dict_eq_ok_iff]
      cases tagged : key.hasTag Value.textTag with
      | true => simp [Value.not_hashable_of_hasTag tagged]
      | false =>
          rw [Value.unwrapped, tagged] at unwrapped
          obtain rfl := Except.ok.inj unwrapped
          simp [hashable, there]
  | _ => cases indexes

/-! ## Index expressions -/

/-- The node of an index expression. -/
def indexNode (container key : Value) : Value :=
  .record [("type", .str "index"), ("container", container), ("key", key)]

theorem evalNode_indexNode (container key : Value) :
    evalNode (indexNode container key) = (do
      let container ← evalNode container
      let key ← evalNode key
      index container key) :=
  rfl

theorem lookUpNode_indexNode (container key : Value) :
    lookUpNode (indexNode container key) = (do
      let container ← evalNode container
      let key ← evalNode key
      lookUp container key) :=
  rfl

section Operands

variable {container key held found : Value} {reached finish : Machine} {next : Value → Value → Run Value}

theorem outcome_operands
    (reaches : (evalNode container).outcome machine = (.ok held, reached))
    (keyed : (evalNode key).outcome reached = (.ok found, finish)) :
    (do
      let container ← evalNode container
      let key ← evalNode key
      next container key : Run Value).outcome machine = (next held found).outcome finish := by
  rw [bind_eq_of_ok reaches, bind_eq_of_ok keyed]

theorem operands_of_ok (still : ∀ held found, Still (next held found))
    (ends : (do
      let container ← evalNode container
      let key ← evalNode key
      next container key : Run Value).outcome machine = (.ok value, after)) :
    ∃ held found reached, (evalNode container).outcome machine = (.ok held, reached) ∧
      (evalNode key).outcome reached = (.ok found, after) ∧
      (next held found).outcome after = (.ok value, after) := by
  obtain ⟨held, reached, reaches, ends⟩ := bind_ok ends
  obtain ⟨found, finish, keyed, ends⟩ := bind_ok ends
  obtain rfl : finish = after := by
    obtain ⟨result, unchanged⟩ := still held found
    exact (Prod.mk.inj ((unchanged finish).symm.trans ends)).2
  exact ⟨held, found, reached, reaches, keyed, ends⟩

end Operands

section Chain

variable {container key level found : Value} {before : List Value} {reached finish : Machine}

end Chain

/-- What a plain look-up finds, an index expression finds on the same machine afterwards, unless the key of
a list is a truth value.  What an index expression finds, a plain look-up finds, unless the key of a list
is a floating point number or the key of a dictionary stands for a quoted text. -/
theorem lookUpNode_agrees_unless (container key : Value) (machine after : Machine) (value : Value) :
    ((lookUpNode (indexNode container key)).outcome machine = (.ok value, after) →
      ∃ held found reached, (evalNode container).outcome machine = (.ok held, reached) ∧
        (evalNode key).outcome reached = (.ok found, after) ∧
        ((evalNode (indexNode container key)).outcome machine = (.ok value, after) ↔
          ¬((∃ items, held = .list items) ∧ ∃ flag, found = .bool flag))) ∧
    ((evalNode (indexNode container key)).outcome machine = (.ok value, after) →
      ∃ held found reached, (evalNode container).outcome machine = (.ok held, reached) ∧
        (evalNode key).outcome reached = (.ok found, after) ∧
        ((lookUpNode (indexNode container key)).outcome machine = (.ok value, after) ↔
          ¬((∃ items, held = .list items) ∧ (∃ x, found = .float x) ∨
            (∃ entries, held = .dict entries) ∧ found.hasTag Value.textTag = true))) := by
  rw [lookUpNode_indexNode, evalNode_indexNode]
  constructor
  · intro ends
    obtain ⟨held, found, reached, reaches, keyed, looks⟩ := operands_of_ok still_lookUp ends
    refine ⟨held, found, reached, reaches, keyed, ?_⟩
    rw [outcome_operands reaches keyed]
    exact outcome_index_of_lookUp looks
  · intro ends
    obtain ⟨held, found, reached, reaches, keyed, indexes⟩ := operands_of_ok still_index ends
    refine ⟨held, found, reached, reaches, keyed, ?_⟩
    rw [outcome_operands reaches keyed]
    exact outcome_lookUp_of_index indexes

theorem lookUpNode_agrees_unless_texts :
    let machine : Machine := { Machine.fresh ⟨false, .standard, 5⟩ none with
      «variables» := [(.str "xs", .list [.str "a", .str "b"]), (.str "d", .dict [(.str "k", .str "b")]),
        (.str "w", .textLiteral (.str "k"))] }
    let found : Except Stop Value × Machine := (.ok (.str "b"), machine)
    let looksUp container key := (lookUpNode (indexNode (.str container) key)).outcome machine
    let indexes container key := (evalNode (indexNode (.str container) key)).outcome machine
    (looksUp "xs" (.bool true) = found ∧ indexes "xs" (.bool true) ≠ found) ∧
      indexes "d" (.str "w") = found ∧ looksUp "d" (.str "w") ≠ found := by
  intro machine found looksUp indexes
  have looks : looksUp "xs" (.bool true) = found := rfl
  have finds : indexes "d" (.str "w") = found := rfl
  obtain ⟨held, key, reached, reaches, keyed, same⟩ :=
    (lookUpNode_agrees_unless (.str "xs") (.bool true) machine machine (.str "b")).1 looks
  obtain ⟨held', key', reached', reaches', keyed', same'⟩ :=
    (lookUpNode_agrees_unless (.str "d") (.str "w") machine machine (.str "b")).2 finds
  cases reaches
  cases keyed
  cases reaches'
  cases keyed'
  refine ⟨⟨looks, fun agrees => same.mp agrees ⟨⟨_, rfl⟩, _, rfl⟩⟩, finds, fun agrees => ?_⟩
  exact same'.mp agrees (.inr ⟨⟨_, rfl⟩, rfl⟩)

end Run

end Stepwise
