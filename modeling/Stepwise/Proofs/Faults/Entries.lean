import Stepwise.Proofs.Conditions
import Stepwise.Proofs.Values.Code

/-!
# Entries that are read

A value that is read as code is read at entries that its tag asks for, and so are the dictionaries in it.
`Place.needs` lists the entries that a dictionary needs in a place, and `Place.Reads` says which values in
it are read on.  A value `Misses` a name if it, or a dictionary in it that is read, lacks an entry of that
name which it needs.

The term that a value is read as holds a fault for each entry that is missing.  No other fault in it is
about a missing entry.
-/

namespace Stepwise

/-! ## Places -/

/-- The places in which a dictionary is read. -/
inductive Place where
  /-- Code. -/
  | term
  /-- The code of one entry in the code of a dictionary. -/
  | pair
  /-- The operator of an operation, which then is an operation of its own. -/
  | operator
  /-- A value that may stand for a quoted text. -/
  | text
  /-- The result of a body, which may be a return. -/
  | result
  deriving DecidableEq, Repr

namespace Place

/-- The entries that a dictionary needs. -/
def needs (place : Place) (entries : List (Value × Value)) : List String :=
  match place with
  | .term =>
    match nodeTag entries with
    | "string_literal" => ["value"]
    | "list" => ["items"]
    | "index" => ["container", "key"]
    | "operation" =>
      if Table.holds (.str "operand") entries then ["operator"] else ["left", "right", "operator"]
    | "function_call" => ["name", "arguments"]
    | _ => []
  | .pair => ["key", "value"]
  | .operator => ["operator", "left", "right"]
  | .text => if nodeTag entries = Value.textTag then ["value"] else []
  | .result => if nodeTag entries = Value.returnTag then ["value"] else []

/-- The entries of a dictionary that are read on, and in which places. -/
def parts (place : Place) (entries : List (Value × Value)) : List (String × Place) :=
  match place with
  | .term =>
    match nodeTag entries with
    | "index" => [("container", .term), ("key", .term)]
    | "operation" =>
      if Table.holds (.str "operand") entries then [("operand", .term)]
      else [("left", .term), ("right", .term), ("operator", .operator)]
    | _ => []
  | .pair => [("key", .term), ("value", .term)]
  | .operator => [("left", .term), ("right", .term)]
  | .text | .result => []

/-- The entries of a dictionary whose items are read on, and in which places. -/
def sequences (place : Place) (entries : List (Value × Value)) : List (String × Place) :=
  match place with
  | .term =>
    match nodeTag entries with
    | "list" => [("items", .term)]
    | "dict" => [("entries", .pair)]
    | "function_call" => [("arguments", .term)]
    | _ => []
  | _ => []

/-- A dictionary that is read in a place has a value in it that is read on in another place. -/
inductive Reads (place : Place) (entries : List (Value × Value)) : Place → Value → Prop where
  | part {name : String} {other : Place} {value : Value} (isPart : (name, other) ∈ place.parts entries)
      (found : Table.fetch? (.str name) entries = some value) : Reads place entries other value
  | item {name : String} {other : Place} {sequence value : Value} {values : List Value}
      (isSequence : (name, other) ∈ place.sequences entries)
      (found : Table.fetch? (.str name) entries = some sequence)
      (through : sequence.elements = .ok values) (member : value ∈ values) :
      Reads place entries other value

end Place

/-- A value that is read in a place lacks an entry of a name, itself or in a dictionary in it. -/
inductive Value.Misses : Place → Value → String → Prop where
  | own {place : Place} {entries : List (Value × Value)} {name : String}
      (needed : name ∈ place.needs entries) (absent : Table.fetch? (.str name) entries = none) :
      Misses place (.dict entries) name
  | inner {place other : Place} {entries : List (Value × Value)} {value : Value} {name : String}
      (reads : place.Reads entries other value) (misses : Misses other value name) :
      Misses place (.dict entries) name

/-- The tags that the language itself gives to dictionaries. -/
def Value.ownTags : List String :=
  Value.returnTag :: Term.tags

open Value (Misses)

/-- Whether what is read in a place depends on the tag. -/
def Place.byTag : Place → Bool
  | .term | .text | .result => true
  | .pair | .operator => false

section Tags

variable {place : Place} {entries : List (Value × Value)} {name : String}

theorem Place.tag_of_needs (byTag : place.byTag = true) (needed : name ∈ place.needs entries) :
    nodeTag entries ∈ Value.ownTags := by
  cases place with
  | term =>
      simp only [needs] at needed
      split at needed <;> simp_all [Value.ownTags, Term.tags, Value.textTag]
  | text =>
      simp only [needs] at needed
      split at needed <;> simp_all [Value.ownTags, Term.tags]
  | result =>
      simp only [needs] at needed
      split at needed <;> simp_all [Value.ownTags]
  | pair => cases byTag
  | operator => cases byTag

theorem Place.Reads.tag {other : Place} {value : Value} (byTag : place.byTag = true)
    (reads : place.Reads entries other value) : nodeTag entries ∈ Value.ownTags := by
  cases place with
  | term =>
      cases reads with
      | part isPart found =>
          simp only [parts] at isPart
          split at isPart <;> simp_all [Value.ownTags, Term.tags]
      | item isSequence found through member =>
          simp only [sequences] at isSequence
          split at isSequence <;> simp_all [Value.ownTags, Term.tags]
  | pair => cases byTag
  | operator => cases byTag
  | text | result =>
      cases reads with
      | part isPart => cases isPart
      | item isSequence => cases isSequence

/-- A value that lacks an entry has one of the language's own tags, wherever a tag decides what is
read. -/
theorem Value.Misses.tagged {value : Value} (misses : Misses place value name)
    (byTag : place.byTag = true) : ∃ tag ∈ Value.ownTags, value.hasTag tag = true := by
  have ofTag {entries : List (Value × Value)} (known : nodeTag entries ∈ Value.ownTags) :
      ∃ tag ∈ Value.ownTags, (Value.dict entries).hasTag tag = true := by
    have some : nodeTag entries ≠ "" := by
      intro none
      rw [none] at known
      exact absurd known (by decide)
    exact ⟨nodeTag entries, known, by rw [Value.hasTag_dict _ _ some, beq_self_eq_true]⟩
  cases misses with
  | own needed absent => exact ofTag (Place.tag_of_needs byTag needed)
  | inner reads inside => exact ofTag (reads.tag byTag)

end Tags

/-! ## Faults in terms -/

/-- If a fault is about a missing entry, then about one of some names. -/
def Fault.Within (missing : String → Prop) (cause : Fault) : Prop :=
  cause.kind = .key → ∃ name, cause = missingEntry name ∧ missing name

/-- Terms in which only entries of some names are missing. -/
inductive Term.Within (missing : String → Prop) : Term → Prop where
  | const (value : Value) : Within missing (.const value)
  | var (name : String) : Within missing (.var name)
  | fault {cause : Fault} (known : cause.Within missing) : Within missing (.fault cause)
  | after {first last : Term} (isFirst : Within missing first) (isLast : Within missing last) :
      Within missing (.after first last)
  | list {items : List Term} (each : ∀ item ∈ items, Within missing item) :
      Within missing (.list items)
  | dict {entries : List (Term × Term)} (keys : ∀ entry ∈ entries, Within missing entry.1)
      (values : ∀ entry ∈ entries, Within missing entry.2) : Within missing (.dict entries)
  | index {container key : Term} (inside : Within missing container) (isKey : Within missing key) :
      Within missing (.index container key)
  | negate {operand : Term} (inside : Within missing operand) : Within missing (.negate operand)
  | binary (operator : Value) {left right : Term} (isLeft : Within missing left)
      (isRight : Within missing right) : Within missing (.binary operator left right)
  | call (function : Value) {arguments : List Term}
      (each : ∀ argument ∈ arguments, Within missing argument) :
      Within missing (.call function arguments)

variable {missing other : String → Prop}

theorem Fault.Within.mono {cause : Fault} (known : cause.Within missing)
    (implies : ∀ name, missing name → other name) : cause.Within other := by
  intro isKey
  obtain ⟨name, same, isMissing⟩ := known isKey
  exact ⟨name, same, implies name isMissing⟩

theorem Fault.within_missingEntry {name : String} (isMissing : missing name) :
    (missingEntry name).Within missing :=
  fun _ => ⟨name, rfl, isMissing⟩

theorem Fault.within_of_kind {cause : Fault} (kind : cause.kind ≠ .key) : cause.Within missing :=
  fun isKey => absurd isKey kind

theorem Term.Within.mono {term : Term} (known : term.Within missing)
    (implies : ∀ name, missing name → other name) : term.Within other := by
  induction known with
  | const value => exact .const value
  | var name => exact .var name
  | fault known => exact .fault (known.mono implies)
  | after _ _ first last => exact .after first last
  | list _ each => exact .list each
  | dict _ _ keys values => exact .dict keys values
  | index _ _ container key => exact .index container key
  | negate _ operand => exact .negate operand
  | binary operator _ _ left right => exact .binary operator left right
  | call function _ each => exact .call function each

/-- Nothing is missing in the code of an expression. -/
theorem Term.Tame.within {term : Term} (tame : term.Tame) : term.Within missing := by
  induction tame with
  | const isLoose => exact .const _
  | var name => exact .var name
  | list _ each => exact .list each
  | dict _ _ keys values => exact .dict keys values
  | index _ _ container key => exact .index container key
  | negate _ operand => exact .negate operand
  | binary operator _ _ left right => exact .binary operator left right
  | call _ _ _ each => exact .call _ each

/-! ## Reading values as terms -/

namespace Term

theorem entryAt_eq (name : String) (entries : List (Value × Value)) :
    entryAt name entries = ofResult ofNode (entryOf name entries) := by
  induction entries with
  | nil => rfl
  | cons entry rest ih =>
      obtain ⟨key, value⟩ := entry
      rw [entryAt, entryOf, Table.fetch?]
      split
      · rfl
      · exact ih

theorem itemsAt_eq (name : String) (entries : List (Value × Value)) :
    itemsAt name entries = entryOf name entries >>= itemsOf := by
  induction entries with
  | nil => rfl
  | cons entry rest ih =>
      obtain ⟨key, value⟩ := entry
      rw [itemsAt, entryOf, Table.fetch?]
      split
      · rfl
      · exact ih

theorem pairsAt_eq (entries : List (Value × Value)) :
    pairsAt entries =
      match Table.fetch? (.str "entries") entries with
      | some value => pairsOf value
      | none => .ok [] := by
  induction entries with
  | nil => rfl
  | cons entry rest ih =>
      obtain ⟨key, value⟩ := entry
      rw [pairsAt, Table.fetch?]
      split
      · rfl
      · exact ih

theorem ofKeys_eq_map (entries : List (Value × Value)) :
    ofKeys entries = (Table.keys entries).map ofNode := by
  induction entries with
  | nil => rfl
  | cons entry rest ih => simp [ofKeys, Table.keys, ih]

theorem pairs_eq_map (nodes : List Value) : pairs nodes = nodes.map pairOf := by
  induction nodes with
  | nil => rfl
  | cons node rest ih => simp [pairs, ih]

theorem pairsOfKeys_eq_map (entries : List (Value × Value)) :
    pairsOfKeys entries = (Table.keys entries).map pairOf := by
  induction entries with
  | nil => rfl
  | cons entry rest ih => simp [pairsOfKeys, Table.keys, ih]

theorem eq_int_of_mem_rangeItems {step : Int} {count : Nat} {start : Int} {item : Value}
    (member : item ∈ Value.rangeItems step count start) : ∃ n, item = .int n := by
  induction count generalizing start with
  | zero => cases member
  | succ count ih =>
      rcases List.mem_cons.mp member with rfl | later
      · exact ⟨start, rfl⟩
      · exact ih later

theorem itemsOf_eq (value : Value) :
    itemsOf value = value.elements.map (List.map ofNode) := by
  cases value with
  | list items => exact congrArg Except.ok (ofNodes_eq_map items)
  | tuple items => exact congrArg Except.ok (ofNodes_eq_map items)
  | dict entries => exact congrArg Except.ok (ofKeys_eq_map entries)
  | str text =>
      refine congrArg Except.ok ?_
      rw [Feed.toList, Value.characters, List.map_map]
      rfl
  | range start stop step =>
      refine congrArg Except.ok (List.map_congr_left fun item member => ?_)
      obtain ⟨n, rfl⟩ := eq_int_of_mem_rangeItems member
      rfl
  | _ => rfl

theorem pairsOf_eq (value : Value) :
    pairsOf value = value.elements.map (List.map pairOf) := by
  cases value with
  | list items => exact congrArg Except.ok (pairs_eq_map items)
  | tuple items => exact congrArg Except.ok (pairs_eq_map items)
  | dict entries => exact congrArg Except.ok (pairsOfKeys_eq_map entries)
  | str text =>
      refine congrArg Except.ok ?_
      rw [Feed.toList, Value.characters, List.map_map]
      rfl
  | range start stop step =>
      refine congrArg Except.ok (List.map_congr_left fun item member => ?_)
      obtain ⟨n, rfl⟩ := eq_int_of_mem_rangeItems member
      rfl
  | _ => rfl

theorem within_ofNode_of_not_dict {value : Value} (notDict : ∀ entries, value ≠ .dict entries) :
    (ofNode value).Within missing := by
  cases value with
  | dict entries => exact absurd rfl (notDict entries)
  | str name => exact .var name
  | _ => exact .const _

/-- A result with a property, or with a fault about a missing entry of some names. -/
def Reading {α : Type} (missing : String → Prop) (holds : α → Prop) : Except Fault α → Prop
  | .ok value => holds value
  | .error cause => cause.Within missing

theorem Reading.bind {α β : Type} {holds : α → Prop} {holdsNext : β → Prop} {result : Except Fault α}
    {next : α → Except Fault β} (reading : Reading missing holds result)
    (readingNext : ∀ value, holds value → Reading missing holdsNext (next value)) :
    Reading missing holdsNext (result >>= next) := by
  cases result with
  | ok value => exact readingNext value reading
  | error cause => exact reading

theorem Reading.imp {α : Type} {holds other : α → Prop} {result : Except Fault α}
    (reading : Reading missing holds result) (implies : ∀ value, holds value → other value) :
    Reading missing other result := by
  cases result with
  | ok value => exact implies value reading
  | error cause => exact reading

theorem Reading.ofResult {α : Type} {build : α → Term} {result : Except Fault α}
    (reading : Reading missing (fun value => (build value).Within missing) result) :
    (ofResult build result).Within missing := by
  cases result with
  | ok value => exact reading
  | error cause => exact .fault reading

/-- Running through a value, with everything in it read. -/
theorem reading_elements {α : Type} {holds : α → Prop} (read : Value → α) (value : Value)
    (each : ∀ values, value.elements = .ok values → ∀ item ∈ values, holds (read item)) :
    Reading missing (fun results => ∀ result ∈ results, holds result)
      (value.elements.map (List.map read)) := by
  cases through : value.elements with
  | ok values => exact List.forall_mem_map.mpr (each values through)
  | error cause =>
      rw [Value.elements] at through
      split at through
      · cases through
      · cases through
        exact Fault.within_of_kind nofun

section Entries

variable {place : Place} {entries : List (Value × Value)} {name : String}

theorem reading_entryOf
    (needed : name ∈ place.needs entries ∨ Table.holds (.str name) entries = true) :
    Reading (Misses place (.dict entries)) (fun value => Table.fetch? (.str name) entries = some value)
      (entryOf name entries) := by
  rw [entryOf]
  cases found : Table.fetch? (.str name) entries with
  | some value => rfl
  | none =>
      rcases needed with needed | holds
      · exact Fault.within_missingEntry (.own needed found)
      · rw [Table.holds, found] at holds
        cases holds

variable (each : ∀ value, place.Reads entries .term value → (ofNode value).Within (Misses .term value))
include each

/-- An entry that is read on as code. -/
theorem within_entryAt (isPart : (name, .term) ∈ place.parts entries)
    (needed : name ∈ place.needs entries ∨ Table.holds (.str name) entries = true) :
    (entryAt name entries).Within (Misses place (.dict entries)) := by
  rw [entryAt_eq]
  have reading := reading_entryOf needed
  cases found : entryOf name entries with
  | error cause =>
      rw [found] at reading
      exact .fault reading
  | ok value =>
      rw [found] at reading
      have reads : place.Reads entries .term value := .part isPart reading
      exact (each value reads).mono fun _ misses => .inner reads misses

/-- The items of an entry that are read on as code. -/
theorem reading_itemsAt (isSequence : (name, .term) ∈ place.sequences entries)
    (needed : name ∈ place.needs entries) :
    Reading (Misses place (.dict entries))
      (fun terms => ∀ term ∈ terms, Term.Within (Misses place (.dict entries)) term)
      (itemsAt name entries) := by
  rw [itemsAt_eq]
  refine (reading_entryOf (.inl needed)).bind fun sequence found => ?_
  rw [itemsOf_eq]
  refine reading_elements ofNode sequence fun values through value member => ?_
  have reads : place.Reads entries .term value := .item isSequence found through member
  exact (each value reads).mono fun _ misses => .inner reads misses

end Entries

theorem sizeOf_fetch {key value : Value} {entries : List (Value × Value)}
    (found : Table.fetch? key entries = some value) : sizeOf value < sizeOf entries := by
  obtain ⟨known, member⟩ := Table.mem_of_fetch? found
  have entry := List.sizeOf_lt_of_mem member
  simp only [Prod.mk.sizeOf_spec] at entry
  omega

theorem sizeOf_elements {value : Value} {values : List Value} {entries : List (Value × Value)}
    (through : value.elements = .ok values) (member : .dict entries ∈ values) :
    sizeOf (Value.dict entries) < sizeOf value := by
  cases value with
  | list items =>
      cases through
      have isItem : .dict entries ∈ items := member
      have smaller := List.sizeOf_lt_of_mem isItem
      simp only [Value.list.sizeOf_spec]
      omega
  | tuple items =>
      cases through
      have isItem : .dict entries ∈ items := member
      have smaller := List.sizeOf_lt_of_mem isItem
      simp only [Value.tuple.sizeOf_spec]
      omega
  | dict others =>
      cases through
      obtain ⟨⟨key, value⟩, isEntry, rfl⟩ := List.mem_map.mp member
      have smaller := List.sizeOf_lt_of_mem isEntry
      simp only [Prod.mk.sizeOf_spec] at smaller
      simp only [Value.dict.sizeOf_spec] at smaller ⊢
      omega
  | str text =>
      cases through
      obtain ⟨c, _, same⟩ := List.mem_map.mp member
      cases same
  | range start stop step =>
      cases through
      obtain ⟨n, same⟩ := eq_int_of_mem_rangeItems member
      cases same
  | _ => cases through

/-- Dictionaries in a dictionary that are read on are smaller. -/
theorem sizeOf_reads {place other : Place} {entries inner : List (Value × Value)}
    (reads : place.Reads entries other (.dict inner)) : sizeOf inner < sizeOf entries := by
  have size : sizeOf inner < sizeOf (Value.dict inner) := by
    simp only [Value.dict.sizeOf_spec]
    omega
  cases reads with
  | part isPart found => exact Nat.lt_trans size (sizeOf_fetch found)
  | item isSequence found through member =>
      exact Nat.lt_trans size (Nat.lt_trans (sizeOf_elements through member) (sizeOf_fetch found))

/-- The code of one entry of a dictionary. -/
theorem within_pairOf {value : Value}
    (each : ∀ entries, value = .dict entries → ∀ inner, Place.pair.Reads entries .term inner →
      (ofNode inner).Within (Misses .term inner)) :
    (pairOf value).1.Within (Misses .pair value) ∧ (pairOf value).2.Within (Misses .pair value) := by
  cases value with
  | dict entries =>
      have reads := each entries rfl
      exact ⟨within_entryAt reads (by simp [Place.parts]) (.inl (by simp [Place.needs])),
        within_entryAt reads (by simp [Place.parts]) (.inl (by simp [Place.needs]))⟩
  | _ => exact ⟨.fault (Fault.within_of_kind nofun), .fault (Fault.within_of_kind nofun)⟩

/-- A dictionary in the place of an operator. -/
theorem within_operationFrom {entries : List (Value × Value)}
    (each : ∀ inner, Place.operator.Reads entries .term inner →
      (ofNode inner).Within (Misses .term inner)) :
    (operationFrom entries).Within (Misses .operator (.dict entries)) := by
  have left : (entryAt "left" entries).Within (Misses .operator (.dict entries)) :=
    within_entryAt each (by simp [Place.parts]) (.inl (by simp [Place.needs]))
  have right : (entryAt "right" entries).Within (Misses .operator (.dict entries)) :=
    within_entryAt each (by simp [Place.parts]) (.inl (by simp [Place.needs]))
  have reading : Reading (Misses .operator (.dict entries)) _ (entryOf "operator" entries) :=
    reading_entryOf (.inl (by simp [Place.needs]))
  rw [operationFrom]
  cases found : entryOf "operator" entries with
  | error cause =>
      rw [found] at reading
      exact .fault reading
  | ok operator => exact .binary operator left right

/-! ## Dictionaries as code -/

section Dictionaries

variable {entries : List (Value × Value)}
  (smaller : ∀ inner : List (Value × Value), sizeOf inner < sizeOf entries →
    (ofNode (.dict inner)).Within (Misses .term (.dict inner)))
include smaller

theorem within_reads {place : Place} {outer : List (Value × Value)}
    (size : sizeOf outer ≤ sizeOf entries) (value : Value) (reads : place.Reads outer .term value) :
    (ofNode value).Within (Misses .term value) := by
  cases value with
  | dict inner => exact smaller inner (Nat.lt_of_lt_of_le (sizeOf_reads reads) size)
  | _ => exact within_ofNode_of_not_dict nofun

theorem reading_pairsAt (tagged : nodeTag entries = "dict") :
    Reading (Misses .term (.dict entries)) (fun pairs => ∀ pair ∈ pairs,
      Term.Within (Misses .term (.dict entries)) pair.1 ∧
        Term.Within (Misses .term (.dict entries)) pair.2) (pairsAt entries) := by
  rw [pairsAt_eq]
  cases found : Table.fetch? (.str "entries") entries with
  | none => exact fun _ member => by cases member
  | some sequence =>
      change Reading _ _ (pairsOf sequence)
      rw [pairsOf_eq]
      refine reading_elements pairOf sequence fun values through value member => ?_
      have reads : Place.term.Reads entries .pair value :=
        .item (by simp [Place.sequences, tagged]) found through member
      have within : (pairOf value).1.Within (Misses .pair value) ∧
          (pairOf value).2.Within (Misses .pair value) := by
        refine within_pairOf ?_
        rintro inner rfl
        exact within_reads smaller (Nat.le_of_lt (sizeOf_reads reads))
      exact ⟨within.1.mono fun _ misses => .inner reads misses,
        within.2.mono fun _ misses => .inner reads misses⟩

theorem within_unaryTerm (tagged : nodeTag entries = "operation")
    (unary : Table.holds (.str "operand") entries = true) :
    (unaryTerm (entryOf "operator" entries) (entryAt "operand" entries) (.dict entries)).Within
      (Misses .term (.dict entries)) := by
  have operand : (entryAt "operand" entries).Within (Misses .term (.dict entries)) :=
    within_entryAt (within_reads smaller (Nat.le_refl _)) (by simp [Place.parts, tagged, unary])
      (.inr unary)
  have reading : Reading (Misses .term (.dict entries)) _ (entryOf "operator" entries) :=
    reading_entryOf (.inl (by simp [Place.needs, tagged, unary]))
  cases found : entryOf "operator" entries with
  | error cause =>
      rw [found] at reading
      exact .after operand (.fault reading)
  | ok operator =>
      rw [unaryTerm]
      split
      · exact .negate operand
      · exact .after operand (.const _)

theorem within_operatorAt (tagged : nodeTag entries = "operation")
    (binary : Table.holds (.str "operand") entries = false) :
    (operatorAt (entryAt "left" entries) (entryAt "right" entries) entries).Within
      (Misses .term (.dict entries)) := by
  have own : ∀ value, Place.term.Reads entries .term value → _ :=
    within_reads smaller (Nat.le_refl _)
  have left : (entryAt "left" entries).Within (Misses .term (.dict entries)) :=
    within_entryAt own (by simp [Place.parts, tagged, binary])
      (.inl (by simp [Place.needs, tagged, binary]))
  have right : (entryAt "right" entries).Within (Misses .term (.dict entries)) :=
    within_entryAt own (by simp [Place.parts, tagged, binary])
      (.inl (by simp [Place.needs, tagged, binary]))
  have reading : Reading (Misses .term (.dict entries)) _ (entryOf "operator" entries) :=
    reading_entryOf (.inl (by simp [Place.needs, tagged, binary]))
  rw [operatorAt_eq]
  cases found : entryOf "operator" entries with
  | error cause =>
      rw [found] at reading
      exact .after left (.after right (.fault reading))
  | ok operator =>
      rw [found] at reading
      cases operator with
      | dict inner =>
          have reads : Place.term.Reads entries .operator (.dict inner) :=
            .part (by simp [Place.parts, tagged, binary]) reading
          have operation := within_operationFrom
            (within_reads smaller (Nat.le_of_lt (sizeOf_reads reads)))
          exact .after left (.after right (operation.mono fun _ misses => .inner reads misses))
      | _ => exact .binary _ left right

theorem within_callTerm (tagged : nodeTag entries = "function_call") :
    (callTerm (entryOf "name" entries) (itemsAt "arguments" entries)).Within
      (Misses .term (.dict entries)) := by
  have named : Reading (Misses .term (.dict entries)) _ (entryOf "name" entries) :=
    reading_entryOf (.inl (by simp [Place.needs, tagged]))
  have items : Reading (Misses .term (.dict entries)) _ (itemsAt "arguments" entries) :=
    reading_itemsAt (within_reads smaller (Nat.le_refl _)) (by simp [Place.sequences, tagged])
      (by simp [Place.needs, tagged])
  revert named items
  cases entryOf "name" entries with
  | error cause => exact fun named _ => .fault named
  | ok function =>
      cases itemsAt "arguments" entries with
      | error cause => exact fun _ items => .fault items
      | ok arguments => exact fun _ items => .call function items

theorem within_dict : (ofNode (.dict entries)).Within (Misses .term (.dict entries)) := by
  have own : ∀ value, Place.term.Reads entries .term value → _ :=
    within_reads smaller (Nat.le_refl _)
  rw [ofNode]
  split
  · next tagged =>
      have reading : Reading (Misses .term (.dict entries)) _ (entryOf "value" entries) :=
        reading_entryOf (.inl (by simp [Place.needs, tagged]))
      exact Reading.ofResult (reading.imp fun value _ => .const value)
  · next tagged =>
      refine Reading.ofResult (Reading.imp ?_ fun terms each => .list each)
      exact reading_itemsAt own (by simp [Place.sequences, tagged]) (by simp [Place.needs, tagged])
  · next tagged =>
      refine Reading.ofResult ((reading_pairsAt smaller tagged).imp fun pairs each => ?_)
      exact .dict (fun pair member => (each pair member).1) fun pair member => (each pair member).2
  · next tagged =>
      refine .index (within_entryAt own ?_ (.inl ?_)) (within_entryAt own ?_ (.inl ?_)) <;>
        simp [Place.parts, Place.needs, tagged]
  · next tagged =>
      split
      · next unary => exact within_unaryTerm smaller tagged unary
      · next binary => exact within_operatorAt smaller tagged (by simpa using binary)
  · next tagged => exact within_callTerm smaller tagged
  · exact .const _

end Dictionaries

/-- The faults in the code that a value is read as are about entries that it lacks, or not about missing
entries at all. -/
theorem within_ofNode (value : Value) : (ofNode value).Within (Misses .term value) := by
  induction size : sizeOf value using Nat.strongRecOn generalizing value with
  | _ n ih =>
      cases value with
      | dict entries =>
          refine within_dict fun inner isSmaller => ih _ ?_ (.dict inner) rfl
          simp only [Value.dict.sizeOf_spec] at size ⊢
          omega
      | _ => exact within_ofNode_of_not_dict nofun

end Term

end Stepwise
