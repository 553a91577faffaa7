import Stepwise.Proofs.Values.Numeral
import Stepwise.Proofs.Values.Plain

/-!
# Sameness of keys

On values that can serve as keys, sameness is symmetric and transitive.  It is not reflexive: a NaN is
not the same as itself.

So a table behaves as one expects.  Something that is stored under a key is fetched under all keys that
are the same, and nothing changes for the others.  Of several things that are stored one after the other,
the last one under a key counts, wherever in the table it stands.
-/

namespace Stepwise

namespace Value

/-- The value can serve as a key. -/
def Hashable (value : Value) : Prop :=
  value.unhashable? = none

theorem asKey_eq_ok_iff {value key : Value} : value.asKey = .ok key ↔ key = value ∧ value.Hashable := by
  rw [asKey, Hashable]
  cases value.unhashable? with
  | none => simp [eq_comm]
  | some kind => simp

theorem isNumber_of_numeral? {value : Value} {numeral : Numeral}
    (stands : value.numeral? = some numeral) : value.isNumber = true := by
  cases value with
  | bool value => rfl
  | int value => rfl
  | float value => rfl
  | _ => cases stands

theorem same_symm_of_isNumber {left right : Value} (number : left.isNumber = true)
    (same : left.same right = true) : right.same left = true := by
  obtain ⟨numeral, one, other⟩ := (same_number_iff number right).mp same
  exact (same_number_iff (isNumber_of_numeral? other) left).mpr ⟨numeral, other, one⟩

theorem same_trans_of_isNumber {left middle right : Value} (number : left.isNumber = true)
    (same : left.same middle = true) (sameNext : middle.same right = true) :
    left.same right = true := by
  obtain ⟨numeral, one, other⟩ := (same_number_iff number middle).mp same
  obtain ⟨numeral', one', other'⟩ :=
    (same_number_iff (isNumber_of_numeral? other) right).mp sameNext
  cases other.symm.trans one'
  exact (same_number_iff number right).mpr ⟨numeral, one, other'⟩

/-! ## Kinds of keys -/

theorem same_null_iff {right : Value} : Value.null.same right = true ↔ .null = right := by
  cases right <;> simp [same]

theorem same_str_iff {text : String} {right : Value} :
    (Value.str text).same right = true ↔ .str text = right := by
  cases right <;> simp [same]

theorem same_cursor_iff {number : Nat} {right : Value} :
    (Value.cursor number).same right = true ↔ .cursor number = right := by
  cases right <;> simp [same]

theorem same_tuple_iff {items : List Value} {right : Value} :
    (Value.tuple items).same right = true ↔
      ∃ items', right = .tuple items' ∧ sameItems items items' = true := by
  cases right <;> simp [same]

/-- Ranges are the same if they have equally many members, and the same ones. -/
theorem same_range_iff {start stop step : Int} {right : Value} :
    (Value.range start stop step).same right = true ↔
      ∃ start' stop' step', right = .range start' stop' step' ∧
        rangeLength start stop step = rangeLength start' stop' step' ∧
          (rangeLength start stop step = 0 ∨
            start = start' ∧ (rangeLength start stop step = 1 ∨ step = step')) := by
  cases right <;> simp [same, sameRange]

theorem sameItems_cons_iff {item : Value} {items right : List Value} :
    sameItems (item :: items) right = true ↔
      ∃ item' items', right = item' :: items' ∧ item.same item' = true ∧
        sameItems items items' = true := by
  cases right <;> simp [sameItems]

theorem sameItems_nil_iff {right : List Value} : sameItems [] right = true ↔ right = [] := by
  cases right <;> simp [sameItems]

/-! ## Symmetry and transitivity -/

theorem hashable_tuple_cons {item : Value} {items : List Value}
    (hashable : unhashableItem? (item :: items) = none) :
    item.Hashable ∧ unhashableItem? items = none := by
  rw [unhashableItem?] at hashable
  rw [Hashable]
  cases kind : unhashable? item with
  | none =>
      rw [kind] at hashable
      exact ⟨rfl, hashable⟩
  | some kind' =>
      rw [kind] at hashable
      cases hashable

mutual

theorem same_symm (left : Value) {right : Value} (hashable : left.Hashable)
    (same : left.same right = true) : right.same left = true := by
  cases left with
  | bool value => exact same_symm_of_isNumber rfl same
  | int value => exact same_symm_of_isNumber rfl same
  | float value => exact same_symm_of_isNumber rfl same
  | list items => cases hashable
  | dict entries => cases hashable
  | null =>
      obtain rfl := same_null_iff.mp same
      exact same
  | str text =>
      obtain rfl := same_str_iff.mp same
      exact same
  | cursor number =>
      obtain rfl := same_cursor_iff.mp same
      exact same
  | tuple items =>
      obtain ⟨items', rfl, sameItems⟩ := same_tuple_iff.mp same
      exact same_tuple_iff.mpr ⟨items, rfl, sameItems_symm items hashable sameItems⟩
  | range start stop step =>
      obtain ⟨start', stop', step', rfl, length, members⟩ := same_range_iff.mp same
      refine same_range_iff.mpr ⟨start, stop, step, rfl, length.symm, ?_⟩
      rw [← length]
      exact members.imp_right fun ⟨first, others⟩ => ⟨first.symm, others.imp_right Eq.symm⟩

theorem sameItems_symm (left : List Value) {right : List Value}
    (hashable : unhashableItem? left = none) (same : sameItems left right = true) :
    sameItems right left = true := by
  cases left with
  | nil => exact sameItems_nil_iff.mp same ▸ same
  | cons item items =>
      obtain ⟨item', items', rfl, sameItem, sameRest⟩ := sameItems_cons_iff.mp same
      obtain ⟨first, rest⟩ := hashable_tuple_cons hashable
      exact sameItems_cons_iff.mpr
        ⟨item, items, rfl, same_symm item first sameItem, sameItems_symm items rest sameRest⟩

end

mutual

theorem same_trans (left : Value) {middle right : Value} (hashable : left.Hashable)
    (same : left.same middle = true) (sameNext : middle.same right = true) :
    left.same right = true := by
  cases left with
  | bool value => exact same_trans_of_isNumber rfl same sameNext
  | int value => exact same_trans_of_isNumber rfl same sameNext
  | float value => exact same_trans_of_isNumber rfl same sameNext
  | list items => cases hashable
  | dict entries => cases hashable
  | null =>
      obtain rfl := same_null_iff.mp same
      exact sameNext
  | str text =>
      obtain rfl := same_str_iff.mp same
      exact sameNext
  | cursor number =>
      obtain rfl := same_cursor_iff.mp same
      exact sameNext
  | tuple items =>
      obtain ⟨items', rfl, sameItems⟩ := same_tuple_iff.mp same
      obtain ⟨items'', rfl, sameNextItems⟩ := same_tuple_iff.mp sameNext
      exact same_tuple_iff.mpr ⟨items'', rfl, sameItems_trans items hashable sameItems sameNextItems⟩
  | range start stop step =>
      obtain ⟨start', stop', step', rfl, length, members⟩ := same_range_iff.mp same
      obtain ⟨start'', stop'', step'', rfl, length', members'⟩ := same_range_iff.mp sameNext
      exact same_range_iff.mpr ⟨start'', stop'', step'', rfl, by omega⟩

theorem sameItems_trans (left : List Value) {middle right : List Value}
    (hashable : unhashableItem? left = none) (same : sameItems left middle = true)
    (sameNext : sameItems middle right = true) : sameItems left right = true := by
  cases left with
  | nil => exact sameItems_nil_iff.mp same ▸ sameNext
  | cons item items =>
      obtain ⟨item', items', rfl, sameItem, sameRest⟩ := sameItems_cons_iff.mp same
      obtain ⟨item'', items'', rfl, sameNextItem, sameNextRest⟩ := sameItems_cons_iff.mp sameNext
      obtain ⟨first, rest⟩ := hashable_tuple_cons hashable
      exact sameItems_cons_iff.mpr ⟨item'', items'', rfl, same_trans item first sameItem sameNextItem,
        sameItems_trans items rest sameRest sameNextRest⟩

end

mutual

/-- Only a key is the same as a key. -/
theorem hashable_of_same (left : Value) {right : Value} (same : left.same right = true)
    (hashable : right.Hashable) : left.Hashable := by
  cases left with
  | tuple items =>
      obtain ⟨items', rfl, sameItems⟩ := same_tuple_iff.mp same
      exact hashableItems_of_same items sameItems hashable
  | list items =>
      cases right with
      | list items' => cases hashable
      | _ => simp [Value.same] at same
  | dict entries =>
      cases right with
      | dict entries' => cases hashable
      | _ => simp [Value.same] at same
  | _ => rfl

theorem hashableItems_of_same (left : List Value) {right : List Value}
    (same : sameItems left right = true) (hashable : unhashableItem? right = none) :
    unhashableItem? left = none := by
  cases left with
  | nil => rfl
  | cons item items =>
      obtain ⟨item', items', rfl, sameItem, sameRest⟩ := sameItems_cons_iff.mp same
      obtain ⟨first, rest⟩ := hashable_tuple_cons hashable
      have none : unhashable? item = none := hashable_of_same item sameItem first
      rw [unhashableItem?, none]
      exact hashableItems_of_same items sameRest rest

end

section Keys

variable {key other third : Value}

theorem same_comm (hashable : key.Hashable) (hashableOther : other.Hashable) :
    key.same other = other.same key :=
  Bool.eq_iff_iff.mpr ⟨same_symm key hashable, same_symm other hashableOther⟩

/-- Keys that are the same are the same as the same keys. -/
theorem same_congr_left (hashable : key.Hashable) (hashableOther : other.Hashable)
    (same : key.same other = true) : key.same third = other.same third :=
  Bool.eq_iff_iff.mpr
    ⟨same_trans other hashableOther (same_symm key hashable same), same_trans key hashable same⟩

end Keys

end Value

/-! ## Tables -/

namespace Table

variable {α : Type}

/-- All keys of the table can serve as such. -/
def Keyed (table : Table α) : Prop :=
  ∀ entry ∈ table, entry.1.Hashable

theorem fetch?_store {table : Table α} (keyed : Keyed table) {key other : Value}
    (hashable : key.Hashable) (hashableOther : other.Hashable) (value : α) :
    fetch? other (store key value table) =
      if key.same other then some value else fetch? other table := by
  induction table with
  | nil => rfl
  | cons entry rest ih =>
      obtain ⟨known, old⟩ := entry
      have hashableKnown : known.Hashable := keyed _ List.mem_cons_self
      have tail := ih fun entry member => keyed entry (List.mem_cons_of_mem _ member)
      rw [store]
      split
      · next same =>
          rw [fetch?, fetch?, Value.same_congr_left hashableKnown hashable same]
          split <;> rfl
      · next differs =>
          rw [fetch?, fetch?, tail]
          split
          · next sameOther =>
              -- the key cannot be the same as one that the known key is the same as
              rw [if_neg]
              intro same
              rw [Value.same_comm hashable hashableOther] at same
              exact differs (Value.same_trans known hashableKnown sameOther same)
          · rfl

/-- Nothing changes for a key that differs from the one that something is stored under. -/
theorem fetch?_store_of_differs {key other : Value} (hashable : key.Hashable)
    (differs : key.same other = false) (value : α) (table : Table α) :
    fetch? other (store key value table) = fetch? other table := by
  induction table with
  | nil => simp [store, fetch?, differs]
  | cons entry rest ih =>
      obtain ⟨known, old⟩ := entry
      rw [store]
      split
      · next same =>
          have hashableKnown := Value.hashable_of_same known same hashable
          have differsKnown : known.same other = false :=
            (Value.same_congr_left hashableKnown hashable same).trans differs
          simp [fetch?, differsKnown]
      · rw [fetch?, fetch?, ih]

/-- The keys keep their order, and a new one comes last. -/
theorem keys_store (key : Value) (value : α) (table : Table α) :
    keys table <+: keys (store key value table) := by
  induction table with
  | nil => exact List.nil_prefix
  | cons entry rest ih =>
      rw [store]
      split
      · exact List.prefix_refl _
      · exact List.prefix_cons_inj entry.1 |>.mpr ih

theorem holds_iff {key : Value} {table : Table α} :
    holds key table = true ↔ ∃ known ∈ keys table, known.same key = true := by
  induction table with
  | nil => simp [holds, fetch?, keys]
  | cons entry rest ih =>
      simp only [holds, fetch?, keys] at *
      split <;> simp_all

/-- What is stored under a key is found under the keys that are the same. -/
theorem holds_store {key other : Value} (hashable : key.Hashable) (same : key.same other = true)
    (value : α) (table : Table α) : holds other (store key value table) = true := by
  induction table with
  | nil => simp [store, holds, fetch?, same]
  | cons entry rest ih =>
      obtain ⟨known, old⟩ := entry
      rw [store]
      split
      · next sameKnown =>
          have hashableKnown := Value.hashable_of_same known sameKnown hashable
          simp [holds, fetch?, Value.same_trans known hashableKnown sameKnown same]
      · rw [holds, fetch?]
        split
        · rfl
        · exact ih

/-- The table with several things stored one after the other. -/
def storeAll : List (Value × α) → Table α → Table α
  | [], table => table
  | (key, value) :: rest, table => storeAll rest (store key value table)

theorem storeAll_append (first second : List (Value × α)) (table : Table α) :
    storeAll (first ++ second) table = storeAll second (storeAll first table) := by
  induction first generalizing table with
  | nil => rfl
  | cons entry rest ih => exact ih (store entry.1 entry.2 table)

theorem keys_storeAll (stored : List (Value × α)) (table : Table α) :
    keys table <+: keys (storeAll stored table) := by
  induction stored generalizing table with
  | nil => exact List.prefix_refl _
  | cons entry rest ih => exact (keys_store entry.1 entry.2 table).trans (ih _)

/-- Each of the stored things has its place in the table, whatever the table held before. -/
theorem holds_storeAll {stored : List (Value × α)} (keyed : Keyed stored) {entry : Value × α}
    (member : entry ∈ stored) {other : Value} (same : entry.1.same other = true) (table : Table α) :
    holds other (storeAll stored table) = true := by
  induction stored generalizing table with
  | nil => cases member
  | cons first rest ih =>
      obtain ⟨hashable, keyedRest⟩ := List.forall_mem_cons.mp keyed
      rcases List.mem_cons.mp member with rfl | later
      · obtain ⟨known, there, sameKnown⟩ := holds_iff.mp (holds_store hashable same entry.2 table)
        exact holds_iff.mpr ⟨known, (keys_storeAll rest _).subset there, sameKnown⟩
      · exact ih keyedRest later _

/-- What is stored last under a key. -/
def last? (key : Value) : List (Value × α) → Option α
  | [] => none
  | (known, value) :: rest => (last? key rest).or (if known.same key then some value else none)

/-- The last of several things under a key counts. -/
theorem fetch?_storeAll {stored : List (Value × α)} {table : Table α} (keyed : Keyed table)
    (keyedAll : Keyed stored) {key : Value} (hashable : key.Hashable) :
    fetch? key (storeAll stored table) = (last? key stored).or (fetch? key table) := by
  induction stored generalizing table with
  | nil => rw [storeAll, last?, Option.none_or]
  | cons entry rest ih =>
      obtain ⟨known, value⟩ := entry
      have hashableKnown : known.Hashable := keyedAll _ List.mem_cons_self
      have keyedRest : Keyed rest := fun entry member => keyedAll entry (List.mem_cons_of_mem _ member)
      have keyedStore : Keyed (store known value table) :=
        forall_keys_store Value.Hashable keyed hashableKnown value
      rw [storeAll, ih keyedStore keyedRest, fetch?_store keyed hashableKnown hashable, last?,
        Option.or_assoc]
      congr 1
      split <;> simp

/-- The thing at a position is the last one under a key. -/
def IsLast (stored : List (Value × α)) (key : Value) (position : Nat) : Prop :=
  (∃ entry, stored[position]? = some entry ∧ entry.1.same key = true) ∧
    ∀ later entry, position < later → stored[later]? = some entry → entry.1.same key = false

theorem last?_eq_none {stored : List (Value × α)} {key : Value} (missing : last? key stored = none) :
    ∀ entry ∈ stored, entry.1.same key = false := by
  induction stored with
  | nil => exact fun _ member => by cases member
  | cons entry rest ih =>
      obtain ⟨known, value⟩ := entry
      rw [last?, Option.or_eq_none_iff] at missing
      have differs : known.same key = false := by
        cases same : known.same key with
        | false => rfl
        | true =>
            rw [same] at missing
            cases missing.2
      exact List.forall_mem_cons.mpr ⟨differs, ih missing.1⟩

theorem last?_eq_some {stored : List (Value × α)} {key : Value} {value : α}
    (found : last? key stored = some value) :
    ∃ position known, stored[position]? = some (known, value) ∧ IsLast stored key position := by
  induction stored with
  | nil => cases found
  | cons entry rest ih =>
      obtain ⟨known, first⟩ := entry
      rw [last?] at found
      cases inRest : last? key rest with
      | some later =>
          rw [inRest] at found
          cases found
          obtain ⟨position, other, there, ⟨entry, entryThere, same⟩, latest⟩ := ih inRest
          refine ⟨position + 1, other, there, ⟨entry, entryThere, same⟩, fun later entry after found => ?_⟩
          cases later with
          | zero => cases after
          | succ later => exact latest later entry (Nat.lt_of_succ_lt_succ after) found
      | none =>
          rw [inRest, Option.none_or] at found
          split at found
          · next same =>
              cases found
              refine ⟨0, known, rfl, ⟨_, rfl, same⟩, fun later entry after found => ?_⟩
              cases later with
              | zero => cases after
              | succ later => exact last?_eq_none inRest entry (List.mem_of_getElem? found)
          · cases found

/-- There is only one last position. -/
theorem IsLast.unique {stored : List (Value × α)} {key : Value} {first second : Nat}
    (isLast : IsLast stored key first) (isLast' : IsLast stored key second) : first = second := by
  obtain ⟨⟨entry, there, same⟩, latest⟩ := isLast
  obtain ⟨⟨entry', there', same'⟩, latest'⟩ := isLast'
  rcases Nat.lt_trichotomy first second with before | equal | after
  · rw [latest second entry' before there'] at same'
    cases same'
  · exact equal
  · rw [latest' first entry after there] at same
    cases same

end Table

end Stepwise
