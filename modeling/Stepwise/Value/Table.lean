import Stepwise.Value.Same

/-!
# Tables

A table assigns something to values, which are compared with the language's equality, and keeps its
keys in the order in which they were first stored. Storing under a known key keeps the key and its
place.
-/

namespace Stepwise

/-- A table keyed by values. -/
abbrev Table (α : Type) := List (Value × α)

namespace Table

variable {α : Type}

/-- What is stored under a key. -/
def fetch? (key : Value) : Table α → Option α
  | [] => none
  | (known, value) :: rest => if known.same key then some value else fetch? key rest

/-- Whether something is stored under a key. -/
def holds (key : Value) (table : Table α) : Bool :=
  (fetch? key table).isSome

/-- The table with something stored under a key. -/
def store (key : Value) (value : α) : Table α → Table α
  | [] => [(key, value)]
  | (known, old) :: rest =>
    if known.same key then (known, value) :: rest else (known, old) :: store key value rest

/-- The keys in order. -/
def keys (table : Table α) : List Value :=
  table.map Prod.fst

end Table

/-- The entry of a dictionary under a text key. -/
def Value.entry? (name : String) : Value → Option Value
  | .dict entries => Table.fetch? (.str name) entries
  | _ => none

/-- Whether a value is a dictionary whose entry `type` is the given text. -/
def Value.hasTag (tag : String) (value : Value) : Bool :=
  match value.entry? "type" with
  | some found => found.same (.str tag)
  | none => false

end Stepwise
