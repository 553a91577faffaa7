import Stepwise.Machine.Basic

/-!
# Supplies

What a loop runs through: the items of a value, or a running enumeration, which gives each item only
once, however many loops draw on it.
-/

namespace Stepwise

/-- What a loop runs through. -/
abbrev Supply := CursorSource

/-- What running through a value draws on. -/
def Value.supply? : Value → Option Supply
  | .cursor number => some (.cursor number)
  | value => value.feed?.map .feed

namespace Cursor

/-- The next numbered item of an enumeration, and the enumerations after it was taken. An enumeration
draws only on ones with smaller numbers, so `depth` above the number suffices. -/
def take? (cursors : List Cursor) : (depth number : Nat) → Option (Value × List Cursor)
  | 0, _ => none
  | depth + 1, number =>
    match cursors[number]? with
    | none => none
    | some cursor =>
      match cursor.source with
      | .feed feed =>
        feed.next?.map fun (item, rest) =>
          (.tuple [.int cursor.next, item], cursors.set number ⟨.feed rest, cursor.next + 1⟩)
      | .cursor inner =>
        (take? cursors depth inner).map fun (item, rest) =>
          (.tuple [.int cursor.next, item], rest.set number ⟨.cursor inner, cursor.next + 1⟩)

/-- How many items an enumeration still gives. -/
def remaining (cursors : List Cursor) : (depth number : Nat) → Nat
  | 0, _ => 0
  | depth + 1, number =>
    match cursors[number]? with
    | none => 0
    | some cursor =>
      match cursor.source with
      | .feed feed => feed.length
      | .cursor inner => remaining cursors depth inner

end Cursor

namespace Run

/-- Starts an enumeration. -/
def startCursor (source : Supply) (next : Int) : Run Value := do
  let number := (← get).cursors.length
  modify fun machine => { machine with cursors := machine.cursors ++ [⟨source, next⟩] }
  return .cursor number

/-- The next numbered item of an enumeration. -/
def takeCursor? (number : Nat) : Run (Option Value) := do
  match Cursor.take? (← get).cursors (number + 1) number with
  | none => return none
  | some (item, cursors) =>
    modify fun machine => { machine with cursors := cursors }
    return some item

/-- Runs a body for each item of a list, with the number of items before it. A result that is tagged
as a return ends the loop. -/
def forItems (body : Nat → Value → Run Value) : (items : List Value) → (number : Nat) → Run Value
  | [], _ => pure .null
  | item :: items, number => do
    let result ← body number item
    if result.hasTag Value.returnTag then return result else forItems body items (number + 1)

/-- Runs a body for each integer of a range. -/
def forSpan (body : Nat → Value → Run Value) (step : Int) :
    (count : Nat) → (start : Int) → (number : Nat) → Run Value
  | 0, _, _ => pure .null
  | count + 1, start, number => do
    let result ← body number (.int start)
    if result.hasTag Value.returnTag then return result
    else forSpan body step count (start + step) (number + 1)

/-- Runs a body for each of the next `count` items of an enumeration. -/
def forCursor (body : Nat → Value → Run Value) (cursor : Nat) :
    (count : Nat) → (number : Nat) → Run Value
  | 0, _ => pure .null
  | count + 1, number => do
    match ← takeCursor? cursor with
    | none => return .null
    | some item =>
      let result ← body number item
      if result.hasTag Value.returnTag then return result
      else forCursor body cursor count (number + 1)

/-- Runs a body for each item of a supply, with the number of items before it, until one results in a
return. -/
def forSupply (supply : Supply) (body : Nat → Value → Run Value) : Run Value :=
  match supply with
  | .feed (.items items) => forItems body items 0
  | .feed (.span start step count) => forSpan body step count start 0
  | .cursor number => do
    forCursor body number (Cursor.remaining (← get).cursors (number + 1) number) 0

/-- Draws `count` items from an enumeration. -/
def drainCursor (cursor : Nat) : (count : Nat) → Run (List Value)
  | 0 => pure []
  | count + 1 => do
    match ← takeCursor? cursor with
    | none => return []
    | some item => return item :: (← drainCursor cursor count)

/-- All items of a supply. -/
def drain : Supply → Run (List Value)
  | .feed feed => pure feed.toList
  | .cursor number => do
    drainCursor number (Cursor.remaining (← get).cursors (number + 1) number)

/-- What a value gives to a loop, or a fault if it gives nothing. -/
def supplyOf (value : Value) : Run Supply :=
  match value.supply? with
  | some supply => pure supply
  | none => fault (.notIterable value.typeName)

end Run

end Stepwise
