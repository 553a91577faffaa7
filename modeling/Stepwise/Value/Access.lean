import Stepwise.Fault
import Stepwise.Text.Lines
import Stepwise.Value.Table

/-!
# Reading parts of values

Reading an entry of a node, looking into a container and running through a sequence, each with the
fault that arises when the value is of the wrong type.
-/

namespace Stepwise.Value

/-- A value read under a text key. -/
def part (name : String) : Value → Except Fault Value
  | .dict entries =>
    match Table.fetch? (.str name) entries with
    | some value => .ok value
    | none => .error (.missingKey (.str name))
  | value@(.str _) | value@(.list _) | value@(.tuple _) | value@(.range ..) =>
    .error (.badPosition value.typeName "str")
  | value => .error (.notSubscriptable value.typeName)

/-- The tag of a node, null if it has none; only a dictionary can be asked. -/
def tag : Value → Except Fault Value
  | .dict entries => .ok ((Table.fetch? (.str "type") entries).getD .null)
  | value => .error (.missingMember value.typeName "get")

mutual

/-- The first part of a value that cannot serve as a key, by the name of its type. -/
def unhashable? : Value → Option String
  | .list _ => some "list"
  | .dict _ => some "dict"
  | .tuple items => unhashableItem? items
  | _ => none

/-- The first item of a sequence that cannot serve as a key, by the name of its type. -/
def unhashableItem? : List Value → Option String
  | [] => none
  | item :: items => (unhashable? item).orElse fun _ => unhashableItem? items

end

/-- The value, provided that it can serve as a key. -/
def asKey (value : Value) : Except Fault Value :=
  match value.unhashable? with
  | some kind => .error (.unhashable kind)
  | none => .ok value

/-- The tag of the dictionary that stands for a quoted text in a syntax tree. -/
def textTag : String := "string_literal"

/-- The tag of the dictionary that a statement results in when it returns. -/
def returnTag : String := "return"

/-- A quoted text as it stands in a syntax tree. -/
def textLiteral (value : Value) : Value :=
  record [("type", .str textTag), ("value", value)]

/-- The value itself, or what a dictionary that stands for a quoted text holds. -/
def unwrapped (value : Value) : Except Fault Value :=
  if value.hasTag textTag then value.part "value" else .ok value

/-- The texts of the single characters of a text. -/
def characters (text : String) : List Value :=
  text.toList.map fun c => .str (String.singleton c)

end Stepwise.Value

namespace Stepwise

/-- What a loop runs through: given values, or the integers of a range, which need not be laid out. -/
inductive Feed where
  | items (values : List Value)
  | span (start step : Int) (count : Nat)

namespace Feed

/-- All values of a feed. -/
def toList : Feed → List Value
  | .items values => values
  | .span start step count => Value.rangeItems step count start

/-- The number of values of a feed. -/
def length : Feed → Nat
  | .items values => values.length
  | .span _ _ count => count

/-- The first value of a feed and the others. -/
def next? : Feed → Option (Value × Feed)
  | .items [] => none
  | .items (value :: values) => some (value, .items values)
  | .span _ _ 0 => none
  | .span start step (count + 1) => some (.int start, .span (start + step) step count)

end Feed

/-- What running through a value gives, if it is a sequence, a text or a dictionary. A dictionary
gives its keys. -/
def Value.feed? : Value → Option Feed
  | .str text => some (.items (Value.characters text))
  | .list items => some (.items items)
  | .tuple items => some (.items items)
  | .dict entries => some (.items (Table.keys entries))
  | .range start stop step => some (.span start step (Value.rangeLength start stop step))
  | _ => none

/-- The values that running through a value gives. -/
def Value.elements (value : Value) : Except Fault (List Value) :=
  match value.feed? with
  | some feed => .ok feed.toList
  | none => .error (.notIterable value.typeName)

/-- The greatest length that can be told. -/
def maxLength : Nat := Nat.pow 2 63 - 1

/-- The number of values that a value holds. -/
def Value.length (value : Value) : Except Fault Nat :=
  match value.feed? with
  | some feed => if maxLength < feed.length then .error .lengthTooLarge else .ok feed.length
  | none => .error (.withoutLength value.typeName)

/-- Whether a text key is found in a value: among the keys of a dictionary, the items of a sequence or
the parts of a text. -/
def Value.contains (name : String) : Value → Except Fault Bool
  | .dict entries => .ok (Table.holds (.str name) entries)
  | .str text => .ok (Text.occursIn name text)
  | .list items | .tuple items => .ok (items.any fun item => item.same (.str name))
  | .range .. | .cursor _ => .ok false
  | value => .error (.notContainer value.typeName)

end Stepwise
