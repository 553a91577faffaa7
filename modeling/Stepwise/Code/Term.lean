import Stepwise.Program.Basic

/-!
# Terms

A term is the executable form of an expression's syntax tree. Every value can be read as a term: a
text names a variable, a dictionary with a known tag is an operation on the terms in it, and any other
value stands for itself.

A tree may lack an entry. The term then holds a fault in that place, which arises only when evaluation
gets there; what comes before has its effects first.
-/

namespace Stepwise

/-- The executable form of an expression. -/
inductive Term where
  | const (value : Value)
  | var (name : String)
  | fault (fault : Fault)
  /-- Evaluates the first term for its effects only, then the last. -/
  | after (first last : Term)
  | list (items : List Term)
  | dict (entries : List (Term × Term))
  | index (container key : Term)
  | negate (operand : Term)
  | binary (operator : Value) (left right : Term)
  | call (function : Value) (arguments : List Term)
  deriving Inhabited

/-- The tag of a node, empty if it has none. -/
def nodeTag (entries : List (Value × Value)) : String :=
  match Table.fetch? (.str "type") entries with
  | some (.str tag) => tag
  | _ => ""

/-- The fault of a missing entry. -/
def missingEntry (name : String) : Fault :=
  .missingKey (.str name)

/-- The entry of a node under a name, or the fault that it is missing. -/
def entryOf (name : String) (entries : List (Value × Value)) : Except Fault Value :=
  match Table.fetch? (.str name) entries with
  | some value => .ok value
  | none => .error (missingEntry name)

/-- The fault that reading an entry of something that is no dictionary gives. -/
def entryFault (name : String) (value : Value) : Fault :=
  match value.part name with
  | .ok _ => missingEntry name
  | .error cause => cause

namespace Term

/-- The first of two results that failed decides; otherwise both make a term. -/
def callTerm (function : Except Fault Value) (arguments : Except Fault (List Term)) : Term :=
  match function, arguments with
  | .error cause, _ => .fault cause
  | .ok _, .error cause => .fault cause
  | .ok function, .ok arguments => .call function arguments

/-- An operation that a node describes by its operator and its operands alone. -/
def operationTerm (operator : Except Fault Value) (left right : Term) : Term :=
  match operator with
  | .error cause => .fault cause
  | .ok operator => .binary operator left right

/-- An operation on one operand. Only the minus has a meaning; a node with another operator stands for
itself. -/
def unaryTerm (operator : Except Fault Value) (operand : Term) (node : Value) : Term :=
  match operator with
  | .error cause => .after operand (.fault cause)
  | .ok operator =>
    if operator.same (.str minusName) then .negate operand else .after operand (.const node)

/-- What a value that is no dictionary gives in the place of an entry. -/
def strayPair (value : Value) : Term × Term :=
  (.fault (entryFault "key" value), .fault (entryFault "value" value))

/-- A term from a result that may have failed. -/
def ofResult {α : Type} (build : α → Term) : Except Fault α → Term
  | .ok value => build value
  | .error cause => .fault cause

mutual

/-- The term that a value is read as. -/
def ofNode : Value → Term
  | .str name => .var name
  | .dict entries =>
    match nodeTag entries with
    | "string_literal" => ofResult .const (entryOf "value" entries)
    | "list" => ofResult .list (itemsAt "items" entries)
    | "dict" => ofResult .dict (pairsAt entries)
    | "index" => .index (entryAt "container" entries) (entryAt "key" entries)
    | "operation" =>
      if Table.holds (.str "operand") entries then
        unaryTerm (entryOf "operator" entries) (entryAt "operand" entries) (.dict entries)
      else operatorAt (entryAt "left" entries) (entryAt "right" entries) entries
    | "function_call" => callTerm (entryOf "name" entries) (itemsAt "arguments" entries)
    | _ => .const (.dict entries)
  | value => .const value

/-- The term that the entry of a node under a name is read as. -/
def entryAt (name : String) : List (Value × Value) → Term
  | [] => .fault (missingEntry name)
  | (key, value) :: rest => if key.same (.str name) then ofNode value else entryAt name rest

/-- The terms that running through the entry of a node gives. -/
def itemsAt (name : String) : List (Value × Value) → Except Fault (List Term)
  | [] => .error (missingEntry name)
  | (key, value) :: rest => if key.same (.str name) then itemsOf value else itemsAt name rest

/-- The terms that running through a value gives. -/
def itemsOf : Value → Except Fault (List Term)
  | .list items => .ok (ofNodes items)
  | .tuple items => .ok (ofNodes items)
  | .dict entries => .ok (ofKeys entries)
  | .str text => .ok (text.toList.map fun c => .var (String.singleton c))
  | .range start stop step =>
    .ok ((Value.rangeItems step (Value.rangeLength start stop step) start).map .const)
  | value => .error (.notIterable value.typeName)

/-- The terms that several values are read as. -/
def ofNodes : List Value → List Term
  | [] => []
  | value :: rest => ofNode value :: ofNodes rest

/-- The terms that the keys of a dictionary are read as. -/
def ofKeys : List (Value × Value) → List Term
  | [] => []
  | (key, _) :: rest => ofNode key :: ofKeys rest

/-- The terms of the entries of a dictionary's node; none are needed. -/
def pairsAt : List (Value × Value) → Except Fault (List (Term × Term))
  | [] => .ok []
  | (key, value) :: rest => if key.same (.str "entries") then pairsOf value else pairsAt rest

/-- The terms of the keys and values in a sequence of entries. -/
def pairsOf : Value → Except Fault (List (Term × Term))
  | .list items => .ok (pairs items)
  | .tuple items => .ok (pairs items)
  | .dict entries => .ok (pairsOfKeys entries)
  | .str text => .ok (text.toList.map fun c => strayPair (.str (String.singleton c)))
  | .range start stop step =>
    .ok ((Value.rangeItems step (Value.rangeLength start stop step) start).map strayPair)
  | value => .error (.notIterable value.typeName)

/-- The terms of the keys and values of several entries. -/
def pairs : List Value → List (Term × Term)
  | [] => []
  | value :: rest => pairOf value :: pairs rest

/-- The terms of the keys and values that the keys of a dictionary describe. -/
def pairsOfKeys : List (Value × Value) → List (Term × Term)
  | [] => []
  | (key, _) :: rest => pairOf key :: pairsOfKeys rest

/-- The terms of the key and the value of one entry. -/
def pairOf : Value → Term × Term
  | .dict entries => (entryAt "key" entries, entryAt "value" entries)
  | value => strayPair value

/-- An operation on two operands, whose operator is an entry of the node. -/
def operatorAt (left right : Term) : List (Value × Value) → Term
  | [] => .after left (.after right (.fault (missingEntry "operator")))
  | (key, value) :: rest =>
    if key.same (.str "operator") then applied left right value else operatorAt left right rest

/-- An operation on two operands. A dictionary in the place of the operator is an operation of its
own, which is evaluated instead. -/
def applied (left right : Term) : Value → Term
  | .dict entries =>
    .after left (.after right (operationTerm (entryOf "operator" entries) (entryAt "left" entries)
      (entryAt "right" entries)))
  | operator => .binary operator left right

end

/-- The term that the entry of any value under a name is read as. -/
def partOf (name : String) : Value → Term
  | .dict entries => entryAt name entries
  | value => .fault (entryFault name value)

/-- The call that any value describes. -/
def callFrom : Value → Term
  | .dict entries => callTerm (entryOf "name" entries) (itemsAt "arguments" entries)
  | value => .fault (entryFault "name" value)

/-- The operation that a node describes by its operator and its operands alone. -/
def operationFrom (entries : List (Value × Value)) : Term :=
  operationTerm (entryOf "operator" entries) (entryAt "left" entries) (entryAt "right" entries)

end Term

end Stepwise
