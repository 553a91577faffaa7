import Stepwise.Value.Shown

/-!
# Faults

A fault is what goes wrong in an operation on values itself: a missing entry, an operand of the wrong
type, a number that does not fit. The language has no rule of its own for these cases, so a fault
carries its cause, and `Fault.message` is the one place where causes are worded.
-/

namespace Stepwise

/-- Why an operation on values failed. Types are given by their names. -/
inductive Fault where
  /-- A dictionary has no such key. -/
  | missingKey (key : Value)
  /-- A position lies outside a list. -/
  | outsideList
  /-- A position lies outside a text. -/
  | outsideText
  /-- A position is too large for any list. -/
  | positionTooLarge
  | unsupportedOperands (operator left right : String)
  | unordered (operator left right : String)
  | unsupportedNegation (operand : String)
  | cannotConcatenate (left right : String)
  /-- A sequence is multiplied by something that is not an integer. -/
  | cannotRepeat (count : String)
  /-- A sequence is repeated more often than an index can count. -/
  | repetitionTooLarge
  /-- A text is repeated to a length that no text has. -/
  | textTooLong
  | outOfMemory
  | notRealNumber (operand : String)
  | notFloatText (text : String)
  | notIntText (text : String)
  /-- A text with this many digits is too long to be read as an integer. -/
  | digitsRead (count : Nat)
  /-- An integer has too many digits to be shown. -/
  | digitsShown
  | integerTooLarge
  | lengthTooLarge
  | divisionByZero
  | infinityToInt
  | nanToInt
  | notIterable (operand : String)
  | notContainer (operand : String)
  | notSubscriptable (operand : String)
  /-- A sequence is indexed by something that is not an integer. -/
  | badPosition (container key : String)
  | missingMember (operand member : String)
  | unhashable (operand : String)
  | notInteger (operand : String)
  | withoutLength (operand : String)
  /-- A sequence that should hold texts only holds something else. -/
  | notText (position : Nat) (item : String)
  | sumOfTexts
  | tooFewArguments (function : String) (least : Nat) (given : Nat)
  | tooManyArguments (function : String) (most : Nat) (given : Nat)
  | exactArguments (function : String) (given : Nat)
  | missingArgument (function name : String)
  | missingPositional (function name : String)
  | unexpectedKeyword (function name : String)
  | repeatedArgument (function name : String)
  | keywordsNotText
  | notSourceText
  | noSourceText
  /-- Subtasks call each other more deeply than the machine allows. -/
  | callsTooDeep
  /-- A cell failed before its interpreter existed. -/
  | noInterpreter
  deriving Inhabited

/-- The kinds of faults. -/
inductive FaultKind where
  | key
  | index
  | type
  | value
  | member
  | overflow
  | memory
  | zeroDivision
  | recursion
  | missingInput
  | unbound
  deriving DecidableEq, Repr

namespace Fault

/-- The kind of a fault. -/
def kind : Fault → FaultKind
  | .missingKey _ => .key
  | .outsideList | .outsideText | .positionTooLarge => .index
  | .repetitionTooLarge | .textTooLong | .integerTooLarge | .lengthTooLarge
  | .infinityToInt => .overflow
  | .outOfMemory => .memory
  | .notFloatText _ | .notIntText _ | .digitsRead _ | .digitsShown | .nanToInt
  | .notSourceText => .value
  | .divisionByZero => .zeroDivision
  | .missingMember .. => .member
  | .callsTooDeep => .recursion
  | .noSourceText => .missingInput
  | .noInterpreter => .unbound
  | _ => .type

/-- What the digit limit is called in messages. -/
def limitName : String :=
  "Exceeds the limit (" ++ toString Value.maxDigits ++ " digits) for integer string conversion"

/-- How a message ends that is about the digit limit. -/
def limitAdvice : String :=
  "; use sys.set_int_max_str_digits() to increase the limit"

/-- A count of arguments with its noun. -/
def argumentCount (count : Nat) : String :=
  toString count ++ (if count == 1 then " argument" else " arguments")

/-- The text of a fault. -/
def message : Fault → String
  | .missingKey key => key.quoted
  | .outsideList => "list index out of range"
  | .outsideText => "string index out of range"
  | .positionTooLarge | .repetitionTooLarge => "cannot fit 'int' into an index-sized integer"
  | .unsupportedOperands operator left right =>
    s!"unsupported operand type(s) for {operator}: '{left}' and '{right}'"
  | .unordered operator left right =>
    s!"'{operator}' not supported between instances of '{left}' and '{right}'"
  | .unsupportedNegation operand => s!"bad operand type for unary -: '{operand}'"
  | .cannotConcatenate left right => s!"can only concatenate {left} (not \"{right}\") to {left}"
  | .cannotRepeat count => s!"can't multiply sequence by non-int of type '{count}'"
  | .textTooLong => "repeated string is too long"
  | .outOfMemory => ""
  | .notRealNumber operand => s!"float() argument must be a string or a real number, not '{operand}'"
  | .notFloatText text => "could not convert string to float: " ++ Text.quoted text
  | .notIntText text =>
    "invalid literal for int() with base 10: " ++ String.ofList ((Text.quoted text).toList.take 200)
  | .digitsRead count => limitName ++ s!": value has {count} digits" ++ limitAdvice
  | .digitsShown => limitName ++ limitAdvice
  | .integerTooLarge => "int too large to convert to float"
  | .lengthTooLarge => "Python int too large to convert to C ssize_t"
  | .divisionByZero => "float division by zero"
  | .infinityToInt => "cannot convert float infinity to integer"
  | .nanToInt => "cannot convert float NaN to integer"
  | .notIterable operand => s!"'{operand}' object is not iterable"
  | .notContainer operand => s!"argument of type '{operand}' is not iterable"
  | .notSubscriptable operand => s!"'{operand}' object is not subscriptable"
  | .badPosition container key =>
    if container == "str" then s!"string indices must be integers, not '{key}'"
    else s!"{container} indices must be integers or slices, not {key}"
  | .missingMember operand member => s!"'{operand}' object has no attribute '{member}'"
  | .unhashable operand => s!"unhashable type: '{operand}'"
  | .notInteger operand => s!"'{operand}' object cannot be interpreted as an integer"
  | .withoutLength operand => s!"object of type '{operand}' has no len()"
  | .notText position item => s!"sequence item {position}: expected str instance, {item} found"
  | .sumOfTexts => "sum() can't sum strings [use ''.join(seq) instead]"
  | .tooFewArguments function least given =>
    s!"{function}() takes at least {least} positional " ++
      (if least == 1 then "argument" else "arguments") ++ s!" ({given} given)"
  | .tooManyArguments function most given =>
    s!"{function}() takes at most " ++ argumentCount most ++ s!" ({given} given)"
  | .exactArguments function given =>
    s!"{function}() takes exactly one argument ({given} given)"
  | .missingArgument function name => s!"{function}() missing required argument '{name}'"
  | .missingPositional function name =>
    s!"{function}() missing 1 required positional argument: '{name}'"
  | .unexpectedKeyword function name =>
    s!"{function}() got an unexpected keyword argument '{name}'"
  | .repeatedArgument function name => s!"{function}() got multiple values for argument '{name}'"
  | .keywordsNotText => "keywords must be strings"
  | .notSourceText => "Expected a string"
  | .noSourceText => "No input string given with input()"
  | .callsTooDeep => "maximum recursion depth exceeded"
  | .noInterpreter =>
    "cannot access local variable 'interpreter' where it is not associated with a value"

/-- Whether a fault can be worded: the key that is missing may have too many digits. -/
def speakable : Fault → Bool
  | .missingKey key => key.speakable
  | _ => true

end Fault

namespace Value

/-- The text of a value alone, if its integers have texts. -/
def say (value : Value) : Except Fault String :=
  if value.speakable then .ok value.shown else .error .digitsShown

/-- The text of a value inside a container, if its integers have texts. -/
def sayQuoted (value : Value) : Except Fault String :=
  if value.speakable then .ok value.quoted else .error .digitsShown

end Value

end Stepwise
