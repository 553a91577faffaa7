import Stepwise.Check
import Stepwise.Program.Parser
import Stepwise.Token.Lexer

/-!
# Reading programs

From a program text to a program: lexing, parsing and checking. The first thing that goes wrong, from
left to right, decides the outcome. A character that starts no lexeme matters only once all tokens
before it have been used.
-/

namespace Stepwise

/-- What reading a program text gives, and the lines that are printed on the way. -/
structure Reading where
  printed : List String
  outcome : Except Stop Program

namespace Reading

/-- The report on a character that starts no lexeme. -/
def illegalReport (source : String) (position : Int) (c : Char) : Report :=
  .parsing (.str ("Illegal character '" ++ String.singleton c ++ "'"))
    (.int (Source.lineNumber source position)) (.int (Source.column source position)) .null .null

/-- The lines that are printed at a character that starts no lexeme. -/
def illegalLines (position : Int) (c : Char) (rest : List Char) : List String :=
  ["DEBUG: Error at token: " ++ String.singleton c,
    "DEBUG: Position: " ++ toString position,
    "DEBUG: Remaining input: " ++ String.ofList ((c :: rest).take 20)]

/-- What is printed where no lexeme starts, given what stands there, and how it stops. -/
def illegal (source : String) (position : Int) : List Char → List String × Stop
  | [] => ([], .fault .outsideText)
  | c :: rest => (illegalLines position c rest, (illegalReport source position c).stop)

/-- The report on a token that does not fit, given by the name of its kind, its value and its
position. -/
def misplacedReport (source kind : String) (value : Value) (position : Int) :
    Except Fault Report := do
  let message := "Syntax error at " ++ kind ++ " token: '" ++ (← value.say) ++ "'"
  return .parsing (.str message) (.int (Source.lineNumber source position))
    (.int (Source.column source position)) value
    (.str (Source.snippetAt source position Source.snippetWindow))

/-- The report that a program text ends too early. -/
def unfinishedReport (source : String) : Report :=
  .parsing (.str "Syntax error at end of input") (.int (Text.lineCount source)) (.int 0) .null
    (.str (Source.snippetAt source source.length Source.snippetWindow))

/-- The report on a fault that arises while a program text is read. -/
def faultReport (fault : Fault) : Report :=
  .parsing (.str fault.message) (.int 1) (.int 1) (.str "") (.str "")

/-- How a misplaced token ends the reading. -/
def misplaced (source : String) (placed : Placed) : Stop :=
  match misplacedReport source placed.token.kindName placed.token.value placed.position with
  | .ok report => report.stop
  | .error fault => (faultReport fault).stop

/-- The fault by which reading ends at an illegal character: the report has no context, and the one it
should get cannot be made. -/
def missingContext : Fault :=
  .missingMember "ThinkValidator" "get_context_lines"

/-- A reading that prints nothing. -/
def quiet (outcome : Except Stop Program) : Reading :=
  ⟨[], outcome⟩

/-- The outcome once all tokens fit so far: `program?` is there if they make up a program. -/
def atEnd (source : String) (program? : Option Program) : Ending → Reading
  | .refused _ fault => quiet (.error (faultReport fault).stop)
  | .illegal position rest =>
    ⟨(illegal source position rest).1, .error (.fault missingContext)⟩
  | .finished =>
    match program? with
    | none => quiet (.error (unfinishedReport source).stop)
    | some program =>
      match (Check.program program.node (some source)).outcome with
      | .ok () => quiet (.ok program)
      | .error (.report report) => quiet (.error (.report report))
      | .error (.fault fault) => quiet (.error (faultReport fault).stop)

end Reading

/-- Reads a program text. -/
def Program.read (source : String) : Reading :=
  let lexed := lex source
  match parseTokens lexed.tokens with
  | .ok program => Reading.atEnd source (some program) lexed.ending
  | .error [] => Reading.atEnd source none lexed.ending
  | .error (placed :: _) => Reading.quiet (.error (Reading.misplaced source placed))

/-- What is wrong with a value that should be a program text and is none. -/
def Reading.notText : Value → Fault
  | .list _ | .tuple _ | .range .. => .notSourceText
  | .dict _ => .unhashable "slice"
  | .null => .noSourceText
  | value => .notSubscriptable value.typeName

/-- Reads a value that should be a program text. -/
def Program.readValue : Value → Reading
  | .str source => Program.read source
  | value => Reading.quiet (.error (Reading.faultReport (Reading.notText value)).stop)

end Stepwise
