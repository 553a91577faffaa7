import Stepwise.Notebook.StyleSheet
import Stepwise.Report
import Stepwise.Text.Blank
import Stepwise.Text.Cutting

/-!
# Error pages

The page on which a notebook shows a report: its message as a title, and below it what the report
knows about the place. The lines of a snippet are cut into their numbers and the source text again.
Nothing is escaped.
-/

namespace Stepwise.Notebook

/-- A line of a page. -/
def pageLine (level : Nat) (content : String) : String :=
  indentation level ++ content

/-- A block of a page that has nothing before or after its tag. -/
def openBlock (level : Nat) (style : String) : String :=
  pageLine level ("<div class=\"" ++ style ++ "\">")

/-- The end of a block. -/
def closeBlock (level : Nat) : String :=
  pageLine level "</div>"

/-- A part of a line with a style of its own. -/
def styled (style content : String) : String :=
  "<span class=\"" ++ style ++ "\">" ++ content ++ "</span>"

/-- A line of a snippet as a page shows it. -/
inductive CodeLine where
  /-- The line that an error points at. -/
  | marked (number code : String)
  | plain (number code : String)
  deriving DecidableEq, Repr

namespace CodeLine

/-- The mark of a snippet line. -/
def mark : String := "->"

/-- The number of a marked line, which is what stands before the first colon, and its code, which is
what stands between the first colon and the second. -/
def ofMarked (line : String) : CodeLine :=
  match Text.splitAt ':' line with
  | number :: code :: _ => marked (bare number) (Text.trim code)
  | pieces => marked (bare (pieces.headD "")) ""
where
  /-- A text without blanks at its ends and without marks. -/
  bare (text : String) : String :=
    String.ofList (Text.withoutPair '-' '>' (Text.trimBlanks text.toList))

/-- The page's form of a snippet line. A line that holds neither the mark nor a colon is left out. -/
def ofSnippetLine? (line : String) : Option CodeLine :=
  if Text.occursIn mark line then some (ofMarked line)
  else (Text.cutAt ':' line).map fun (number, code) => plain (Text.trim number) (Text.trim code)

/-- The lines of a page for a code line. -/
def lines : CodeLine → List String
  | .marked number code =>
    [openBlock 4 "code-line error-line",
      pageLine 5 (styled "arrow" "→" ++ styled "line-number" number ++ code), closeBlock 4]
  | .plain number code =>
    [openBlock 4 "code-line", pageLine 5 (styled "line-number" number ++ code), closeBlock 4]

end CodeLine

/-- The code lines of a snippet. -/
def codeLines (snippet : String) : List CodeLine :=
  (Text.lines snippet).filterMap CodeLine.ofSnippetLine?

/-- The lines of a page about a snippet. -/
def snippetLines (snippet : Value) : Except Fault (List String) :=
  if snippet.isTrue then
    match snippet with
    | .str text =>
      .ok ([openBlock 3 "source-code", pageLine 4 "<div class=\"section-title\">Source code:</div>"] ++
        (codeLines text).flatMap CodeLine.lines ++ [closeBlock 3])
    | snippet => .error (.missingMember snippet.typeName "split")
  else .ok []

/-- A value, or a word for it if it counts as false. -/
def knownText (value : Value) : Except Fault String :=
  if value.isTrue then value.say else .ok "Unknown"

/-- A line about a value that is left out if the value counts as false. -/
def optionalLine (name : String) (value : Value) : Except Fault (List String) := do
  if value.isTrue then
    return [pageLine 4 ("<div>" ++ name ++ ": " ++ (← value.say) ++ "</div>")]
  else return []

/-- The content of the line about a token. -/
def tokenText (token : Value) : Except Fault String := do
  if token.isTrue then return "<div>Token: '" ++ (← token.say) ++ "'</div>" else return ""

/-- A variable's value on a page: a text stands between quotes as it is. -/
def variableText (value : Value) : Except Fault String :=
  match value with
  | .str text => .ok ("'" ++ text ++ "'")
  | value => value.say

/-- The lines of a page about variables. -/
def variableLines : List (Value × Value) → Except Fault (List String)
  | [] => .ok []
  | (name, value) :: rest => do
    let shownName ← name.say
    let shownValue ← variableText value
    let others ← variableLines rest
    return [openBlock 4 "variable-line",
      pageLine 5 (styled "variable-name" shownName ++ " = " ++ styled "variable-value" shownValue),
      closeBlock 4] ++ others

/-- The lines of a page about the state of a run. -/
def stateLines (state : Value) : Except Fault (List String) := do
  if state.isTrue then
    let entries ← Report.variableEntries state
    let lines ← variableLines entries
    return [openBlock 3 "variable-section",
      pageLine 4 "<div class=\"section-title\">Current State:</div>"] ++ lines ++ [closeBlock 3]
  else return []

/-- The lines below the title of a page. -/
def detailLines (report : Report) : Except Fault (List String) :=
  match report with
  | .general .. => do
    return [openBlock 4 "error-details", pageLine 5 (← report.text), closeBlock 4]
  | .parsing _ line column token snippet => do
    let lineText ← knownText line
    let columnText ← knownText column
    let tokenLine ← tokenText token
    let source ← snippetLines snippet
    return [openBlock 3 "error-details", pageLine 4 ("<div>Line: " ++ lineText ++ "</div>"),
      pageLine 4 ("<div>Column: " ++ columnText ++ "</div>"), pageLine 4 tokenLine,
      closeBlock 3] ++ source
  | .running _ task step state => do
    let taskLine ← optionalLine "Task" task
    let stepLine ← optionalLine "Step" step
    let below ← stateLines state
    return [openBlock 3 "error-details"] ++ taskLine ++ stepLine ++ [closeBlock 3] ++ below

/-- The page for a report, below a style sheet. -/
def errorPage (styles : String) (report : Report) : Except Fault String := do
  let title := "<div class=\"error-title\">Think Error: " ++ (← report.message.say) ++ "</div>"
  let details ← detailLines report
  return "\n".intercalate ([styles, openBlock 2 "think-error", openBlock 3 "error-content",
    pageLine 4 title] ++ details ++ [closeBlock 3, closeBlock 2])

end Stepwise.Notebook
