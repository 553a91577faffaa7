import Stepwise.Report

/-!
# Reports from named fields

A report can be made from fields that are given by name. Every kind of report needs a message; the
other fields are null unless they are given.
-/

namespace Stepwise.Report

/-- The kinds of reports. -/
inductive Kind where
  | general
  | parsing
  | running
  deriving DecidableEq, Repr

namespace Kind

/-- What the maker of a kind of report is called in messages. -/
def makerName : Kind → String
  | .general => "ThinkError.__init__"
  | .parsing => "ThinkParserError.__init__"
  | .running => "ThinkRuntimeError.__init__"

/-- The fields of a kind of report. -/
def fields : Kind → List String
  | .general => ["message", "line", "column", "context"]
  | .parsing => ["message", "line", "column", "token", "source_snippet"]
  | .running => ["message", "task", "step", "variables"]

end Kind

/-- Checks the name of a field. The report itself goes by a name that no field can have. -/
def checkField (kind : Kind) (name : Value) : Except Fault Unit :=
  match name with
  | .str "self" => .error (.repeatedArgument kind.makerName "self")
  | .str name =>
    if kind.fields.contains name then .ok () else .error (.unexpectedKeyword kind.makerName name)
  | _ => .error .keywordsNotText

/-- Checks the names of all fields: first that they are texts, then each of them. -/
def checkFields (kind : Kind) (given : Table Value) : Except Fault Unit := do
  if given.any fun entry => entry.1.typeName != "str" then throw .keywordsNotText
  for entry in given do
    checkField kind entry.1

/-- The report of a kind with the given fields. -/
def ofFields (kind : Kind) (given : Table Value) : Except Fault Report := do
  checkFields kind given
  let field (name : String) : Value := (given.fetch? (.str name)).getD .null
  match given.fetch? (.str "message") with
  | none => throw (.missingPositional kind.makerName "message")
  | some message =>
    let report := match kind with
      | .general => Report.general message (field "line") (field "column") (field "context")
      | .parsing =>
        Report.parsing message (field "line") (field "column") (field "token")
          (field "source_snippet")
      | .running => Report.running message (field "task") (field "step") (field "variables")
    let _ ← report.text
    return report

end Stepwise.Report
