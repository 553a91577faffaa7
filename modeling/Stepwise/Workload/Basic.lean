import Stepwise.Fault

/-!
# Workloads

A workload exercises one part of the library at a given size and sums up what it sees, so that two
runs can be compared. Every workload but one takes its size by a name of its own.
-/

namespace Stepwise

/-- The workloads. -/
inductive Workload where
  | snippets
  | phrases
  | arithmetic
  | collections
  | choices
  | styles
  | subtasks
  | checks
  | reports
  | pages
  | operations
  | wholeProgram
  | syntaxReports
  | runReports
  | controlFlow
  | cells
  deriving DecidableEq, Repr

namespace Workload

/-- What a workload is called. -/
def label : Workload → String
  | .snippets => "bench_parser_source_context"
  | .phrases => "bench_parser_internals"
  | .arithmetic => "bench_interpret_arithmetic"
  | .collections => "bench_interpret_collections"
  | .choices => "bench_interpret_decide"
  | .styles => "bench_interpret_explain_styles"
  | .subtasks => "bench_interpret_subtasks"
  | .checks => "bench_validator"
  | .reports => "bench_errors"
  | .pages => "bench_jupyter_format_errors"
  | .operations => "bench_interpreter_helpers"
  | .wholeProgram => "bench_interpret_full_program"
  | .syntaxReports => "bench_parser_error_paths"
  | .runReports => "bench_interpret_runtime_errors"
  | .controlFlow => "bench_interpret_control_flow"
  | .cells => "bench_jupyter_think_magic"

/-- What the size of a workload is called. -/
def sizeLabel? : Workload → Option String
  | .snippets => some "ctx_window"
  | .phrases | .subtasks => some "n_calls"
  | .arithmetic | .styles | .cells => some "n_iters"
  | .collections | .controlFlow => some "n_items"
  | .choices => some "n_values"
  | .checks => some "n_tasks"
  | .reports => some "n_errs"
  | .pages => some "n_vars"
  | .operations => some "n_ops"
  | .syntaxReports | .runReports => some "n_errors"
  | .wholeProgram => none

/-- All workloads. -/
def all : List Workload :=
  [.snippets, .phrases, .arithmetic, .collections, .choices, .styles, .subtasks, .checks, .reports,
    .pages, .operations, .wholeProgram, .syntaxReports, .runReports, .controlFlow, .cells]

/-- The workload that is called this. -/
def ofLabel? (label : String) : Option Workload :=
  all.find? fun workload => workload.label == label

/-- The size where none is given, as far as one is known. -/
def usualSize? : Workload → Option Int
  | .snippets => some 180
  | .phrases => some 6000
  | .arithmetic | .pages => some 400
  | .collections => some 150
  | .choices => some 300
  | .styles => some 40
  | .subtasks => some 200
  | .checks => some 80
  | .operations => some 1500
  | .reports | .syntaxReports | .runReports | .controlFlow | .cells => none
  | .wholeProgram => some 0

/-- The size that named arguments give: the usual one, unless it is among them. -/
def sizeFrom (workload : Workload) (given : List (String × Int)) : Except Fault (Option Int) :=
  match given.find? fun argument => some argument.1 != workload.sizeLabel? with
  | some (name, _) => .error (.unexpectedKeyword workload.label name)
  | none => .ok ((given.head?.map Prod.snd).orElse fun _ => workload.usualSize?)

end Workload

end Stepwise
