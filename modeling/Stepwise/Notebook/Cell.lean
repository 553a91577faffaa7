import Stepwise.Machine.Node
import Stepwise.Notebook.Options
import Stepwise.Notebook.Page

/-!
# Running cells

A cell is a program text with a line of options above it. Running it executes the program; what goes
wrong is shown as an error page. A line without a cell is itself the program text.
-/

namespace Stepwise.Notebook

/-- What running a cell gives: the options it ran with, what was printed, the pages that were shown,
and how it ended. -/
structure CellRun where
  options : Options
  printed : String
  pages : List String
  outcome : Except Fault Unit

/-- The page for what stopped a run, with the variables at that point. -/
def stopPage (styles : String) (state : Table Value) : Stop → Except Fault String
  | .report report => errorPage styles report
  | .fault cause =>
    match (Failure.broken cause state).stop with
    | .report report => errorPage styles report
    | .fault other => .error other

/-- The names of what a notebook registers. -/
def registered : List String :=
  ["ThinkMagics"]

end Stepwise.Notebook
