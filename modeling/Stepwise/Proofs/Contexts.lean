import Stepwise.Machine.Node
import Stepwise.Proofs.Definitions
import Stepwise.Proofs.Values.Code
import Stepwise.Proofs.Writes.Code

/-!
# Expressions with a hole

A `Frame` is an expression in which one part is missing, and a `Context` is a stack of frames.  Evaluation of
a filled frame has three stages: what comes before the hole, the part in the hole, and what is done with its
value.  So two parts can be exchanged if they behave alike on the machines on which the hole is reached.
-/

namespace Stepwise

open Run

namespace Expr

/-- The code of an expression. -/
def term (expr : Expr) : Term :=
  Term.ofNode expr.node

/-- The code of the entries of a dictionary. -/
def entryTerms (entries : List (Expr × Expr)) : List (Term × Term) :=
  entries.map fun entry => (entry.1.term, entry.2.term)

theorem term_list (items : List Expr) : (list items).term = .list (items.map term) := by
  change Term.list (Term.ofNodes (itemNodes items)) = _
  rw [Term.ofNodes_eq_map, itemNodes_eq_map, List.map_map]
  rfl

theorem term_call (function : String) (arguments : List Expr) :
    (call function arguments).term = .call (.str function) (arguments.map term) := by
  change Term.call (.str function) (Term.ofNodes (itemNodes arguments)) = _
  rw [Term.ofNodes_eq_map, itemNodes_eq_map, List.map_map]
  rfl

theorem term_dict (entries : List (Expr × Expr)) : (dict entries).term = .dict (entryTerms entries) := by
  change Term.dict (Term.pairs (entryNodes entries)) = _
  rw [entryNodes_eq_map, Term.pairs_entries, List.map_map]
  rfl

/-- The value of an expression on a machine. -/
def evaluate (expr : Expr) : Run Value :=
  evalNode expr.node

theorem evaluate_eq (expr : Expr) : expr.evaluate = eval Run.call expr.term :=
  rfl

end Expr

/-- An expression with one part missing. -/
inductive Frame where
  | item (before after : List Expr)
  | entryKey (before : List (Expr × Expr)) (value : Expr) (after : List (Expr × Expr))
  | entryValue (before : List (Expr × Expr)) (key : Expr) (after : List (Expr × Expr))
  | argument (function : String) (before after : List Expr)
  | indexed (key : Expr)
  | indexKey (container : Expr)
  | negated
  | leftOf (operator : Operator) (right : Expr)
  | rightOf (operator : Operator) (left : Expr)

namespace Frame

/-- The expression with a part in the hole. -/
def fill (inner : Expr) : Frame → Expr
  | item before after => .list (before ++ inner :: after)
  | entryKey before value after => .dict (before ++ (inner, value) :: after)
  | entryValue before key after => .dict (before ++ (key, inner) :: after)
  | argument function before after => .call function (before ++ inner :: after)
  | indexed key => .index inner key
  | indexKey container => .index container inner
  | negated => .negate inner
  | leftOf operator right => .binary operator inner right
  | rightOf operator left => .binary operator left inner

/-- What is known when evaluation reaches the hole. -/
abbrev Found : Frame → Type
  | item .. | argument .. => List Value
  | entryKey .. => Table Value
  | entryValue .. => Table Value × Value
  | indexKey _ | rightOf .. => Value
  | indexed _ | negated | leftOf .. => Unit

/-- Evaluation up to the hole. -/
def lead : (frame : Frame) → Run frame.Found
  | item before _ => evalItems call (before.map Expr.term)
  | argument _ before _ => evalAll call (before.map Expr.term)
  | entryKey before _ _ => evalEntries call (Expr.entryTerms before) []
  | entryValue before key _ => do
    let table ← evalEntries call (Expr.entryTerms before) []
    return (table, ← key.evaluate)
  | indexKey container => container.evaluate
  | rightOf _ left => left.evaluate
  | indexed _ | negated | leftOf .. => pure ()

/-- Stores an entry of a dictionary, and those after it. -/
def enter (table : Table Value) (key value : Value) (after : List (Expr × Expr)) : Run Value := do
  let key ← lift key.unwrapped
  let value ← lift value.unwrapped
  let key ← lift key.asKey
  return .dict (← evalEntries call (Expr.entryTerms after) (Table.store key value table))

/-- Evaluation behind the hole, given the value of what is in it. -/
def finish : (frame : Frame) → frame.Found → Value → Run Value
  | item _ after, values, value => do
    let value ← lift value.unwrapped
    return .list (values ++ value :: (← evalItems call (after.map Expr.term)))
  | argument function _ after, values, value => do
    callFunction call (.str function) (values ++ value :: (← evalAll call (after.map Expr.term)))
  | entryKey _ value after, table, key => do
    let value ← value.evaluate
    enter table key value after
  | entryValue _ _ after, (table, key), value => enter table key value after
  | indexed key, _, value => do
    let key ← key.evaluate
    index value key
  | indexKey _, container, value => index container value
  | negated, _, value => lift value.negate
  | leftOf operator right, _, value => do
    let right ← right.evaluate
    operate (.str operator.symbol) value right
  | rightOf operator _, left, value => operate (.str operator.symbol) left value

end Frame

/-! ## The three stages -/

namespace Run

theorem evalItems_append (call : Value → Run Value) (before after : List Term) :
    evalItems call (before ++ after) = (do
      let first ← evalItems call before
      let rest ← evalItems call after
      return first ++ rest) := by
  induction before with
  | nil => simp [evalItems]
  | cons term rest ih => simp [evalItems, ih]

theorem evalAll_append (call : Value → Run Value) (before after : List Term) :
    evalAll call (before ++ after) = (do
      let first ← evalAll call before
      let rest ← evalAll call after
      return first ++ rest) := by
  induction before with
  | nil => simp [evalAll]
  | cons term rest ih => simp [evalAll, ih]

theorem evalEntries_append (call : Value → Run Value) (before after : List (Term × Term))
    (stored : Table Value) :
    evalEntries call (before ++ after) stored =
      evalEntries call before stored >>= evalEntries call after := by
  induction before generalizing stored with
  | nil => simp [evalEntries]
  | cons entry rest ih => simp [evalEntries, ih]

end Run

theorem Frame.evaluate_fill (frame : Frame) (inner : Expr) :
    (frame.fill inner).evaluate = (do
      let found ← frame.lead
      let value ← inner.evaluate
      frame.finish found value) := by
  rw [Expr.evaluate_eq]
  cases frame with
  | item before after =>
      rw [fill, Expr.term_list, List.map_append, List.map_cons, eval, evalItems_append]
      simp [lead, finish, evalItems, Expr.evaluate_eq]
  | argument function before after =>
      rw [fill, Expr.term_call, List.map_append, List.map_cons, eval, evalAll_append]
      simp [lead, finish, evalAll, Expr.evaluate_eq]
  | entryKey before value after =>
      rw [fill, Expr.term_dict, Expr.entryTerms, List.map_append, List.map_cons, eval, evalEntries_append]
      simp [lead, finish, enter, evalEntries, Expr.evaluate_eq, Expr.entryTerms]
  | entryValue before key after =>
      rw [fill, Expr.term_dict, Expr.entryTerms, List.map_append, List.map_cons, eval, evalEntries_append]
      simp [lead, finish, enter, evalEntries, Expr.evaluate_eq, Expr.entryTerms]
  | indexed key => rfl
  | indexKey container => rfl
  | negated => rfl
  | leftOf operator right => rfl
  | rightOf operator left => rfl

/-! ## Contexts -/

/-- An expression with a hole at any depth: the frames around the hole from the outermost one on, and the
one that the hole is in. -/
structure Context where
  outer : List Frame
  inner : Frame

namespace Context

/-- The expression with a part in the hole. -/
def fill (expr : Expr) (context : Context) : Expr :=
  context.outer.foldr (fun frame filled => frame.fill filled) (context.inner.fill expr)

/-- Evaluation up to the hole. -/
def reach (context : Context) : Run context.inner.Found :=
  context.outer.foldr (fun frame rest => do let _ ← frame.lead; rest) context.inner.lead

/-- The runs agree where the first part ends, so they agree. -/
theorem outcome_bind_congr {α β : Type} {run : Run α} {next other : α → Run β} {machine : Machine}
    (same : ∀ value after, run.outcome machine = (.ok value, after) →
      (next value).outcome after = (other value).outcome after) :
    (run >>= next).outcome machine = (run >>= other).outcome machine := by
  rw [outcome_bind, outcome_bind]
  rcases early : run.outcome machine with ⟨stop | value, after⟩
  · rfl
  · exact same value after early

/-- Parts that behave alike where the hole is reached can be exchanged. -/
theorem outcome_fill_congr {context : Context} {first second : Expr} {machine : Machine}
    (same : ∀ found after, context.reach.outcome machine = (.ok found, after) →
      (first.evaluate >>= context.inner.finish found).outcome after =
        (second.evaluate >>= context.inner.finish found).outcome after) :
    (context.fill first).evaluate.outcome machine = (context.fill second).evaluate.outcome machine := by
  obtain ⟨outer, inner⟩ := context
  induction outer generalizing machine with
  | nil =>
      rw [fill, fill, List.foldr_nil, List.foldr_nil, Frame.evaluate_fill, Frame.evaluate_fill]
      exact outcome_bind_congr same
  | cons frame rest ih =>
      rw [fill, fill, List.foldr_cons, List.foldr_cons, Frame.evaluate_fill, Frame.evaluate_fill]
      refine outcome_bind_congr fun found after early => ?_
      -- The other frames start on the machine that the way to the first hole leaves.
      have inside : (fill first ⟨rest, inner⟩).evaluate.outcome after =
          (fill second ⟨rest, inner⟩).evaluate.outcome after :=
        ih fun value reached ends => same value reached ((bind_eq_of_ok early).trans ends)
      change ((fill first ⟨rest, inner⟩).evaluate >>= frame.finish found).outcome after =
        ((fill second ⟨rest, inner⟩).evaluate >>= frame.finish found).outcome after
      rw [outcome_bind, outcome_bind, inside]

/-! ## What reaching the hole changes -/

section Obeying

variable {written : Value → Prop}

theorem obeys_evaluate (expr : Expr) : Obeys written expr.evaluate :=
  obeys_eval (obeys_runSubtask maxDepth) _

theorem obeys_lead (frame : Frame) : Obeys written frame.lead := by
  have calls : CallsObey written call := obeys_runSubtask maxDepth
  cases frame with
  | item before after => exact obeys_evalItems calls _
  | argument function before after => exact obeys_evalAll calls _
  | entryKey before value after => exact obeys_evalEntries calls _ _
  | entryValue before key after =>
      exact (obeys_evalEntries calls _ _).bind fun _ => (obeys_evaluate key).bind fun _ => obeys_pure _
  | indexKey container => exact obeys_evaluate container
  | rightOf operator left => exact obeys_evaluate left
  | indexed | negated | leftOf => exact obeys_pure _

theorem obeys_reach (context : Context) : Obeys written context.reach := by
  obtain ⟨outer, inner⟩ := context
  induction outer with
  | nil => exact obeys_lead inner
  | cons frame rest ih => exact (obeys_lead frame).bind fun _ => ih

end Obeying

/-- Up to the hole a variable keeps its value if the registered code does not assign it. -/
theorem fetch?_reach {context : Context} {machine after : Machine} {found : context.inner.Found}
    (reached : context.reach.outcome machine = (.ok found, after)) {name : Value}
    (differs : ∀ target ∈ machine.targets, target.same name = false) :
    Table.fetch? name after.variables = Table.fetch? name machine.variables := by
  have covered : machine.Covered (· ∈ machine.targets) := Machine.covered_iff.mpr fun _ member => member
  have obeyed := obeys_reach context machine covered
  rw [reached] at obeyed
  exact obeyed.writes.others name differs

end Context

end Stepwise
