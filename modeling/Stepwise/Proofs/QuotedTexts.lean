import Stepwise.Proofs.Conditions
import Stepwise.Proofs.Contexts

/-!
# Quoted texts in expressions

The value of a quoted text is a dictionary with a tag, in which the text is wrapped.  Some frames take the
text out of it: a list, a dictionary, an index into anything that is no list, and the function that prints;
and functions that are not built in do not look at their arguments.  There a quoted text and a variable that
holds the text can be exchanged.  In all other frames a quoted text acts as the dictionary, so that two
quoted texts have no sum, and the sum of one and a text begins with the text of the dictionary.
-/

namespace Stepwise

open Run

/-! ## Frames that take the text out -/

/-- The frame takes a text out of its dictionary, or does not look at it, given what is known at the hole. -/
def Frame.Absorbs : (frame : Frame) → frame.Found → Prop
  | .item .., _ | .entryKey .., _ | .entryValue .., _ => True
  | .argument function .., _ => function = "print" ∨ builtin? function = none
  | .indexKey _, container => ∀ items, container ≠ .list items
  | .indexed _, _ | .negated, _ | .leftOf .., _ | .rightOf .., _ => False

theorem Run.printValues_textLiteral (content : String) (before after : List Value) :
    printValues (before ++ .textLiteral (.str content) :: after) =
      printValues (before ++ .str content :: after) := by
  have same : outputText (.textLiteral (.str content)) = outputText (.str content) := rfl
  simp only [printValues, List.mapM_append, List.mapM_cons, same]

theorem Run.callFunction_textLiteral {function : String}
    (absorbs : function = "print" ∨ builtin? function = none) (content : String)
    (before after : List Value) :
    callFunction call (.str function) (before ++ .textLiteral (.str content) :: after) =
      callFunction call (.str function) (before ++ .str content :: after) := by
  rcases absorbs with rfl | notBuiltin
  · exact printValues_textLiteral content before after
  · simp only [callFunction, notBuiltin]

theorem Run.index_textLiteral {container : Value} (noList : ∀ items, container ≠ .list items)
    (content : String) : index container (.textLiteral (.str content)) = index container (.str content) := by
  cases container with
  | list items => exact absurd rfl (noList items)
  | _ => rfl

/-- An absorbing frame does the same with a quoted text and with the text. -/
theorem Frame.Absorbs.finish_eq {frame : Frame} {found : frame.Found} (absorbs : frame.Absorbs found)
    (content : String) :
    frame.finish found (.textLiteral (.str content)) = frame.finish found (.str content) := by
  cases frame with
  | item before after => rfl
  | entryKey before value after => rfl
  | entryValue before key after => rfl
  | argument function before after =>
      have same := fun later => callFunction_textLiteral absorbs content found later
      simp only [finish, same]
  | indexKey container => exact index_textLiteral absorbs content
  | indexed | negated | leftOf | rightOf => exact absorbs.elim

/-! ## Exchange -/

namespace Expr

theorem evaluate_text (content : String) :
    (text content).evaluate = pure (.textLiteral (.str content)) :=
  rfl

theorem outcome_evaluate_name {word : String} {value : Value} {machine : Machine}
    (holds : Table.fetch? (.str word) machine.variables = some value) :
    (name word).evaluate.outcome machine = (.ok value, machine) := by
  have read := outcome_readVariable word machine
  rw [holds] at read
  exact read

end Expr

namespace Context

/-- Something is the case where evaluation reaches the hole. -/
def Reaches (context : Context) (machine : Machine) (holds : context.inner.Found → Machine → Prop) :
    Prop :=
  ∀ found after, context.reach.outcome machine = (.ok found, after) → holds found after

variable {context : Context} {machine : Machine} {content word : String}

/-- A quoted text and a variable can be exchanged if the frame does the same with their values. -/
theorem outcome_exchange
    (reaches : context.Reaches machine fun found after => ∃ value,
      Table.fetch? (.str word) after.variables = some value ∧
        context.inner.finish found (.textLiteral (.str content)) = context.inner.finish found value) :
    (context.fill (.text content)).evaluate.outcome machine =
      (context.fill (.name word)).evaluate.outcome machine := by
  refine outcome_fill_congr fun found after reached => ?_
  obtain ⟨value, holds, same⟩ := reaches found after reached
  rw [Expr.evaluate_text, pure_bind, bind_eq_of_ok (Expr.outcome_evaluate_name holds), same]

end Context

/-! ## Assignments -/

theorem Run.execNode_assign (target : String) (value : Expr) :
    execNode (Stmt.assign target value).node =
      value.evaluate >>= assignTo (.ok (.str target)) :=
  rfl

theorem Run.assignTo_textLiteral (target : Except Fault Value) (content : String) :
    assignTo target (.textLiteral (.str content)) = assignTo target (.str content) :=
  rfl

theorem Run.noteText_of_speakable {value : Value} (said : value.speakable = true) :
    ∃ text, noteText value = .ok text := by
  unfold noteText
  split
  · exact ⟨_, rfl⟩
  · exact ⟨_, Report.say_of_speakable said⟩

theorem Run.noteText_of_unspeakable {value : Value} (unsaid : value.speakable = false) :
    noteText value = .error .digitsShown := by
  unfold noteText
  split
  · cases unsaid
  · exact Report.say_of_unspeakable unsaid

/-- The outcome of an assignment that stores a value.  There is nothing to return, but a fault if the value
has too many digits to be noted.  Nothing changes but the variable and what is noted. -/
def Run.Stores (name : String) (value : Value) (before : Machine) (outcome : Except Stop Value × Machine) :
    Prop :=
  outcome.1 = (if value.speakable then .ok .null else .error (.fault .digitsShown)) ∧
    ∃ log, outcome.2 =
      { before with «variables» := Table.store (.str name) value before.variables, log := log }

/-- An assignment stores what the value stands for. -/
theorem Run.stores_assignTo {value plain : Value} (stands : value.unwrapped = .ok plain) (name : String)
    (machine : Machine) :
    Stores name plain machine ((assignTo (.ok (.str name)) value).outcome machine) := by
  let stored : Machine :=
    { machine with «variables» := Table.store (.str name) plain machine.variables }
  have assigns : (assign (.str name) plain).outcome machine = (.ok (), stored) := rfl
  rw [assignTo, bind_eq_of_ok (lift_of_ok stands machine), bind_eq_of_ok (lift_of_ok rfl machine),
    bind_eq_of_ok assigns]
  cases said : plain.speakable with
  | true =>
      obtain ⟨text, noted⟩ := noteText_of_speakable said
      have named : (Value.str name).say = .ok name := rfl
      rw [bind_eq_of_ok (lift_of_ok noted stored), bind_eq_of_ok (lift_of_ok named stored),
        bind_eq_of_ok (outcome_note _ _ stored), outcome_pure]
      refine ⟨by rw [said]; rfl, ?_⟩
      split
      · exact ⟨_, rfl⟩
      · exact ⟨machine.log, rfl⟩
  | false =>
      rw [noteText_of_unspeakable said]
      exact ⟨by rw [said]; rfl, machine.log, rfl⟩

theorem Run.outcome_assignTo_str (target content : String) (machine : Machine) :
    ∃ after, (assignTo (.ok (.str target)) (.str content)).outcome machine = (.ok .null, after) ∧
      after.variables = Table.store (.str target) (.str content) machine.variables := by
  have stands : (Value.str content).unwrapped = .ok (.str content) := rfl
  obtain ⟨ends, log, after⟩ := stores_assignTo stands target machine
  exact ⟨_, Prod.ext ends after, rfl⟩

/-! ## Sums -/

/-- The text of the dictionary that stands for a quoted text. -/
def wrapperText (content : String) : String :=
  "\x7b'type': 'string_literal', 'value': " ++ Text.quoted content ++ "\x7d"

/-- The names are variables here, since their quoted forms must not be evaluated. -/
theorem Value.shown_pair (first second third fourth : String) :
    (Value.record [(first, .str second), (third, .str fourth)]).shown =
      "\x7b" ++ (Text.quoted first ++ ": " ++ Text.quoted second ++ ", " ++
        (Text.quoted third ++ ": " ++ Text.quoted fourth)) ++ "\x7d" := by
  simp only [Value.record, List.map_cons, List.map_nil, Value.shown, Value.quoted, Value.quotedEntries,
    Value.commaSeparated, String.intercalate_cons_cons, String.intercalate_singleton]

theorem Value.shown_textLiteral (content : String) :
    (Value.textLiteral (.str content)).shown = wrapperText content := by
  have isType : Text.quoted "type" = "'type'" := by decide +kernel
  have isTag : Text.quoted Value.textTag = "'string_literal'" := by decide +kernel
  have isValue : Text.quoted "value" = "'value'" := by decide +kernel
  have opening : "\x7b" ++ ("'type'" ++ ": " ++ "'string_literal'" ++ ", " ++ ("'value'" ++ ": ")) =
      "\x7b'type': 'string_literal', 'value': " := by
    decide +kernel
  calc (Value.textLiteral (.str content)).shown
    _ = "\x7b" ++ ("'type'" ++ ": " ++ "'string_literal'" ++ ", " ++
          ("'value'" ++ ": " ++ Text.quoted content)) ++ "\x7d" := by
      rw [← isType, ← isTag, ← isValue]
      exact Value.shown_pair "type" Value.textTag "value" content
    _ = "\x7b" ++ ("'type'" ++ ": " ++ "'string_literal'" ++ ", " ++ ("'value'" ++ ": ")) ++
          Text.quoted content ++ "\x7d" := by
      simp only [String.append_assoc, -String.reduceAppend]
    _ = wrapperText content := congrArg (· ++ Text.quoted content ++ "\x7d") opening

theorem Value.say_textLiteral (content : String) :
    (Value.textLiteral (.str content)).say = .ok (wrapperText content) := by
  have speakable : (Value.textLiteral (.str content)).speakable = true := rfl
  rw [Report.say_of_speakable speakable, Value.shown_textLiteral]

/-- Two quoted texts have no sum. -/
theorem Run.plus_textLiterals (left right : String) :
    plus (.textLiteral (.str left)) (.textLiteral (.str right)) =
      fault (.unsupportedOperands "+" "dict" "dict") :=
  rfl

theorem Run.plus_textLiteral_str (content held : String) :
    plus (.textLiteral (.str content)) (.str held) = pure (.str (wrapperText content ++ held)) := by
  change (do return .str ((← lift (Value.textLiteral (.str content)).say) ++ held) : Run Value) = _
  rw [Value.say_textLiteral]
  rfl

/-! ## Program texts -/

theorem read_of_parseTokens {source : String} {program : Program}
    (parsed : parseTokens (lex source).tokens = .ok program) (finished : (lex source).ending = .finished)
    (passes : (Check.program program.node (some source)).outcome = .ok ()) :
    Program.read source = ⟨[], .ok program⟩ := by
  simp only [Program.read, parsed, finished, Reading.atEnd, passes]
  rfl

theorem Run.outcome_executeSource {source : String} {program : Program} {machine : Machine}
    (read : Program.read source = ⟨[], .ok program⟩) :
    (executeSource (.str source)).outcome machine = (execute program.node).outcome machine := by
  rw [executeSource, readProgram, Program.readValue, read]
  rfl

/-! ## The whole -/

/-- A quoted text stands for the dictionary in which the text is wrapped, and for the text where this is
taken out.

In every context and on every machine it can be exchanged with a variable that holds the dictionary when
the hole is reached, and in an absorbing frame with a variable that holds the text.  A variable keeps its
value up to the hole if registered code does not assign it.  An assignment takes the text out.  But a sum of
two quoted texts is a fault and nothing is stored, and a sum of a quoted text and a variable with a text
stores the text of the dictionary, followed by the other text. -/
theorem quotedText_exchange (content word : String) (machine : Machine) :
    (∀ context : Context,
      (context.Reaches machine (fun _ after =>
          Table.fetch? (.str word) after.variables = some (.textLiteral (.str content))) →
        (context.fill (.text content)).evaluate.outcome machine =
          (context.fill (.name word)).evaluate.outcome machine) ∧
      (context.Reaches machine (fun found after => context.inner.Absorbs found ∧
          Table.fetch? (.str word) after.variables = some (.str content)) →
        (context.fill (.text content)).evaluate.outcome machine =
          (context.fill (.name word)).evaluate.outcome machine) ∧
      ((∀ target ∈ machine.targets, target.same (.str word) = false) →
        context.Reaches machine fun _ after => Table.fetch? (.str word) after.variables =
          Table.fetch? (.str word) machine.variables)) ∧
    (Table.fetch? (.str word) machine.variables = some (.str content) → ∀ target,
      (execNode (Stmt.assign target (.text content)).node).outcome machine =
        (execNode (Stmt.assign target (.name word)).node).outcome machine) ∧
    (∀ target other,
      (execNode (Stmt.assign target (.binary .plus (.text content) (.text other))).node).outcome machine =
        (.error (.fault (.unsupportedOperands "+" "dict" "dict")), machine)) ∧
    ∀ target held, Table.fetch? (.str word) machine.variables = some (.str held) →
      ∃ after, (execNode (Stmt.assign target (.binary .plus (.text content) (.name word))).node).outcome
          machine = (.ok .null, after) ∧
        after.variables = Table.store (.str target) (.str (wrapperText content ++ held))
          machine.variables := by
  refine ⟨fun context => ⟨fun reaches => ?_, fun reaches => ?_, fun differs => ?_⟩, fun holds target => ?_,
    fun target other => ?_, fun target held holds => ?_⟩
  · exact Context.outcome_exchange fun found after reached =>
      ⟨_, reaches found after reached, rfl⟩
  · refine Context.outcome_exchange fun found after reached => ?_
    obtain ⟨absorbs, holds⟩ := reaches found after reached
    exact ⟨_, holds, absorbs.finish_eq content⟩
  · exact fun found after reached => Context.fetch?_reach reached differs
  · rw [execNode_assign, execNode_assign, Expr.evaluate_text, pure_bind, assignTo_textLiteral,
      bind_eq_of_ok (Expr.outcome_evaluate_name holds)]
  · change (plus (.textLiteral (.str content)) (.textLiteral (.str other)) >>= assignTo _).outcome
      machine = _
    rw [plus_textLiterals]
    rfl
  · have sum : (Expr.binary .plus (.text content) (.name word)).evaluate.outcome machine =
        (.ok (.str (wrapperText content ++ held)), machine) := by
      change ((Expr.name word).evaluate >>= plus (.textLiteral (.str content))).outcome machine = _
      rw [bind_eq_of_ok (Expr.outcome_evaluate_name holds), plus_textLiteral_str]
      rfl
    rw [execNode_assign, bind_eq_of_ok sum]
    exact outcome_assignTo_str target _ machine

/-- In the index of `d["k"] + 2` the quoted text can be exchanged with a variable. -/
theorem quotedText_exchange_index :
    let machine : Machine := { Machine.fresh ⟨false, .standard, 5⟩ none with
      «variables» := [(.str "x", .str "k"), (.str "d", .dict [(.str "k", .int 1)])] }
    let context : Context := ⟨[.leftOf .plus (.int 2)], .indexKey (.name "d")⟩
    (∀ target ∈ machine.targets, target.same (.str "x") = false) ∧
    Table.fetch? (.str "x") machine.variables = some (.str "k") ∧
    context.Reaches machine (fun found after => context.inner.Absorbs found ∧
      Table.fetch? (.str "x") after.variables = some (.str "k")) ∧
    (context.fill (.text "k")).evaluate.outcome machine =
      (context.fill (.name "x")).evaluate.outcome machine ∧
    (execNode (Stmt.assign "y" (.text "k")).node).outcome machine =
      (execNode (Stmt.assign "y" (.name "x")).node).outcome machine := by
  intro machine context
  obtain ⟨exchange, assigned, -⟩ := quotedText_exchange "k" "x" machine
  obtain ⟨-, exchanged, kept⟩ := exchange context
  have untouched : ∀ target ∈ machine.targets, target.same (.str "x") = false :=
    fun _ member => by cases member
  have holds : Table.fetch? (.str "x") machine.variables = some (.str "k") := rfl
  have reaches : context.Reaches machine fun found after => context.inner.Absorbs found ∧
      Table.fetch? (.str "x") after.variables = some (.str "k") := by
    refine fun found after reached => ⟨?_, (kept untouched found after reached).trans holds⟩
    have isDict : context.reach.outcome machine = (.ok (.dict [(.str "k", .int 1)]), machine) := rfl
    cases isDict.symm.trans reached
    rintro items ⟨⟩
  exact ⟨untouched, holds, reaches, exchanged reaches, assigned holds "y"⟩

/-- A quoted text and a variable that holds the text have different sums with another text, and a program
that assigns the sum of two quoted texts fails and stores nothing. -/
theorem quotedText_not_exchanged_in_sum :
    let machine : Machine := { Machine.fresh ⟨false, .standard, 5⟩ none with
      «variables» := [(.str "x", .str "a"), (.str "y", .str "b")] }
    let context : Context := ⟨[], .leftOf .plus (.name "y")⟩
    let ended := (executeSource
      (.str "objective \"o\"\ntask \"t\":\nstep \"s\":\nx = \"a\" + \"b\"\nrun \"t\"")).outcome
        (.fresh ⟨false, .standard, 5⟩ none)
    (Table.fetch? (.str "x") machine.variables = some (.str "a") ∧
      (context.fill (.text "a")).evaluate.outcome machine =
        (.ok (.str "\x7b'type': 'string_literal', 'value': 'a'\x7db"), machine) ∧
      (context.fill (.name "x")).evaluate.outcome machine = (.ok (.str "ab"), machine)) ∧
    (∃ message, ended.1 = .error (.report (.running message .null .null (.dict [])))) ∧
      ended.2.variables = [] := by
  intro machine context ended
  have quoted : wrapperText "a" ++ "b" = "\x7b'type': 'string_literal', 'value': 'a'\x7db" := by
    decide +kernel
  have sum : (context.fill (.text "a")).evaluate.outcome machine =
      (.ok (.str "\x7b'type': 'string_literal', 'value': 'a'\x7db"), machine) := by
    change (plus (.textLiteral (.str "a")) (.str "b")).outcome machine = _
    rw [plus_textLiteral_str, quoted]
    rfl
  let program : Program :=
    ⟨"o", [⟨"t", [.step "s" [.assign "x" (.binary .plus (.text "a") (.text "b"))]]⟩], ["t"]⟩
  have passes : ∀ text, (Check.program program.node text).outcome = .ok () := fun text =>
    Check.program_ok (by simp [program]) (by simp [program]) (fun _ => Iff.rfl) text
  have read : Program.read "objective \"o\"\ntask \"t\":\nstep \"s\":\nx = \"a\" + \"b\"\nrun \"t\"" =
      ⟨[], .ok program⟩ := read_of_parseTokens (by rfl) (by rfl) (passes _)
  have executed : ended = (execute program.node).outcome (.fresh ⟨false, .standard, 5⟩ none) :=
    outcome_executeSource read
  rw [executed, outcome_execute, outcome_executeChecked (passes _)]
  exact ⟨⟨rfl, sum, rfl⟩, ⟨_, rfl⟩, rfl⟩

end Stepwise
