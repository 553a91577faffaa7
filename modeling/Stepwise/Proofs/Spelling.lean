import Stepwise.Machine.Node
import Stepwise.Proofs.Definitions

/-!
# Subtasks by other spellings

A function name that is neither built in nor the name of a subtask is read as a spelling of one: its
underscores stand for blanks, and the case of its letters does not matter, since title case is the same for
all spellings.  So a subtask whose name is in title case is reached by every spelling of its name.

The arguments of a call are evaluated first, and may run other code.  No code changes which subtasks there
are, so the subtask that is found then is the one that was registered before.
-/

namespace Stepwise

/-! ## Title case and the case of letters -/

namespace Text

/-- Only the capital letters from A to Z have a lower form other than themselves. -/
theorem toLower_eq_self_or_capital (c : Char) : c.toLower = c ∨ c.toNat ∈ List.range' 65 26 := by
  by_cases capital : c.val ≥ 'A'.val ∧ c.val ≤ 'Z'.val
  · right
    rw [List.mem_range'_1]
    exact ⟨capital.1, Nat.lt_succ_of_le capital.2⟩
  · exact .inl (dif_neg capital)

/-- A function that gives the same for each capital letter and its lower form ignores the case of letters. -/
theorem apply_toLower {α : Type} (form : Char → α)
    (capitals : ∀ point ∈ List.range' 65 26, form (Char.ofNat point).toLower = form (Char.ofNat point))
    (c : Char) : form c.toLower = form c := by
  rcases toLower_eq_self_or_capital c with unchanged | capital
  · rw [unchanged]
  · have same := capitals c.toNat capital
    rwa [Char.ofNat_toNat] at same

theorem isCased_toLower (c : Char) : isCased c.toLower = isCased c :=
  apply_toLower isCased (by decide +kernel) c

theorem isCaseIgnorable_toLower (c : Char) : isCaseIgnorable c.toLower = isCaseIgnorable c :=
  apply_toLower isCaseIgnorable (by decide +kernel) c

theorem titleForm_toLower (c : Char) : titleForm c.toLower = titleForm c :=
  apply_toLower titleForm (by decide +kernel) c

theorem lowerForm_toLower (c : Char) : lowerForm c.toLower = lowerForm c :=
  apply_toLower lowerForm (by decide +kernel) c

theorem toLower_beq_sigma (c : Char) : (c.toLower == 'Σ') = (c == 'Σ') :=
  apply_toLower (· == 'Σ') (by decide +kernel) c

theorem toLower_beq_underscore (c : Char) : (c.toLower == '_') = (c == '_') :=
  apply_toLower (· == '_') (by decide +kernel) c

theorem meetsCased_toLower (chars : List Char) : meetsCased (chars.map Char.toLower) = meetsCased chars := by
  have passed : isCaseIgnorable ∘ Char.toLower = isCaseIgnorable := funext isCaseIgnorable_toLower
  rw [meetsCased, meetsCased, List.dropWhile_map, passed]
  cases chars.dropWhile isCaseIgnorable with
  | nil => rfl
  | cons c rest => exact isCased_toLower c

/-- Whether a word goes on behind some characters, which are given backwards. -/
def inWord : List Char → Bool
  | [] => false
  | previous :: _ => isCased previous

theorem inWord_toLower (before : List Char) : inWord (before.map Char.toLower) = inWord before := by
  cases before with
  | nil => rfl
  | cons previous others => exact isCased_toLower previous

theorem titleCaseAfter_cons (before : List Char) (c : Char) (rest : List Char) :
    titleCaseAfter before (c :: rest) =
      (if !inWord before then titleForm c
        else if c == 'Σ' then [lowerSigma before rest] else lowerForm c) ++
      titleCaseAfter (c :: before) rest := by
  cases before <;> rfl

/-- The case of the letters does not matter for the title case of a text. -/
theorem titleCaseAfter_toLower (before chars : List Char) :
    titleCaseAfter (before.map Char.toLower) (chars.map Char.toLower) = titleCaseAfter before chars := by
  induction chars generalizing before with
  | nil => rfl
  | cons c rest ih =>
      have later := ih (c :: before)
      rw [List.map_cons] at later
      rw [List.map_cons, titleCaseAfter_cons, titleCaseAfter_cons before, later, inWord_toLower,
        titleForm_toLower, lowerForm_toLower, toLower_beq_sigma, lowerSigma, lowerSigma, meetsCased_toLower,
        meetsCased_toLower]

theorem titleCaseAfter_eq {chars others : List Char} (same : chars.map Char.toLower = others.map Char.toLower) :
    titleCaseAfter [] chars = titleCaseAfter [] others := by
  rw [← titleCaseAfter_toLower [] chars, same]
  exact titleCaseAfter_toLower [] others

end Text

/-! ## Spellings -/

/-- The text is a spelling of a name: underscores stand for its blanks, and the letters may have any case. -/
def IsSpelling (text name : String) : Prop :=
  text.toList.map Char.toLower =
    (name.toList.map fun c => if c = ' ' then '_' else c).map Char.toLower

instance (text name : String) : Decidable (IsSpelling text name) :=
  inferInstanceAs (Decidable (_ = _))

namespace Run

/-- The underscores of a spelling stand for the blanks of the name, and for nothing else if the name has no
underscores itself. -/
theorem toLower_spelled {text name : String} (spelling : IsSpelling text name) (plain : '_' ∉ name.toList) :
    (text.toList.map fun c => if c == '_' then ' ' else c).map Char.toLower =
      name.toList.map Char.toLower := by
  let blanked (c : Char) : Char := if c == '_' then ' ' else c
  have pulled (c : Char) : (blanked c).toLower = blanked c.toLower := by
    simp only [blanked, Text.toLower_beq_underscore]
    split <;> rfl
  calc (text.toList.map blanked).map Char.toLower
      = (text.toList.map Char.toLower).map blanked := by simp [pulled]
    _ = ((name.toList.map fun c => if c = ' ' then '_' else c).map Char.toLower).map blanked := by
        rw [spelling]
    _ = name.toList.map Char.toLower := by
        rw [List.map_map, List.map_map]
        refine List.map_congr_left fun c member => ?_
        by_cases isBlank : c = ' '
        · rw [isBlank]
          rfl
        · have other : ¬ (c == '_') = true := fun same => plain (beq_iff_eq.mp same ▸ member)
          simp only [Function.comp_apply, if_neg isBlank, blanked, Text.toLower_beq_underscore, if_neg other]

theorem spelledSubtask_eq {text name : String} (spelling : IsSpelling text name)
    (plain : '_' ∉ name.toList) (titled : Text.titleCase name = name) : spelledSubtask text = name := by
  rw [spelledSubtask, Text.titleCase, String.toList_ofList,
    Text.titleCaseAfter_eq (toLower_spelled spelling plain)]
  exact titled

/-! ## Calls -/

theorem builtin?_eq_none {function : String} (other : function ∉ builtinNames) : builtin? function = none := by
  simp only [builtinNames, List.mem_cons, List.not_mem_nil, or_false, not_or] at other
  unfold builtin?
  split <;> simp_all

/-- A function that is neither built in nor the name of a subtask is the subtask that it spells. -/
theorem callFunction_spelled (call : Value → Run Value) {function : String} (arguments : List Value)
    {machine : Machine} (other : function ∉ builtinNames)
    (unregistered : Table.holds (.str function) machine.subtasks = false)
    (registered : Table.holds (.str (spelledSubtask function)) machine.subtasks = true) :
    (callFunction call (.str function) arguments).outcome machine =
      (call (.str (spelledSubtask function))).outcome machine := by
  have isKey : (Value.str function).asKey = .ok (.str function) := rfl
  rw [callFunction, builtin?_eq_none other]
  dsimp only
  rw [callSubtask, bind_eq_of_ok (lift_of_ok isKey machine), outcome_get_bind, unregistered,
    if_neg Bool.false_ne_true]
  dsimp only
  rw [outcome_get_bind, registered, if_pos rfl]

/-- The function name is a spelling of a subtask's name, and has no meaning of its own on the machine. -/
structure FreeSpelling (machine : Machine) (function name : String) : Prop where
  spelling : IsSpelling function name
  notBuiltin : function ∉ builtinNames
  unregistered : Table.holds (.str function) machine.subtasks = false

/-- A node that calls the function runs the subtask, once the arguments have values.  The body of the subtask
is the given one then. -/
def Reaches (depth : Nat) (machine : Machine) (function name : String) (body : List Action) : Prop :=
  ∀ {entries : Table Value} {arguments : List Term} {values : List Value} {after : Machine},
    entryOf "name" entries = .ok (.str function) → Term.itemsAt "arguments" entries = .ok arguments →
    (evalAll (runSubtask depth) arguments).outcome machine = (.ok values, after) →
    (eval (runSubtask depth) (Term.callFrom (.dict entries))).outcome machine =
        (runSubtask depth (.str name)).outcome after ∧
      Table.fetch? (.str name) after.subtasks = some body

section Reached

variable {name : String} (plain : '_' ∉ name.toList) (titled : Text.titleCase name = name)
  {machine : Machine} {body : List Action}
  (registered : Table.fetch? (.str name) machine.subtasks = some body)
include plain titled registered

theorem FreeSpelling.outcome_callFunction {function : String} (free : FreeSpelling machine function name)
    (call : Value → Run Value) (arguments : List Value) :
    (callFunction call (.str function) arguments).outcome machine = (call (.str name)).outcome machine := by
  have isName := spelledSubtask_eq free.spelling plain titled
  rw [callFunction_spelled call arguments free.notBuiltin free.unregistered, isName]
  rw [isName, Table.holds, registered]
  rfl

theorem FreeSpelling.reaches {function : String} (free : FreeSpelling machine function name) (depth : Nat) :
    Reaches depth machine function name body := by
  intro entries arguments values after named isArguments evaluated
  have moved := moves_evalAll (moves_runSubtask depth) arguments machine
  rw [evaluated] at moved
  -- The arguments may have run any code, but the subtasks are the same as before.
  obtain ⟨-, -, -, same⟩ := moved.fixed
  have freeAfter : FreeSpelling after function name :=
    ⟨free.spelling, free.notBuiltin, same ▸ free.unregistered⟩
  have registeredAfter : Table.fetch? (.str name) after.subtasks = some body := same ▸ registered
  refine ⟨?_, registeredAfter⟩
  rw [Term.callFrom, named, isArguments, Term.callTerm, eval, bind_eq_of_ok evaluated]
  exact freeAfter.outcome_callFunction plain titled registeredAfter _ _

/-- A subtask whose name is in title case and has no underscores is reached by every spelling of its name that
is neither built in nor the name of a subtask, and all these spellings do the same. -/
theorem call_by_spelling (depth : Nat) :
    (∀ function, FreeSpelling machine function name → Reaches depth machine function name body) ∧
    ∀ function other, FreeSpelling machine function name → FreeSpelling machine other name →
      ∀ arguments, (callFunction (runSubtask depth) (.str function) arguments).outcome machine =
        (callFunction (runSubtask depth) (.str other) arguments).outcome machine := by
  refine ⟨fun function free => free.reaches plain titled registered depth, ?_⟩
  intro function other free freeOther arguments
  rw [free.outcome_callFunction plain titled registered,
    freeOther.outcome_callFunction plain titled registered]

end Reached

/-- A name with a letter behind a digit, in two spellings. -/
theorem call_by_spelling_digit :
    let name := "Go 2Us"
    let body := [Action.yield (.const (.int 7))]
    let machine := { Machine.fresh ⟨false, .standard, 5⟩ none with subtasks := [(.str name, body)] }
    let node := Value.record [("name", .str "gO_2uS"), ("arguments", .list [.int 1])]
    ('_' ∉ name.toList ∧ Text.titleCase name = name ∧
      Table.fetch? (.str name) machine.subtasks = some body) ∧
    (FreeSpelling machine "gO_2uS" name ∧ FreeSpelling machine "go_2us" name) ∧
    (callNode node).outcome machine = (call (.str name)).outcome machine ∧
    ((call (.str name)).outcome machine).1 = .ok (.int 7) ∧
    (callFunction call (.str "gO_2uS") []).outcome machine =
      (callFunction call (.str "go_2us") []).outcome machine := by
  intro name body machine node
  have plain : '_' ∉ name.toList := by decide
  have titled : Text.titleCase name = name := by decide +kernel
  have registered : Table.fetch? (.str name) machine.subtasks = some body := rfl
  have free : FreeSpelling machine "gO_2uS" name := ⟨by decide, by decide, rfl⟩
  have freeOther : FreeSpelling machine "go_2us" name := ⟨by decide, by decide, rfl⟩
  have evaluated : (evalAll (runSubtask maxDepth) [.const (.int 1)]).outcome machine =
      (.ok [.int 1], machine) := rfl
  obtain ⟨reaches, same⟩ := call_by_spelling plain titled registered maxDepth
  exact ⟨⟨plain, titled, registered⟩, ⟨free, freeOther⟩, (reaches _ free rfl rfl evaluated).1, rfl,
    same _ _ free freeOther []⟩

end Run

end Stepwise
