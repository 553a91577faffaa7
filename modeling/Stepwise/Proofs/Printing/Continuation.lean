import Stepwise.Proofs.NextToken
import Stepwise.Proofs.Printing.Printer

/-!
# Parsers that go on behind given tokens

`GoesOn` says that a parser takes given tokens and then goes on as another parser, whatever follows as
long as it starts with a token of some kind.  A parser that goes on by giving a value has read the
tokens as the value, which is what `Yields` says.
-/

namespace Stepwise

open Phrases (whole)

namespace Parse

variable {α β : Type}

/-! ## Taking tokens -/

/-- The parser takes the tokens, wherever they are placed, and goes on as `next` with what is left,
provided that what is left starts with a token that passes the test. -/
def GoesOn (parse : Parse α) (tokens : List Token) (stops : Token → Bool) (next : Parse α) : Prop :=
  ∀ used rest, used.map Placed.token = tokens → Ahead stops rest → parse (used ++ rest) = next rest

/-- The parser takes the tokens and gives a value. -/
def Yields (parse : Parse α) (tokens : List Token) (stops : Token → Bool) (value : α) : Prop :=
  GoesOn parse tokens stops (pure value)

/-- A test that every token passes. -/
def anyToken (_ : Token) : Bool := true

theorem ahead_anyToken (tokens : List Placed) : Ahead anyToken tokens :=
  fun _ _ => rfl

namespace GoesOn

variable {parse middle next : Parse α} {tokens more : List Token} {token : Token}
  {stops ends : Token → Bool}

theorem nil (parse : Parse α) (stops : Token → Bool) : GoesOn parse [] stops parse := by
  intro used rest spelled _
  rw [List.map_eq_nil_iff.mp spelled, List.nil_append]

theorem cons (step : ∀ position rest, parse (⟨token, position⟩ :: rest) = middle rest)
    (goesOn : GoesOn middle more stops next) : GoesOn parse (token :: more) stops next := by
  intro used rest spelled ahead
  obtain ⟨placed, others, rfl, rfl, spelledMore⟩ := List.map_eq_cons_iff.mp spelled
  rw [List.cons_append, step, goesOn others rest spelledMore ahead]

/-- What is taken at first is followed by what is taken then. -/
theorem join (first : GoesOn parse tokens stops middle) (second : GoesOn middle more ends next)
    (empty : more = [] → ∀ token, ends token = true → stops token = true)
    (begins : ∀ token others, more = token :: others → stops token = true) :
    GoesOn parse (tokens ++ more) ends next := by
  intro used rest spelled ahead
  obtain ⟨left, right, rfl, spelledLeft, spelledRight⟩ := List.map_eq_append_iff.mp spelled
  have stopped : Ahead stops (right ++ rest) := by
    cases right with
    | nil => exact ahead.mono (empty spelledRight.symm)
    | cons placed others => exact .cons (begins _ _ spelledRight.symm)
  rw [List.append_assoc, first left _ spelledLeft stopped, second right rest spelledRight ahead]

/-- What is taken up to a token is followed by what is taken from this token on. -/
theorem append (first : GoesOn parse tokens stops middle) (passes : stops token = true)
    (second : GoesOn middle (token :: more) ends next) :
    GoesOn parse (tokens ++ token :: more) ends next := by
  apply first.join second nofun
  intro _ _ same
  rw [← (List.cons.inj same).1, passes]

theorem bind (goesOn : GoesOn parse tokens stops middle) (after : α → Parse β) :
    GoesOn (parse >>= after) tokens stops (middle >>= after) :=
  fun used rest spelled ahead => bind_congr_apply (goesOn used rest spelled ahead) after

theorem mono (goesOn : GoesOn parse tokens stops next)
    (implied : ∀ token, ends token = true → stops token = true) :
    GoesOn parse tokens ends next :=
  fun used rest spelled ahead => goesOn used rest spelled (ahead.mono implied)

/-- The same tokens, in front of which another parser does the same. -/
theorem of_eq {other : Parse α} (goesOn : GoesOn parse tokens stops next)
    (same : ∀ used rest, used.map Placed.token = tokens → Ahead stops rest →
      other (used ++ rest) = parse (used ++ rest)) : GoesOn other tokens stops next :=
  fun used rest spelled ahead =>
    (same used rest spelled ahead).trans (goesOn used rest spelled ahead)

/-- What is taken at last may go on in more than one way. -/
theorem settle {settled : Parse α} (goesOn : GoesOn parse tokens stops next)
    (implied : ∀ token, ends token = true → stops token = true)
    (same : ∀ rest, Ahead ends rest → next rest = settled rest) :
    GoesOn parse tokens ends settled :=
  fun used rest spelled ahead =>
    (goesOn used rest spelled (ahead.mono implied)).trans (same rest ahead)

end GoesOn

namespace Yields

variable {parse : Parse α} {tokens more : List Token} {stops ends : Token → Bool} {value : α}
  {token : Token}

theorem bind (yields : Yields parse tokens stops value) (after : α → Parse β) :
    GoesOn (parse >>= after) tokens stops (after value) := by
  have goesOn := GoesOn.bind yields after
  rwa [pure_bind] at goesOn

theorem map (yields : Yields parse tokens stops value) (wrap : α → β) :
    Yields (do return wrap (← parse)) tokens stops (wrap value) :=
  yields.bind _

theorem apply (yields : Yields parse tokens stops value) {used rest : List Placed}
    (spelled : used.map Placed.token = tokens) (ahead : Ahead stops rest) :
    parse (used ++ rest) = .ok (value, rest) :=
  yields used rest spelled ahead

/-- A value up to a token, and what goes on from this token on. -/
theorem followed {after : α → Parse β} {next : Parse β} (yields : Yields parse tokens stops value)
    (passes : stops token = true) (goesOn : GoesOn (after value) (token :: more) ends next) :
    GoesOn (parse >>= after) (tokens ++ token :: more) ends next :=
  (yields.bind after).append passes goesOn

end Yields

/-- A list of tokens that starts with one that passes the test. -/
def Begins (test : Token → Bool) (tokens : List Token) : Prop :=
  ∃ first rest, tokens = first :: rest ∧ test first = true

theorem Begins.append {test : Token → Bool} {tokens : List Token} (begins : Begins test tokens)
    (more : List Token) : Begins test (tokens ++ more) := by
  obtain ⟨first, rest, rfl, passes⟩ := begins
  exact ⟨first, rest ++ more, rfl, passes⟩

theorem Begins.mono {test other : Token → Bool} {tokens : List Token} (begins : Begins test tokens)
    (implied : ∀ token, test token = true → other token = true) : Begins other tokens := by
  obtain ⟨first, rest, rfl, passes⟩ := begins
  exact ⟨first, rest, rfl, implied first passes⟩

theorem Begins.ahead {test : Token → Bool} {tokens : List Token} (begins : Begins test tokens)
    {used : List Placed} (spelled : used.map Placed.token = tokens) (rest : List Placed) :
    Ahead test (used ++ rest) := by
  obtain ⟨first, others, rfl, passes⟩ := begins
  obtain ⟨placed, more, rfl, rfl, _⟩ := List.map_eq_cons_iff.mp spelled
  exact .cons passes

/-! ## Lists between brackets -/

theorem endsItem_iff {token : Token} :
    endsItem token = true ↔ endsExpression token = true ∧ token ≠ .mark .comma := by
  simp [endsItem]

section

variable {element : Parse α} {list : Parse (List α)} {write : α → List Token} {values : List α}

theorem yields_separated (unfolds : list = separated element list) (some : values ≠ [])
    (each : ∀ value ∈ values, Yields element (write value) endsExpression value) :
    Yields list (Token.commas (values.map write)) endsItem values := by
  induction values with
  | nil => exact absurd rfl some
  | cons value others ih =>
      have reads := each value (List.mem_cons_self ..)
      rw [unfolds]
      cases others with
      | nil =>
          apply (reads.bind _).settle fun token ends => (endsItem_iff.mp ends).1
          intro rest ahead
          exact ifNext_left (ahead.mono fun token ends => by simpa using (endsItem_iff.mp ends).2)
      | cons second more =>
          have readsOthers := ih (by simp) fun value member =>
            each value (List.mem_cons_of_mem _ member)
          have next : Yields (ifNext (.mark .comma) (do return value :: (← list)) (pure [value]))
              (.mark .comma :: Token.commas ((second :: more).map write)) endsItem
              (value :: second :: more) :=
            .cons (fun _ _ => ifNext_taken ..) (readsOthers.map _)
          exact reads.followed rfl next

theorem yields_enclosed {γ : Type} {sign : Mark} {empty : γ} {build : List α → γ}
    (unfolds : list = separated element list) (same : build [] = empty)
    (closes : endsItem (.mark sign) = true) (unlike : startsOperand (.mark sign) = false)
    (each : ∀ value ∈ values, Yields element (write value) endsExpression value)
    (begins : ∀ value ∈ values, Begins startsOperand (write value)) :
    Yields (enclosed sign empty list build)
      (Token.commas (values.map write) ++ [.mark sign]) anyToken (build values) := by
  cases values with
  | nil =>
      rw [same]
      exact .cons (fun _ _ => ifNext_taken ..) (.nil _ _)
  | cons value others =>
      have reads := yields_separated unfolds (by simp) each
      have starts : Begins startsOperand (Token.commas ((value :: others).map write)) := by
        have first := begins value (List.mem_cons_self ..)
        cases others with
        | nil => exact first
        | cons second more => exact first.append _
      have closed : Yields (do mark sign; return build (value :: others)) [.mark sign] anyToken
          (build (value :: others)) := .cons (fun _ _ => mark_taken ..) (.nil _ _)
      have opened : Yields (do let found ← list; mark sign; return build found)
          (Token.commas ((value :: others).map write) ++ [.mark sign]) anyToken
          (build (value :: others)) := reads.followed closes closed
      apply opened.of_eq
      intro used rest spelled _
      apply ifNext_left
      apply ((starts.append _).ahead spelled rest).mono
      intro token passes
      rw [decide_eq_true_eq]
      rintro rfl
      rw [unlike] at passes
      cases passes

end

/-! ## Repeated phrases -/

/-- One or more elements, each of which starts with a token that passes the test. -/
theorem yields_repeated {element : Parse α} {list : Parse (List α)} {test stops : Token → Bool}
    {write : α → List Token} {values : List α} (unfolds : list = repeated element test list)
    (some : values ≠ []) (stopped : ∀ token, test token = true → stops token = true)
    (each : ∀ value ∈ values, Yields element (write value) stops value)
    (begins : ∀ value ∈ values, Begins test (write value)) :
    Yields list (values.flatMap write) (fun token => stops token && !test token) values := by
  induction values with
  | nil => exact absurd rfl some
  | cons value others ih =>
      have reads := each value (List.mem_cons_self ..)
      rw [unfolds, List.flatMap_cons]
      cases others with
      | nil =>
          rw [List.flatMap_nil, List.append_nil]
          apply (reads.bind _).settle fun token ends => (Bool.and_eq_true_iff.mp ends).1
          intro rest ahead
          rw [follows_left _ (ahead.mono fun token ends => (Bool.and_eq_true_iff.mp ends).2)]
          rfl
      | cons second more =>
          have readsOthers := ih (by simp) (fun value member =>
            each value (List.mem_cons_of_mem _ member)) fun value member =>
            begins value (List.mem_cons_of_mem _ member)
          obtain ⟨token, following, same, passes⟩ :=
            (begins second (by simp)).append (more.flatMap write)
          rw [← List.flatMap_cons] at same
          rw [same] at readsOthers ⊢
          have next : Yields (do if ← follows test then return value :: (← list) else return [value])
              (token :: following) (fun token => stops token && !test token)
              (value :: second :: more) := by
            apply (readsOthers.map fun list => value :: list).of_eq
            intro used rest spelled _
            obtain ⟨placed, others, rfl, known, _⟩ := List.map_eq_cons_iff.mp spelled
            rw [List.cons_append, follows_apply, known, passes, if_pos rfl]
          exact reads.followed (stopped token passes) next

end Parse

end Stepwise
