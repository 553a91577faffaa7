import Mathlib.Logic.Basic
import Stepwise.Proofs.Phrases

/-!
# Misplaced tokens

Tokens fit if no one among them is misplaced: they are a program, or more tokens have to follow.  The
parser finds a misplaced token without a look at what follows it, so the first tokens of tokens that fit
fit too, and the misplaced token is the first one that does not fit behind those before it.
-/

namespace Stepwise

open Parse

variable {tokens before after : List Placed} {placed : Placed}

/-- Accepts the end of the tokens only. -/
def Parse.toEnd {α : Type} (value : α) : Parse α :=
  fun tokens =>
    match tokens with
    | [] => .ok (value, [])
    | first :: rest => .error (first :: rest)

theorem Parse.toEnd_online {α : Type} (value : α) : Online (toEnd value) where
  suffix tokens := by cases tokens <;> exact List.suffix_refl _
  decided before token := .inl ⟨none, before, fun after => by cases before <;> rfl⟩

theorem program_upTo {depth : Nat} (enough : tokens.length ≤ depth) :
    program (Phrases.upTo tokens.length) tokens = program (Phrases.upTo depth) tokens :=
  program_agree (Phrases.upTo_made depth) (Phrases.upTo_agree enough) tokens (Nat.lt_succ_self _)

/-- The tokens that a parser is stuck at do not depend on the depth it is made for. -/
theorem parseTokens_eq_error {rest : List Placed} {depth : Nat} (enough : tokens.length ≤ depth) :
    parseTokens tokens = .error rest ↔
      (program (Phrases.upTo depth) >>= toEnd) tokens = .error rest := by
  rw [parseTokens, program_upTo enough, bind_apply]
  rcases program (Phrases.upTo depth) tokens with stop | ⟨found, left⟩
  · simp
  · cases left <;> simp [toEnd]

/-- A misplaced token is misplaced whatever follows it. -/
theorem exists_of_parseTokens_eq_error (failed : parseTokens tokens = .error (placed :: after)) :
    ∃ before, tokens = before ++ placed :: after ∧
      ∀ other, parseTokens (before ++ placed :: other) = .error (placed :: other) := by
  have online (depth : Nat) : Online (program (Phrases.upTo depth) >>= toEnd) :=
    .bind (program_made (Phrases.upTo_made depth)).online toEnd_online
  have stuck := (parseTokens_eq_error (Nat.le_refl _)).mp failed
  have suffix : placed :: after <:+ tokens := by
    have suffix := (online tokens.length).suffix tokens
    rwa [stuck] at suffix
  obtain ⟨before, rfl⟩ := suffix
  refine ⟨before, rfl, fun other => ?_⟩
  -- one depth for both lists of tokens
  let depth := max (before ++ placed :: after).length (before ++ placed :: other).length
  rw [parseTokens_eq_error (Nat.le_max_left _ _ : _ ≤ depth)] at failed
  rw [parseTokens_eq_error (Nat.le_max_right _ _ : _ ≤ depth)]
  rcases (online depth).decided before placed with ⟨result, kept, stops⟩ | takes
  · have stopsHere := stops after
    rw [failed] at stopsHere
    cases result with
    | some value => cases stopsHere
    | none =>
        have same : placed :: after = kept ++ placed :: after := Except.error.inj stopsHere
        obtain rfl : kept = [] := List.self_eq_append_left.mp same
        exact stops other
  · have shorter := (takes after).length_le
    rw [failed] at shorter
    exact absurd shorter (Nat.not_succ_le_self _)

/-- No token is misplaced. -/
def Fits (tokens : List Placed) : Prop :=
  ∀ placed after, parseTokens tokens ≠ .error (placed :: after)

theorem fits_nil : Fits [] := by
  intro placed after failed
  cases failed

/-- The misplaced token is the first one that does not fit. -/
theorem parseTokens_eq_misplaced :
    parseTokens tokens = .error (placed :: after) ↔
      ∃ before, tokens = before ++ placed :: after ∧ Fits before ∧ ¬ Fits (before ++ [placed]) := by
  constructor
  · intro failed
    obtain ⟨before, rfl, always⟩ := exists_of_parseTokens_eq_error failed
    refine ⟨before, rfl, fun other rest early => ?_, fun fits => fits placed [] (always [])⟩
    obtain ⟨start, rfl, alwaysEarly⟩ := exists_of_parseTokens_eq_error early
    rw [List.append_assoc, List.cons_append, alwaysEarly] at failed
    have lengths := congrArg List.length (Except.error.inj failed)
    simp only [List.length_cons, List.length_append] at lengths
    omega
  · rintro ⟨before, rfl, fits, misplaced⟩
    simp only [Fits, not_forall, not_not] at misplaced
    obtain ⟨other, rest, failed⟩ := misplaced
    obtain ⟨start, same, always⟩ := exists_of_parseTokens_eq_error failed
    rcases List.eq_nil_or_concat rest with rfl | ⟨middle, last, rfl⟩
    · obtain ⟨rfl, rfl⟩ := List.append_inj' same rfl |>.imp_right List.singleton_inj.mp
      exact always after
    · rw [List.concat_eq_append, ← List.cons_append, ← List.append_assoc] at same
      obtain ⟨rfl, -⟩ := List.append_inj' same rfl
      exact absurd (always middle) (fits other middle)

end Stepwise
