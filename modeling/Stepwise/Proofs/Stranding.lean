import Stepwise.Proofs.Derivation
import Mathlib.Data.List.Forall2

/-!
# Stranded operators

The grammar lets indices follow a group in parentheses, and an operator follow the indices.  At the
start of an expression the parser takes such a group, once it is indexed, for the whole expression,
and the operator behind it is stranded.  This module defines, on derivations, which operators those
are: `Derivation.strands` holds if some expression within opens with an indexed group that an operator
follows.

A derivation is a tree over the symbols of the grammar, while parsers work on tokens with their
positions.  `Derivation.piece_induction` is the induction that later proofs use: it shows a property of
all stretches of tokens that a derivation spells, one rule of the grammar at a time.
-/

namespace Stepwise.Grammar

/-- How a phrase of expressions opens. -/
inductive Opening where
  /-- It opens with anything but a group in parentheses, or with a group that an operator
  follows. -/
  | plain
  /-- It is a group in parentheses. -/
  | group
  /-- It is a group in parentheses with indices. -/
  | indexed
  /-- It opens with an indexed group, and an operator follows. -/
  | stranded
  deriving DecidableEq, Repr

namespace Opening

/-- How a phrase opens that was followed by an index. -/
def withIndex : Opening → Opening
  | .group => .indexed
  | opening => opening

/-- How a phrase opens that was followed by an operator and its right operand. -/
def withOperator : Opening → Opening
  | .group => .plain
  | .indexed => .stranded
  | opening => opening

end Opening

/-- How a phrase opens, by how its parts do. -/
def Rule.opening : Rule → List Opening → Opening
  | .primary, [_, _, _] => .group
  | .primary, [only] | .factor, [only] | .term, [only] | .arithmetic, [only] => only
  | .indexExpression, container :: _ => container.withIndex
  | .term, [left, _, _] | .arithmetic, [left, _, _] | .comparison, [left, _, _] =>
    left.withOperator
  | _, _ => .plain

mutual

/-- How a derivation opens. -/
def Derivation.opening : {symbol : Symbol} → Derivation symbol → Opening
  | _, .token _ => .plain
  | _, .phrase rule _ parts => rule.opening parts.openings

/-- How each of several derivations opens. -/
def Derivations.openings : {symbols : List Symbol} → Derivations symbols → List Opening
  | _, .nil => []
  | _, .cons first rest => first.opening :: rest.openings

end

mutual

/-- Whether some expression within a derivation opens with an indexed group that an operator
follows. -/
def Derivation.strands : {symbol : Symbol} → Derivation symbol → Bool
  | _, .token _ => false
  | _, .phrase rule _ parts =>
    parts.strand || (rule = .expression ∧ parts.openings = [.stranded])

/-- Whether one of several derivations strands an operator. -/
def Derivations.strand : {symbols : List Symbol} → Derivations symbols → Bool
  | _, .nil => false
  | _, .cons first rest => first.strands || rest.strand

end

/-! ## Stretches of tokens -/

/-- The tokens that a derivation spells, with their positions, and what is known of it. -/
structure Piece where
  placed : List Placed
  opening : Opening
  strands : Bool

/-- The piece of a phrase with the given parts. -/
def Piece.join (rule : Rule) (parts : List Piece) : Piece where
  placed := parts.flatMap Piece.placed
  opening := rule.opening (parts.map Piece.opening)
  strands := parts.any Piece.strands ||
    (rule = .expression ∧ parts.map Piece.opening = [.stranded])

/-- A property of stretches of tokens that every token has, and that passes from the parts of a phrase
to the phrase. -/
structure PassesUp (behaves : Symbol → Piece → Prop) : Prop where
  token : ∀ placed : Placed, behaves (.token placed.token.kindName) ⟨[placed], .plain, false⟩
  phrase : ∀ (rule : Rule) (symbols : List Symbol) (parts : List Piece),
    symbols ∈ rule.alternatives → List.Forall₂ behaves symbols parts →
      behaves (.phrase rule.subject) (Piece.join rule parts)

mutual

/-- A property that passes up holds of every derivation. -/
theorem Derivation.piece_induction {behaves : Symbol → Piece → Prop} (passes : PassesUp behaves) :
    {symbol : Symbol} → (derivation : Derivation symbol) → (placed : List Placed) →
    placed.map Placed.token = derivation.tokens →
      behaves symbol ⟨placed, derivation.opening, derivation.strands⟩
  | _, .token leaf, placed, spelled => by
      obtain ⟨only, rfl, rfl⟩ := List.map_eq_singleton_iff.mp spelled
      exact passes.token only
  | _, .phrase rule listed parts, placed, spelled => by
      obtain ⟨pieces, rfl, openings, strand, fit⟩ :=
        Derivations.piece_induction passes parts placed spelled
      have joined := passes.phrase rule _ pieces listed fit
      rw [Piece.join, openings, strand] at joined
      exact joined

theorem Derivations.piece_induction {behaves : Symbol → Piece → Prop} (passes : PassesUp behaves) :
    {symbols : List Symbol} → (derivations : Derivations symbols) → (placed : List Placed) →
    placed.map Placed.token = derivations.tokens →
      ∃ pieces : List Piece, placed = pieces.flatMap Piece.placed ∧
        pieces.map Piece.opening = derivations.openings ∧
        pieces.any Piece.strands = derivations.strand ∧
        List.Forall₂ behaves symbols pieces
  | _, .nil, placed, spelled => by
      obtain rfl := List.map_eq_nil_iff.mp spelled
      exact ⟨[], rfl, rfl, rfl, .nil⟩
  | _, .cons first rest, placed, spelled => by
      obtain ⟨before, after, rfl, spelledFirst, spelledRest⟩ := List.map_eq_append_iff.mp spelled
      have firstFits := Derivation.piece_induction passes first before spelledFirst
      obtain ⟨pieces, rfl, openings, strand, fit⟩ :=
        Derivations.piece_induction passes rest after spelledRest
      refine ⟨_ :: pieces, rfl, ?_, ?_, .cons firstFits fit⟩
      · rw [List.map_cons, openings, Derivations.openings]
      · rw [List.any_cons, strand, Derivations.strand]

end

end Stepwise.Grammar
