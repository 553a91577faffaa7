import Stepwise.Program.Parser
import Stepwise.Proofs.Derivation

/-!
# Places between tokens

Which token may follow another in a program is for the most part a matter of three kinds of places
between tokens: those where an operand has to begin, those behind an operand or another phrase, and those
behind a name that begins a statement.  `Place.kinds` lists the kinds of tokens that lead from one place
to another.  The rules of the grammar keep to this list, so the tokens of a derivation make a `Path`.

A path forgets how phrases are nested, but it knows enough of the neighbours of an operator.
-/

namespace Stepwise

namespace Token

/-- Whether a token is a number. -/
def isNumber : Token → Bool
  | .int _ | .float _ => true
  | _ => false

/-- Whether an operand may end with a token. -/
def endsOperand : Token → Bool
  | .name _ | .truth _ | .text _ | .int _ | .float _ => true
  | .mark .closeParen | .mark .closeBracket | .mark .closeBrace => true
  | _ => false

end Token

namespace Grammar

/-- A place between tokens. -/
inductive Place where
  /-- An operand has to begin here. -/
  | operand
  /-- An operand or another phrase has ended here, or a statement may begin. -/
  | behind
  /-- A statement has begun with a name. -/
  | named
  deriving DecidableEq

namespace Place

/-- The kinds of the tokens that lead from one place to another. -/
def kinds : Place → Place → List String
  | .operand, .operand => ["MINUS", "LPAREN", "LBRACKET", "LBRACE"]
  | .operand, .behind =>
    ["IDENTIFIER", "BOOL", "STRING", "NUMBER", "FLOAT", "RPAREN", "RBRACKET", "RBRACE", "RANGE",
      "ENUMERATE", "UNDERSCORE"]
  | .behind, .operand =>
    ["PLUS", "MINUS", "TIMES", "DIVIDE", "GREATER", "LESS", "EQUALS_EQUALS", "GREATER_EQUALS",
      "LESS_EQUALS", "NOT_EQUALS", "COMMA", "COLON", "LPAREN", "LBRACKET", "IF", "ELIF", "RETURN", "FOR",
      "IN"]
  | .behind, .behind =>
    ["STRING", "COLON", "RPAREN", "RBRACKET", "RBRACE", "OBJECTIVE", "TASK", "STEP", "SUBTASK", "RUN",
      "DECIDE", "THEN", "ELSE", "END"]
  | .behind, .named => ["IDENTIFIER"]
  | .named, .operand => ["EQUALS", "LPAREN"]
  | _, _ => []

/-- All places. -/
def all : List Place :=
  [.operand, .behind, .named]

end Place

/-! ## The rules -/

/-- The places where the phrase of a rule may begin.  Every phrase ends at a place behind. -/
def Rule.starts : Rule → List Place
  | .iterable | .indexing | .expression | .primary | .literal | .number | .arrayAccess | .arithmetic
  | .comparison | .term | .factor | .numericLiteral | .dictLiteral | .dictEntries | .dictEntry
  | .indexExpression | .list | .listItems | .argumentList => [.operand]
  | .functionCall => [.operand, .behind]
  | _ => [.behind]

/-- Whether a symbol leads from one place to another. -/
def Symbol.leads : Symbol → Place → Place → Bool
  | .token kind, start, finish => kind ∈ start.kinds finish
  | .phrase rule, start, finish => start ∈ rule.starts ∧ finish = .behind

/-- Whether symbols one after the other lead from one place to another. -/
def Symbol.allLead : List Symbol → Place → Place → Bool
  | [], start, finish => start = finish
  | symbol :: symbols, start, finish =>
    Place.all.any fun middle => symbol.leads start middle && allLead symbols middle finish

/-- The alternatives of a rule lead from each place where its phrase may begin to a place behind. -/
theorem Rule.alternatives_lead {rule : Rule} {symbols : List Symbol}
    (listed : symbols ∈ rule.alternatives) {start : Place} (begins : start ∈ rule.subject.starts) :
    Symbol.allLead symbols start .behind = true := by
  have all : (rule.alternatives.all fun symbols =>
      rule.subject.starts.all fun start => Symbol.allLead symbols start .behind) = true := by
    cases rule <;> decide +kernel
  exact List.all_eq_true.mp (List.all_eq_true.mp all symbols listed) start begins

/-! ## Paths -/

/-- Tokens that lead from one place to another. -/
inductive Path : Place → List Token → Place → Prop where
  | nil (place : Place) : Path place [] place
  | cons {start middle finish : Place} {token : Token} {tokens : List Token} :
      token.kindName ∈ start.kinds middle → Path middle tokens finish →
      Path start (token :: tokens) finish

namespace Path

variable {start middle finish : Place} {token : Token} {tokens before after : List Token}

theorem append (first : Path start before middle) (second : Path middle after finish) :
    Path start (before ++ after) finish := by
  induction first with
  | nil => exact second
  | cons leads _ ih => exact .cons leads (ih second)

theorem exists_of_append (path : Path start (before ++ after) finish) :
    ∃ middle, Path start before middle ∧ Path middle after finish := by
  induction before generalizing start with
  | nil => exact ⟨start, .nil start, path⟩
  | cons token before ih =>
      cases path with
      | cons leads rest =>
          obtain ⟨middle, first, second⟩ := ih rest
          exact ⟨middle, .cons leads first, second⟩

theorem head (path : Path start (token :: tokens) finish) :
    ∃ middle, token.kindName ∈ start.kinds middle ∧ Path middle tokens finish := by
  cases path with
  | cons leads rest => exact ⟨_, leads, rest⟩

/-- The last token of a path leads to its end. -/
theorem last (path : Path start (before ++ [token]) finish) :
    ∃ middle, Path start before middle ∧ token.kindName ∈ middle.kinds finish := by
  obtain ⟨middle, first, second⟩ := path.exists_of_append
  obtain ⟨_, leads, rest⟩ := second.head
  cases rest
  exact ⟨middle, first, leads⟩

end Path

mutual

/-- The tokens of a phrase make a path from each place where it may begin. -/
theorem Derivation.path : {symbol : Symbol} → (derivation : Derivation symbol) →
    {start finish : Place} → symbol.leads start finish = true → Path start derivation.tokens finish
  | _, .token token, _, _, leads => .cons (of_decide_eq_true leads) (.nil _)
  | _, .phrase rule listed parts, start, finish, leads => by
      obtain ⟨begins, rfl⟩ : start ∈ rule.subject.starts ∧ finish = .behind := of_decide_eq_true leads
      exact parts.path (Rule.alternatives_lead listed begins)

theorem Derivations.path : {symbols : List Symbol} → (derivations : Derivations symbols) →
    {start finish : Place} → Symbol.allLead symbols start finish = true →
    Path start derivations.tokens finish
  | _, .nil, start, finish, lead => by
      obtain rfl : start = finish := of_decide_eq_true lead
      exact .nil start
  | _, .cons first rest, _, _, lead => by
      obtain ⟨middle, -, both⟩ := List.any_eq_true.mp lead
      obtain ⟨leads, leadRest⟩ := Bool.and_eq_true_iff.mp both
      exact (first.path leads).append (rest.path leadRest)

end

/-- The tokens of a program make a path. -/
theorem Derives.path {tokens : List Token} {tree : Value}
    (derives : Derives (.phrase .program) tokens tree) : Path .behind tokens .behind := by
  obtain ⟨derivation, rfl, -⟩ := derives
  exact derivation.path rfl

/-! ## Neighbours of tokens -/

variable {start middle finish : Place} {sign : Mark} {before after : List Token}

namespace Place

/-- An operator stands in front of an operand.  Only the minus may also stand where one has to begin. -/
theorem of_operator (operator : Parse.isOperator (.mark sign) = true)
    (leads : sign.kindName ∈ start.kinds finish) :
    finish = .operand ∧ (start = .behind ∨ start = .operand ∧ sign = .minus) := by
  cases sign with
  | plus | minus | times | divide | greater | less | equal | greaterEqual | lessEqual | notEqual =>
      cases start <;> cases finish <;> revert leads <;> decide
  | _ => cases operator

/-- A number is an operand. -/
theorem of_number {number : Token} (isNumber : number.isNumber = true)
    (leads : number.kindName ∈ start.kinds finish) : start = .operand ∧ finish = .behind := by
  cases number with
  | int | float =>
      rw [Token.kindName] at leads
      cases start <;> cases finish <;> revert leads <;> decide
  | _ => cases isNumber

/-- Where an operand has ended, none begins. -/
theorem of_endsOperand {last : Token} (ends : last.endsOperand = true)
    (leads : last.kindName ∈ start.kinds finish) : finish ≠ .operand := by
  cases last with
  | keyword => cases ends
  | mark sign =>
      rw [Token.kindName] at leads
      cases sign with
      | closeParen | closeBracket | closeBrace =>
          cases start <;> cases finish <;> revert leads <;> decide
      | _ => cases ends
  | _ =>
      rw [Token.kindName] at leads
      cases start <;> cases finish <;> revert leads <;> decide

/-- A name is an operand or begins a statement. -/
theorem of_name (leads : "IDENTIFIER" ∈ start.kinds finish) :
    start = .operand ∧ finish = .behind ∨ start = .behind ∧ finish = .named := by
  cases start <;> cases finish <;> revert leads <;> decide

/-- Neither an assignment nor a comparison for being equal begins an operand. -/
theorem not_equals : "EQUALS" ∉ operand.kinds finish ∧ "EQUALS_EQUALS" ∉ operand.kinds finish := by
  cases finish <;> decide

/-- An assignment and the marks that begin like a comparison of two characters are in front of an
operand. -/
theorem of_relation (relation : sign = .equals ∨ sign = .less ∨ sign = .greater)
    (leads : sign.kindName ∈ start.kinds finish) : finish = .operand := by
  rcases relation with rfl | rfl | rfl <;> cases start <;> cases finish <;> revert leads <;> decide

end Place

namespace Path

/-- In front of an operator there is no number with a name behind it. -/
theorem not_number_name (path : Path start (before ++ .mark sign :: after) finish)
    (operator : Parse.isOperator (.mark sign) = true) {number : Token}
    (isNumber : number.isNumber = true) (word : String) : ¬ [number, .name word] <:+ before := by
  rintro ⟨front, rfl⟩
  obtain ⟨place, first, second⟩ := path.exists_of_append
  rw [List.append_cons] at first
  obtain ⟨middle, toName, leadsName⟩ := first.last
  obtain ⟨_, -, leadsNumber⟩ := toName.last
  obtain ⟨-, rfl⟩ := Place.of_number isNumber leadsNumber
  obtain ⟨_, leads, -⟩ := second.head
  rcases Place.of_name leadsName with ⟨isOperand, -⟩ | ⟨-, rfl⟩
  · cases isOperand
  · rcases (Place.of_operator operator leads).2 with isBehind | ⟨isOperand, -⟩
    · cases isBehind
    · cases isOperand

/-- In front of the comparison for being equal there is no mark that makes another one with its first
character. -/
theorem not_relation (path : Path start (before ++ .mark .equal :: after) finish)
    (relation : sign = .equals ∨ sign = .less ∨ sign = .greater) : ¬ [.mark sign] <:+ before := by
  rintro ⟨front, rfl⟩
  obtain ⟨place, first, second⟩ := path.exists_of_append
  obtain ⟨_, -, leads⟩ := first.last
  obtain rfl := Place.of_relation relation leads
  obtain ⟨_, leadsEqual, -⟩ := second.head
  exact Place.not_equals.2 leadsEqual

/-- Behind an operator there is neither an assignment nor a comparison for being equal. -/
theorem not_equals (path : Path start (before ++ .mark sign :: after) finish)
    (operator : Parse.isOperator (.mark sign) = true) :
    after.head? ≠ some (.mark .equals) ∧ after.head? ≠ some (.mark .equal) := by
  obtain ⟨_, -, second⟩ := path.exists_of_append
  obtain ⟨place, leads, rest⟩ := second.head
  obtain ⟨rfl, -⟩ := Place.of_operator operator leads
  cases rest with
  | nil => exact ⟨by simp, by simp⟩
  | cons leadsNext =>
      constructor
      · rintro ⟨⟩
        exact Place.not_equals.1 leadsNext
      · rintro ⟨⟩
        exact Place.not_equals.2 leadsNext

/-- No number follows the end of an operand. -/
theorem not_endsOperand {number last : Token} (isNumber : number.isNumber = true)
    (path : Path start (before ++ number :: after) finish) (ends : last.endsOperand = true) :
    ¬ [last] <:+ before := by
  rintro ⟨front, rfl⟩
  obtain ⟨place, first, second⟩ := path.exists_of_append
  obtain ⟨_, leads, -⟩ := second.head
  obtain ⟨rfl, -⟩ := Place.of_number isNumber leads
  obtain ⟨_, -, leadsLast⟩ := first.last
  exact Place.of_endsOperand ends leadsLast rfl

end Path

end Grammar

end Stepwise
