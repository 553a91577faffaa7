import Stepwise.Program.Reading
import Stepwise.Proofs.Derivation
import Stepwise.Proofs.Lexing
import Stepwise.Proofs.Phrases

/-!
# Programs that are read have a derivation

Whatever a parser of a phrase takes off the front of the tokens has a derivation in the grammar, and
the value of that derivation is the syntax tree of the result.  `Parse.Reads` states this for one
parser, with one rule for each way of putting parsers together, and `Phrases.Sound` for a family of
them.  A family that reads only what is sound inside is sound itself, so all depths are.

The rule for sums looks at the value of its first part and takes it for an opening parenthesis if it
is the text of one.  No lexeme is a name of that text, which is why names are looked at here too.
-/

namespace Stepwise

open Grammar

/-- No token is a name that looks like an opening parenthesis. -/
def Proper (tokens : List Placed) : Prop :=
  ∀ placed ∈ tokens, placed.token ≠ .name "("

namespace Parse

variable {α β : Type}

/-- What a parser takes off proper tokens, and the result it makes of it, are in a relation. -/
def Reads (parse : Parse α) (relation : List Token → α → Prop) : Prop :=
  ∀ tokens value rest, Proper tokens → parse tokens = .ok (value, rest) →
    ∃ used, tokens = used ++ rest ∧ relation (used.map Placed.token) value

namespace Reads

theorem pure {value : α} {relation : List Token → α → Prop} (related : relation [] value) :
    Reads (Pure.pure value) relation := by
  intro tokens found rest _ read
  cases read
  exact ⟨[], rfl, related⟩

theorem stuck {relation : List Token → α → Prop} : Reads Parse.stuck relation := by
  intro tokens value rest _ read
  cases read

theorem mono {parse : Parse α} {stronger weaker : List Token → α → Prop}
    (reads : Reads parse stronger) (implied : ∀ taken value, stronger taken value →
      weaker taken value) : Reads parse weaker := by
  intro tokens value rest proper read
  obtain ⟨used, split, related⟩ := reads tokens value rest proper read
  exact ⟨used, split, implied _ _ related⟩

/-- The second parser goes on behind what the first one took. -/
theorem bind {parse : Parse α} {next : α → Parse β} {middle : List Token → α → Prop}
    {relation : List Token → β → Prop} (first : Reads parse middle)
    (second : ∀ value before, middle before value →
      Reads (next value) fun after => relation (before ++ after)) :
    Reads (parse >>= next) relation := by
  intro tokens result rest proper read
  obtain ⟨value, between, readFirst, readSecond⟩ := bind_eq_ok.mp read
  obtain ⟨before, rfl, related⟩ := first tokens value between proper readFirst
  have properBetween : Proper between := fun placed member =>
    proper placed (List.mem_append_right before member)
  obtain ⟨after, rfl, relatedAfter⟩ :=
    second value _ related between result rest properBetween readSecond
  refine ⟨before ++ after, (List.append_assoc ..).symm, ?_⟩
  rw [List.map_append]
  exact relatedAfter

theorem choose {next : Token → Option (Parse α)} {other : Parse α}
    {relation : List Token → α → Prop}
    (taken : ∀ token, token ≠ .name "(" → ∀ parse ∈ next token,
      Reads parse fun after => relation (token :: after))
    (left : Reads other relation) : Reads (Parse.choose next other) relation := by
  intro tokens value rest proper read
  cases tokens with
  | nil => exact left [] value rest proper read
  | cons first tokens =>
      cases known : next first.token with
      | none =>
          rw [choose_none known] at read
          exact left _ value rest proper read
      | some parse =>
          rw [choose_some known] at read
          have properRest : Proper tokens := fun placed member =>
            proper placed (List.mem_cons_of_mem first member)
          obtain ⟨after, rfl, related⟩ :=
            taken first.token (proper first List.mem_cons_self) parse known tokens value rest
              properRest read
          exact ⟨first :: after, rfl, related⟩

/-- The second parser goes on behind the token that the first one took. -/
theorem take {read : Token → Option α} {next : α → Parse β} {relation : List Token → β → Prop}
    (later : ∀ token, ∀ value ∈ read token,
      Reads (next value) fun after => relation (token :: after)) :
    Reads (Parse.take read >>= next) relation := by
  have first : Reads (Parse.take read) fun taken value =>
      ∃ token, taken = [token] ∧ value ∈ read token := by
    apply choose _ stuck
    intro token _ parse known
    obtain ⟨value, found, rfl⟩ := Option.map_eq_some_iff.mp known
    exact pure ⟨token, rfl, found⟩
  apply bind first
  rintro value _ ⟨token, rfl, found⟩
  exact later token value found

theorem ifNext {token : Token} {present absent : Parse α} {relation : List Token → α → Prop}
    (taken : Reads present fun after => relation (token :: after))
    (left : Reads absent relation) : Reads (Parse.ifNext token present absent) relation := by
  apply choose _ left
  intro next _ parse known
  split at known
  · next same =>
      cases known
      rwa [same]
  · cases known

/-- A look at the next token takes nothing. -/
theorem follows {test : Token → Bool} {next : Bool → Parse α} {relation : List Token → α → Prop}
    (either : ∀ answer, Reads (next answer) relation) :
    Reads (Parse.follows test >>= next) relation := by
  have looks : Reads (Parse.follows test) fun taken _ => taken = [] := by
    intro tokens value rest _ read
    cases tokens <;> cases read <;> exact ⟨[], rfl, rfl⟩
  apply bind looks
  rintro answer _ rfl
  exact either answer

theorem keyword {reserved : Keyword} {next : Unit → Parse α} {relation : List Token → α → Prop}
    (later : Reads (next ()) fun after => relation (.keyword reserved :: after)) :
    Reads (Parse.keyword reserved >>= next) relation := by
  apply take
  intro token value known
  split at known
  · next same => rwa [same]
  · cases known

theorem mark {sign : Mark} {next : Unit → Parse α} {relation : List Token → α → Prop}
    (later : Reads (next ()) fun after => relation (.mark sign :: after)) :
    Reads (Parse.mark sign >>= next) relation := by
  apply take
  intro token value known
  split at known
  · next same => rwa [same]
  · cases known

theorem name {next : String → Parse α} {relation : List Token → α → Prop}
    (later : ∀ word, Reads (next word) fun after => relation (.name word :: after)) :
    Reads (Parse.name >>= next) relation := by
  apply take
  intro token word known
  split at known
  · cases known
    exact later word
  · cases known

theorem text {next : String → Parse α} {relation : List Token → α → Prop}
    (later : ∀ content, Reads (next content) fun after => relation (.text content :: after)) :
    Reads (Parse.text >>= next) relation := by
  apply take
  intro token content known
  split at known
  · cases known
    exact later content
  · cases known

theorem afterOperator {kind : Token → Option Operator} {left : Expr} {go : Operator → Parse Expr}
    {relation : List Token → Expr → Prop}
    (taken : ∀ token, ∀ operator ∈ kind token,
      Reads (go operator) fun after => relation (token :: after))
    (alone : relation [] left) : Reads (Parse.afterOperator kind left go) relation := by
  apply choose _ (pure alone)
  intro token _ parse known
  obtain ⟨operator, found, rfl⟩ := Option.map_eq_some_iff.mp known
  exact taken token operator found

end Reads

end Parse

/-! ## Relations between tokens and syntax trees -/

/-- The tokens have a derivation as a phrase of expressions with the tree of the expression as its
value; and the expression is not a name that looks like an opening parenthesis. -/
structure Spells (rule : Rule) (tokens : List Token) (operand : Expr) : Prop where
  derives : Derives (.phrase rule) tokens operand.node
  named : operand ≠ .name "("

namespace Spells

variable {tokens before : List Token} {operand left right : Expr}

/-- An expression that is no such name is not taken for a parenthesis. -/
theorem node_not_paren (named : operand ≠ .name "(") :
    operand.node.same (.str "(") = false := by
  cases operand with
  | name word =>
      have other : word ≠ "(" := fun same => named (same ▸ rfl)
      simpa [Expr.node, Value.same] using other
  | _ => rfl

theorem factor (spelled : Spells .primary tokens operand) :
    Spells .factor tokens operand :=
  ⟨.rule .factor (.single spelled.derives) (by decide) rfl, spelled.named⟩

theorem term (spelled : Spells .factor tokens operand) : Spells .term tokens operand :=
  ⟨.rule .term (.single spelled.derives) (by decide) rfl, spelled.named⟩

theorem arithmetic (spelled : Spells .term tokens operand) :
    Spells .arithmetic tokens operand :=
  ⟨.rule .arithmetic (.single spelled.derives) (by decide) rfl, spelled.named⟩

theorem expression (spelled : Spells .arithmetic tokens operand) :
    Spells .expression tokens operand :=
  ⟨.rule .expression (.single spelled.derives) (by decide) rfl, spelled.named⟩

theorem negate (spelled : Spells .factor tokens operand) :
    Spells .factor (.mark .minus :: tokens) (.negate operand) := by
  refine ⟨?_, nofun⟩
  exact .rule .factor (.token (.mark .minus) (.single spelled.derives)) (by decide) rfl

theorem index {key : Expr} {within : List Token} (spelled : Spells .primary before operand)
    (spelledKey : Spells .expression within key) :
    Spells .primary (before ++ .mark .openBracket :: (within ++ [.mark .closeBracket]))
      (.index operand key) := by
  refine ⟨?_, nofun⟩
  have looked := Derives.rule .indexExpression (.cons spelled.derives (.token (.mark .openBracket)
    (.cons spelledKey.derives (.token (.mark .closeBracket) .nil)))) (by decide) rfl
  exact .rule .primary (.single looked) (by decide) rfl

theorem product {token : Token} {operator : Operator}
    (known : operator ∈ Parse.multiplyingOperator? token) (spelled : Spells .term before left)
    (spelledRight : Spells .factor tokens right) :
    Spells .term (before ++ token :: tokens) (.binary operator left right) := by
  refine ⟨?_, nofun⟩
  have parts := DerivesAll.cons spelled.derives (.token token (.single spelledRight.derives))
  unfold Parse.multiplyingOperator? at known
  split at known <;> cases known <;> exact .rule .term parts (by decide) rfl

theorem sum {token : Token} {operator : Operator}
    (known : operator ∈ Parse.addingOperator? token) (spelled : Spells .arithmetic before left)
    (spelledRight : Spells .term tokens right) :
    Spells .arithmetic (before ++ token :: tokens) (.binary operator left right) := by
  refine ⟨?_, nofun⟩
  have parts := DerivesAll.cons spelled.derives (.token token (.single spelledRight.derives))
  have build : ∀ between : Part, Rule.build .arithmetic
      [⟨"arithmetic_expr", left.node⟩, between, ⟨"term", right.node⟩] =
      .ok (.record [("type", .str "operation"), ("left", left.node),
        ("operator", between.value), ("right", right.node)]) := by
    intro between
    simp [Rule.build, buildSum, partValue, node_not_paren spelled.named, buildOperation, bind,
      Except.bind, pure, Except.pure]
  unfold Parse.addingOperator? at known
  split at known <;> cases known <;> exact .rule .arithmetic parts (by decide) (build _)

theorem comparison {token : Token} {operator : Operator}
    (known : operator ∈ Parse.comparingOperator? token)
    (spelled : Spells .arithmetic before left) (spelledRight : Spells .arithmetic tokens right) :
    Spells .expression (before ++ token :: tokens) (.binary operator left right) := by
  refine ⟨?_, nofun⟩
  have parts := DerivesAll.cons spelled.derives (.token token (.single spelledRight.derives))
  have compared : Derives (.phrase .comparison) (before ++ token :: tokens)
      (Expr.binary operator left right).node := by
    unfold Parse.comparingOperator? at known
    split at known <;> cases known <;> exact .rule .comparison parts (by decide) rfl
  exact .rule .expression (.single compared) (by decide) rfl

theorem group (spelled : Spells .expression tokens operand) :
    Spells .primary (.mark .openParen :: (tokens ++ [.mark .closeParen])) operand := by
  refine ⟨?_, spelled.named⟩
  exact .rule .primary (.token (.mark .openParen) (DerivesAll.cons spelled.derives
    (.token (.mark .closeParen) .nil))) (by decide) rfl

end Spells

/-- The tokens have a derivation as a list of items, and as a list of arguments. -/
def SpellsList (tokens : List Token) (items : List Expr) : Prop :=
  Derives (.phrase .listItems) tokens (.list (Expr.itemNodes items)) ∧
    Derives (.phrase .argumentList) tokens (.list (Expr.itemNodes items))

theorem SpellsList.single {tokens : List Token} {item : Expr}
    (spelled : Spells .expression tokens item) : SpellsList tokens [item] :=
  ⟨.rule .listItems (.single spelled.derives) (by decide) rfl,
    .rule .argumentList (.single spelled.derives) (by decide) rfl⟩

theorem SpellsList.cons {tokens others : List Token} {item : Expr} {items : List Expr}
    (spelled : Spells .expression tokens item) (rest : SpellsList others items) :
    SpellsList (tokens ++ .mark .comma :: others) (item :: items) := by
  constructor
  · exact .rule .listItems (.cons spelled.derives (.token (.mark .comma) (.single rest.1)))
      (by decide) rfl
  · exact .rule .argumentList (.cons spelled.derives (.token (.mark .comma) (.single rest.2)))
      (by decide) rfl

/-- The tokens have a derivation as statements, one after the other. -/
inductive SpellsEach : List Token → List Stmt → Prop where
  | nil : SpellsEach [] []
  | cons {tokens others : List Token} {first : Stmt} {rest : List Stmt} :
      Derives (.phrase .statement) tokens first.node → SpellsEach others rest →
      SpellsEach (tokens ++ others) (first :: rest)

theorem SpellsEach.statementList {tokens : List Token} {body : List Stmt}
    (spelled : SpellsEach tokens body) :
    Derives (.phrase .statementList) tokens (.list (Stmt.nodes body)) := by
  induction spelled with
  | nil =>
      have empty : Derives (.phrase .empty) [] .null := .rule .empty .nil (by decide) rfl
      exact .rule .statementList (.single empty) (by decide) rfl
  | cons first _ ih =>
      exact .rule .statementList (.cons first (.single ih)) (by decide) rfl

theorem SpellsEach.loopBody {tokens : List Token} {body : List Stmt}
    (spelled : SpellsEach tokens body) (filled : body ≠ []) :
    Derives (.phrase .loopBody) tokens (.list (Stmt.nodes body)) := by
  induction spelled with
  | nil => contradiction
  | cons first others ih =>
      cases others with
      | nil =>
          rw [List.append_nil]
          exact .rule .loopBody (.single first) (by decide) rfl
      | cons second rest =>
          exact .rule .loopBody (.cons first (.single (ih nofun))) (by decide) rfl

/-- The tokens have a derivation as what stands behind the first word of a branch. -/
def SpellsBranch (tokens : List Token) (branch : Expr × List Stmt) : Prop :=
  DerivesAll [.phrase .expression, .token "THEN", .token "COLON", .phrase .statementList] tokens
    [⟨"expression", branch.1.node⟩, ⟨"THEN", .str "then"⟩, ⟨"COLON", .str ":"⟩,
      ⟨"statement_list", .list (Stmt.nodes branch.2)⟩]

/-- The tokens have a derivation as the branches after the first one. -/
inductive SpellsOthers : List Token → List (Expr × List Stmt) × Bool → Prop where
  | none : SpellsOthers [] ([], false)
  | last {tokens : List Token} :
      Derives (.phrase .elseCondition) tokens Stmt.elseNode → SpellsOthers tokens ([], true)
  | cons {tokens others : List Token} {branch : Expr × List Stmt}
      {rest : List (Expr × List Stmt)} {hasElse : Bool} :
      SpellsBranch tokens branch → SpellsOthers others (rest, hasElse) →
      SpellsOthers (.keyword .elif :: (tokens ++ others)) (branch :: rest, hasElse)

/-- The branches with a test come first, and then the one without. -/
theorem SpellsOthers.elifList {tokens : List Token} {branch : Expr × List Stmt}
    {rest : List (Expr × List Stmt)} {hasElse : Bool}
    (spelled : SpellsOthers tokens (branch :: rest, hasElse)) :
    ∃ before after, tokens = before ++ after ∧
      Derives (.phrase .elifList) before (.list (Stmt.otherNodes (branch :: rest))) ∧
      SpellsOthers after ([], hasElse) := by
  induction rest generalizing tokens branch with
  | nil =>
      cases spelled with
      | cons spelledBranch others =>
          have first : Derives (.phrase .elifCondition) _ _ :=
            .rule .elifCondition (.token (.keyword .elif) spelledBranch) (by decide) rfl
          exact ⟨_, _, rfl, .rule .elifList (.single first) (by decide) rfl, others⟩
  | cons second rest ih =>
      cases spelled with
      | cons spelledBranch others =>
          have first : Derives (.phrase .elifCondition) _ _ :=
            .rule .elifCondition (.token (.keyword .elif) spelledBranch) (by decide) rfl
          obtain ⟨before, after, rfl, list, last⟩ := ih others
          refine ⟨_, after, ?_, .rule .elifList (.cons first (.single list)) (by decide) rfl, last⟩
          simp

theorem SpellsOthers.conditionList {before tokens : List Token} {first : Value}
    {others : List (Expr × List Stmt)} {hasElse : Bool}
    (spelled : Derives (.phrase .ifCondition) before first)
    (spelledOthers : SpellsOthers tokens (others, hasElse)) :
    Derives (.phrase .conditionList) (before ++ tokens)
      (.list (first :: (Stmt.otherNodes others ++ if hasElse then [Stmt.elseNode] else []))) := by
  cases others with
  | nil =>
      cases spelledOthers with
      | none =>
          rw [List.append_nil]
          exact .rule .conditionList (.single spelled) (by decide) rfl
      | last spelledElse =>
          exact .rule .conditionList (.cons spelled (.single spelledElse)) (by decide) rfl
  | cons branch rest =>
      obtain ⟨between, after, rfl, list, last⟩ := spelledOthers.elifList
      cases last with
      | none =>
          rw [List.append_nil]
          have all := DerivesAll.cons spelled (.single list)
          refine .rule .conditionList all (by decide) ?_
          rw [if_neg Bool.false_ne_true, List.append_nil]
          rfl
      | last spelledElse =>
          have all := DerivesAll.cons spelled (.cons list (.single spelledElse))
          exact .rule .conditionList all (by decide) rfl

/-! ## The parsers of phrases -/

/-- Every parser of a family reads what the grammar derives. -/
structure Phrases.Sound (phrases : Phrases) : Prop where
  expression : phrases.expression.Reads (Spells .expression)
  sum : ∀ left before, Spells .arithmetic before left →
    (phrases.sum left).Reads fun after => Spells .arithmetic (before ++ after)
  product : ∀ left before, Spells .term before left →
    (phrases.product left).Reads fun after => Spells .term (before ++ after)
  factor : phrases.factor.Reads (Spells .factor)
  indices : ∀ container before, Spells .primary before container →
    (phrases.indices container).Reads fun after => Spells .primary (before ++ after)
  expressions : phrases.expressions.Reads SpellsList
  entries : phrases.entries.Reads fun tokens entries =>
    Derives (.phrase .dictEntries) tokens (.list (Expr.entryNodes entries))
  statements : phrases.statements.Reads SpellsEach
  otherBranches : phrases.otherBranches.Reads SpellsOthers
  items : phrases.items.Reads fun tokens items =>
    Derives (.phrase .itemList) tokens (.list (items.map Item.node))
  tasks : phrases.tasks.Reads fun tokens tasks =>
    Derives (.phrase .taskList) tokens (.list (tasks.map Task.node))
  runs : phrases.runs.Reads fun tokens runs =>
    Derives (.phrase .runList) tokens (.texts runs)

namespace Parse

variable {inner : Phrases}

theorem indices_reads (sound : inner.Sound) {container : Expr} {before : List Token}
    (spelled : Spells .primary before container) :
    (indices inner container).Reads fun after => Spells .primary (before ++ after) := by
  apply Reads.ifNext
  · apply Reads.bind sound.expression
    intro key within spelledKey
    apply Reads.mark
    have longer := spelled.index spelledKey
    have later := sound.indices _ _ longer
    simpa using later
  · apply Reads.pure
    rwa [List.append_nil]

theorem arguments_reads (sound : inner.Sound) (word : String) :
    (arguments inner).Reads fun tokens items =>
      Derives (.phrase .functionCall) (.name word :: .mark .openParen :: tokens)
        (Expr.call word items).node := by
  apply Reads.ifNext
  · apply Reads.pure
    exact .rule .functionCall (.name word (.token (.mark .openParen)
      (.token (.mark .closeParen) .nil))) (by decide) rfl
  · apply Reads.bind sound.expressions
    intro items within spelled
    apply Reads.mark
    apply Reads.pure
    exact .rule .functionCall (.name word (.token (.mark .openParen)
      (.cons spelled.2 (.token (.mark .closeParen) .nil)))) (by decide) rfl

/-- One case for each kind of token that a primary expression starts with. -/
theorem primaryAfter_reads (sound : inner.Sound) {token : Token} (named : token ≠ .name "(")
    {parse : Parse Expr} (known : parse ∈ primaryAfter inner token) :
    parse.Reads fun after => Spells .primary (token :: after) := by
  unfold primaryAfter at known
  split at known <;> cases known
  · next word =>
      apply Reads.ifNext
      · apply Reads.bind (arguments_reads sound word)
        intro items within spelled
        apply Reads.pure
        rw [List.append_nil]
        exact ⟨.rule .primary (.single spelled) (by decide) rfl, by simp⟩
      · apply Reads.pure
        refine ⟨.rule .primary (.name word .nil) (by decide) rfl, ?_⟩
        intro same
        cases same
        exact named rfl
  · next holds =>
      apply Reads.pure
      refine ⟨.rule .primary (.token (.truth holds) .nil)
        (by simp [Rule.alternatives, Token.kindName]) rfl, ?_⟩
      cases holds <;> simp [Token.truthWord]
  · next n =>
      apply Reads.pure
      exact ⟨.rule .primary (.token (.int n) .nil)
        (by simp [Rule.alternatives, Token.kindName]) rfl, by simp⟩
  · next x =>
      apply Reads.pure
      exact ⟨.rule .primary (.token (.float x) .nil)
        (by simp [Rule.alternatives, Token.kindName]) rfl, by simp⟩
  · next content =>
      apply Reads.pure
      exact ⟨.rule .primary (.text content .nil) (by decide) rfl, by simp⟩
  · apply Reads.ifNext
    · apply Reads.pure
      have listed := Derives.rule .list (.token (.mark .openBracket)
        (.token (.mark .closeBracket) .nil)) (by decide) rfl
      exact ⟨.rule .primary (.single listed) (by decide) rfl, by simp⟩
    · apply Reads.bind sound.expressions
      intro items within spelled
      apply Reads.mark
      apply Reads.pure
      have listed := Derives.rule .list (.token (.mark .openBracket)
        (.cons spelled.1 (.token (.mark .closeBracket) .nil))) (by decide) rfl
      exact ⟨.rule .primary (.single listed) (by decide) rfl, by simp⟩
  · apply Reads.ifNext
    · apply Reads.pure
      have listed := Derives.rule .dictLiteral (.token (.mark .openBrace)
        (.token (.mark .closeBrace) .nil)) (by decide) rfl
      exact ⟨.rule .primary (.single listed) (by decide) rfl, by simp⟩
    · apply Reads.bind sound.entries
      intro found within spelled
      apply Reads.mark
      apply Reads.pure
      have listed := Derives.rule .dictLiteral (.token (.mark .openBrace)
        (.cons spelled (.token (.mark .closeBrace) .nil))) (by decide) rfl
      exact ⟨.rule .primary (.single listed) (by decide) rfl, by simp⟩
  · apply Reads.bind sound.expression
    intro group within spelled
    apply Reads.mark
    apply Reads.pure
    exact spelled.group

theorem primary_reads (sound : inner.Sound) : (primary inner).Reads (Spells .primary) := by
  apply Reads.choose _ Reads.stuck
  intro token named parse known
  exact primaryAfter_reads sound named known

theorem factor_reads (sound : inner.Sound) : (factor inner).Reads (Spells .factor) := by
  apply Reads.ifNext
  · apply Reads.bind sound.factor
    intro operand within spelled
    apply Reads.pure
    rw [List.append_nil]
    exact spelled.negate
  · have both : (primary inner >>= indices inner).Reads (Spells .primary) :=
      Reads.bind (primary_reads sound) fun _ _ spelled => indices_reads sound spelled
    exact both.mono fun _ _ spelled => spelled.factor

theorem product_reads (sound : inner.Sound) {left : Expr} {before : List Token}
    (spelled : Spells .term before left) :
    (product inner left).Reads fun after => Spells .term (before ++ after) := by
  apply Reads.afterOperator
  · intro token operator known
    apply Reads.bind (factor_reads sound)
    intro right within spelledRight
    have later := sound.product _ _ (spelled.product known spelledRight)
    simpa using later
  · rwa [List.append_nil]

theorem term_reads (sound : inner.Sound) :
    (factor inner >>= product inner).Reads (Spells .term) :=
  Reads.bind (factor_reads sound) fun _ _ spelled => product_reads sound spelled.term

theorem sum_reads (sound : inner.Sound) {left : Expr} {before : List Token}
    (spelled : Spells .arithmetic before left) :
    (sum inner left).Reads fun after => Spells .arithmetic (before ++ after) := by
  apply Reads.afterOperator
  · intro token operator known
    rw [← bind_assoc]
    apply Reads.bind (term_reads sound)
    intro right within spelledRight
    have later := sound.sum _ _ (spelled.sum known spelledRight)
    simpa using later
  · rwa [List.append_nil]

theorem comparison_reads (sound : inner.Sound) {left : Expr} {before : List Token}
    (spelled : Spells .arithmetic before left) :
    (comparison inner left).Reads fun after => Spells .expression (before ++ after) := by
  apply Reads.afterOperator
  · intro token operator known
    rw [← bind_assoc]
    apply Reads.bind (term_reads sound)
    intro first opening spelledFirst
    apply Reads.bind (sum_reads sound spelledFirst.arithmetic)
    intro right within spelledRight
    apply Reads.pure
    simpa using spelled.comparison known spelledRight
  · rw [List.append_nil]
    exact spelled.expression

theorem operation_reads (sound : inner.Sound) {left : Expr} {before : List Token}
    (spelled : Spells .factor before left) :
    (operation inner left).Reads fun after => Spells .expression (before ++ after) := by
  apply Reads.bind (product_reads sound spelled.term)
  intro product multiplied spelledProduct
  apply Reads.bind (sum_reads sound spelledProduct.arithmetic)
  intro sum added spelledSum
  simpa using comparison_reads sound spelledSum

/-- Indices make a primary expression of what they follow, also where nothing else may follow. -/
theorem afterGroup_reads (sound : inner.Sound) {group : Expr} {before : List Token}
    (spelled : Spells .primary before group) :
    (afterGroup inner group).Reads fun after => Spells .expression (before ++ after) := by
  apply Reads.follows
  intro answer
  split
  · exact operation_reads sound spelled.factor
  · apply (indices_reads sound spelled).mono
    intro after operand spelledAll
    exact spelledAll.factor.term.arithmetic.expression

theorem expression_reads (sound : inner.Sound) :
    (expression inner).Reads (Spells .expression) := by
  apply Reads.ifNext
  · apply Reads.bind sound.expression
    intro group within spelled
    apply Reads.mark
    simpa using afterGroup_reads sound spelled.group
  · exact Reads.bind (factor_reads sound) fun _ _ spelled => operation_reads sound spelled

theorem expressions_reads (sound : inner.Sound) : (expressions inner).Reads SpellsList := by
  apply Reads.bind (expression_reads sound)
  intro first opening spelled
  apply Reads.ifNext
  · apply Reads.bind sound.expressions
    intro items within spelledItems
    apply Reads.pure
    rw [List.append_nil]
    exact .cons spelled spelledItems
  · apply Reads.pure
    rw [List.append_nil]
    exact .single spelled

theorem entries_reads (sound : inner.Sound) :
    (entries inner).Reads fun tokens entries =>
      Derives (.phrase .dictEntries) tokens (.list (Expr.entryNodes entries)) := by
  apply Reads.bind (expression_reads sound)
  intro key keyTokens spelledKey
  apply Reads.mark
  apply Reads.bind (expression_reads sound)
  intro value valueTokens spelledValue
  have entry := Derives.rule .dictEntry (.cons spelledKey.derives (.token (.mark .colon)
    (.single spelledValue.derives))) (by decide) rfl
  apply Reads.ifNext
  · apply Reads.bind sound.entries
    intro others within spelledOthers
    apply Reads.pure
    have all : Derives (.phrase .dictEntries) _ (.list (Expr.entryNodes ((key, value) :: others))) :=
      .rule .dictEntries (.cons entry (.token (.mark .comma) (.single spelledOthers)))
        (by decide) rfl
    simpa using all
  · apply Reads.pure
    rw [List.append_nil]
    exact .rule .dictEntries (.single entry) (by decide) rfl

theorem branch_reads (sound : inner.Sound) : (branch inner).Reads SpellsBranch := by
  apply Reads.bind (expression_reads sound)
  intro test tested spelledTest
  apply Reads.keyword
  apply Reads.mark
  apply Reads.bind sound.statements
  intro body told spelledBody
  apply Reads.pure
  exact .cons spelledTest.derives (.token (.keyword .thenWord) (.token (.mark .colon)
    (.cons spelledBody.statementList .nil)))

theorem otherBranches_reads (sound : inner.Sound) :
    (otherBranches inner).Reads SpellsOthers := by
  apply Reads.ifNext
  · apply Reads.bind (branch_reads sound)
    intro first opening spelledFirst
    apply Reads.bind sound.otherBranches
    rintro ⟨others, hasElse⟩ within spelledOthers
    apply Reads.pure
    rw [List.append_nil]
    exact .cons spelledFirst spelledOthers
  · apply Reads.ifNext
    · apply Reads.mark
      apply Reads.bind sound.statements
      intro body told spelledBody
      apply Reads.pure
      apply SpellsOthers.last
      exact .rule .elseCondition (.token (.keyword .elseWord) (.token (.mark .colon)
        (.cons spelledBody.statementList .nil))) (by decide) rfl
    · exact Reads.pure .none

/-- The body of a loop, with the marks around it. -/
theorem loopBody_reads (sound : inner.Sound) :
    (loopBody inner).Reads fun tokens body =>
      DerivesAll [.token "COLON", .phrase .loopBody, .token "END"] tokens
        [⟨"COLON", .str ":"⟩, ⟨"loop_body", .list (Stmt.nodes body)⟩, ⟨"END", .str "end"⟩] := by
  apply Reads.mark
  apply Reads.bind sound.statements
  intro body told spelled
  cases body with
  | nil => exact Reads.stuck
  | cons first rest =>
      apply Reads.keyword
      apply Reads.pure
      exact .token (.mark .colon) (.cons (spelled.loopBody nofun)
        (.token (.keyword .endWord) .nil))

theorem enumerated_reads :
    enumerated.Reads fun tokens collection =>
      tokens = [.mark .openParen, .name collection, .mark .closeParen] := by
  apply Reads.mark
  apply Reads.name
  intro collection
  apply Reads.mark
  exact Reads.pure rfl

/-- A loop is a statement. -/
theorem statement_of_loop {tokens : List Token} {value : Value}
    (derived : Derives (.phrase .forStatement) tokens value) :
    Derives (.phrase .statement) tokens value := by
  have compound := Derives.rule .compoundStatement (.single derived) (by decide) rfl
  exact .rule .statement (.single compound) (by decide) rfl

theorem loopAfter_reads (sound : inner.Sound) (item : String) {token : Token}
    {parse : Parse Stmt} (known : parse ∈ loopAfter inner item token) :
    parse.Reads fun after loop => Derives (.phrase .statement)
      (.keyword .forWord :: .name item :: .keyword .inWord :: token :: after) loop.node := by
  unfold loopAfter at known
  split at known <;> cases known
  · next word =>
      apply Reads.bind (loopBody_reads sound)
      intro body told spelled
      apply Reads.pure
      have source : Derives (.phrase .iterable) [.name word] (LoopSource.name word).node :=
        .rule .iterable (.name word .nil) (by decide) rfl
      rw [List.append_nil]
      exact statement_of_loop (.rule .forStatement (.token (.keyword .forWord) (.name item
        (.token (.keyword .inWord) (.cons source spelled)))) (by decide) rfl)
  · apply Reads.mark
    apply Reads.bind (expression_reads sound)
    intro bound bounded spelledBound
    apply Reads.mark
    apply Reads.bind (loopBody_reads sound)
    intro body told spelled
    apply Reads.pure
    rw [List.append_nil]
    exact statement_of_loop (.rule .forStatement (.token (.keyword .forWord) (.name item
      (.token (.keyword .inWord) (.token (.keyword .range) (.token (.mark .openParen)
        (.cons spelledBound.derives (.token (.mark .closeParen) spelled))))))) (by decide) rfl)
  · apply Reads.bind enumerated_reads
    rintro collection _ rfl
    apply Reads.bind (loopBody_reads sound)
    intro body told spelled
    apply Reads.pure
    have source : Derives (.phrase .iterable) _ (LoopSource.enumerated collection).node :=
      .rule .iterable (.token (.keyword .enumerate) (.token (.mark .openParen)
        (.name collection (.token (.mark .closeParen) .nil)))) (by decide) rfl
    rw [List.append_nil]
    exact statement_of_loop (.rule .forStatement (.token (.keyword .forWord) (.name item
      (.token (.keyword .inWord) (.cons source spelled)))) (by decide) rfl)

theorem loop_reads (sound : inner.Sound) :
    (loop inner).Reads fun after loop =>
      Derives (.phrase .statement) (.keyword .forWord :: after) loop.node := by
  apply Reads.name
  intro item
  apply Reads.ifNext
  · apply Reads.name
    intro element
    apply Reads.keyword
    apply Reads.keyword
    apply Reads.bind enumerated_reads
    rintro collection _ rfl
    apply Reads.bind (loopBody_reads sound)
    intro body told spelled
    apply Reads.pure
    rw [List.append_nil]
    exact statement_of_loop (.rule .forStatement (.token (.keyword .forWord) (.name item
      (.token (.mark .comma) (.name element (.token (.keyword .inWord)
        (.token (.keyword .enumerate) (.token (.mark .openParen) (.name collection
          (.token (.mark .closeParen) spelled))))))))) (by decide) rfl)
  · apply Reads.keyword
    apply Reads.choose _ Reads.stuck
    intro token _ parse known
    exact loopAfter_reads sound item known

/-- A phrase that makes a simple statement on its own makes a statement. -/
theorem statement_of_simple {rule : Rule} {tokens : List Token} {value : Value}
    (listed : [.phrase rule] ∈ Rule.simpleStatement.alternatives)
    (derived : Derives (.phrase rule) tokens value) :
    Derives (.phrase .statement) tokens value := by
  have simple := Derives.rule .simpleStatement (.single derived) listed rfl
  exact .rule .statement (.single simple) (by decide) rfl

theorem statementAfter_reads (sound : inner.Sound) {token : Token} {parse : Parse Stmt}
    (known : parse ∈ statementAfter inner token) :
    parse.Reads fun after statement =>
      Derives (.phrase .statement) (token :: after) statement.node := by
  unfold statementAfter at known
  split at known <;> cases known
  · next word =>
      apply Reads.ifNext
      · apply Reads.bind (expression_reads sound)
        intro value within spelled
        apply Reads.pure
        exact statement_of_simple (by decide) (.rule .assignment (.name word
          (.token (.mark .equals) (.cons spelled.derives .nil))) (by decide) rfl)
      · apply Reads.mark
        apply Reads.bind (arguments_reads sound word)
        intro items within derived
        apply Reads.pure
        rw [List.append_nil]
        exact statement_of_simple (by decide) derived
  · apply Reads.bind (expression_reads sound)
    intro value within spelled
    apply Reads.pure
    exact statement_of_simple (by decide) (.rule .returnStatement
      (.token (.keyword .returnWord) (.cons spelled.derives .nil)) (by decide) rfl)
  · apply Reads.mark
    apply Reads.keyword
    apply Reads.bind (branch_reads sound)
    rintro ⟨test, body⟩ opening spelledFirst
    apply Reads.bind (otherBranches_reads sound)
    rintro ⟨others, hasElse⟩ within spelledOthers
    apply Reads.pure
    have first := Derives.rule .ifCondition (.token (.keyword .ifWord) spelledFirst)
      (by decide) rfl
    have conditions := SpellsOthers.conditionList first spelledOthers
    have decided := Derives.rule .decideStatement (.token (.keyword .decide)
      (.token (.mark .colon) (.single conditions))) (by decide) rfl
    have compound := Derives.rule .compoundStatement (.single decided) (by decide) rfl
    rw [List.append_nil]
    exact .rule .statement (.single compound) (by decide) rfl
  · exact loop_reads sound

theorem statements_reads (sound : inner.Sound) : (statements inner).Reads SpellsEach := by
  apply Reads.choose _ (Reads.pure .nil)
  intro token _ parse known
  obtain ⟨statement, found, rfl⟩ := Option.map_eq_some_iff.mp known
  apply Reads.bind (statementAfter_reads sound found)
  intro first opening derived
  apply Reads.bind sound.statements
  intro rest within spelled
  apply Reads.pure
  rw [List.append_nil]
  exact .cons derived spelled

theorem titled_reads (sound : inner.Sound) (build : String → List Stmt → Item) :
    (titled inner build).Reads fun tokens item => ∃ title body, item = build title body ∧
      DerivesAll [.token "STRING", .token "COLON", .phrase .statementList] tokens
        [⟨"STRING", .textLiteral (.str title)⟩, ⟨"COLON", .str ":"⟩,
          ⟨"statement_list", .list (Stmt.nodes body)⟩] := by
  apply Reads.text
  intro title
  apply Reads.mark
  apply Reads.bind (statements_reads sound)
  intro body told spelled
  apply Reads.pure
  exact ⟨title, body, rfl, .text title (.token (.mark .colon)
    (.cons spelled.statementList .nil))⟩

/-- A step or subtask may be the only part of a task, and it may stand before others. -/
theorem item_alternatives : ∀ rule ∈ [Rule.step, .subtask],
    [.phrase rule] ∈ Rule.itemList.alternatives ∧
      [.phrase rule, .phrase .itemList] ∈ Rule.itemList.alternatives := by
  decide

theorem itemAfter_reads (sound : inner.Sound) {token : Token} {parse : Parse Item}
    (known : parse ∈ itemAfter inner token) :
    parse.Reads fun after item => ∃ rule ∈ [Rule.step, .subtask],
      Derives (.phrase rule) (token :: after) item.node := by
  unfold itemAfter at known
  split at known <;> cases known
  · apply (titled_reads sound .step).mono
    rintro tokens _ ⟨title, body, rfl, all⟩
    exact ⟨.step, by decide, .rule .step (.token (.keyword .step) all) (by decide) rfl⟩
  · apply (titled_reads sound .subtask).mono
    rintro tokens _ ⟨title, body, rfl, all⟩
    exact ⟨.subtask, by decide, .rule .subtask (.token (.keyword .subtask) all) (by decide) rfl⟩

theorem items_reads (sound : inner.Sound) :
    (items inner).Reads fun tokens items =>
      Derives (.phrase .itemList) tokens (.list (items.map Item.node)) := by
  have first : (choose (itemAfter inner) stuck).Reads fun tokens item =>
      ∃ rule ∈ [Rule.step, .subtask], Derives (.phrase rule) tokens item.node := by
    apply Reads.choose _ Reads.stuck
    intro token _ parse known
    exact itemAfter_reads sound known
  apply Reads.bind first
  rintro item opening ⟨rule, either, derived⟩
  obtain ⟨alone, before⟩ := item_alternatives rule either
  apply Reads.follows
  intro answer
  split
  · apply Reads.bind sound.items
    intro items within spelled
    apply Reads.pure
    exact .rule .itemList (.cons derived (.cons spelled .nil)) before rfl
  · apply Reads.pure
    exact .rule .itemList (.cons derived .nil) alone rfl

theorem tasks_reads (sound : inner.Sound) :
    (tasks inner).Reads fun tokens tasks =>
      Derives (.phrase .taskList) tokens (.list (tasks.map Task.node)) := by
  apply Reads.keyword
  apply Reads.text
  intro title
  apply Reads.mark
  apply Reads.bind (items_reads sound)
  intro items told spelledItems
  have task := Derives.rule .task (.token (.keyword .task) (.text title
    (.token (.mark .colon) (.single spelledItems)))) (by decide) rfl
  apply Reads.follows
  intro answer
  split
  · apply Reads.bind sound.tasks
    intro tasks within spelled
    apply Reads.pure
    rw [List.append_nil]
    exact .rule .taskList (.cons task (.single spelled)) (by decide) rfl
  · apply Reads.pure
    exact .rule .taskList (.cons task .nil) (by decide) rfl

theorem runs_reads (sound : inner.Sound) :
    (runs inner).Reads fun tokens runs =>
      Derives (.phrase .runList) tokens (.texts runs) := by
  apply Reads.keyword
  apply Reads.text
  intro title
  have run := Derives.rule .runStatement (.token (.keyword .run) (.text title .nil))
    (by decide) rfl
  apply Reads.follows
  intro answer
  split
  · apply Reads.bind sound.runs
    intro runs within spelled
    apply Reads.pure
    exact .rule .runList (.cons run (.cons spelled .nil)) (by decide) rfl
  · apply Reads.pure
    exact .rule .runList (.single run) (by decide) rfl

theorem program_reads (sound : inner.Sound) :
    (program inner).Reads fun tokens program =>
      Derives (.phrase .program) tokens program.node := by
  apply Reads.keyword
  apply Reads.text
  intro content
  have objective := Derives.rule .objective (.token (.keyword .objective) (.text content .nil))
    (by decide) rfl
  apply Reads.bind (tasks_reads sound)
  intro tasks told spelledTasks
  apply Reads.bind (runs_reads sound)
  intro runs within spelledRuns
  apply Reads.pure
  exact .rule .program (.cons objective (.cons spelledTasks (.cons spelledRuns .nil)))
    (by decide) rfl

end Parse

namespace Phrases

theorem Sound.none : Phrases.none.Sound where
  expression := Parse.Reads.stuck
  sum _ _ _ := Parse.Reads.stuck
  product _ _ _ := Parse.Reads.stuck
  factor := Parse.Reads.stuck
  indices _ _ _ := Parse.Reads.stuck
  expressions := Parse.Reads.stuck
  entries := Parse.Reads.stuck
  statements := Parse.Reads.stuck
  otherBranches := Parse.Reads.stuck
  items := Parse.Reads.stuck
  tasks := Parse.Reads.stuck
  runs := Parse.Reads.stuck

theorem Sound.around {inner : Phrases} (sound : inner.Sound) : inner.around.Sound where
  expression := Parse.expression_reads sound
  sum _ _ spelled := Parse.sum_reads sound spelled
  product _ _ spelled := Parse.product_reads sound spelled
  factor := Parse.factor_reads sound
  indices _ _ spelled := Parse.indices_reads sound spelled
  expressions := Parse.expressions_reads sound
  entries := Parse.entries_reads sound
  statements := Parse.statements_reads sound
  otherBranches := Parse.otherBranches_reads sound
  items := Parse.items_reads sound
  tasks := Parse.tasks_reads sound
  runs := Parse.runs_reads sound

/-- Phrases of every depth are read soundly. -/
theorem upTo_sound (depth : Nat) : (upTo depth).Sound := by
  induction depth with
  | zero => exact Sound.none
  | succ depth ih => exact ih.around

end Phrases

theorem program_of_parseTokens {tokens : List Placed} {program : Program}
    (parsed : parseTokens tokens = .ok program) :
    Parse.program (Phrases.upTo tokens.length) tokens = .ok (program, []) := by
  unfold parseTokens at parsed
  split at parsed
  · next found equal =>
      cases parsed
      exact equal
  all_goals cases parsed

/-- The program that is made of tokens is the value of a derivation that spells them. -/
theorem parseTokens_derives {tokens : List Placed} {program : Program} (proper : Proper tokens)
    (parsed : parseTokens tokens = .ok program) :
    Derives (.phrase .program) (tokens.map Placed.token) program.node := by
  have reads := Parse.program_reads (Phrases.upTo_sound tokens.length)
  have read := program_of_parseTokens parsed
  obtain ⟨used, split, derives⟩ := reads tokens program [] proper read
  rw [List.append_nil] at split
  rwa [split]

/-! ## Program texts -/

/-- Names start with a letter or an underscore, so lexing gives proper tokens. -/
theorem lex_proper (source : String) : Proper (lex source).tokens := by
  intro placed member looks
  have cut := lex_cut source placed member
  rw [looks] at cut
  obtain ⟨c, rest, same, starts⟩ := cut.name_starts
  have chars : ['('] = c :: rest := by
    rw [← String.toList_ofList (l := c :: rest), ← same]
    rfl
  cases chars
  cases starts

/-- A reading ends well only at the end of the text, with a program that passes its check. -/
theorem Reading.atEnd_eq_ok {source : String} {program? : Option Program} {ending : Ending}
    {program : Program} (read : (Reading.atEnd source program? ending).outcome = .ok program) :
    program? = some program ∧ ending = .finished := by
  cases ending with
  | illegal position rest => cases read
  | refused position fault => cases read
  | finished =>
      cases program? with
      | none => cases read
      | some found =>
          rw [Reading.atEnd] at read
          split at read
          · cases read
            exact ⟨rfl, rfl⟩
          · cases read
          · cases read

theorem Program.parsed_of_read {source : String} {program : Program}
    (read : (Program.read source).outcome = .ok program) :
    parseTokens (lex source).tokens = .ok program ∧ (lex source).ending = .finished := by
  simp only [Program.read] at read
  split at read
  · next found parsed =>
      obtain ⟨same, finished⟩ := Reading.atEnd_eq_ok read
      cases same
      exact ⟨parsed, finished⟩
  · cases (Reading.atEnd_eq_ok read).1
  · cases read

end Stepwise
