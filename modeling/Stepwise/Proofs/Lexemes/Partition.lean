import Stepwise.Proofs.Lexemes.Scanning
import Stepwise.Proofs.Reading.Events

/-!
# Lexing divides the text

The lexemes of the tokens stand in the text one behind the other, each where its token says, and all
else up to the place where lexing stops is layout.  So no character is lost and none is read twice.
What stands behind that place does not matter for the tokens: the text cut off there has the same ones.
-/

namespace Stepwise

variable {source : String} {lexeme chars rest : List Char} {shape : Shape} {position : Nat}
  {lexed : Lexed}

/-- The lexeme at a position of a text. -/
def lexemeAt (source : String) (position : Nat) : List Char :=
  ((lexeme? (source.toList.drop position)).map Prod.snd).getD []

/-- The position behind a token. -/
def Placed.stop (source : String) (placed : Placed) : Nat :=
  placed.position + (lexemeAt source placed.position).length

/-- The place where lexing stops: the end of a text of a length, or a place before it. -/
def Ending.stop (length : Nat) : Ending → Nat
  | .finished => length
  | .illegal position _ => position
  | .refused position _ => position

instance (ending : Ending) : Decidable (ending = .finished) :=
  match ending with
  | .finished => .isTrue rfl
  | .illegal .. => .isFalse (by simp)
  | .refused .. => .isFalse (by simp)

/-- What the text says where lexing stops. -/
def Ending.Explained (source : String) : Ending → Prop
  | .finished => True
  | .illegal position rest => source.toList.drop position = rest ∧
      (∃ c, rest.head? = some c ∧ isLayout c = false) ∧
      ∀ (shape : Shape) (beginning : List Char), beginning <+: rest → ¬ shape.Matches beginning
  | .refused position fault => Foremost (source.toList.drop position) .int (lexemeAt source position) ∧
      Value.maxDigits < digitCount (lexemeAt source position) ∧
      fault = .digitsRead (digitCount (lexemeAt source position))

/-- The token that a lexeme stands for by itself. -/
def Denotes (lexeme : List Char) (token : Token) : Prop :=
  ∃ shape, Foremost lexeme shape lexeme ∧ shape.Gives lexeme token

/-- The text between two places is divided into the lexemes of tokens, with layout between them. -/
structure Parts (source : String) (start : Nat) (tokens : List Placed) (stop : Nat) : Prop where
  start_le : start ≤ stop
  stop_le : stop ≤ source.length
  within : ∀ placed ∈ tokens, start ≤ placed.position ∧ placed.stop source ≤ stop
  foremost : ∀ placed ∈ tokens, ∃ shape,
    Foremost (source.toList.drop placed.position) shape (lexemeAt source placed.position)
  apart : tokens.Pairwise fun placed later => placed.stop source ≤ later.position
  between : ∀ i c, start ≤ i → i < stop → source.toList[i]? = some c →
    isLayout c = true ∨ ∃ placed ∈ tokens, placed.position ≤ i ∧ i < placed.stop source

theorem lexemeAt_eq (there : source.toList.drop position = chars)
    (foremost : Foremost chars shape lexeme) : lexemeAt source position = lexeme := by
  rw [lexemeAt, there, lexeme?_eq_some_iff.mpr foremost]
  rfl

theorem Foremost.alone (foremost : Foremost chars shape lexeme) : Foremost lexeme shape lexeme := by
  obtain ⟨after, rfl⟩ := foremost.starts
  have near : ([] : List Char).takeWhile (fun c => !isLayout c) <+: after := List.nil_prefix
  have cut := lexeme?_append (lexeme?_eq_some_iff.mpr foremost) near
  rw [List.append_nil] at cut
  exact lexeme?_eq_some_iff.mp cut

theorem Denotes.unique {token other : Token} (denotes : Denotes lexeme token)
    (denotesOther : Denotes lexeme other) : token = other := by
  obtain ⟨shape, foremost, gives⟩ := denotes
  obtain ⟨_, foremostOther, givesOther⟩ := denotesOther
  obtain ⟨rfl, -⟩ := foremost.unique foremostOther
  have made := (ofLexeme_eq_ok_iff foremost.fits).mpr gives
  rw [(ofLexeme_eq_ok_iff foremost.fits).mpr givesOther] at made
  exact (Except.ok.inj made).symm

namespace Parts

variable {start stop : Nat} {tokens : List Placed}

theorem empty (start : Nat) (inside : start ≤ source.length) : Parts source start [] start :=
  ⟨Nat.le_refl _, inside, by simp, by simp, .nil, fun i c low high => by omega⟩

theorem skip {c : Char} (there : source.toList[start]? = some c) (layout : isLayout c = true)
    (parts : Parts source (start + 1) tokens stop) : Parts source start tokens stop where
  start_le := Nat.le_of_succ_le parts.start_le
  stop_le := parts.stop_le
  within placed member := by
    have within := parts.within placed member
    exact ⟨Nat.le_of_succ_le within.1, within.2⟩
  foremost := parts.foremost
  apart := parts.apart
  between i d low high at_i := by
    rcases Nat.eq_or_lt_of_le low with rfl | low
    · rw [there] at at_i
      cases at_i
      exact .inl layout
    · exact parts.between i d low high at_i

theorem cons {token : Token}
    (foremost : Foremost (source.toList.drop start) shape lexeme)
    (parts : Parts source (start + lexeme.length) tokens stop) :
    Parts source start (⟨token, start⟩ :: tokens) stop := by
  have ends : Placed.stop source ⟨token, start⟩ = start + lexeme.length := by
    rw [Placed.stop, lexemeAt_eq rfl foremost]
  have low := parts.start_le
  constructor
  · omega
  · exact parts.stop_le
  · rw [List.forall_mem_cons, ends]
    refine ⟨⟨Nat.le_refl _, low⟩, fun placed member => ?_⟩
    have within := parts.within placed member
    omega
  · rw [List.forall_mem_cons, lexemeAt_eq rfl foremost]
    exact ⟨⟨shape, foremost⟩, parts.foremost⟩
  · rw [List.pairwise_cons, ends]
    exact ⟨fun placed member => (parts.within placed member).1, parts.apart⟩
  · intro i c low high there
    by_cases inside : i < start + lexeme.length
    · exact .inr ⟨_, List.mem_cons_self .., low, by rwa [ends]⟩
    · rcases parts.between i c (Nat.not_lt.mp inside) high there with layout | ⟨placed, member, covers⟩
      · exact .inl layout
      · exact .inr ⟨placed, List.mem_cons_of_mem _ member, covers⟩

theorem increasing (parts : Parts source start tokens stop) :
    tokens.Pairwise fun placed later => placed.position < later.position := by
  refine parts.apart.imp_of_mem ?_
  intro placed later member _ apart
  obtain ⟨shape, foremost⟩ := parts.foremost placed member
  have positive := List.length_pos_iff.mpr foremost.fits.nonempty
  rw [Placed.stop] at apart
  omega

end Parts

theorem getElem?_of_drop {c : Char} (there : source.toList.drop position = c :: rest) :
    source.toList[position]? = some c := by
  rw [← List.head?_drop, there, List.head?_cons]

/-- Going through the text divides it, gives each lexeme its token and stops for a reason. -/
theorem Scans.divides (scans : Scans position chars lexed)
    (there : source.toList.drop position = chars) (inside : position ≤ source.length) :
    Parts source position lexed.tokens (lexed.ending.stop source.length) ∧
      (∀ placed ∈ lexed.tokens, Denotes (lexemeAt source placed.position) placed.token) ∧
      lexed.ending.Explained source := by
  have length : source.toList.length = source.length := String.length_toList
  induction scans with
  | finished position =>
      have last : position = source.length := by
        have short := List.drop_eq_nil_iff.mp there
        omega
      exact ⟨last ▸ Parts.empty position inside, by simp, trivial⟩
  | layout layout _ ih =>
      have more := (List.getElem?_eq_some_iff.mp (getElem?_of_drop there)).1
      obtain ⟨parts, rest⟩ := ih (Reading.drop_succ_of_drop there) (by omega)
      exact ⟨parts.skip (getElem?_of_drop there) layout, rest⟩
  | illegal position plain nothing =>
      exact ⟨Parts.empty position inside, by simp, there, ⟨_, rfl, plain⟩, nothing⟩
  | refused position foremost long =>
      have same := lexemeAt_eq there foremost
      refine ⟨Parts.empty position inside, by simp, ?_⟩
      rw [Ending.Explained, same, there]
      exact ⟨foremost, long, rfl⟩
  | @lexeme position shape lexeme rest token lexed foremost gives _ ih =>
      have behind : source.toList.drop (position + lexeme.length) = rest := by
        rw [← List.drop_drop, there, List.drop_left]
      have more : position + lexeme.length ≤ source.length := by
        have count := congrArg List.length there
        rw [List.length_drop, List.length_append] at count
        omega
      obtain ⟨parts, denotes, explained⟩ := ih behind more
      refine ⟨Parts.cons (there ▸ foremost) parts, ?_, explained⟩
      rw [Lexed.cons, List.forall_mem_cons, lexemeAt_eq there foremost]
      exact ⟨⟨shape, foremost.alone, gives⟩, denotes⟩

/-- The text cut off where lexing stops has the same tokens. -/
theorem Scans.take (scans : Scans position chars lexed) :
    ∃ count, lexed.ending.stop (position + chars.length) = position + count ∧
      Scans position (chars.take count) ⟨lexed.tokens, .finished⟩ := by
  induction scans with
  | finished position => exact ⟨0, rfl, .finished position⟩
  | @layout position c rest lexed layout _ ih =>
      obtain ⟨count, stops, scans⟩ := ih
      refine ⟨count + 1, ?_, .layout layout scans⟩
      rw [List.length_cons, Nat.add_comm rest.length, ← Nat.add_assoc, stops]
      omega
  | illegal position plain nothing => exact ⟨0, rfl, .finished position⟩
  | refused position foremost long =>
      refine ⟨0, rfl, ?_⟩
      rw [List.take_zero]
      exact .finished position
  | @lexeme position shape lexeme rest token lexed foremost gives _ ih =>
      obtain ⟨count, stops, scans⟩ := ih
      refine ⟨lexeme.length + count, ?_, ?_⟩
      · rw [List.length_append, ← Nat.add_assoc, ← Nat.add_assoc, ← stops]
        rfl
      · -- the lexeme is foremost in front of any beginning of the rest
        have near : (rest.take count).takeWhile (fun c => !isLayout c) <+: rest :=
          (List.takeWhile_prefix _).trans (List.take_prefix ..)
        have cut := lexeme?_append (lexeme?_eq_some_iff.mpr foremost) near
        rw [List.take_length_add_append]
        exact Scans.lexeme (lexeme?_eq_some_iff.mp cut) gives scans

/-- Lexing divides the text up to the place where it stops, where either the text ends, or no lexeme
begins, or an integer has too many digits.  Each lexeme by itself stands for the token that it gives, and
for no other.  Cut off at that place, the text has the same tokens and no error. -/
theorem lex_divides (source : String) :
    let lexed := lex source
    let stop := lexed.ending.stop source.length
    Parts source 0 lexed.tokens stop ∧
      (lexed.tokens.Pairwise fun placed later => placed.position < later.position) ∧
      (∀ placed ∈ lexed.tokens, ∀ token,
        Denotes (lexemeAt source placed.position) token ↔ token = placed.token) ∧
      lexed.ending.Explained source ∧
      lex (String.ofList (source.toList.take stop)) = ⟨lexed.tokens, .finished⟩ := by
  intro lexed stop
  have scans : Scans 0 source.toList lexed := scans_lexFrom 0 source.toList
  obtain ⟨parts, denotes, explained⟩ := scans.divides List.drop_zero (Nat.zero_le source.length)
  refine ⟨parts, parts.increasing, fun placed member token => ?_, explained, ?_⟩
  · constructor
    · exact fun denotesToo => denotesToo.unique (denotes placed member)
    · rintro rfl
      exact denotes placed member
  · obtain ⟨count, stops, short⟩ := scans.take
    rw [Nat.zero_add, Nat.zero_add, String.length_toList] at stops
    rw [lex, String.toList_ofList, show stop = count from stops]
    exact scans_iff.mp short

end Stepwise
