import Stepwise.Proofs.Lexemes.Partition

/-!
# Layout between lexemes

A text is spread by layout that is added in front of its characters and at its end.  If nothing is added
within a lexeme, then the text has the same tokens, each behind what was added before it.
-/

namespace Stepwise

variable {added : Nat → List Char} {source : String} {position : Nat} {rest : List Char} {lexed : Lexed}

/-- The characters from a place on, each with what is added in front of it, and what is added at the
end. -/
def spreadFrom (added : Nat → List Char) (place : Nat) : List Char → List Char
  | [] => added place
  | c :: rest => added place ++ c :: spreadFrom added (place + 1) rest

/-- The text in which `added i` stands in front of the character at place `i`. -/
def spread (added : Nat → List Char) (source : String) : String :=
  String.ofList (spreadFrom added 0 source.toList)

/-- How many characters are added in front of the places below a bound. -/
def addedBelow (added : Nat → List Char) : Nat → Nat
  | 0 => 0
  | place + 1 => addedBelow added place + (added place).length

/-- A token behind what is added in front of its first character and before. -/
def Placed.spread (added : Nat → List Char) (placed : Placed) : Placed :=
  { placed with position := placed.position + addedBelow added (placed.position + 1) }

theorem spreadFrom_append {count place : Nat} {chars : List Char} (length : chars.length = count)
    (nothing : ∀ i, place ≤ i → i < place + count → added i = []) :
    spreadFrom added place (chars ++ rest) = chars ++ spreadFrom added (place + count) rest := by
  subst length
  induction chars generalizing place with
  | nil => rfl
  | cons c more ih =>
      have here : added place = [] := nothing place (Nat.le_refl _) (by simp)
      have later : ∀ i, place + 1 ≤ i → i < place + 1 + more.length → added i = [] := by
        intro i low high
        apply nothing i (Nat.le_of_succ_le low)
        rw [List.length_cons]
        omega
      rw [List.cons_append, spreadFrom, here, List.nil_append, ih later, List.length_cons,
        Nat.add_right_comm, Nat.add_assoc place]
      rfl

theorem addedBelow_eq {place count : Nat}
    (nothing : ∀ i, place ≤ i → i < place + count → added i = []) :
    addedBelow added (place + count) = addedBelow added place := by
  induction count with
  | zero => rfl
  | succ count ih =>
      rw [← Nat.add_assoc, addedBelow, nothing (place + count) (by omega) (by omega),
        ih fun i low high => nothing i low (by omega)]
      rfl

/-- Up to the next layout, a text that is spread has the same characters or fewer. -/
theorem takeWhile_spreadFrom (layout : ∀ i, ∀ c ∈ added i, isLayout c = true) (place : Nat)
    (chars : List Char) :
    (spreadFrom added place chars).takeWhile (fun c => !isLayout c) <+: chars := by
  induction chars generalizing place with
  | nil =>
      rw [spreadFrom]
      cases here : added place with
      | nil => exact List.nil_prefix
      | cons d more =>
          have stops := layout place d (here ▸ List.mem_cons_self ..)
          have none : (d :: more).takeWhile (fun c => !isLayout c) = [] :=
            List.takeWhile_cons_of_neg (by simp [stops])
          exact none ▸ List.nil_prefix
  | cons c rest ih =>
      rw [spreadFrom]
      cases here : added place with
      | nil =>
          rw [List.nil_append, List.takeWhile_cons]
          split
          · exact (List.prefix_cons_inj c).mpr (ih (place + 1))
          · exact List.nil_prefix
      | cons d more =>
          have stops := layout place d (here ▸ List.mem_cons_self ..)
          rw [List.cons_append, List.takeWhile_cons_of_neg (by simp [stops])]
          exact List.nil_prefix

theorem Scans.skip {blank : List Char} (layout : ∀ c ∈ blank, isLayout c = true)
    (scans : Scans (position + blank.length) rest lexed) : Scans position (blank ++ rest) lexed := by
  induction blank generalizing position with
  | nil => exact scans
  | cons c more ih =>
      refine .layout (layout c (List.mem_cons_self ..)) ?_
      refine ih (fun d member => layout d (List.mem_cons_of_mem _ member)) ?_
      rwa [Nat.add_right_comm, Nat.add_assoc]

/-- Going through a text that is spread gives the tokens in their new places. -/
theorem Scans.spread {chars : List Char} (scans : Scans position chars lexed)
    (there : source.toList.drop position = chars) (finished : lexed.ending = .finished)
    (layout : ∀ i, ∀ c ∈ added i, isLayout c = true)
    (outside : ∀ placed ∈ lexed.tokens, ∀ i, placed.position < i → i < placed.stop source →
      added i = []) :
    Scans (position + addedBelow added position) (spreadFrom added position chars)
      ⟨lexed.tokens.map (Placed.spread added), .finished⟩ := by
  induction scans with
  | finished position =>
      rw [spreadFrom, ← List.append_nil (added position)]
      exact .skip (layout position) (.finished _)
  | @layout position c rest lexed isLayout _ ih =>
      have scans := ih (Reading.drop_succ_of_drop there) finished outside
      rw [spreadFrom]
      refine .skip (layout position) (.layout isLayout ?_)
      rwa [addedBelow, ← Nat.add_assoc, Nat.add_right_comm position, Nat.add_right_comm _ 1] at scans
  | illegal => cases finished
  | refused => cases finished
  | @lexeme position shape lexeme rest token lexed foremost gives _ ih =>
      obtain ⟨own, others⟩ := List.forall_mem_cons.mp outside
      have behind : source.toList.drop (position + lexeme.length) = rest := by
        rw [← List.drop_drop, there, List.drop_left]
      have scans := ih behind finished others
      have within : ∀ i, position < i → i < position + lexeme.length → added i = [] := by
        rw [Placed.stop, lexemeAt_eq there foremost] at own
        exact own
      have near := takeWhile_spreadFrom layout (position + lexeme.length) rest
      have cut := lexeme?_append (lexeme?_eq_some_iff.mpr foremost) near
      obtain ⟨c, more, rfl⟩ := List.exists_cons_of_ne_nil foremost.fits.nonempty
      have nothing : ∀ i, position + 1 ≤ i → i < position + 1 + more.length → added i = [] := by
        intro i low high
        apply within i low
        rw [List.length_cons]
        omega
      have length : position + (c :: more).length = position + 1 + more.length := by
        rw [List.length_cons]
        omega
      rw [length] at scans cut
      rw [addedBelow_eq nothing] at scans
      rw [List.cons_append, spreadFrom, spreadFrom_append rfl nothing]
      refine .skip (layout position) ?_
      have moved : Placed.spread added ⟨token, position⟩ =
          ⟨token, position + addedBelow added position + (added position).length⟩ := by
        rw [Placed.spread, addedBelow, Nat.add_assoc]
      have place : position + addedBelow added position + (added position).length + (c :: more).length =
          position + 1 + more.length + addedBelow added (position + 1) := by
        rw [addedBelow, List.length_cons]
        omega
      have step := Scans.lexeme (lexeme?_eq_some_iff.mp cut) gives (place ▸ scans)
      rwa [Lexed.cons, ← moved] at step

/-- A text that is spread outside its lexemes has the same tokens in their new places. -/
theorem lex_spread_eq (finished : (lex source).ending = .finished)
    (layout : ∀ i, ∀ c ∈ added i, isLayout c = true)
    (outside : ∀ placed ∈ (lex source).tokens, ∀ i, placed.position < i → i < placed.stop source →
      added i = []) :
    lex (spread added source) = ⟨(lex source).tokens.map (Placed.spread added), .finished⟩ := by
  have scans : Scans 0 source.toList (lex source) := scans_lexFrom 0 source.toList
  rw [lex, spread, String.toList_ofList]
  exact scans_iff.mp (scans.spread List.drop_zero finished layout outside)

end Stepwise
