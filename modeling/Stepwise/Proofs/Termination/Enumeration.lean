import Stepwise.Proofs.Changes

/-!
# Enumerations run out

An enumeration draws on a sequence, or on another enumeration.  No change of a machine makes one longer:
taking an item leaves fewer of them, also to every other enumeration on the same sequence, and all other
changes leave the enumerations alone or add new ones.  So the number of items that are left when a loop
starts bounds its iterations, whatever the loop's body draws on.
-/

namespace Stepwise

/-- What an enumeration draws on has stayed the same or has become shorter. -/
inductive CursorSource.Shrinks : CursorSource → CursorSource → Prop where
  | feed {before after : Feed} (shorter : after.length ≤ before.length) :
      Shrinks (.feed before) (.feed after)
  | cursor (number : Nat) : Shrinks (.cursor number) (.cursor number)

theorem CursorSource.Shrinks.refl (source : CursorSource) : source.Shrinks source := by
  cases source with
  | feed feed => exact .feed (Nat.le_refl _)
  | cursor number => exact .cursor number

theorem CursorSource.Shrinks.trans {first second third : CursorSource}
    (early : first.Shrinks second) (late : second.Shrinks third) : first.Shrinks third := by
  cases early with
  | feed shorter =>
      cases late with
      | feed shortest => exact .feed (Nat.le_trans shortest shorter)
  | cursor number => exact late

theorem CursorSource.Shrinks.eq_cursor {inner : Nat} {after : CursorSource}
    (shrinks : Shrinks (.cursor inner) after) : after = .cursor inner := by
  cases shrinks
  rfl

theorem Feed.length_of_next? {feed rest : Feed} {item : Value}
    (next : feed.next? = some (item, rest)) : feed.length = rest.length + 1 := by
  cases feed with
  | items values =>
      cases values with
      | nil => cases next
      | cons value values => cases next; rfl
  | span start step count =>
      cases count with
      | zero => cases next
      | succ count => cases next; rfl

namespace Cursor

/-- Every enumeration is still there, with no more items than before. -/
def Advance (before after : List Cursor) : Prop :=
  ∀ (number : Nat) (cursor : Cursor), before[number]? = some cursor →
    ∃ later : Cursor, after[number]? = some later ∧ cursor.source.Shrinks later.source

/-- The enumeration draws in the end on a sequence. -/
def Grounded (cursors : List Cursor) : (depth number : Nat) → Prop
  | 0, _ => False
  | depth + 1, number =>
    match cursors[number]? with
    | none => False
    | some cursor =>
      match cursor.source with
      | .feed _ => True
      | .cursor inner => Grounded cursors depth inner

variable {cursors before after rest : List Cursor} {cursor : Cursor} {depth number inner : Nat}
  {feed : Feed} {item : Value}

/-! ## One step down -/

section Unfolding

variable (found : cursors[number]? = some cursor)
include found

theorem take?_feed (drawn : cursor.source = .feed feed) :
    take? cursors (depth + 1) number = feed.next?.map fun (item, rest) =>
      (.tuple [.int cursor.next, item], cursors.set number ⟨.feed rest, cursor.next + 1⟩) := by
  rw [take?, found]
  simp only [drawn]

theorem take?_cursor (drawn : cursor.source = .cursor inner) :
    take? cursors (depth + 1) number = (take? cursors depth inner).map fun (item, rest) =>
      (.tuple [.int cursor.next, item], rest.set number ⟨.cursor inner, cursor.next + 1⟩) := by
  rw [take?, found]
  simp only [drawn]

theorem remaining_feed (drawn : cursor.source = .feed feed) :
    remaining cursors (depth + 1) number = feed.length := by
  rw [remaining, found]
  simp only [drawn]

theorem remaining_cursor (drawn : cursor.source = .cursor inner) :
    remaining cursors (depth + 1) number = remaining cursors depth inner := by
  rw [remaining, found]
  simp only [drawn]

theorem grounded_feed (drawn : cursor.source = .feed feed) :
    Grounded cursors (depth + 1) number := by
  rw [Grounded, found]
  simp only [drawn]

theorem grounded_cursor (drawn : cursor.source = .cursor inner) :
    Grounded cursors (depth + 1) number ↔ Grounded cursors depth inner := by
  rw [Grounded, found]
  simp only [drawn]

end Unfolding

/-! ## Advances -/

theorem Advance.refl (cursors : List Cursor) : Advance cursors cursors :=
  fun _ cursor found => ⟨cursor, found, .refl _⟩

theorem Advance.trans {middle : List Cursor} (early : Advance before middle)
    (late : Advance middle after) : Advance before after := by
  intro number cursor found
  obtain ⟨next, foundNext, shrinks⟩ := early number cursor found
  obtain ⟨last, foundLast, shrinksMore⟩ := late number next foundNext
  exact ⟨last, foundLast, shrinks.trans shrinksMore⟩

theorem advance_append (cursors more : List Cursor) : Advance cursors (cursors ++ more) := by
  intro number cursor found
  have inside : number < cursors.length := (List.getElem?_eq_some_iff.mp found).1
  exact ⟨cursor, by rw [List.getElem?_append_left inside, found], .refl _⟩

theorem advance_set {new : Cursor} (found : cursors[number]? = some cursor)
    (shrinks : cursor.source.Shrinks new.source) : Advance cursors (cursors.set number new) := by
  intro other otherCursor foundOther
  have inside : number < cursors.length := (List.getElem?_eq_some_iff.mp found).1
  by_cases same : number = other
  · subst same
    cases found.symm.trans foundOther
    exact ⟨new, by rw [List.getElem?_set_self inside], shrinks⟩
  · exact ⟨otherCursor, by rw [List.getElem?_set_ne same, foundOther], .refl _⟩

theorem exists_of_take? (taken : take? cursors (depth + 1) number = some (item, rest)) :
    ∃ cursor, cursors[number]? = some cursor := by
  cases found : cursors[number]? with
  | none =>
      rw [take?, found] at taken
      cases taken
  | some cursor => exact ⟨cursor, rfl⟩

theorem advance_take? (taken : take? cursors depth number = some (item, rest)) :
    Advance cursors rest := by
  induction depth generalizing number item rest with
  | zero => cases taken
  | succ depth ih =>
      obtain ⟨cursor, found⟩ := exists_of_take? taken
      cases drawn : cursor.source with
      | feed feed =>
          rw [take?_feed found drawn] at taken
          obtain ⟨⟨value, shorter⟩, next, same⟩ := Option.map_eq_some_iff.mp taken
          cases same
          refine advance_set found ?_
          rw [drawn]
          exact .feed (Feed.length_of_next? next ▸ Nat.le_succ _)
      | cursor inner =>
          rw [take?_cursor found drawn] at taken
          obtain ⟨⟨value, others⟩, takenInner, same⟩ := Option.map_eq_some_iff.mp taken
          cases same
          have early := ih takenInner
          obtain ⟨later, foundLater, shrinks⟩ := early number cursor found
          refine early.trans (advance_set foundLater ?_)
          -- an enumeration keeps drawing on the same one, so setting it changes no source
          rw [drawn] at shrinks
          exact shrinks.eq_cursor ▸ .refl _

theorem Grounded.advance (grounded : Grounded before depth number) (advance : Advance before after) :
    Grounded after depth number ∧ remaining after depth number ≤ remaining before depth number := by
  induction depth generalizing number with
  | zero => cases grounded
  | succ depth ih =>
      cases found : before[number]? with
      | none => rw [Grounded, found] at grounded; cases grounded
      | some cursor =>
          obtain ⟨later, foundLater, shrinks⟩ := advance number cursor found
          cases drawn : cursor.source with
          | feed feed =>
              rw [drawn] at shrinks
              cases drawnLater : later.source with
              | feed shorter =>
                  rw [drawnLater] at shrinks
                  rw [remaining_feed found drawn, remaining_feed foundLater drawnLater]
                  cases shrinks with
                  | feed le => exact ⟨grounded_feed foundLater drawnLater, le⟩
              | cursor inner => rw [drawnLater] at shrinks; cases shrinks
          | cursor inner =>
              rw [drawn] at shrinks
              have drawnLater := shrinks.eq_cursor
              rw [grounded_cursor found drawn] at grounded
              rw [grounded_cursor foundLater drawnLater, remaining_cursor found drawn,
                remaining_cursor foundLater drawnLater]
              exact ih grounded

theorem grounded_of_take? (taken : take? cursors depth number = some (item, rest)) :
    Grounded cursors depth number := by
  induction depth generalizing number item rest with
  | zero => cases taken
  | succ depth ih =>
      obtain ⟨cursor, found⟩ := exists_of_take? taken
      cases drawn : cursor.source with
      | feed feed => exact grounded_feed found drawn
      | cursor inner =>
          rw [take?_cursor found drawn] at taken
          obtain ⟨⟨value, others⟩, takenInner, _⟩ := Option.map_eq_some_iff.mp taken
          exact (grounded_cursor found drawn).mpr (ih takenInner)

/-- Taking an item leaves fewer items. -/
theorem remaining_take? (taken : take? cursors depth number = some (item, rest)) :
    remaining rest depth number < remaining cursors depth number := by
  induction depth generalizing number item rest with
  | zero => cases taken
  | succ depth ih =>
      obtain ⟨cursor, found⟩ := exists_of_take? taken
      have inside : number < cursors.length := (List.getElem?_eq_some_iff.mp found).1
      cases drawn : cursor.source with
      | feed feed =>
          rw [take?_feed found drawn] at taken
          obtain ⟨⟨value, shorter⟩, next, same⟩ := Option.map_eq_some_iff.mp taken
          cases same
          rw [remaining_feed found drawn, remaining_feed (List.getElem?_set_self inside) rfl,
            Feed.length_of_next? next]
          exact Nat.lt_succ_self _
      | cursor inner =>
          rw [take?_cursor found drawn] at taken
          obtain ⟨⟨value, others⟩, takenInner, same⟩ := Option.map_eq_some_iff.mp taken
          cases same
          have early := advance_take? takenInner
          obtain ⟨later, foundLater, shrinks⟩ := early number cursor found
          have insideOthers : number < others.length := (List.getElem?_eq_some_iff.mp foundLater).1
          have unchanged : Advance others (others.set number ⟨.cursor inner, cursor.next + 1⟩) := by
            refine advance_set foundLater ?_
            rw [drawn] at shrinks
            exact shrinks.eq_cursor ▸ .refl _
          have grounded := ((grounded_of_take? takenInner).advance early).1
          rw [remaining_cursor found drawn,
            remaining_cursor (List.getElem?_set_self insideOthers) rfl]
          exact Nat.lt_of_le_of_lt (grounded.advance unchanged).2 (ih takenInner)

theorem take?_of_remaining_eq_zero (empty : remaining cursors depth number = 0) :
    take? cursors depth number = none := by
  cases taken : take? cursors depth number with
  | none => rfl
  | some pair =>
      have fewer := remaining_take? taken
      omega

end Cursor

theorem Machine.Changes.advance {before after : Machine} (changes : before.Changes after) :
    Cursor.Advance before.cursors after.cursors := by
  induction changes with
  | refl => exact .refl _
  | tail _ change ih =>
      refine ih.trans ?_
      cases change with
      | start cursor => exact Cursor.advance_append _ _
      | take number item cursors taken => exact Cursor.advance_take? taken
      | emit event => exact .refl _
      | indent indent => exact .refl _
      | iterations count => exact .refl _
      | assign key value => exact .refl _

end Stepwise
