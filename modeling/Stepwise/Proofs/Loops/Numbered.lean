import Stepwise.Machine.Node
import Stepwise.Proofs.Loops.Basic
import Stepwise.Proofs.Uniform

/-!
# Loops over numbered items

There are three loops that assign the items of a collection together with their numbers: the statement
for it, the loop that announces how many items there are, and the loop over items whose source is an
enumeration.  They differ in their notes and in whether they count their iterations, but assign the same
variables, run the body equally often and end in the same way.

The body may be any code, so it has to be shown that no code can tell their machines apart.  Two machines
are `Alike` if they have the same core.  Code with loops over items in it looks at the count of
iterations, but only while it explains itself, and then sets the count when the loop opens; from there
on the counts are the same as well.
-/

namespace Stepwise

/-- Two machines that differ at most in their logs and counts of iterations, and not in the counts if
they are `counted` and shown. -/
structure Machine.Alike (subtasks : Table (List Action)) (explain counted : Bool)
    (left right : Machine) : Prop where
  core : left.core = right.core
  registered : left.subtasks = subtasks
  explains : left.settings.explain = explain
  counts : explain = true → counted = true → left.iterations = right.iterations

namespace Machine.Alike

variable {subtasks : Table (List Action)} {explain counted : Bool} {left right : Machine}

theorem uncounted (alike : Alike subtasks explain true left right) :
    Alike subtasks explain counted left right where
  core := alike.core
  registered := alike.registered
  explains := alike.explains
  counts explaining _ := alike.counts explaining rfl

theorem settings_eq (alike : Alike subtasks explain counted left right) :
    left.settings = right.settings := by
  have same : left.core.settings = right.core.settings := congrArg Machine.settings alike.core
  exact same

theorem right_explains (alike : Alike subtasks explain counted left right) :
    right.settings.explain = explain :=
  alike.settings_eq ▸ alike.explains

end Machine.Alike

namespace Run

variable {α β : Type} {before middle after : Machine → Machine → Prop}

/-! ## Computations that match -/

/-- Two computations that end in the same way, on machines that are related by `after` if there is a
result, and are still related by `before` if there is none. -/
inductive SameEnd (before after : Machine → Machine → Prop) :
    Except Stop α × Machine → Except Stop α × Machine → Prop where
  | ok {value : α} {left right : Machine} :
      after left right → SameEnd before after (.ok value, left) (.ok value, right)
  | error {stop : Stop} {left right : Machine} :
      before left right → SameEnd before after (.error stop, left) (.error stop, right)

theorem SameEnd.agree {subtasks : Table (List Action)} {explain counted : Bool}
    {course other : Except Stop α × Machine}
    (ends : SameEnd (Machine.Alike subtasks explain counted) (Machine.Alike subtasks explain counted)
      course other) : course.1 = other.1 ∧ course.2.core = other.2.core := by
  cases ends with
  | ok alike => exact ⟨rfl, alike.core⟩
  | error alike => exact ⟨rfl, alike.core⟩

/-- Two computations that end in the same way on related machines. -/
def Matched (before after : Machine → Machine → Prop) (run other : Run α) : Prop :=
  ∀ left right : Machine, before left right →
    SameEnd before after (run.outcome left) (other.outcome right)

theorem Matched.bind {run other : Run α} {next otherNext : α → Run β}
    (first : Matched before middle run other)
    (weaker : ∀ {left right}, middle left right → before left right)
    (rest : ∀ value, Matched middle after (next value) (otherNext value)) :
    Matched before after (run >>= next) (other >>= otherNext) := by
  intro left right related
  have ends := first left right related
  rw [outcome_bind, outcome_bind]
  generalize run.outcome left = course, other.outcome right = otherCourse at ends
  cases ends with
  | error still => exact .error still
  | @ok value left right related =>
      have ends := rest value left right related
      dsimp only
      generalize (next value).outcome left = course,
        (otherNext value).outcome right = otherCourse at ends ⊢
      cases ends with
      | ok last => exact .ok last
      | error last => exact .error (weaker last)

theorem Matched.weaken {run other : Run α} (matched : Matched before middle run other)
    (weaker : ∀ {left right}, middle left right → after left right) : Matched before after run other := by
  intro left right related
  have ends := matched left right related
  generalize run.outcome left = course, other.outcome right = otherCourse at ends ⊢
  cases ends with
  | ok last => exact .ok (weaker last)
  | error last => exact .error last

/-! ## Code cannot tell machines that are alike apart -/

section Peers

variable {subtasks : Table (List Action)} {explain counted : Bool}

/-- A computation that matches itself on machines that are alike. -/
def Peers (subtasks : Table (List Action)) (explain counted : Bool) (run : Run α) : Prop :=
  Matched (Machine.Alike subtasks explain counted) (Machine.Alike subtasks explain counted) run run

theorem uniform_peers : Uniform subtasks (Peers subtasks explain counted) where
  pure _ _ _ alike := .ok alike
  throw _ _ _ alike := .error alike
  bind first rest := first.bind id rest
  read same each left right alike := by
    have agree : _ = _ := (same right).symm.trans ((congrArg _ alike.core.symm).trans (same left))
    rw [outcome_get_bind, outcome_get_bind, agree]
    exact each left alike.registered left right alike
  change fixed left right alike := .ok {
    core := by rw [(fixed left).1, (fixed right).1, alike.core]
    registered := (fixed left).2.2.2.trans alike.registered
    explains := by rw [(fixed left).2.2.1, alike.explains]
    counts := fun explaining isCounted => by
      rw [(fixed left).2.1, (fixed right).2.1, alike.counts explaining isCounted] }

theorem matched_whenExplaining {action other : Run Unit} {nowCounted : Bool}
    (matched : Matched (Machine.Alike subtasks true counted) (Machine.Alike subtasks true nowCounted)
      action other) :
    Matched (Machine.Alike subtasks explain counted) (Machine.Alike subtasks explain nowCounted)
      (whenExplaining action) (whenExplaining other) := by
  intro left right alike
  rw [outcome_whenExplaining, outcome_whenExplaining, alike.explains, alike.right_explains]
  cases explain with
  | true => exact matched left right alike
  | false => exact .ok { alike with counts := fun explaining => by cases explaining }

theorem matched_setIterations (count : Nat) :
    Matched (Machine.Alike subtasks explain counted) (Machine.Alike subtasks explain true)
      (setIterations count) (setIterations count) := fun _ _ alike =>
  .ok { alike with counts := fun _ _ => rfl }

theorem matched_openLoop (node : Value) :
    Matched (Machine.Alike subtasks explain counted) (Machine.Alike subtasks explain true)
      (openLoop node) (openLoop node) :=
  matched_whenExplaining (Matched.bind (uniform_peers.noteSaying _ _) id fun _ =>
    Matched.bind (uniform_peers.indentBy 1) id fun _ => matched_setIterations 0)

theorem peers_countIteration : Peers subtasks explain counted countIteration := fun _ _ alike =>
  .ok { alike with
    counts := fun explaining isCounted => congrArg (· + 1) (alike.counts explaining isCounted) }

/-- Reading the count makes no difference if it is only of use to machines that explain themselves. -/
theorem peers_get_iterations (next : Nat → Run α)
    (peers : ∀ count, Peers subtasks explain true (next count))
    (ignored : ∀ count machine, machine.settings.explain = false →
      (next count).outcome machine = (next 0).outcome machine) :
    Peers subtasks explain true (do next (← get).iterations) := by
  intro left right alike
  rw [outcome_get_bind, outcome_get_bind]
  cases explain with
  | true =>
      rw [← alike.counts rfl rfl]
      exact peers _ left right alike
  | false =>
      rw [ignored _ left alike.explains, ignored _ right alike.right_explains]
      exact peers 0 left right alike

theorem peers_noteIteration (message : Int → Except Fault String) :
    Peers subtasks explain true (noteIteration message) := by
  refine peers_get_iterations (fun count => do
    whenShown count (noteSaying "ITERATION" (message count))
    whenCut count fun _ => note "INFO" "... more iterations will be processed ..."
    countIteration) (fun count => ?_) fun count machine silent => ?_
  · refine uniform_peers.bind (uniform_peers.whenShown _ (uniform_peers.noteSaying _ _)) fun _ => ?_
    refine uniform_peers.bind (uniform_peers.whenCut _ fun _ => uniform_peers.note _ _) fun _ => ?_
    exact peers_countIteration
  · simp only [outcome_bind, outcome_whenShown, outcome_whenCut, silent, Bool.false_and,
      if_neg Bool.false_ne_true]

theorem peers_completeLoop : Peers subtasks explain true completeLoop := by
  refine peers_get_iterations (fun count =>
    note "COMPLETE" ("Loop finished after " ++ toString count ++ " iterations"))
    (fun count => uniform_peers.note _ _) fun count machine silent => ?_
  simp only [outcome_note, silent, if_neg Bool.false_ne_true]

/-- A computation that cannot tell machines that are alike apart. -/
def Unaware (subtasks : Table (List Action)) (run : Run α) : Prop :=
  ∀ explain counted, Peers subtasks explain counted run

theorem uniform_unaware : Uniform subtasks (Unaware subtasks) where
  pure value _ _ := uniform_peers.pure value
  throw stop _ _ := uniform_peers.throw stop
  bind first rest explain counted :=
    uniform_peers.bind (first explain counted) fun value => rest value explain counted
  read same each explain counted :=
    uniform_peers.read same fun machine registered => each machine registered explain counted
  change fixed _ _ := uniform_peers.change fixed

/-- From its opening on, a loop over items counts the same on machines that are alike. -/
theorem unaware_openLoop_bind (node : Value) {rest : Run α}
    (peers : ∀ explain, Peers subtasks explain true rest) :
    Unaware subtasks (do openLoop node; rest) := fun explain _ =>
  (matched_openLoop node).bind (·.uncounted) fun _ => (peers explain).weaken (·.uncounted)

section Bodies

variable {body : Run Value} (unaware : Unaware subtasks body)
include unaware

theorem unaware_loopDirect (item node : Value) (supply : Supply) :
    Unaware subtasks (loopDirect item node supply body) := by
  refine unaware_openLoop_bind node fun explain => ?_
  refine uniform_peers.bind (uniform_peers.forSupply (fun _ value => ?_) supply) fun result =>
    uniform_peers.closeLoop result peers_completeLoop
  exact uniform_peers.bind (uniform_peers.assign item value) fun _ =>
    uniform_peers.bind (peers_noteIteration _) fun _ => unaware explain true

theorem unaware_loopEnumerated (index element node : Value) (supply : Supply) :
    Unaware subtasks (loopEnumerated index element node supply body) := by
  refine unaware_openLoop_bind node fun explain => ?_
  refine uniform_peers.bind (uniform_peers.forSupply (fun number value => ?_) supply) fun result =>
    uniform_peers.closeLoop result peers_completeLoop
  refine uniform_peers.bind (uniform_peers.assign index _) fun _ => ?_
  exact uniform_peers.bind (uniform_peers.assign element value) fun _ =>
    uniform_peers.bind (peers_noteIteration _) fun _ => unaware explain true

end Bodies

theorem keptByLoops_unaware : KeptByLoops (Unaware subtasks) := by
  intro body item source unaware
  cases source with
  | direct name =>
      refine uniform_unaware.bind (uniform_unaware.valueNamed? name) fun found => ?_
      cases found with
      | none => exact uniform_unaware.read (fun _ => rfl) fun _ _ => uniform_unaware.throw _
      | some value =>
          dsimp only
          split
          · exact uniform_unaware.throw _
          · exact unaware_loopDirect unaware item name _
  | enumerated name element node =>
      refine uniform_unaware.bind (uniform_unaware.valueNamed? name) fun found => ?_
      cases found with
      | none => exact uniform_unaware.throw _
      | some value =>
          refine uniform_unaware.bind (uniform_unaware.still (still_supplyOf value)) fun supply => ?_
          refine uniform_unaware.bind (uniform_unaware.lift element) fun element => ?_
          exact unaware_loopEnumerated unaware item element node supply

theorem unaware_execBody (depth : Nat) (body : List Action) :
    Unaware subtasks (execBody (runSubtask depth) body) :=
  uniform_unaware.execBody (uniform_unaware.runSubtask (fun _ _ _ => keptByLoops_unaware) depth) body
    fun _ => keptByLoops_unaware

end Peers

/-! ## The common form -/

/-- A loop that assigns items and their numbers, with its notes as parameters. -/
def numberedLoop (opening : Run Unit) (noting : Nat → Value → Run Unit) (closing : Run Unit)
    (index element : Value) (items : List Value) (body : Run Value) : Run Value := do
  opening
  let result ← forItems (fun number item => do
    assign index (.int number)
    assign element item
    noting number item
    body) items 0
  closeLoop result closing

/-- What the notes of a loop over numbered items may do: the opening indents, and nothing stops. -/
structure Presentation (explain : Bool) (items : List Value) (opening : Run Unit)
    (noting : Nat → Value → Run Unit) (closing : Run Unit) : Prop where
  opens : Presents explain (if explain then 1 else 0) opening
  notes (number : Nat) (item : Value) : number < items.length → item ∈ items →
    Presents explain 0 (noting number item)
  closes : Presents explain 0 closing

section Matching

variable {subtasks : Table (List Action)} {explain : Bool} {amount : Int}

theorem Presents.matched {run other : Run Unit} (presents : Presents explain amount run)
    (presentsOther : Presents explain amount other) :
    Matched (Machine.Alike subtasks explain false) (Machine.Alike subtasks explain false) run other := by
  intro left right alike
  obtain ⟨shown, ended, same⟩ := presents left alike.explains
  obtain ⟨otherShown, otherEnded, otherSame⟩ := presentsOther right alike.right_explains
  rw [ended, otherEnded]
  have registered : shown.core.subtasks = (left.core.indented amount).subtasks := by rw [same]
  have settled : shown.core.settings = (left.core.indented amount).settings := by rw [same]
  exact .ok {
    core := by rw [same, otherSame, alike.core]
    registered := registered.trans alike.registered
    explains := (congrArg Settings.explain settled).trans alike.explains
    counts := fun _ isCounted => by cases isCounted }

theorem matched_forItems {related : Machine → Machine → Prop} {body other : Nat → Value → Run Value}
    (items : List Value) (number : Nat)
    (each : ∀ position item, position < number + items.length → item ∈ items →
      Matched related related (body position item) (other position item)) :
    Matched related related (forItems body items number) (forItems other items number) := by
  induction items generalizing number with
  | nil => exact fun _ _ alike => .ok alike
  | cons item items ih =>
      rw [List.length_cons] at each
      refine (each number item (by omega) List.mem_cons_self).bind id fun result => ?_
      split
      · exact fun _ _ alike => .ok alike
      · exact ih (number + 1) fun position item bounded member =>
          each position item (by omega) (List.mem_cons_of_mem _ member)

/-- Loops over the same items that differ in their notes only end in the same way. -/
theorem matched_numberedLoop {items : List Value} {opening otherOpening closing otherClosing : Run Unit}
    {noting otherNoting : Nat → Value → Run Unit}
    (presentation : Presentation explain items opening noting closing)
    (otherPresentation : Presentation explain items otherOpening otherNoting otherClosing)
    {body : Run Value} (unaware : Unaware subtasks body) (index element : Value) :
    Matched (Machine.Alike subtasks explain false) (Machine.Alike subtasks explain false)
      (numberedLoop opening noting closing index element items body)
      (numberedLoop otherOpening otherNoting otherClosing index element items body) := by
  refine (presentation.opens.matched otherPresentation.opens).bind id fun _ => ?_
  refine Matched.bind (matched_forItems items 0 fun number item bounded member => ?_) id fun result => ?_
  · rw [Nat.zero_add] at bounded
    refine Matched.bind (uniform_peers.assign index _) id fun _ => ?_
    refine Matched.bind (uniform_peers.assign element item) id fun _ => ?_
    exact ((presentation.notes number item bounded member).matched
      (otherPresentation.notes number item bounded member)).bind id fun _ => unaware explain false
  · rw [closeLoop, closeLoop]
    split
    · exact uniform_peers.bind (uniform_peers.explainedIndentBy _) fun _ => uniform_peers.pure _
    · exact (presentation.closes.matched otherPresentation.closes).bind id fun _ =>
        uniform_peers.bind (uniform_peers.explainedIndentBy _) fun _ => uniform_peers.pure _

end Matching

/-! ## The three loops -/

/-- The node of a loop over numbered items. -/
def numberedNode (index element name : String) (body : Value) : Value :=
  .record [("type", .str "enumerate_loop"), ("index", .str index), ("element", .str element),
    ("iterable", .str name), ("body", body)]

/-- The source of a loop over items that enumerates them. -/
def enumeration (element name : String) : Value :=
  .record [("type", .str "enumerate"), ("iterable", .str name), ("value_var", .str element)]

/-- The node of a loop over items whose source enumerates them. -/
def enumeratingNode (index element name : String) (body : Value) : Value :=
  .record [("type", .str "for_loop"), ("iterator", .str index), ("iterable", enumeration element name),
    ("body", body)]

section Three

variable {explain : Bool} {value : Value} {feed : Feed} (index element name : String)

theorem presents_noteIteration {message : Int → Except Fault String}
    (said : explain = true → ∀ count, ∃ text, message count = .ok text) :
    Presents explain 0 (noteIteration message) := by
  intro machine explains
  have opened : (noteIteration message).outcome machine = (do
      whenShown machine.iterations (noteSaying "ITERATION" (message machine.iterations))
      whenCut machine.iterations fun _ => note "INFO" "... more iterations will be processed ..."
      countIteration : Run Unit).outcome machine := rfl
  rw [opened]
  refine (presents_whenShown _ fun explaining => ?_).append
    ((presents_whenCut _ fun _ => presents_note _ _).append presents_countIteration) machine explains
  exact presents_noteSaying "ITERATION" fun _ => said explaining _

theorem presents_completeLoop : Presents explain 0 completeLoop := by
  intro machine explains
  rw [completeLoop, outcome_get_bind]
  exact presents_note _ _ machine explains

/-- What the notes on a collection need: its length can be told, and its items have texts. -/
structure Tellable (feed : Feed) : Prop where
  short : feed.length ≤ maxLength
  speakable : ∀ item ∈ feed.toList, item.speakable = true

theorem Tellable.numberedNote (tellable : Tellable feed) {position : Nat} {item : Value}
    (bounded : position < feed.toList.length) (member : item ∈ feed.toList) (number : Int) :
    ∃ text, numberedNote number (.str index) (.int position) (.str element) item = .ok text := by
  rw [Feed.length_toList] at bounded
  have positioned := Value.speakable_count (Nat.le_trans (Nat.le_of_lt bounded) tellable.short)
  exact ⟨_, numberedNote_eq number (Value.speakable_str index) positioned (Value.speakable_str element)
    (tellable.speakable item member)⟩

theorem exists_said (head : String) {value : Value} (speakable : value.speakable = true) :
    ∃ text, (do return head ++ (← value.say) : Except Fault String) = .ok text := by
  rw [Report.say_of_speakable speakable]
  exact ⟨_, rfl⟩

theorem speakable_enumeration : (enumeration element name).speakable = true := by
  simp [enumeration, Value.record, Value.speakable, Value.speakableEntries]

theorem presentation_numbered (tellable : explain = true → Tellable feed) :
    Presentation explain feed.toList (openNumbered (.str name))
      (fun number item => whenShown number (noteSaying "ITERATION"
        (numberedNote number (.str index) (.int number) (.str element) item)))
      (note "COMPLETE" "Loop finished") where
  opens := presents_whenExplaining fun _ =>
    (presents_noteSaying "LOOP" fun _ => exists_said _ (Value.speakable_str name)).append
      presents_indentBy
  notes number _ bounded member := presents_whenShown number fun explaining =>
    presents_noteSaying "ITERATION" fun _ =>
      (tellable explaining).numberedNote index element bounded member number
  closes := presents_note _ _

theorem presentation_enumerated (tellable : explain = true → Tellable feed) :
    Presentation explain feed.toList
      (openLoop (enumeration element name))
      (fun number item => noteIteration fun count =>
        numberedNote count (.str index) (.int number) (.str element) item)
      completeLoop where
  opens := presents_whenExplaining fun _ =>
    (presents_noteSaying "LOOP" fun _ => exists_said _ (speakable_enumeration element name)).append
      (presents_indentBy.bind (presents_setIterations 0))
  notes _ _ bounded member := presents_noteIteration fun explaining =>
    (tellable explaining).numberedNote index element bounded member
  closes := presents_completeLoop

theorem presents_noteCountedIteration (runs : value.feed? = some feed)
    (tellable : explain = true → Tellable feed) {number : Nat} {item : Value}
    (bounded : number < feed.toList.length) (member : item ∈ feed.toList) :
    Presents explain 0 (noteCountedIteration value (.str index) (.str element) number item) := by
  refine presents_whenExplaining_zero fun explaining machine explains => ?_
  have tellable := tellable explaining
  have told := Value.length_of_feed? runs tellable.short
  obtain ⟨text, said⟩ := tellable.numberedNote index element bounded member number
  have bound := bounded
  rw [Feed.length_toList] at bound
  have positioned := Value.speakable_count (Nat.le_trans (Nat.le_of_lt bound) tellable.short)
  refine (?_ : Presents true 0 (if (number : Int) < machine.settings.shownIterations then _ else _))
    machine explains
  split
  · exact presents_noteSaying "ITERATION" fun _ => ⟨text, said⟩
  split
  · rw [told]
    exact presents_note _ _
  rw [told]
  change Presents true 0 (if number + 1 == feed.length then _ else _)
  split
  · refine presents_noteSaying "INFO" fun _ => ?_
    rw [binding_eq (Value.speakable_str index) positioned,
      binding_eq (Value.speakable_str element) (tellable.speakable item member)]
    exact ⟨_, rfl⟩
  · exact presents_pure

theorem presentation_announced (runs : value.feed? = some feed)
    (tellable : explain = true → Tellable feed) :
    Presentation explain feed.toList
      (whenExplaining do
        noteSaying "LOOP" do return "Starting an enumerate loop over " ++ (← (Value.str name).say)
        let length ← lift value.length
        note "INFO" ("Total number of items to process: " ++ toString length)
        indentBy 1)
      (noteCountedIteration value (.str index) (.str element))
      (whenExplaining do
        let length ← lift value.length
        note "COMPLETE" ("Loop finished after processing " ++ toString length ++ " items")) where
  opens := presents_whenExplaining fun explaining => by
    rw [Value.length_of_feed? runs (tellable explaining).short]
    exact (presents_noteSaying "LOOP" fun _ => exists_said _ (Value.speakable_str name)).append
      ((presents_note _ _).append presents_indentBy)
  notes _ _ bounded member := presents_noteCountedIteration index element runs tellable bounded member
  closes := presents_whenExplaining_zero fun explaining => by
    rw [Value.length_of_feed? runs (tellable explaining).short]
    exact presents_note _ _

/-! ### On a machine where the collection is bound -/

variable {machine : Machine} {name} (bound : Table.fetch? (.str name) machine.variables = some value)
  (runs : value.feed? = some feed) (body : Run Value)
include bound

theorem outcome_valueNamed?_bind {α : Type} (next : Option Value → Run α) :
    (valueNamed? (.str name) >>= next).outcome machine = (next (some value)).outcome machine := by
  have opened : (valueNamed? (.str name) >>= next).outcome machine =
      (next (Table.fetch? (.str name) machine.variables)).outcome machine := rfl
  rw [opened, bound]

include runs

theorem outcome_loopNumbered :
    (loopNumbered (.ok (.str index)) (.ok (.str element)) (.str name) body).outcome machine =
      (numberedLoop (openNumbered (.str name))
        (fun number item => whenShown number (noteSaying "ITERATION"
          (numberedNote number (.str index) (.int number) (.str element) item)))
        (note "COMPLETE" "Loop finished") (.str index) (.str element) feed.toList body).outcome
          machine := by
  rw [loopNumbered, outcome_valueNamed?_bind bound]
  simp only [Value.supply?_of_feed? runs, forSupply_feed]
  rfl

theorem outcome_loopEnumerated (node : Value) :
    (loopOver (.str index) (.enumerated (.str name) (.ok (.str element)) node) body).outcome machine =
      (numberedLoop (openLoop node)
        (fun number item => noteIteration fun count =>
          numberedNote count (.str index) (.int number) (.str element) item)
        completeLoop (.str index) (.str element) feed.toList body).outcome machine := by
  have supplied : supplyOf value = pure (.feed feed) := by
    rw [supplyOf, Value.supply?_of_feed? runs]
  rw [loopOver, outcome_valueNamed?_bind bound]
  dsimp only
  rw [supplied]
  change (loopEnumerated (.str index) (.str element) node (.feed feed) body).outcome machine = _
  rw [loopEnumerated, forSupply_feed]
  rfl

theorem outcome_loopAnnounced :
    (loopAnnounced (.str index) (.str element) (.str name) body).outcome machine =
      (numberedLoop
        (whenExplaining do
          noteSaying "LOOP" do return "Starting an enumerate loop over " ++ (← (Value.str name).say)
          let length ← lift value.length
          note "INFO" ("Total number of items to process: " ++ toString length)
          indentBy 1)
        (noteCountedIteration value (.str index) (.str element))
        (whenExplaining do
          let length ← lift value.length
          note "COMPLETE" ("Loop finished after processing " ++ toString length ++ " items"))
        (.str index) (.str element) feed.toList body).outcome machine := by
  rw [loopAnnounced, outcome_valueNamed?_bind bound]
  simp only [Value.supply?_of_feed? runs, forSupply_feed]
  rw [numberedLoop, outcome_bind (whenExplaining _), outcome_whenExplaining]
  change (if machine.settings.explain = true then _ else _ : Run Value).outcome machine = _
  split
  · rw [← outcome_bind]
    simp only [bind_assoc]
    rfl
  · rfl

end Three

/-! ## Nodes -/

theorem execNode_numberedNode (index element name : String) (body : Value) :
    execNode (numberedNode index element name body) =
      loopNumbered (.ok (.str index)) (.ok (.str element)) (.str name)
        (execBody call (Action.bodyOf body)) := by
  rfl

theorem loopAnnouncedNode_numberedNode (index element name : String) (body : Value) :
    loopAnnouncedNode (numberedNode index element name body) =
      loopAnnounced (.str index) (.str element) (.str name) (execBody call (Action.bodyOf body)) := by
  rfl

theorem loopOverNode_enumeratingNode (index element name : String) (body : Value) :
    loopOverNode (enumeratingNode index element name body) =
      loopOver (.str index) (.enumerated (.str name) (.ok (.str element)) (enumeration element name))
        (execBody call (Action.bodyOf body)) := by
  rfl

/-- The three loops over numbered items end in the same way and leave the same machine, up to the log
and the count of iterations, if the variable that they run through holds a collection and, on a machine
that explains itself, the notes about the collection can be worded. -/
theorem numberedLoops_agree (index element : String) {name : String} (body : Value) {machine : Machine}
    {value : Value} {feed : Feed} (bound : Table.fetch? (.str name) machine.variables = some value)
    (runs : value.feed? = some feed) (tellable : machine.settings.explain = true → Tellable feed) :
    let numbered := (execNode (numberedNode index element name body)).outcome machine
    let announced := (loopAnnouncedNode (numberedNode index element name body)).outcome machine
    let enumerating := (loopOverNode (enumeratingNode index element name body)).outcome machine
    (announced.1 = numbered.1 ∧ announced.2.core = numbered.2.core) ∧
      enumerating.1 = numbered.1 ∧ enumerating.2.core = numbered.2.core := by
  have unaware : Unaware machine.subtasks (execBody call (Action.bodyOf body)) :=
    unaware_execBody maxDepth _
  have alike : machine.Alike machine.subtasks machine.settings.explain false machine :=
    ⟨rfl, rfl, rfl, fun _ _ => rfl⟩
  have noted := presentation_numbered index element name tellable
  have announced := matched_numberedLoop (presentation_announced index element name runs tellable)
    noted unaware (.str index) (.str element) machine machine alike
  have enumerating := matched_numberedLoop (presentation_enumerated index element name tellable)
    noted unaware (.str index) (.str element) machine machine alike
  dsimp only
  rw [execNode_numberedNode, loopAnnouncedNode_numberedNode, loopOverNode_enumeratingNode,
    outcome_loopNumbered index element bound runs, outcome_loopAnnounced index element bound runs,
    outcome_loopEnumerated index element bound runs]
  exact ⟨announced.agree, enumerating.agree⟩

theorem tellable_texts : Tellable (.items [.str "a", .str "b"]) :=
  ⟨by decide, List.forall_mem_cons.mpr ⟨rfl, List.forall_mem_singleton.mpr rfl⟩⟩

/-- A machine that explains itself, but notes only the first iteration of a loop, runs through two
texts. -/
theorem numberedLoops_agree_texts :
    let machine : Machine := { Machine.fresh ⟨true, .standard, 1⟩ none with
      «variables» := [(.str "xs", .texts ["a", "b"])] }
    let body := Value.list [.record [("type", .str "assignment"), ("variable", .str "y"),
      ("value", .str "x")]]
    (Table.fetch? (.str "xs") machine.variables = some (.texts ["a", "b"]) ∧
      (Value.texts ["a", "b"]).feed? = some (.items [.str "a", .str "b"]) ∧
      Tellable (.items [.str "a", .str "b"])) ∧
    let numbered := (execNode (numberedNode "i" "x" "xs" body)).outcome machine
    let announced := (loopAnnouncedNode (numberedNode "i" "x" "xs" body)).outcome machine
    let enumerating := (loopOverNode (enumeratingNode "i" "x" "xs" body)).outcome machine
    (announced.1 = numbered.1 ∧ announced.2.core = numbered.2.core) ∧
      enumerating.1 = numbered.1 ∧ enumerating.2.core = numbered.2.core :=
  ⟨⟨rfl, rfl, tellable_texts⟩, numberedLoops_agree "i" "x" _ rfl rfl fun _ => tellable_texts⟩

end Run

end Stepwise
