import Stepwise.Notebook.Cell
import Stepwise.Proofs.Faults.Origin

/-!
# Cells contain failures

Running a cell executes a program or shows one error page (`Contained`).  A report that can be worded has
a page, and all reports that reading and running end with can be.  Two things leave a cell.  A fault of
reading does, which is met at a character that starts no lexeme.  And a run that failed has no page if a
variable holds an integer that is too large to be shown.
-/

namespace Stepwise

/-! ## Integers that values show -/

/-- The text of a value has an integer in it. -/
inductive Value.Shows (n : Int) : Value → Prop where
  | int : Shows n (.int n)
  | item {items : List Value} {item : Value} (member : item ∈ items) (inside : Shows n item) :
      Shows n (.list items)
  | part {items : List Value} {item : Value} (member : item ∈ items) (inside : Shows n item) :
      Shows n (.tuple items)
  | key {entries : List (Value × Value)} {key value : Value} (member : (key, value) ∈ entries)
      (inside : Shows n key) : Shows n (.dict entries)
  | entry {entries : List (Value × Value)} {key value : Value} (member : (key, value) ∈ entries)
      (inside : Shows n value) : Shows n (.dict entries)
  | bound {start stop step : Int} (member : n ∈ [start, stop, step]) :
      Shows n (.range start stop step)

namespace Value

mutual

/-- A value without a text shows an integer with too many digits. -/
theorem exists_shows {value : Value} (unsaid : value.speakable = false) :
    ∃ n, value.Shows n ∧ fewDigits n = false := by
  cases value with
  | int n => exact ⟨n, .int, unsaid⟩
  | list items =>
      have unsaidItems : speakableItems items = false := unsaid
      obtain ⟨item, member, n, shows, large⟩ := exists_shows_item unsaidItems
      exact ⟨n, .item member shows, large⟩
  | tuple items =>
      have unsaidItems : speakableItems items = false := unsaid
      obtain ⟨item, member, n, shows, large⟩ := exists_shows_item unsaidItems
      exact ⟨n, .part member shows, large⟩
  | dict entries =>
      have unsaidEntries : speakableEntries entries = false := unsaid
      obtain ⟨⟨key, value⟩, member, n, shows | shows, large⟩ := exists_shows_entry unsaidEntries
      · exact ⟨n, .key member shows, large⟩
      · exact ⟨n, .entry member shows, large⟩
  | range start stop step =>
      rw [speakable, Bool.and_eq_false_iff, Bool.and_eq_false_iff] at unsaid
      rcases unsaid with (large | large) | large
      · exact ⟨start, .bound (by simp), large⟩
      · exact ⟨stop, .bound (by simp), large⟩
      · exact ⟨step, .bound (by simp), large⟩
  | null | bool | float | str | cursor => cases unsaid

theorem exists_shows_item {items : List Value} (unsaid : speakableItems items = false) :
    ∃ item ∈ items, ∃ n, item.Shows n ∧ fewDigits n = false := by
  cases items with
  | nil => cases unsaid
  | cons item rest =>
      rw [speakableItems, Bool.and_eq_false_iff] at unsaid
      rcases unsaid with unsaid | unsaid
      · exact ⟨item, List.mem_cons_self, exists_shows unsaid⟩
      · obtain ⟨other, member, large⟩ := exists_shows_item unsaid
        exact ⟨other, List.mem_cons_of_mem _ member, large⟩

theorem exists_shows_entry {entries : List (Value × Value)}
    (unsaid : speakableEntries entries = false) :
    ∃ entry ∈ entries, ∃ n, (entry.1.Shows n ∨ entry.2.Shows n) ∧ fewDigits n = false := by
  rcases entries with _ | ⟨⟨key, value⟩, rest⟩
  · cases unsaid
  · rw [speakableEntries, Bool.and_eq_false_iff, Bool.and_eq_false_iff] at unsaid
    rcases unsaid with (unsaid | unsaid) | unsaid
    · obtain ⟨n, shows, large⟩ := exists_shows unsaid
      exact ⟨_, List.mem_cons_self, n, .inl shows, large⟩
    · obtain ⟨n, shows, large⟩ := exists_shows unsaid
      exact ⟨_, List.mem_cons_self, n, .inr shows, large⟩
    · obtain ⟨other, member, large⟩ := exists_shows_entry unsaid
      exact ⟨other, List.mem_cons_of_mem _ member, large⟩

end

end Value

/-! ## Reports that can be worded -/

namespace Report

theorem speakable_of_say {value : Value} {text : String} (said : value.say = .ok text) :
    value.speakable = true := by
  rw [Value.say] at said
  split at said
  · assumption
  · cases said

theorem speakable_of_contextLine {value : Value} {before after : String} {lines : List String}
    (said : contextLine before value after = .ok lines) (isTrue : value.isTrue = true) :
    value.speakable = true := by
  rw [contextLine, if_pos isTrue] at said
  obtain ⟨text, isText, _⟩ := exists_of_bind_eq_ok said
  exact speakable_of_say isText

theorem speakable_of_textLine {value : Value} {name text : String}
    (said : textLine name value = .ok text) : value.speakable = true := by
  unfold textLine at said
  split at said
  · rfl
  · obtain ⟨text, isText, _⟩ := exists_of_bind_eq_ok said
    exact speakable_of_say isText

/-- What can be said of a report that can be worded. -/
structure Sayable (report : Report) : Prop where
  message : report.message.speakable = true
  line : report.line.speakable = true
  column : report.column.speakable = true
  context : ∃ context, report.context = .ok context

theorem sayable_of_text {report : Report} {text : String} (worded : report.text = .ok text) :
    report.Sayable := by
  obtain ⟨context, found, rest⟩ := exists_of_bind_eq_ok worded
  obtain ⟨message, isMessage, rest⟩ := exists_of_bind_eq_ok rest
  obtain ⟨line, isLine, rest⟩ := exists_of_bind_eq_ok rest
  obtain ⟨column, isColumn, rest⟩ := exists_of_bind_eq_ok rest
  exact ⟨speakable_of_say isMessage, speakable_of_textLine isLine, speakable_of_textLine isColumn,
    context, found⟩

theorem sayable_of_stop {report other : Report} (stops : report.stop = .report other) :
    report.Sayable := by
  rw [stop] at stops
  split at stops
  · next text worded => exact sayable_of_text worded
  · cases stops

/-- The reports that pages are made for: those on a text with a snippet, and those on a run. -/
def IsPaged : Report → Prop
  | .parsing _ _ _ _ (.str _) => True
  | .running .. => True
  | _ => False

end Report

/-! ## Pages -/

namespace Notebook

open Report (Sayable say_of_speakable)

theorem knownText_of_speakable {value : Value} (speakable : value.speakable = true) :
    ∃ text, knownText value = .ok text := by
  rw [knownText, say_of_speakable speakable]
  split <;> exact ⟨_, rfl⟩

theorem tokenText_of_speakable {token : Value}
    (speakable : token.isTrue = true → token.speakable = true) :
    ∃ text, tokenText token = .ok text := by
  rw [tokenText]
  split
  · next isTrue =>
      rw [say_of_speakable (speakable isTrue)]
      exact ⟨_, rfl⟩
  · exact ⟨_, rfl⟩

theorem snippetLines_str (snippet : String) : ∃ lines, snippetLines (.str snippet) = .ok lines := by
  rw [snippetLines]
  split <;> exact ⟨_, rfl⟩

theorem detailLines_parsing {message line column token : Value} {snippet : String}
    (sayable : (Report.parsing message line column token (.str snippet)).Sayable) :
    ∃ lines, detailLines (.parsing message line column token (.str snippet)) = .ok lines := by
  obtain ⟨context, found⟩ := sayable.context
  obtain ⟨near, isNear, _⟩ := exists_of_bind_eq_ok found
  obtain ⟨lineText, isLine⟩ := knownText_of_speakable sayable.line
  obtain ⟨columnText, isColumn⟩ := knownText_of_speakable sayable.column
  obtain ⟨tokenLine, isToken⟩ := tokenText_of_speakable (Report.speakable_of_contextLine isNear)
  obtain ⟨source, isSource⟩ := snippetLines_str snippet
  have lineSaid : knownText line = .ok lineText := isLine
  have columnSaid : knownText column = .ok columnText := isColumn
  rw [detailLines, lineSaid, columnSaid, isToken, isSource]
  exact ⟨_, rfl⟩

end Notebook

/-! ## Reports of reading -/

namespace Report

theorem paged_of_stop {made report : Report} (stops : made.stop = .report report)
    (isPaged : made.IsPaged) : report.IsPaged ∧ report.Sayable := by
  cases eq_of_stop stops
  exact ⟨isPaged, sayable_of_stop stops⟩

end Report

namespace Reading

end Reading

/-! ## Stops of runs -/

/-- A report that has a page, or the fault that something has no text and cannot be reported. -/
def Stop.Reported : Stop → Prop
  | .report made => made.IsPaged ∧ made.Sayable
  | .fault cause => cause = .digitsShown

theorem Stop.Ordinary.reported {report : Report} (ordinary : (Stop.report report).Ordinary) :
    (Stop.report report).Reported := by
  obtain ⟨⟨message, task, step, state, rfl⟩, stops⟩ := ordinary
  exact Report.paged_of_stop stops trivial

namespace Notebook

/-- How a cell with a program text ends.  It has one page if reading or running the program fails. -/
inductive Contained (styles source : String) : CellRun → Prop where
  /-- A fault of reading leaves the cell. -/
  | escaped {options : Options} {printed : String} {cause : Fault}
      (read : (Program.read source).outcome = .error (.fault cause)) :
      Contained styles source ⟨options, printed, [], .error .noInterpreter⟩
  | refused {options : Options} {printed page : String} {report : Report}
      (read : (Program.read source).outcome = .error (.report report))
      (shown : errorPage styles report = .ok page) :
      Contained styles source ⟨options, printed, [page], .ok ()⟩
  | completed {options : Options} {printed : String} {program : Program} {after : Machine}
      (read : (Program.read source).outcome = .ok program)
      (ran : (Run.execute program.node).outcome (.fresh options.settings (some source)) =
        (.ok (), after)) :
      Contained styles source ⟨options, printed, [], .ok ()⟩
  | failed {options : Options} {printed page : String} {program : Program} {stop : Stop}
      {after : Machine} (read : (Program.read source).outcome = .ok program)
      (ran : (Run.execute program.node).outcome (.fresh options.settings (some source)) =
        (.error stop, after))
      (shown : stopPage styles after.variables stop = .ok page) :
      Contained styles source ⟨options, printed, [page], .ok ()⟩
  /-- A variable that the page should show has an integer with too many digits in it. -/
  | unshown {options : Options} {printed : String} {program : Program} {stop : Stop} {after : Machine}
      {entry : Value × Value} {n : Int} (read : (Program.read source).outcome = .ok program)
      (ran : (Run.execute program.node).outcome (.fresh options.settings (some source)) =
        (.error stop, after))
      (isVariable : entry ∈ after.variables) (shows : entry.1.Shows n ∨ entry.2.Shows n)
      (large : Value.fewDigits n = false) :
      Contained styles source ⟨options, printed, [], .error .digitsShown⟩

theorem Contained.escapes_iff {styles source : String} {run : CellRun}
    (contained : Contained styles source run) : run.outcome = .error .noInterpreter ↔
      ∃ cause, (Program.read source).outcome = .error (.fault cause) := by
  cases contained with
  | escaped read => exact ⟨fun _ => ⟨_, read⟩, fun _ => rfl⟩
  | refused read | completed read | failed read | unshown read =>
      constructor
      · exact nofun
      · rintro ⟨cause, escapes⟩
        rw [read] at escapes
        cases escapes

end Notebook

end Stepwise
