import Stepwise.Report

/-!
# Reports that can be worded

A report ends a computation with itself if all that it says can be shown; otherwise the fault of showing
it does.
-/

namespace Stepwise.Report

theorem say_of_speakable {value : Value} (speakable : value.speakable = true) :
    value.say = .ok value.shown := by
  rw [Value.say, if_pos speakable]

theorem say_of_unspeakable {value : Value} (unsaid : value.speakable = false) :
    value.say = .error .digitsShown := by
  rw [Value.say, unsaid]
  rfl

theorem contextLine_of_speakable {value : Value} (speakable : value.speakable = true)
    (before after : String) :
    contextLine before value after =
      .ok (if value.isTrue then [before ++ value.shown ++ after] else []) := by
  rw [contextLine, say_of_speakable speakable]
  split <;> rfl

theorem textLine_of_speakable {value : Value} (speakable : value.speakable = true) (name : String) :
    ∃ text, textLine name value = .ok text := by
  unfold textLine
  split
  · exact ⟨_, rfl⟩
  · rw [say_of_speakable speakable]
    exact ⟨_, rfl⟩

/-- A report ends a computation with itself if all that it says can be shown. -/
theorem stop_of_speakable {report : Report} {context : Value} (found : report.context = .ok context)
    (sayContext : context.speakable = true) (sayMessage : report.message.speakable = true)
    (sayLine : report.line.speakable = true) (sayColumn : report.column.speakable = true) :
    report.stop = .report report := by
  obtain ⟨lineText, lineSaid⟩ := textLine_of_speakable sayLine "Line"
  obtain ⟨columnText, columnSaid⟩ := textLine_of_speakable sayColumn "Column"
  obtain ⟨contextText, contextSaid⟩ := textLine_of_speakable sayContext "Context"
  have worded : report.text =
      .ok ("Think Error: " ++ report.message.shown ++ lineText ++ columnText ++ contextText) := by
    simp [text, found, say_of_speakable sayMessage, lineSaid, columnSaid, contextSaid, bind, Except.bind,
      pure, Except.pure]
  rw [stop, worded]

theorem eq_of_stop {report other : Report} (stops : report.stop = .report other) : report = other := by
  rw [Report.stop] at stops
  split at stops
  · exact Stop.report.inj stops
  · cases stops

theorem intercalate_ne_empty {separator first : String} {others : List String} (some : first ≠ "") :
    separator.intercalate (first :: others) ≠ "" := by
  cases others with
  | nil => simpa using some
  | cons second rest => simp [String.intercalate_cons_cons, some]

/-- A report on a text has a context if it has a snippet. -/
theorem context_parsing {message line column token : Value} {snippet : String}
    (speakable : token.speakable = true) (some : snippet ≠ "") :
    ∃ context, (Report.parsing message line column token (.str snippet)).context = .ok (.str context) ∧
      context ≠ "" := by
  have isTrue : (Value.str snippet).isTrue = true := by simpa [Value.isTrue] using some
  have sayNear := contextLine_of_speakable speakable "Near token: '" "'"
  have saySource : contextLine "Source code:\n" (.str snippet) "" =
      .ok ["Source code:\n" ++ snippet ++ ""] := by
    rw [contextLine_of_speakable rfl, if_pos isTrue]
    rfl
  rw [context, sayNear, saySource]
  refine ⟨_, rfl, ?_⟩
  cases token.isTrue with
  | true => exact intercalate_ne_empty (by simp)
  | false => exact intercalate_ne_empty (by simp)

theorem variableLines_eq (entries : List (Value × Value)) :
    variableLines entries =
      if Value.speakableEntries entries then
        .ok (entries.map fun (name, value) => "  " ++ name.shown ++ " = " ++ value.shown)
      else .error .digitsShown := by
  induction entries with
  | nil => rfl
  | cons entry rest ih =>
      obtain ⟨name, value⟩ := entry
      rw [variableLines, ih, Value.say, Value.say, Value.speakableEntries]
      cases name.speakable <;> cases value.speakable <;> cases Value.speakableEntries rest <;> rfl

/-- A report on a run ends a computation with itself if its values can be shown. -/
theorem stop_running (message task step : String) {entries : List (Value × Value)}
    (speakable : Value.speakableEntries entries = true) :
    let report := Report.running (.str message) (.str task) (.str step) (.dict entries)
    report.stop = .report report := by
  intro report
  have found : ∃ context, report.context = .ok (.str context) := by
    rw [context, contextLine_of_speakable rfl, contextLine_of_speakable rfl]
    cases entries with
    | nil => exact ⟨_, rfl⟩
    | cons entry rest =>
        have lines := (variableLines_eq (entry :: rest)).trans (if_pos speakable)
        simp [Value.isTrue, variableEntries, lines, bind, Except.bind, pure, Except.pure]
  obtain ⟨context, found⟩ := found
  exact stop_of_speakable found rfl rfl rfl rfl

end Stepwise.Report
