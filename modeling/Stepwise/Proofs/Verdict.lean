import Stepwise.Proofs.Reading.Outcome

/-!
# What a check decides

For a tree that lists tasks with texts as names and texts as tasks to run, the check looks at these texts
alone.  It passes if both lists hold something and hold the same texts.  Otherwise there is a report on the
program text for an empty list, and else a report on a run, with the tasks that are never run or, if there
are none of these, with the runs that have no task.
-/

namespace Stepwise.Check

/-- The tree lists tasks with these names, and these names of tasks to run. -/
structure Listing (tree : Value) (names runs : List String) : Prop where
  tasks : ∃ nodes, tree.part "tasks" = .ok (.list nodes) ∧
    nodes.mapM (Value.part "name") = .ok (names.map Value.str)
  runs : tree.part "runs" = .ok (.texts runs)

/-! ## Reading a tree -/

section Parts

variable {tree found : Value} {name : String}

theorem exists_dict_of_part (part : tree.part name = .ok found) :
    ∃ entries, tree = .dict entries ∧ Table.fetch? (.str name) entries = some found := by
  cases tree with
  | dict entries =>
      rw [Value.part] at part
      cases fetched : Table.fetch? (.str name) entries with
      | none =>
          rw [fetched] at part
          cases part
      | some value =>
          rw [fetched] at part
          cases part
          exact ⟨entries, rfl, fetched⟩
  | _ => cases part

theorem contains_of_part (part : tree.part name = .ok found) : tree.contains name = .ok true := by
  obtain ⟨entries, rfl, fetched⟩ := exists_dict_of_part part
  rw [Value.contains, Table.holds, fetched]
  rfl

theorem isTrue_of_part (part : tree.part name = .ok found) : tree.isTrue = true := by
  obtain ⟨entries, rfl, fetched⟩ := exists_dict_of_part part
  cases entries with
  | nil => cases fetched
  | cons entry rest => rfl

theorem presentPart_empty (part : tree.part name = .ok (.list [])) :
    presentPart name tree = .ok none := by
  rw [presentPart, contains_of_part part, part]
  rfl

end Parts

theorem taskNames_texts {nodes : List Value} {names : List String}
    (named : nodes.mapM (Value.part "name") = .ok (names.map Value.str)) :
    taskNames nodes = .ok (names.map Value.str) := by
  rw [taskNames]
  induction nodes generalizing names with
  | nil => exact named
  | cons node rest ih =>
      obtain ⟨first, others, isName, areNames, same⟩ := mapM_cons_eq_ok named
      cases names with
      | nil => cases same
      | cons name names =>
          cases same
          rw [List.mapM_cons, isName, ih areNames]
          rfl

theorem mapM_asKey_texts (texts : List String) :
    (texts.map Value.str).mapM Value.asKey = .ok (texts.map Value.str) := by
  rw [List.mapM_map]
  exact mapM_ok fun _ _ => rfl

variable {tree : Value} {names runs : List String}

/-- A list of nodes is empty if no names are read from it. -/
theorem nodes_ne_nil {nodes : List Value}
    (named : nodes.mapM (Value.part "name") = .ok (names.map Value.str)) :
    nodes ≠ [] ↔ names ≠ [] := by
  cases nodes with
  | nil =>
      have none : names.map Value.str = [] := (Except.ok.inj named).symm
      simp [List.map_eq_nil_iff.mp none]
  | cons node rest =>
      obtain ⟨first, others, -, -, same⟩ := mapM_cons_eq_ok named
      refine ⟨fun _ none => ?_, fun _ => List.cons_ne_nil _ _⟩
      rw [none] at same
      cases same

theorem program_without_tasks (listing : Listing tree [] runs) (source : Option String) :
    (program tree source).outcome =
      .error (reportAt source "Program must contain at least one task" 1 1).stop := by
  obtain ⟨nodes, isTasks, named⟩ := listing.tasks
  have none : nodes = [] := by
    by_contra some
    exact (nodes_ne_nil named).mp some rfl
  subst none
  simp only [program, isTrue_of_part isTasks, presentPart_empty isTasks]
  rfl

/-- Once there are tasks, the tasks to run are looked at. -/
theorem program_with_tasks (listing : Listing tree names runs) (someTask : names ≠ [])
    (source : Option String) : program tree source = checkRuns tree source (names.map Value.str) := by
  obtain ⟨nodes, isTasks, named⟩ := listing.tasks
  have present := presentPart_list (contains_of_part isTasks) isTasks ((nodes_ne_nil named).mpr someTask)
  have elements : (Value.list nodes).elements = .ok nodes := rfl
  simp only [program, isTrue_of_part isTasks, present, elements, Except.bind, taskNames_texts named,
    Bool.not_true, Bool.false_eq_true, if_false]

theorem checkRuns_without_runs (listing : Listing tree names []) {source : Option String} {line : Nat}
    (last : lastTaskLine source (names.map Value.str) = .ok line) :
    (checkRuns tree source (names.map Value.str)).outcome =
      .error (reportAt source "Program must contain at least one run statement" (line + 1) line).stop := by
  simp only [checkRuns, presentPart_empty listing.runs, last]
  rfl

theorem checkRuns_with_runs (listing : Listing tree names runs) (someRun : runs ≠ [])
    (source : Option String) :
    (checkRuns tree source (names.map Value.str)).outcome =
      compareNames (setOf (names.map Value.str)) (setOf (runs.map Value.str)) := by
  have present := presentPart_list (contains_of_part listing.runs) listing.runs
    (List.map_eq_nil_iff.not.mpr someRun)
  have elements : (Value.list (runs.map Value.str)).elements = .ok (runs.map Value.str) := rfl
  simp only [checkRuns, present, elements, Except.bind, mapM_asKey_texts]

/-! ## Reports on the text -/

theorem fewDigits_of_lt_ten {count : Nat} (small : count < 10) : Value.fewDigits count = true := by
  rw [Value.fewDigits]
  exact decide_eq_true (Nat.lt_of_lt_of_le small (Reading.ten_le_pow (by decide)))

theorem reportAt_stop {line : Nat} (few : Value.fewDigits line = true) (source : Option String)
    (message : String) (snippetLine : Nat) :
    (reportAt source message line snippetLine).stop = .report (reportAt source message line snippetLine) := by
  have found : ∃ context, (reportAt source message line snippetLine).context = .ok (.str context) := by
    rw [reportAt, Report.context, Report.contextLine_of_speakable rfl, Report.contextLine_of_speakable rfl]
    exact ⟨_, rfl⟩
  obtain ⟨context, found⟩ := found
  exact Report.stop_of_speakable found rfl rfl few (fewDigits_of_lt_ten (by decide))

/-- The line that announces the last task is a line of the text. -/
theorem lastTaskLine_texts (source : Option String) (names : List String) :
    ∃ line, lastTaskLine source (names.map Value.str) = .ok line ∧
      (line = 1 ∨ ∃ text ∈ source, line ≤ text.length + 1) := by
  cases source with
  | none => exact ⟨1, rfl, .inl rfl⟩
  | some text =>
      rw [lastTaskLine]
      split
      · exact ⟨1, rfl, .inl rfl⟩
      · have announced : (names.map Value.str).mapM announcement =
            .ok (names.map fun name => "task \"" ++ name ++ "\"") := by
          rw [List.mapM_map]
          exact mapM_ok fun _ _ => rfl
        rw [announced]
        refine ⟨_, rfl, ?_⟩
        generalize found : List.find? _ _ = hit
        cases hit with
        | none => exact .inl rfl
        | some entry =>
            have member := List.mem_reverse.mp (List.mem_of_find?_eq_some found)
            have below := (List.snd_lt_add_of_mem_zipIdx member)
            have count : (Text.lines text).length ≤ text.length + 1 := by
              rw [Text.lines, Text.splitAt, List.length_map, Source.length_splitAtMark, ← String.length_toList]
              exact Nat.succ_le_succ List.count_le_length
            refine .inr ⟨text, rfl, ?_⟩
            simp only [Option.map_some, Option.getD_some]
            omega

/-- A tree that lists names passes if both lists hold something and hold the same names. -/
theorem program_eq_ok_iff (listing : Listing tree names runs) (source : Option String) :
    (program tree source).outcome = .ok () ↔
      names ≠ [] ∧ runs ≠ [] ∧ ∀ name, name ∈ names ↔ name ∈ runs := by
  by_cases someTask : names = []
  · subst someTask
    rw [program_without_tasks listing]
    exact ⟨fun passed => (by cases passed), fun ⟨someTask, _⟩ => absurd rfl someTask⟩
  rw [program_with_tasks listing someTask]
  by_cases someRun : runs = []
  · subst someRun
    obtain ⟨line, last, -⟩ := lastTaskLine_texts source names
    rw [checkRuns_without_runs listing last]
    exact ⟨fun passed => (by cases passed), fun ⟨_, someRun, _⟩ => absurd rfl someRun⟩
  · rw [checkRuns_with_runs listing someRun]
    exact (judged_compareNames someTask someRun).eq_ok_iff

/-- The verdict on a tree that lists names.  The text has to be so short that the numbers of its lines
can be shown. -/
theorem judged_program (listing : Listing tree names runs) {source : Option String}
    (short : ∀ text ∈ source, Value.fewDigits (text.length + 2) = true) :
    Judged names runs (program tree source).outcome := by
  by_cases someTask : names = []
  · subst someTask
    rw [program_without_tasks listing, reportAt_stop (fewDigits_of_lt_ten (by decide))]
    exact .empty (.inl rfl) ..
  rw [program_with_tasks listing someTask]
  by_cases someRun : runs = []
  · subst someRun
    obtain ⟨line, last, bound⟩ := lastTaskLine_texts source names
    have few : Value.fewDigits ((line + 1 : Nat) : Int) = true := by
      rcases bound with rfl | ⟨text, isSource, bound⟩
      · exact fewDigits_of_lt_ten (by decide)
      · exact Reading.fewDigits_of_le (short text isSource) (Int.natCast_nonneg _) (by omega)
    rw [checkRuns_without_runs listing last, reportAt_stop few]
    exact .empty (.inr rfl) ..
  · rw [checkRuns_with_runs listing someRun]
    exact judged_compareNames someTask someRun

end Stepwise.Check
