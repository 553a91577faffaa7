import Stepwise.Proofs.Printing.RoundTrip
import Stepwise.Proofs.Reports
import Stepwise.Proofs.Values.Sameness

/-!
# What a check finds out

The check of a program compares the sets of the names of its tasks and of the tasks it runs.  A tree
that passes lists a run for each of its tasks, also where several tasks have one name, and no others.

Where all names are texts, `Judged` lists the verdicts, with the texts that the reports show.
-/

namespace Stepwise

theorem exists_of_bind_eq_ok {α β : Type} {first : Except Fault α} {next : α → Except Fault β}
    {result : β} (reads : first.bind next = .ok result) :
    ∃ value, first = .ok value ∧ next value = .ok result := by
  cases first with
  | error cause => cases reads
  | ok value => exact ⟨value, rfl, reads⟩

theorem presentPart_eq_some {name : String} {tree found : Value}
    (present : Check.presentPart name tree = .ok (some found)) : tree.part name = .ok found := by
  obtain ⟨there, _, reads⟩ := exists_of_bind_eq_ok present
  cases there with
  | false => cases reads
  | true =>
      obtain ⟨value, part, kept⟩ := exists_of_bind_eq_ok reads
      cases isTrue : value.isTrue with
      | false =>
          rw [isTrue] at kept
          cases kept
      | true =>
          rw [isTrue] at kept
          cases kept
          exact part

namespace Check

/-! ## Sets of names -/

/-- Each value is in the set, or one that is the same. -/
theorem exists_mem_setOf {values : List Value} (hashable : ∀ value ∈ values, value.Hashable)
    {value : Value} (member : value ∈ values) :
    ∃ kept ∈ setOf values, kept = value ∨ kept.same value = true := by
  simp only [setOf, List.mem_mergeSort]
  induction values with
  | nil => cases member
  | cons first rest ih =>
      rw [distinct]
      rcases List.mem_cons.mp member with rfl | inRest
      · exact ⟨value, List.mem_cons_self, .inl rfl⟩
      · obtain ⟨hashableFirst, hashableRest⟩ := List.forall_mem_cons.mp hashable
        obtain ⟨kept, keptThere, isSame⟩ := ih hashableRest inRest
        by_cases same : first.same kept = true
        · refine ⟨first, List.mem_cons_self, .inr ?_⟩
          rcases isSame with rfl | keptSame
          · exact same
          · exact Value.same_trans first hashableFirst same keptSame
        · exact ⟨kept, List.mem_cons_of_mem _ (List.mem_filter.mpr ⟨keptThere, by simp [same]⟩), isSame⟩

theorem mem_of_mem_setOf {values : List Value} {value : Value} (member : value ∈ setOf values) :
    value ∈ values :=
  mem_of_mem_distinct (List.mem_mergeSort.mp member)

/-- If a set holds all members of another, each value of the one list has its like in the other. -/
theorem exists_same_of_difference {left right : List Value}
    (hashableLeft : ∀ value ∈ left, value.Hashable) (hashable : ∀ value ∈ right, value.Hashable)
    (none : difference (setOf left) (setOf right) = []) {value : Value} (member : value ∈ left) :
    ∃ other ∈ right, other.same value = true := by
  obtain ⟨kept, keptThere, isSame⟩ := exists_mem_setOf hashableLeft member
  rw [difference, List.filter_eq_nil_iff] at none
  have found := none kept keptThere
  simp only [Bool.not_eq_true', Bool.not_eq_false, List.any_eq_true] at found
  obtain ⟨other, otherThere, same⟩ := found
  refine ⟨other, mem_of_mem_setOf otherThere, ?_⟩
  rcases isSame with rfl | keptSame
  · exact same
  · exact Value.same_trans other (hashable _ (mem_of_mem_setOf otherThere)) same keptSame

theorem compareNames_unrun {defined runs : List Value} {value : Value} {rest : List Value}
    {names : List String} (unrun : difference defined runs = value :: rest)
    (joined : joinNames 0 (value :: rest) = .ok names) :
    compareNames defined runs = .error (unrunReport defined runs names).stop := by
  rw [compareNames, unrun, joined]
  rfl

theorem compareNames_undefined {defined runs : List Value} {value : Value} {rest : List Value}
    {names : List String} (unrun : difference defined runs = [])
    (undefined : difference runs defined = value :: rest)
    (joined : joinNames 0 (value :: rest) = .ok names) :
    compareNames defined runs = .error (undefinedReport defined (value :: rest) names).stop := by
  simp only [compareNames, unrun, undefined, joined]
  rfl

/-- The reports by which a check refuses a tree. -/
inductive Refusal : Report → Prop where
  | place (source : Option String) (message : String) (line snippetLine : Nat) :
      Refusal (reportAt source message line snippetLine)
  | unrun (defined runs : List Value) (names : List String) : Refusal (unrunReport defined runs names)
  | undefined (defined undefined : List Value) (names : List String) :
      Refusal (undefinedReport defined undefined names)

/-- A check fails by a fault or with a refusal. -/
def Fails (stop : Stop) : Prop :=
  (∃ cause, stop = .fault cause) ∨ ∃ report : Report, stop = report.stop ∧ Refusal report

theorem compareNames_eq_error {defined runs : List Value} {stop : Stop}
    (refused : compareNames defined runs = .error stop) : Fails stop := by
  cases unrun : difference defined runs with
  | cons value rest =>
      cases joined : joinNames 0 (value :: rest) with
      | ok names =>
          rw [compareNames_unrun unrun joined] at refused
          exact .inr ⟨_, (Except.error.inj refused).symm, .unrun ..⟩
      | error cause =>
          simp only [compareNames, unrun, joined] at refused
          cases refused
          exact .inl ⟨cause, rfl⟩
  | nil =>
      cases undefined : difference runs defined with
      | cons value rest =>
          cases joined : joinNames 0 (value :: rest) with
          | ok names =>
              rw [compareNames_undefined unrun undefined joined] at refused
              exact .inr ⟨_, (Except.error.inj refused).symm, .undefined ..⟩
          | error cause =>
              simp only [compareNames, unrun, undefined, joined] at refused
              cases refused
              exact .inl ⟨cause, rfl⟩
      | nil =>
          simp only [compareNames, unrun, undefined] at refused
          cases refused

/-- Sets of names that pass have no differences. -/
theorem compareNames_eq_ok {defined runs : List Value} (passes : compareNames defined runs = .ok ()) :
    difference defined runs = [] ∧ difference runs defined = [] := by
  rw [compareNames] at passes
  cases unrun : difference defined runs with
  | cons value rest =>
      rw [unrun] at passes
      cases joined : joinNames 0 (value :: rest) <;> rw [joined] at passes <;> cases passes
  | nil =>
      rw [unrun] at passes
      cases undefined : difference runs defined with
      | cons value rest =>
          cases joined : joinNames 0 (value :: rest) <;> simp only [undefined, joined] at passes <;>
            cases passes
      | nil => exact ⟨rfl, rfl⟩

/-! ## Trees that pass -/

theorem mapM_cons_eq_ok {α β : Type} {read : α → Except Fault β} {item : α} {items : List α}
    {results : List β} (reads : (item :: items).mapM read = .ok results) :
    ∃ first rest, read item = .ok first ∧ items.mapM read = .ok rest ∧ results = first :: rest := by
  rw [List.mapM_cons] at reads
  obtain ⟨first, head, later⟩ := exists_of_bind_eq_ok reads
  obtain ⟨rest, tail, collected⟩ := exists_of_bind_eq_ok later
  cases collected
  exact ⟨first, rest, head, tail, rfl⟩

theorem mapM_asKey_eq_ok {values keys : List Value} (read : values.mapM Value.asKey = .ok keys) :
    keys = values ∧ ∀ value ∈ values, value.Hashable := by
  induction values generalizing keys with
  | nil =>
      cases read
      exact ⟨rfl, fun _ member => (by cases member)⟩
  | cons value rest ih =>
      obtain ⟨key, keys, isKey, others, rfl⟩ := mapM_cons_eq_ok read
      obtain ⟨rfl, hashable⟩ := Value.asKey_eq_ok_iff.mp isKey
      obtain ⟨rfl, hashableRest⟩ := ih others
      exact ⟨rfl, List.forall_mem_cons.mpr ⟨hashable, hashableRest⟩⟩

theorem taskNames_eq_ok {nodes names : List Value} (read : taskNames nodes = .ok names) :
    nodes.mapM (Value.part "name") = .ok names ∧ ∀ name ∈ names, name.Hashable := by
  rw [taskNames] at read
  induction nodes generalizing names with
  | nil =>
      cases read
      exact ⟨rfl, fun _ member => (by cases member)⟩
  | cons node rest ih =>
      obtain ⟨key, names, named, others, rfl⟩ := mapM_cons_eq_ok read
      obtain ⟨name, part, isKey⟩ := exists_of_bind_eq_ok named
      obtain ⟨rfl, hashable⟩ := Value.asKey_eq_ok_iff.mp isKey
      obtain ⟨readRest, hashableRest⟩ := ih others
      refine ⟨?_, List.forall_mem_cons.mpr ⟨hashable, hashableRest⟩⟩
      rw [List.mapM_cons, part, readRest]
      rfl

/-- Tasks to run that pass the check are keys, and they are the same as the given tasks. -/
theorem checkRuns_eq_ok {tree : Value} {source : Option String} {names : List Value}
    (hashable : ∀ name ∈ names, name.Hashable)
    (passes : (checkRuns tree source names).outcome = .ok ()) :
    ∃ runs values, tree.part "runs" = .ok runs ∧ runs.elements = .ok values ∧
      (∀ value ∈ values, value.Hashable) ∧ (∀ name ∈ names, ∃ run ∈ values, run.same name = true) ∧
        ∀ run ∈ values, ∃ name ∈ names, name.same run = true := by
  simp only [checkRuns] at passes
  split at passes
  · cases passes
  · split at passes <;> cases passes
  · next runs present =>
      split at passes
      · cases passes
      · next keys read =>
          obtain ⟨values, elements, areKeys⟩ := exists_of_bind_eq_ok read
          obtain ⟨rfl, hashableRuns⟩ := mapM_asKey_eq_ok areKeys
          have compared := compareNames_eq_ok passes
          exact ⟨runs, keys, presentPart_eq_some present, elements, hashableRuns,
            fun name => exists_same_of_difference hashable hashableRuns compared.1,
            fun run => exists_same_of_difference hashableRuns hashable compared.2⟩

/-- A tree that passes the check lists a run for each of its tasks, and a task for each run. -/
theorem program_eq_ok {tree : Value} {source : Option String}
    (passes : (program tree source).outcome = .ok ()) :
    ∃ tasks nodes names runs values, tree.part "tasks" = .ok tasks ∧ tasks.elements = .ok nodes ∧
      nodes.mapM (Value.part "name") = .ok names ∧ tree.part "runs" = .ok runs ∧
        runs.elements = .ok values ∧ (∀ value ∈ values, value.Hashable) ∧
          (∀ name ∈ names, ∃ run ∈ values, run.same name = true) ∧
            ∀ run ∈ values, ∃ name ∈ names, name.same run = true := by
  rw [program] at passes
  split at passes
  · cases passes
  · split at passes
    · cases passes
    · cases passes
    · next tasks present =>
        split at passes
        · cases passes
        · next names read =>
            obtain ⟨nodes, elements, areNames⟩ := exists_of_bind_eq_ok read
            obtain ⟨named, hashable⟩ := taskNames_eq_ok areNames
            obtain ⟨runs, values, rest⟩ := checkRuns_eq_ok hashable passes
            exact ⟨tasks, nodes, names, runs, values, presentPart_eq_some present, elements, named, rest⟩

/-! ## Trees that fail -/

theorem checkRuns_eq_error {tree : Value} {source : Option String} {names : List Value} {stop : Stop}
    (refused : (checkRuns tree source names).outcome = .error stop) : Fails stop := by
  simp only [checkRuns] at refused
  split at refused
  · exact .inl ⟨_, (Except.error.inj refused).symm⟩
  · split at refused
    · exact .inl ⟨_, (Except.error.inj refused).symm⟩
    · exact .inr ⟨_, (Except.error.inj refused).symm, .place ..⟩
  · split at refused
    · exact .inl ⟨_, (Except.error.inj refused).symm⟩
    · exact compareNames_eq_error refused

theorem program_eq_error {tree : Value} {source : Option String} {stop : Stop}
    (refused : (program tree source).outcome = .error stop) : Fails stop := by
  rw [program] at refused
  split at refused
  · exact .inr ⟨_, (Except.error.inj refused).symm, .place ..⟩
  · split at refused
    · exact .inl ⟨_, (Except.error.inj refused).symm⟩
    · exact .inr ⟨_, (Except.error.inj refused).symm, .place ..⟩
    · split at refused
      · exact .inl ⟨_, (Except.error.inj refused).symm⟩
      · exact checkRuns_eq_error refused

/-! ## Texts as names -/

theorem exists_texts {values : List Value} {names : List String}
    (within : ∀ value ∈ values, value ∈ names.map Value.str) :
    ∃ texts : List String, values = texts.map Value.str := by
  induction values with
  | nil => exact ⟨[], rfl⟩
  | cons value rest ih =>
      obtain ⟨isText, areTexts⟩ := List.forall_mem_cons.mp within
      obtain ⟨text, -, rfl⟩ := List.mem_map.mp isText
      obtain ⟨texts, rfl⟩ := ih areTexts
      exact ⟨text :: texts, rfl⟩

theorem joinNames_texts (position : Nat) (texts : List String) :
    joinNames position (texts.map Value.str) = .ok texts := by
  induction texts generalizing position with
  | nil => rfl
  | cons text rest ih =>
      rw [List.map_cons, joinNames, ih]
      rfl

theorem speakable_texts (texts : List String) : (Value.list (texts.map Value.str)).speakable = true := by
  rw [Value.speakable]
  induction texts with
  | nil => rfl
  | cons text rest ih => exact ih

theorem exists_texts_setOf (names : List String) :
    ∃ texts : List String, setOf (names.map Value.str) = texts.map Value.str :=
  exists_texts fun _ => mem_of_mem_setOf

theorem exists_texts_difference (names : List String) (others : List Value) :
    ∃ texts : List String, difference (names.map Value.str) others = texts.map Value.str :=
  exists_texts fun _ member => (List.mem_filter.mp member).1

theorem speakableEntries_texts (first second : String) (names others : List String) :
    Value.speakableEntries [(.str first, .list (names.map Value.str)),
      (.str second, .list (others.map Value.str))] = true := by
  rw [Value.speakableEntries, Value.speakableEntries, speakable_texts, speakable_texts]
  rfl

theorem unrunReport_stop (defined runs names : List String) :
    (unrunReport (defined.map Value.str) (runs.map Value.str) names).stop =
      .report (unrunReport (defined.map Value.str) (runs.map Value.str) names) :=
  Report.stop_running _ _ _ (speakableEntries_texts _ _ defined runs)

theorem undefinedReport_stop (defined undefined names : List String) :
    (undefinedReport (defined.map Value.str) (undefined.map Value.str) names).stop =
      .report (undefinedReport (defined.map Value.str) (undefined.map Value.str) names) :=
  Report.stop_running _ _ _ (speakableEntries_texts _ _ defined undefined)

/-! ## Verdicts on names -/

/-- The listed texts are those with a property, each of them once, and there are some. -/
structure Exactly (listed : List String) (isMeant : String → Prop) : Prop where
  some : listed ≠ []
  once : listed.Nodup
  mem_iff : ∀ name, name ∈ listed ↔ isMeant name

/-- The verdicts on lists of names. -/
inductive Judged (names runs : List String) : Except Stop Unit → Prop where
  | passes (someTask : names ≠ []) (someRun : runs ≠ []) (same : ∀ name, name ∈ names ↔ name ∈ runs) :
      Judged names runs (.ok ())
  /-- One of the lists is empty. -/
  | empty (none : names = [] ∨ runs = []) (message line column token snippet : Value) :
      Judged names runs (.error (.report (.parsing message line column token snippet)))
  /-- There are tasks that are never run. -/
  | unrun (someTask : names ≠ []) (someRun : runs ≠ []) {listed : List String}
      (exactly : Exactly listed fun name => name ∈ names ∧ name ∉ runs) (state : Value) :
      Judged names runs (.error (.report (.running
        (.str ("Tasks defined but never run: " ++ ", ".intercalate listed))
        (.str "Program Validation") (.str "Run Statement Check") state)))
  /-- All tasks are run, and there are runs without a task. -/
  | undefined (someTask : names ≠ []) (someRun : runs ≠ []) (covered : ∀ name ∈ names, name ∈ runs)
      {listed : List String} (exactly : Exactly listed fun name => name ∈ runs ∧ name ∉ names)
      (state : Value) :
      Judged names runs (.error (.report (.running
        (.str ("Attempting to run undefined tasks: " ++ ", ".intercalate listed))
        (.str "Program Validation") (.str "Task Definition Check") state)))

theorem Judged.eq_ok_iff {names runs : List String} {outcome : Except Stop Unit}
    (judged : Judged names runs outcome) :
    outcome = .ok () ↔ names ≠ [] ∧ runs ≠ [] ∧ ∀ name, name ∈ names ↔ name ∈ runs := by
  cases judged with
  | passes someTask someRun same => exact ⟨fun _ => ⟨someTask, someRun, same⟩, fun _ => rfl⟩
  | empty none =>
      refine ⟨fun passed => (by cases passed), fun ⟨someTask, someRun, _⟩ => ?_⟩
      exact absurd none (not_or.mpr ⟨someTask, someRun⟩)
  | unrun _ _ exactly =>
      refine ⟨fun passed => (by cases passed), fun ⟨_, _, same⟩ => ?_⟩
      obtain ⟨name, listed⟩ := List.exists_mem_of_ne_nil _ exactly.some
      obtain ⟨isTask, isNoRun⟩ := (exactly.mem_iff name).mp listed
      exact absurd ((same name).mp isTask) isNoRun
  | undefined _ _ _ exactly =>
      refine ⟨fun passed => (by cases passed), fun ⟨_, _, same⟩ => ?_⟩
      obtain ⟨name, listed⟩ := List.exists_mem_of_ne_nil _ exactly.some
      obtain ⟨isRun, isNoTask⟩ := (exactly.mem_iff name).mp listed
      exact absurd ((same name).mpr isRun) isNoTask

section Names

variable {names runs : List String}

theorem nodup_distinct_texts (names : List String) : (distinct (names.map Value.str)).Nodup := by
  induction names with
  | nil => exact List.nodup_nil
  | cons name rest ih =>
      refine List.nodup_cons.mpr ⟨fun member => ?_, ih.filter _⟩
      have differs := (List.mem_filter.mp member).2
      simp at differs

/-- The texts of one list that are not in another, each of them once. -/
theorem exists_difference_texts (names others : List String) :
    ∃ listed : List String,
      difference (setOf (names.map Value.str)) (setOf (others.map Value.str)) = listed.map Value.str ∧
        listed.Nodup ∧ ∀ name, name ∈ listed ↔ name ∈ names ∧ name ∉ others := by
  obtain ⟨kept, isKept⟩ := exists_texts_setOf names
  obtain ⟨listed, isListed⟩ := exists_texts_difference kept (setOf (others.map Value.str))
  rw [← isKept] at isListed
  refine ⟨listed, isListed, ?_, fun name => ?_⟩
  · have once : (setOf (names.map Value.str)).Nodup :=
      (List.mergeSort_perm _ _).nodup_iff.mpr (nodup_distinct_texts names)
    have listedOnce : (listed.map Value.str).Nodup := isListed ▸ once.filter _
    exact (List.pairwise_map.mp listedOnce).imp fun differ same => differ (congrArg Value.str same)
  · have inOther : (setOf (others.map Value.str)).any (fun other => other.same (.str name)) = true ↔
        name ∈ others := by
      rw [List.any_eq_true]
      constructor
      · rintro ⟨other, member, same⟩
        obtain ⟨text, isOther, rfl⟩ := List.mem_map.mp (mem_of_mem_setOf member)
        rw [Value.same_str, beq_iff_eq] at same
        exact same ▸ isOther
      · exact fun isOther => ⟨_, mem_setOf_texts.mpr isOther, by simp⟩
    rw [← List.mem_map_of_injective (f := Value.str) fun _ _ => Value.str.inj, ← isListed, difference,
      List.mem_filter, mem_setOf_texts, ← inOther]
    simp

/-- How two sets of texts compare. -/
theorem judged_compareNames (someTask : names ≠ []) (someRun : runs ≠ []) :
    Judged names runs (compareNames (setOf (names.map Value.str)) (setOf (runs.map Value.str))) := by
  obtain ⟨unrun, isUnrun, unrunOnce, memUnrun⟩ := exists_difference_texts names runs
  obtain ⟨undefined, isUndefined, undefinedOnce, memUndefined⟩ := exists_difference_texts runs names
  obtain ⟨defined, isDefined⟩ := exists_texts_setOf names
  obtain ⟨listedRuns, isRuns⟩ := exists_texts_setOf runs
  rw [isDefined, isRuns] at isUnrun isUndefined ⊢
  cases unrun with
  | cons name rest =>
      rw [compareNames_unrun isUnrun (joinNames_texts 0 (name :: rest)), unrunReport_stop]
      exact .unrun someTask someRun ⟨List.cons_ne_nil _ _, unrunOnce, memUnrun⟩ _
  | nil =>
      have covered : ∀ name ∈ names, name ∈ runs := by
        intro name isTask
        by_contra isNoRun
        exact List.not_mem_nil ((memUnrun name).mpr ⟨isTask, isNoRun⟩)
      cases undefined with
      | cons name rest =>
          rw [compareNames_undefined isUnrun isUndefined (joinNames_texts 0 (name :: rest)),
            ← List.map_cons, undefinedReport_stop]
          exact .undefined someTask someRun covered
            ⟨List.cons_ne_nil _ _, undefinedOnce, memUndefined⟩ _
      | nil =>
          have same : ∀ name, name ∈ names ↔ name ∈ runs := by
            refine fun name => ⟨covered name, fun isRun => ?_⟩
            by_contra isNoTask
            exact List.not_mem_nil ((memUndefined name).mpr ⟨isRun, isNoTask⟩)
          rw [← isDefined, ← isRuns, compareNames_texts same]
          exact .passes someTask someRun same

end Names

/-! ## Programs -/

/-- A program passes its check if the names of its tasks and of the tasks to run are the same, and else
there is a report on a run. -/
theorem program_differ {program : Program} (someTask : program.tasks ≠ []) (someRun : program.runs ≠ [])
    (differ : ¬ ∀ name, name ∈ program.tasks.map Task.name ↔ name ∈ program.runs)
    (source : Option String) :
    ∃ message step state, (Check.program program.node source).outcome =
      .error (.report (.running (.str message) (.str "Program Validation") (.str step) state)) := by
  have someName : program.tasks.map Task.name ≠ [] := List.map_eq_nil_iff.not.mpr someTask
  have judged := judged_compareNames someName someRun
  rw [program_outcome someTask someRun source]
  generalize compareNames _ _ = outcome at judged ⊢
  cases judged with
  | passes _ _ same => exact absurd same differ
  | empty none => exact absurd none (not_or.mpr ⟨someName, someRun⟩)
  | unrun => exact ⟨_, _, _, rfl⟩
  | undefined => exact ⟨_, _, _, rfl⟩

end Check

end Stepwise
