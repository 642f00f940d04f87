import Campus.Ingest.TaskRun
import Mathlib.Data.List.Perm.Basic
/-!
# What is collected from tasks at the same time

However tasks end, the collector comes to an end after a number of steps that is known beforehand,
and then no task is left. It has all values exactly if no task fails, and otherwise the failure of
the task that was the first to fail. While it still waits for values nothing has been given up, so
no report that it passes over is that of a lost value.
-/

namespace Campus

variable {ε α : Type}

/-- The failure of a task, if it fails. -/
def NumberedTask.failure? : NumberedTask ε α → Option (SetFailure ε)
  | ⟨_, .value _⟩ => none
  | ⟨_, .error error⟩ => some (.error error)
  | ⟨number, .breakdown⟩ => some (.breakdown number)

/-- Tasks end in values. -/
def HaveValues (tasks : List (NumberedTask ε α)) (values : List α) : Prop :=
  tasks.map NumberedTask.ending = values.map .value

/-- Of tasks in the order in which they ended, the first that failed has a failure. -/
def FirstFailure (ended : List (NumberedTask ε α)) (failure : SetFailure ε) : Prop :=
  ∃ before task after, ended = before ++ task :: after ∧ task.failure? = some failure ∧
    ∃ values, HaveValues before values

/-- A first failure stays the first. -/
theorem FirstFailure.append {ended : List (NumberedTask ε α)} {failure : SetFailure ε}
    (first : FirstFailure ended failure) (later : List (NumberedTask ε α)) :
    FirstFailure (ended ++ later) failure := by
  obtain ⟨before, task, after, rfl, failed, valued⟩ := first
  exact ⟨before, task, after ++ later, by simp, failed, valued⟩

/-- Tasks that end in values and others behind them. -/
theorem HaveValues.append {left right : List (NumberedTask ε α)} {values others : List α}
    (valued : HaveValues left values) (valuedToo : HaveValues right others) :
    HaveValues (left ++ right) (values ++ others) := by
  rw [HaveValues, List.map_append, List.map_append, valued, valuedToo]

namespace TaskRun

/-- What a step does. -/
inductive Leads : TaskStep → TaskRun ε α → TaskRun ε α → Prop
  /-- A running task ends by itself and is reported. -/
  | finish {set : TaskSet ε α} {collector : Collector ε α} {place : Nat} {task : NumberedTask ε α}
    (isThere : set.running[place]? = some task) :
    Leads (.finish place) ⟨set, collector⟩
      ⟨⟨set.running.eraseIdx place, set.reports ++ [.ended task], set.aborted,
        set.ended ++ [task]⟩, collector⟩
  /-- A running task is given up, which is reported too. -/
  | giveUp {set : TaskSet ε α} {collector : Collector ε α} {place : Nat} {task : NumberedTask ε α}
    (aborted : set.aborted = true) (isThere : set.running[place]? = some task) :
    Leads (.giveUp place) ⟨set, collector⟩
      ⟨⟨set.running.eraseIdx place, set.reports ++ [.givenUp task.number], set.aborted,
        set.ended⟩, collector⟩
  /-- The collector takes the value of a task. -/
  | value {running ended : List (NumberedTask ε α)} {reports : List (TaskReport ε α)}
    {aborted : Bool} {values : List α} {number : Nat} {value : α} :
    Leads .collect
      ⟨⟨running, .ended ⟨number, .value value⟩ :: reports, aborted, ended⟩, .waiting values⟩
      ⟨⟨running, reports, aborted, ended⟩, .waiting (values ++ [value])⟩
  /-- The collector takes the failure of a task and gives up the others. -/
  | failure {running ended : List (NumberedTask ε α)} {reports : List (TaskReport ε α)}
    {aborted : Bool} {values : List α} {task : NumberedTask ε α} {failure : SetFailure ε}
    (failed : task.failure? = some failure) :
    Leads .collect ⟨⟨running, .ended task :: reports, aborted, ended⟩, .waiting values⟩
      ⟨⟨running, reports, true, ended⟩, .closing failure⟩
  /-- The collector passes over a task that was given up. -/
  | pass {running ended : List (NumberedTask ε α)} {reports : List (TaskReport ε α)}
    {aborted : Bool} {values : List α} {number : Nat} :
    Leads .collect ⟨⟨running, .givenUp number :: reports, aborted, ended⟩, .waiting values⟩
      ⟨⟨running, reports, aborted, ended⟩, .waiting values⟩
  /-- After a failure the collector passes over all tasks. -/
  | close {running ended : List (NumberedTask ε α)} {report : TaskReport ε α}
    {reports : List (TaskReport ε α)} {aborted : Bool} {failure : SetFailure ε} :
    Leads .collect ⟨⟨running, report :: reports, aborted, ended⟩, .closing failure⟩
      ⟨⟨running, reports, aborted, ended⟩, .closing failure⟩
  /-- No task is left, and the collector has values. -/
  | collected {ended : List (NumberedTask ε α)} {aborted : Bool} {values : List α} :
    Leads .collect ⟨⟨[], [], aborted, ended⟩, .waiting values⟩
      ⟨⟨[], [], aborted, ended⟩, .done (.ok values)⟩
  /-- No task is left after a failure. -/
  | failed {ended : List (NumberedTask ε α)} {aborted : Bool} {failure : SetFailure ε} :
    Leads .collect ⟨⟨[], [], aborted, ended⟩, .closing failure⟩
      ⟨⟨[], [], aborted, ended⟩, .done (.error failure)⟩

/-- Where the tasks of a set and its collector can stand. -/
inductive Stands (tasks : List (NumberedTask ε α)) : TaskRun ε α → Prop
  /-- What was taken are the values of the tasks that ended first. Nothing has been given up. -/
  | waiting {running ended taken reported : List (NumberedTask ε α)}
    {reports : List (TaskReport ε α)} {values : List α} (inOrder : ended = taken ++ reported)
    (told : reports = reported.map .ended) (all : (ended ++ running).Perm tasks)
    (valued : HaveValues taken values) :
    Stands tasks ⟨⟨running, reports, false, ended⟩, .waiting values⟩
  /-- What failed first was taken. -/
  | closing {running ended : List (NumberedTask ε α)} {reports : List (TaskReport ε α)}
    {failure : SetFailure ε} (within : ended ++ running ⊆ tasks)
    (first : FirstFailure ended failure) :
    Stands tasks ⟨⟨running, reports, true, ended⟩, .closing failure⟩
  /-- All tasks ended in values. -/
  | collected {ended : List (NumberedTask ε α)} {values : List α} (all : ended.Perm tasks)
    (valued : HaveValues ended values) :
    Stands tasks ⟨⟨[], [], false, ended⟩, .done (.ok values)⟩
  /-- There was a failure. -/
  | failed {ended : List (NumberedTask ε α)} {failure : SetFailure ε} (within : ended ⊆ tasks)
    (first : FirstFailure ended failure) :
    Stands tasks ⟨⟨[], [], true, ended⟩, .done (.error failure)⟩

variable {tasks : List (NumberedTask ε α)} {run next last : TaskRun ε α} {step : TaskStep}
  {place : Nat}

/-- The collector goes on as its steps say. -/
theorem leads_of_collect? (stepped : run.collect? = some next) : Leads .collect run next := by
  obtain ⟨⟨running, reports, aborted, ended⟩, collector⟩ := run
  have ends : TaskSet.isEmpty ⟨running, [], aborted, ended⟩ = true → running = [] := by
    simp [TaskSet.isEmpty]
  cases collector with
  | done outcome => cases stepped
  | closing failure =>
    cases reports with
    | nil =>
      obtain ⟨isEmpty, ⟨⟩⟩ := Option.ite_none_right_eq_some.1 stepped
      obtain rfl := ends isEmpty
      exact .failed
    | cons report rest =>
      cases stepped
      exact .close
  | waiting values =>
    rcases reports with _ | ⟨⟨⟨number, ending⟩⟩ | number, rest⟩
    · obtain ⟨isEmpty, ⟨⟩⟩ := Option.ite_none_right_eq_some.1 stepped
      obtain rfl := ends isEmpty
      exact .collected
    · cases ending with
      | value value =>
        cases stepped
        exact .value
      | error error =>
        cases stepped
        exact .failure rfl
      | breakdown =>
        cases stepped
        exact .failure rfl
    · cases stepped
      exact .pass

/-- A step that can happen does one of the things that steps do. -/
theorem leads_of_step? (stepped : run.step? step = some next) : Leads step run next := by
  cases step with
  | finish place =>
    simp only [step?, TaskSet.finish?, Option.map_map, Option.map_eq_some_iff] at stepped
    obtain ⟨task, isThere, rfl⟩ := stepped
    exact .finish isThere
  | giveUp place =>
    simp only [step?, TaskSet.giveUp?, Option.map_eq_some_iff, Option.ite_none_right_eq_some]
      at stepped
    obtain ⟨set, ⟨aborted, task, isThere, rfl⟩, rfl⟩ := stepped
    exact .giveUp aborted isThere
  | collect => exact leads_of_collect? stepped

/-- A task that is taken out of others leaves the others. -/
theorem perm_eraseIdx {running : List (NumberedTask ε α)} {task : NumberedTask ε α}
    (isThere : running[place]? = some task) : (task :: running.eraseIdx place).Perm running := by
  obtain ⟨fits, rfl⟩ := List.getElem?_eq_some_iff.1 isThere
  exact List.getElem_cons_eraseIdx_perm fits

/-- A step leaves the tasks and their collector where they can stand. -/
theorem Stands.of_leads (stands : Stands tasks run) (leads : Leads step run next) :
    Stands tasks next := by
  cases leads with
  | @finish set collector place task isThere =>
    have left := perm_eraseIdx isThere
    cases stands with
    | @waiting running ended taken reported reports values inOrder told all valued =>
      have inOrderToo : ended ++ [task] = taken ++ (reported ++ [task]) := by
        rw [inOrder, List.append_assoc]
      have toldToo : reports ++ [.ended task] = (reported ++ [task]).map .ended := by
        rw [told, List.map_append, List.map_singleton]
      refine .waiting inOrderToo toldToo ?_ valued
      rw [List.append_assoc]
      exact (left.append_left ended).trans all
    | @closing running ended reports failure within first =>
      refine .closing ?_ (first.append _)
      rw [List.append_assoc]
      exact fun task member => within ((left.append_left ended).subset member)
    | collected => cases isThere
    | failed => cases isThere
  | giveUp aborted isThere =>
    cases stands with
    | waiting => cases aborted
    | closing within first =>
      refine .closing (fun task member => within ?_) first
      exact List.mem_append.2 ((List.mem_append.1 member).imp_right List.mem_of_mem_eraseIdx)
    | collected => cases aborted
    | failed => cases isThere
  | @value running ended reports aborted values number value =>
    cases stands with
    | @waiting _ _ taken reported _ _ inOrder told all valued =>
      -- The earliest report is that of the first task that ended and has not been taken.
      obtain ⟨task, rest, rfl, ⟨⟩, rfl⟩ := List.map_eq_cons_iff.1 told.symm
      have inOrderToo : ended = (taken ++ [⟨number, .value value⟩]) ++ rest := by
        rw [inOrder, List.append_assoc, List.singleton_append]
      exact .waiting inOrderToo rfl all (valued.append rfl)
  | @failure running ended reports aborted values task failure failed =>
    cases stands with
    | @waiting _ _ taken reported _ _ inOrder told all valued =>
      obtain ⟨_, rest, rfl, ⟨⟩, rfl⟩ := List.map_eq_cons_iff.1 told.symm
      exact .closing all.subset ⟨taken, task, rest, inOrder, failed, values, valued⟩
  | pass =>
    cases stands with
    | @waiting _ _ taken reported _ _ inOrder told all valued =>
      -- Nothing has been given up, so there is no such report.
      obtain ⟨_, rest, rfl, ⟨⟩, -⟩ := List.map_eq_cons_iff.1 told.symm
  | close =>
    cases stands with
    | closing within first => exact .closing within first
  | collected =>
    cases stands with
    | @waiting _ ended taken reported _ _ inOrder told all valued =>
      obtain rfl := List.map_eq_nil_iff.1 told.symm
      rw [List.append_nil] at inOrder all
      exact .collected all (inOrder ▸ valued)
  | failed =>
    cases stands with
    | closing within first => exact .failed (by simpa using within) first

/-- Before anything happens the collector waits. -/
theorem stands_start (endings : List (TaskEnd ε α)) :
    Stands (TaskSet.numbered endings) (start endings) :=
  have inOrder : ([] : List (NumberedTask ε α)) = [] ++ [] := rfl
  .waiting inOrder rfl (.refl _) rfl

/-- Steps one after another. -/
theorem run?_cons (run : TaskRun ε α) (step : TaskStep) (steps : List TaskStep) :
    run.run? (step :: steps) = (run.step? step).bind fun next => next.run? steps := by
  rw [run?, List.foldlM_cons]
  rfl

/-- Steps leave the tasks and their collector where they can stand. -/
theorem Stands.steps {steps : List TaskStep} (stands : Stands tasks run)
    (ran : run.run? steps = some last) : Stands tasks last := by
  induction steps generalizing run with
  | nil =>
    cases ran
    exact stands
  | cons step rest ih =>
    rw [run?_cons, Option.bind_eq_some_iff] at ran
    obtain ⟨next, stepped, ran⟩ := ran
    exact ih (stands.of_leads (leads_of_step? stepped)) ran

/-- How many steps are left: each running task ends and is reported, and the collector ends once. -/
def stepsLeft (run : TaskRun ε α) : Nat :=
  2 * run.set.running.length + run.set.reports.length +
    match run.collector with
    | .done _ => 0
    | _ => 1

/-- With each step there is one less left. -/
theorem stepsLeft_of_leads (leads : Leads step run next) :
    next.stepsLeft + 1 = run.stepsLeft := by
  cases leads with
  | finish isThere =>
    have fewer := (perm_eraseIdx isThere).length_eq
    simp only [stepsLeft, List.length_append, List.length_cons, List.length_nil] at fewer ⊢
    omega
  | giveUp _ isThere =>
    have fewer := (perm_eraseIdx isThere).length_eq
    simp only [stepsLeft, List.length_append, List.length_cons, List.length_nil] at fewer ⊢
    omega
  | value | failure | pass | close | collected | failed => rfl

/-- The steps that were made are those that are not left any more. -/
theorem stepsLeft_of_run {steps : List TaskStep} (ran : run.run? steps = some last) :
    steps.length + last.stepsLeft = run.stepsLeft := by
  induction steps generalizing run with
  | nil =>
    cases ran
    exact Nat.zero_add _
  | cons step rest ih =>
    rw [run?_cons, Option.bind_eq_some_iff] at ran
    obtain ⟨next, stepped, ran⟩ := ran
    have later := ih ran
    have first := stepsLeft_of_leads (leads_of_step? stepped)
    rw [List.length_cons]
    omega

/-- The collector goes on unless it is done or a task runs of which nothing is told. -/
theorem exists_collect_of_running (none : run.set.running = []) :
    (∃ outcome, run.collector = .done outcome) ∨
      ∃ next, run.step? .collect = some next ∧ next.set.running = [] ∧
        next.set.ended = run.set.ended := by
  obtain ⟨⟨running, reports, aborted, ended⟩, collector⟩ := run
  obtain rfl : running = [] := none
  cases collector with
  | done outcome => exact .inl ⟨outcome, rfl⟩
  | closing failure =>
    refine .inr ?_
    cases reports <;> exact ⟨_, rfl, rfl, rfl⟩
  | waiting values =>
    refine .inr ?_
    rcases reports with _ | ⟨⟨⟨number, ending⟩⟩ | number, rest⟩
    · exact ⟨_, rfl, rfl, rfl⟩
    · cases ending <;> exact ⟨_, rfl, rfl, rfl⟩
    · exact ⟨_, rfl, rfl, rfl⟩

/-- Until the collector is done something can happen. -/
theorem exists_step (run : TaskRun ε α) :
    (∃ outcome, run.collector = .done outcome) ∨ ∃ step next, run.step? step = some next := by
  cases running : run.set.running with
  | nil =>
    refine (exists_collect_of_running running).imp_right ?_
    rintro ⟨next, stepped, -⟩
    exact ⟨.collect, next, stepped⟩
  | cons task rest =>
    refine .inr ⟨.finish 0, ?_⟩
    simp [step?, TaskSet.finish?, running]

/-- Two runs one after the other. -/
theorem run?_append {steps more : List TaskStep} (ran : run.run? steps = some next) :
    run.run? (steps ++ more) = next.run? more := by
  rw [run?, List.foldlM_append, ← run?, ran]
  rfl

/-- Running tasks may end in any order. -/
theorem exists_finish {order : List (NumberedTask ε α)} (set : TaskSet ε α)
    (each : order.Perm set.running) (collector : Collector ε α) :
    ∃ steps last, run? ⟨set, collector⟩ steps = some last ∧ last.set.running = [] ∧
      last.set.ended = set.ended ++ order := by
  induction order generalizing set with
  | nil => exact ⟨[], _, rfl, each.nil_eq.symm, (List.append_nil _).symm⟩
  | cons task rest ih =>
    obtain ⟨place, isThere⟩ := List.mem_iff_getElem?.1 (each.subset List.mem_cons_self)
    have left : rest.Perm (set.running.eraseIdx place) :=
      (List.perm_cons task).1 (each.trans (perm_eraseIdx isThere).symm)
    obtain ⟨next, finished⟩ : ∃ next, set.finish? place = some next := by
      rw [TaskSet.finish?, isThere]
      exact ⟨_, rfl⟩
    have runs : next.running = set.running.eraseIdx place ∧ next.ended = set.ended ++ [task] := by
      rw [TaskSet.finish?, isThere] at finished
      cases finished
      exact ⟨rfl, rfl⟩
    obtain ⟨steps, last, ran, none, ended⟩ := ih next (runs.1 ▸ left)
    refine ⟨.finish place :: steps, last, ?_, none, ?_⟩
    · rw [run?_cons, step?, finished]
      exact ran
    · rw [ended, runs.2, List.append_assoc, List.singleton_append]

/-- Once all tasks are over, the collector comes to its end. -/
theorem exists_done (none : run.set.running = []) :
    ∃ steps last outcome, run.run? steps = some last ∧ last.collector = .done outcome ∧
      last.set.ended = run.set.ended := by
  induction left : run.stepsLeft generalizing run with
  | zero =>
    rcases exists_collect_of_running none with ⟨outcome, isDone⟩ | ⟨next, stepped, -⟩
    · exact ⟨[], run, outcome, rfl, isDone, rfl⟩
    · have fewer := stepsLeft_of_leads (leads_of_step? stepped)
      omega
  | succ count ih =>
    rcases exists_collect_of_running none with ⟨outcome, isDone⟩ | ⟨next, stepped, noneToo, same⟩
    · exact ⟨[], run, outcome, rfl, isDone, rfl⟩
    · have fewer := stepsLeft_of_leads (leads_of_step? stepped)
      obtain ⟨steps, last, outcome, ran, isDone, ended⟩ := ih noneToo (by omega)
      exact ⟨.collect :: steps, last, outcome, by rw [run?_cons, stepped, Option.bind_some, ran],
        isDone, ended.trans same⟩

/-- Tasks that run may end in any order, and what comes of that is collected. -/
theorem exists_run_of_perm {endings : List (TaskEnd ε α)} {order : List (NumberedTask ε α)}
    (each : order.Perm (TaskSet.numbered endings)) :
    ∃ steps last outcome, (start endings).run? steps = some last ∧
      last.collector = .done outcome ∧ last.set.ended = order := by
  obtain ⟨steps, middle, ran, none, ended⟩ :=
    exists_finish (.ofEndings endings) each (.waiting [])
  obtain ⟨more, last, outcome, ranOn, isDone, same⟩ := exists_done none
  exact ⟨steps ++ more, last, outcome, (run?_append ran).trans ranOn, isDone, same.trans ended⟩

end TaskRun

namespace TaskGroup

/-- Values that come first are collected first. -/
theorem collectFrom_values_append (before values : List α) (later : List (TaskEnd ε α)) :
    collectFrom before (values.map .value ++ later) =
      collectFrom (values.reverse ++ before) later := by
  induction values generalizing before with
  | nil => rfl
  | cons value rest ih =>
    rw [List.map_cons, List.cons_append, collectFrom, ih, List.reverse_cons, List.append_assoc,
      List.singleton_append]

/-- From tasks that end in values these are collected. -/
theorem collect_of_haveValues {ended : List (NumberedTask ε α)} {values : List α}
    (valued : HaveValues ended values) :
    collect ⟨ended.map NumberedTask.ending⟩ = (.ok values, empty) := by
  have collected := collectFrom_values_append (ε := ε) [] values []
  rw [List.append_nil, List.append_nil, collectFrom, List.reverse_reverse] at collected
  rw [collect, valued, collected]

/-- From tasks of which one fails the first failure is collected. -/
theorem collect_of_firstFailure {ended : List (NumberedTask ε α)} {failure : SetFailure ε}
    (first : FirstFailure ended failure) :
    collect ⟨ended.map NumberedTask.ending⟩ = (.error failure.kind, empty) := by
  obtain ⟨before, ⟨number, ending⟩, after, rfl, failed, values, valued⟩ := first
  rw [collect, List.map_append, valued, List.map_cons, collectFrom_values_append]
  cases ending with
  | value value => cases failed
  | error error =>
    cases failed
    rfl
  | breakdown =>
    cases failed
    rfl

end TaskGroup

/-- A task that fails ends in no value. -/
theorem NumberedTask.ending_ne_value {task : NumberedTask ε α} {failure : SetFailure ε}
    (failed : task.failure? = some failure) (value : α) : task.ending ≠ .value value := by
  obtain ⟨number, ending⟩ := task
  rintro rfl
  cases failed

/-- Numbered tasks end as given. -/
theorem TaskSet.map_ending_numbered (endings : List (TaskEnd ε α)) :
    (numbered endings).map NumberedTask.ending = endings := by
  rw [numbered, List.map_map]
  exact List.zipIdx_map_fst 0 endings

namespace TaskRun

variable {tasks : List (NumberedTask ε α)} {run : TaskRun ε α}

/-- When the collector is done no task is left, and either all tasks ended in the values that are
collected or there is a first failure. -/
theorem Stands.of_done (stands : Stands tasks run) {outcome : Except (SetFailure ε) (List α)}
    (isDone : run.collector = .done outcome) :
    run.set.isEmpty = true ∧
      ((∃ values, outcome = .ok values ∧ run.set.ended.Perm tasks ∧
          HaveValues run.set.ended values) ∨
        ∃ failure, outcome = .error failure ∧ run.set.ended ⊆ tasks ∧
          FirstFailure run.set.ended failure) := by
  cases stands with
  | waiting => cases isDone
  | closing => cases isDone
  | collected all valued =>
    cases isDone
    exact ⟨rfl, .inl ⟨_, rfl, all, valued⟩⟩
  | failed within first =>
    cases isDone
    exact ⟨rfl, .inr ⟨_, rfl, within, first⟩⟩

/-- However tasks that run at the same time end, their collector is done after a bounded number of
steps, and until then something can happen. When it is done no task is left. It has values exactly
if no task fails, and then those of all tasks; otherwise it has the failure of the task that was the
first to fail. That is what collecting the tasks in the order of their ends comes to, and any order
is possible. -/
theorem collects_all_or_first_failure (endings : List (TaskEnd ε α)) :
    (∀ steps run, (start endings).run? steps = some run →
      steps.length ≤ 2 * endings.length + 1 ∧
      ((∃ outcome, run.collector = .done outcome) ∨ ∃ step next, run.step? step = some next)) ∧
    (∀ steps run outcome, (start endings).run? steps = some run → run.collector = .done outcome →
      run.set.isEmpty = true ∧
      ((∃ values, outcome = .ok values) ↔ ∀ ending ∈ endings, ∃ value, ending = .value value) ∧
      (∀ values, outcome = .ok values →
        HaveValues run.set.ended values ∧ (values.map TaskEnd.value).Perm endings) ∧
      (∀ failure, outcome = .error failure →
        FirstFailure run.set.ended failure ∧ run.set.ended ⊆ TaskSet.numbered endings) ∧
      TaskGroup.collect ⟨run.set.ended.map NumberedTask.ending⟩ =
        (outcome.mapError SetFailure.kind, .empty)) ∧
    ∀ order, order.Perm (TaskSet.numbered endings) →
      ∃ steps run outcome, (start endings).run? steps = some run ∧
        run.collector = .done outcome ∧ run.set.ended = order := by
  refine ⟨fun steps run ran => ⟨?_, exists_step run⟩, ?_, fun _ => exists_run_of_perm⟩
  · have counted := stepsLeft_of_run ran
    have all : (start endings).stepsLeft = 2 * endings.length + 1 := by
      simp [stepsLeft, start, TaskSet.ofEndings, TaskSet.numbered]
    omega
  · intro steps run outcome ran isDone
    obtain ⟨isEmpty, ⟨values, rfl, all, valued⟩ | ⟨failure, rfl, within, first⟩⟩ :=
      ((stands_start endings).steps ran).of_done isDone
    · have same : (values.map TaskEnd.value).Perm endings := by
        have permuted := all.map NumberedTask.ending
        rw [TaskSet.map_ending_numbered, valued] at permuted
        exact permuted
      refine ⟨isEmpty, iff_of_true ⟨values, rfl⟩ fun ending isEnding => ?_, ?_, nofun,
        TaskGroup.collect_of_haveValues valued⟩
      · obtain ⟨value, -, rfl⟩ := List.mem_map.1 (same.mem_iff.2 isEnding)
        exact ⟨value, rfl⟩
      · rintro _ ⟨⟩
        exact ⟨valued, same⟩
    · refine ⟨isEmpty, iff_of_false (by simp) fun allValues => ?_, nofun, ?_,
        TaskGroup.collect_of_firstFailure first⟩
      · obtain ⟨before, task, after, ended, failed, -⟩ := first
        have isTask : task ∈ TaskSet.numbered endings := within (by simp [ended])
        have isEnding := List.mem_map_of_mem (f := NumberedTask.ending) isTask
        rw [TaskSet.map_ending_numbered] at isEnding
        obtain ⟨value, isValue⟩ := allValues _ isEnding
        exact NumberedTask.ending_ne_value failed value isValue
      · rintro _ ⟨⟩
        exact ⟨first, within⟩

/-- Of four tasks the first ends in a value that is taken, then the last breaks down and the second
fails. What is told is that the last broke down; the third is given up, and none is left. -/
theorem collects_all_or_first_failure_fourTasks :
    let endings : List (TaskEnd String Nat) := [.value 1, .error "damaged", .value 2, .breakdown]
    ∃ steps run, (start endings).run? steps = some run ∧
      run.collector = .done (.error (.breakdown 3)) ∧ run.set.isEmpty = true ∧
      steps.length ≤ 9 ∧ FirstFailure run.set.ended (.breakdown 3) ∧
      (¬∀ ending ∈ endings, ∃ value, ending = .value value) ∧
      TaskGroup.collect ⟨run.set.ended.map NumberedTask.ending⟩ =
        (.error .breakdown, .empty) := by
  intro endings
  let steps : List TaskStep := [.finish 0, .collect, .finish 2, .finish 0, .collect, .giveUp 0,
    .collect, .collect, .collect]
  obtain ⟨ends, result, -⟩ := collects_all_or_first_failure endings
  obtain ⟨run, ran, isDone⟩ : ∃ run, (start endings).run? steps = some run ∧
      run.collector = .done (.error (.breakdown 3)) := ⟨_, rfl, rfl⟩
  obtain ⟨isEmpty, values, -, failure, collected⟩ := result steps run _ ran isDone
  refine ⟨steps, run, ran, isDone, isEmpty, (ends steps run ran).1, (failure _ rfl).1,
    fun all => ?_, collected⟩
  obtain ⟨_, impossible⟩ := values.2 all
  cases impossible

end TaskRun
end Campus
