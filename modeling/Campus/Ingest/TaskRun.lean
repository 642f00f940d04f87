import Campus.Ingest.TaskGroup
/-!
# Tasks at the same time

The tasks of a set run at the same time, each ends on its own, and one collector waits for them: it
takes the reports of the tasks one after another, in the order in which the tasks ended. With the
report of a failure it gives up the tasks that are left, and from then on it only waits until the
set has no task any more. A task that was given up is reported as such, unless it still ends by
itself; the collector passes over such reports. Which task ends when is left open.
-/

namespace Campus

/-- A task of a set: its number, and how it ends unless it is given up. -/
structure NumberedTask (ε α : Type) where
  number : Nat
  ending : TaskEnd ε α

/-- What is told of a task that is over. -/
inductive TaskReport (ε α : Type)
  | ended (task : NumberedTask ε α)
  | givenUp (number : Nat)

/-- Why nothing is collected: the error of a task, or that the task of some number broke down. -/
inductive SetFailure (ε : Type)
  | error (error : ε)
  | breakdown (number : Nat)

/-- A failure without the number of the task. -/
def SetFailure.kind {ε : Type} : SetFailure ε → TaskFailure ε
  | .error reason => .error reason
  | .breakdown _ => .breakdown

/-- A set of tasks. -/
structure TaskSet (ε α : Type) where
  /-- The tasks that are not over. -/
  running : List (NumberedTask ε α)
  /-- What has been told and not been taken, the earliest first. -/
  reports : List (TaskReport ε α)
  /-- Whether the tasks that are left are given up. -/
  aborted : Bool
  /-- The tasks that have ended by themselves, in the order in which they did. -/
  ended : List (NumberedTask ε α)

namespace TaskSet

variable {ε α : Type}

/-- The tasks of a set that end as given, numbered in the order in which they are put in. -/
def numbered (endings : List (TaskEnd ε α)) : List (NumberedTask ε α) :=
  endings.zipIdx.map fun (ending, number) => ⟨number, ending⟩

/-- The set of tasks that end as given, before one of them is over. -/
def ofEndings (endings : List (TaskEnd ε α)) : TaskSet ε α := ⟨numbered endings, [], false, []⟩

/-- Whether no task is left. -/
def isEmpty (set : TaskSet ε α) : Bool := set.running.isEmpty && set.reports.isEmpty

/-- A task ends by itself. -/
def finish? (set : TaskSet ε α) (place : Nat) : Option (TaskSet ε α) :=
  set.running[place]?.map fun task =>
    { set with
      running := set.running.eraseIdx place
      reports := set.reports ++ [.ended task]
      ended := set.ended ++ [task] }

/-- A task ends because it was given up. -/
def giveUp? (set : TaskSet ε α) (place : Nat) : Option (TaskSet ε α) :=
  if set.aborted then
    set.running[place]?.map fun task =>
      { set with
        running := set.running.eraseIdx place
        reports := set.reports ++ [.givenUp task.number] }
  else none

/-- Give up all tasks that are left. -/
def abort (set : TaskSet ε α) : TaskSet ε α := { set with aborted := true }

end TaskSet

/-- Where the collector of a set stands. -/
inductive Collector (ε α : Type)
  /-- It waits for the next task, with the values so far. -/
  | waiting (values : List α)
  /-- It waits until no task is left, because of a failure. -/
  | closing (failure : SetFailure ε)
  | done (outcome : Except (SetFailure ε) (List α))

/-- A set of tasks with its collector. -/
structure TaskRun (ε α : Type) where
  set : TaskSet ε α
  collector : Collector ε α

/-- What happens next to a set of tasks. -/
inductive TaskStep
  /-- The running task at a place ends by itself. -/
  | finish (place : Nat)
  /-- The running task at a place ends because it was given up. -/
  | giveUp (place : Nat)
  /-- The collector goes on. -/
  | collect

namespace TaskRun

variable {ε α : Type}

/-- The collector of tasks that end as given, before it has taken a report. -/
def start (endings : List (TaskEnd ε α)) : TaskRun ε α := ⟨.ofEndings endings, .waiting []⟩

/-- The collector takes the next report or sees that no task is left; it cannot go on while tasks
run and there is no report. -/
def collect? (run : TaskRun ε α) : Option (TaskRun ε α) :=
  match run.collector, run.set.reports with
  | .waiting values, .ended ⟨_, .value value⟩ :: rest =>
    some ⟨{ run.set with reports := rest }, .waiting (values ++ [value])⟩
  | .waiting _, .ended ⟨_, .error error⟩ :: rest =>
    some ⟨{ run.set with reports := rest }.abort, .closing (.error error)⟩
  | .waiting _, .ended ⟨number, .breakdown⟩ :: rest =>
    some ⟨{ run.set with reports := rest }.abort, .closing (.breakdown number)⟩
  | .waiting values, .givenUp _ :: rest =>
    some ⟨{ run.set with reports := rest }, .waiting values⟩
  | .closing failure, _ :: rest => some ⟨{ run.set with reports := rest }, .closing failure⟩
  | .waiting values, [] =>
    if run.set.isEmpty then some ⟨run.set, .done (.ok values)⟩ else none
  | .closing failure, [] =>
    if run.set.isEmpty then some ⟨run.set, .done (.error failure)⟩ else none
  | .done _, _ => none

/-- What a step leads to, if it can happen. -/
def step? (run : TaskRun ε α) : TaskStep → Option (TaskRun ε α)
  | .finish place => (run.set.finish? place).map fun set => { run with set }
  | .giveUp place => (run.set.giveUp? place).map fun set => { run with set }
  | .collect => run.collect?

/-- What some steps lead to, if each of them can happen. -/
def run? (run : TaskRun ε α) (steps : List TaskStep) : Option (TaskRun ε α) :=
  steps.foldlM step? run

end TaskRun
end Campus
