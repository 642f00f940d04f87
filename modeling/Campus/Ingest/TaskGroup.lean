/-!
# Groups of tasks

The tasks of a group run at the same time and end in any order. Collecting them gives all their
values if every task ends in one; otherwise the first failure to be noticed is the failure of the
group, and the tasks that still run are given up. Either way no task is left.
-/

namespace Campus

/-- How a task ends. -/
inductive TaskEnd (ε α : Type)
  | value (value : α)
  | error (error : ε)
  /-- The task broke down. -/
  | breakdown
deriving DecidableEq

/-- How a group of tasks fails. -/
inductive TaskFailure (ε : Type)
  | error (error : ε)
  | breakdown
deriving DecidableEq

/-- A group of tasks that have not been collected, in the order in which they will end. -/
structure TaskGroup (ε α : Type) where
  pending : List (TaskEnd ε α)

namespace TaskGroup

variable {ε α : Type}

/-- The group without tasks. -/
def empty : TaskGroup ε α := ⟨[]⟩

/-- Put a task into a group; among the tasks so far it ends last. -/
def spawn (group : TaskGroup ε α) (task : TaskEnd ε α) : TaskGroup ε α :=
  ⟨group.pending ++ [task]⟩

/-- How many tasks there are. -/
def size (group : TaskGroup ε α) : Nat := group.pending.length

/-- The group of tasks that end as given, in this order. -/
def ofOutcomes (outcomes : List (Except ε α)) : TaskGroup ε α :=
  ⟨outcomes.map fun outcome => match outcome with
    | .ok value => .value value
    | .error error => .error error⟩

/-- The group whose tasks end in a given order of their numbers. -/
def reordered (group : TaskGroup ε α) (order : List Nat) : TaskGroup ε α :=
  ⟨order.filterMap (group.pending[·]?)⟩

/-- Wait for the tasks, with the values so far latest first. -/
def collectFrom (values : List α) : List (TaskEnd ε α) →
    Except (TaskFailure ε) (List α) × TaskGroup ε α
  | [] => (.ok values.reverse, empty)
  | .value value :: rest => collectFrom (value :: values) rest
  | .error error :: _ => (.error (.error error), empty)
  | .breakdown :: _ => (.error .breakdown, empty)

/-- Wait for all tasks: their values in the order in which they ended, or the first failure, and the
group that is left. -/
def collect (group : TaskGroup ε α) : Except (TaskFailure ε) (List α) × TaskGroup ε α :=
  collectFrom [] group.pending

end TaskGroup
end Campus
