import Campus.Ingest.Courses
import Mathlib.Data.List.Nodup
import Mathlib.Data.List.Perm.Basic
import Mathlib.Data.Set.List
/-!
# Collecting tasks in any order

Every task of a group ends once, in some order. If all succeed, their values are collected, and the
numbers that the tasks hand on put the values back into the order in which the tasks were spawned.
If one fails, what is collected is the failure of one of them. So the order shows in no value, and
in which of several failures is told.
-/

namespace Campus

/-- An order in which the tasks of a group may end: each ends, and none ends twice. Other numbers
are of no task. -/
structure TaskGroup.IsFinishing {ε α : Type} (group : TaskGroup ε α) (order : List Nat) : Prop where
  once : order.Nodup
  every : ∀ number < group.size, number ∈ order

/-- Items that are picked by their places, each place once, are the items in another order. -/
theorem filterMap_getElem?_perm {α : Type} {items : List α} {order : List Nat} (once : order.Nodup)
    (every : ∀ place < items.length, place ∈ order) :
    (order.filterMap (items[·]?)).Perm items := by
  have places : (order.filter (· < items.length)).Perm (List.range items.length) := by
    refine (List.perm_ext_iff_of_nodup (once.filter _) List.nodup_range).2 fun place => ?_
    rw [List.mem_filter, List.mem_range, decide_eq_true_eq, and_iff_right_iff_imp]
    exact every place
  -- Numbers outside pick nothing, so what is picked is picked by the places alone.
  have picked : order.filterMap (items[·]?) =
      (order.filter (· < items.length)).filterMap (items[·]?) := by
    rw [List.filterMap_filter]
    refine List.filterMap_congr fun place _ => ?_
    by_cases inside : place < items.length
    · simp [inside]
    · simp [inside]
  have inPlace : (List.range items.length).filterMap (items[·]?) = items := by
    have listed : (List.range items.length).map (items[·]?) = items.map some :=
      List.ext_getElem (by simp) (by simp +contextual)
    calc (List.range items.length).filterMap (items[·]?)
        = ((List.range items.length).map (items[·]?)).filterMap id := by
          rw [List.filterMap_map, Function.id_comp]
      _ = items := by rw [listed, List.filterMap_map, Function.id_comp, List.filterMap_some]
  rw [picked]
  exact (places.filterMap _).trans (.of_eq inPlace)

namespace TaskGroup

variable {ε α : Type}

/-- The tasks of a group may end in any order of enough numbers. -/
theorem isFinishing_of_perm {group : TaskGroup ε α} {order : List Nat} {bound : Nat}
    (all : order.Perm (List.range bound)) (enough : group.size ≤ bound) :
    group.IsFinishing order where
  once := all.nodup_iff.2 List.nodup_range
  every _ isTask := all.mem_iff.2 (List.mem_range.2 (Nat.lt_of_lt_of_le isTask enough))

/-- Reordering a group reorders its outcomes. -/
theorem reordered_ofOutcomes (outcomes : List (Except ε α)) (order : List Nat) :
    (ofOutcomes outcomes).reordered order = ofOutcomes (order.filterMap (outcomes[·]?)) := by
  simp only [reordered, ofOutcomes, List.getElem?_map, List.map_filterMap]

/-- Values are collected behind those there were before, or the failure of a task. -/
theorem collectFrom_ofOutcomes (before : List α) (outcomes : List (Except ε α)) :
    (∃ values, (collectFrom before (ofOutcomes outcomes).pending).1 =
        .ok (before.reverse ++ values) ∧ outcomes = values.map .ok) ∨
      ∃ error, (collectFrom before (ofOutcomes outcomes).pending).1 = .error (.error error) ∧
        .error error ∈ outcomes := by
  induction outcomes generalizing before with
  | nil => exact .inl ⟨[], by simp [ofOutcomes, collectFrom], rfl⟩
  | cons outcome rest ih =>
    cases outcome with
    | error error => exact .inr ⟨error, rfl, List.mem_cons_self⟩
    | ok value =>
      rcases ih (value :: before) with ⟨values, collected, all⟩ | ⟨error, collected, failed⟩
      · refine .inl ⟨value :: values, ?_, by rw [all, List.map_cons]⟩
        rw [List.reverse_cons, List.append_assoc, List.singleton_append] at collected
        exact collected
      · exact .inr ⟨error, collected, List.mem_cons_of_mem _ failed⟩

/-- The group of tasks that end as given and hand on their numbers. -/
def ofNumbered (tasks : List (Nat × Except ε α)) : TaskGroup ε (Nat × α) :=
  ofOutcomes (tasks.map fun task => task.2.map fun value => (task.1, value))

end TaskGroup

/-- Values with ascending numbers are put back into their order from any other. -/
theorem inOrder_of_perm {α : Type} {found numbered : List (Nat × α)} (same : found.Perm numbered)
    (ascending : (numbered.map Prod.fst).Pairwise (· < ·)) :
    inOrder found = numbered.map Prod.snd := by
  have sorted : (found.mergeSort fun a b => a.1 ≤ b.1).Pairwise fun a b => a.1 ≤ b.1 := by
    simpa using @List.pairwise_mergeSort _ (fun a b : Nat × α => decide (a.1 ≤ b.1))
      (fun _ _ _ => by simpa using Nat.le_trans) (fun a b => by simpa using Nat.le_total a.1 b.1)
      found
  have ordered : numbered.Pairwise fun a b => a.1 ≤ b.1 :=
    (List.pairwise_map.1 ascending).imp Nat.le_of_lt
  have permuted : (found.mergeSort fun a b => a.1 ≤ b.1).Perm numbered :=
    (List.mergeSort_perm _ _).trans same
  have distinct : (numbered.map Prod.fst).Nodup := ascending.imp Nat.ne_of_lt
  -- Sorting compares numbers only, but here a number has one value.
  have unique : (found.mergeSort fun a b => a.1 ≤ b.1) = numbered :=
    List.Perm.eq_of_pairwise (fun a b inSorted inNumbered below above =>
      List.inj_on_of_nodup_map distinct (permuted.mem_iff.1 inSorted) inNumbered
        (Nat.le_antisymm below above)) sorted ordered permuted
  rw [inOrder, unique]

namespace TaskGroup

variable {ε α : Type}

/-- Whatever the order in which numbered tasks end, either all succeed and their values can be put
back into the order of the tasks, or the failure of one of them is collected. -/
theorem collect_ofNumbered {tasks : List (Nat × Except ε α)} {order : List Nat}
    (ascending : (tasks.map Prod.fst).Pairwise (· < ·))
    (finishing : (ofNumbered tasks).IsFinishing order) :
    (∃ found, ((ofNumbered tasks).reordered order).collect.1 = .ok found ∧
        tasks.map Prod.snd = (inOrder found).map .ok) ∨
      ∃ error, ((ofNumbered tasks).reordered order).collect.1 = .error (.error error) ∧
        .error error ∈ tasks.map Prod.snd := by
  let handOn := fun task : Nat × Except ε α => task.2.map fun value => (task.1, value)
  have every : ∀ place < (tasks.map handOn).length, place ∈ order := by
    intro place inside
    refine finishing.every place ?_
    simpa [size, ofNumbered, ofOutcomes] using inside
  have permuted := filterMap_getElem?_perm finishing.once every
  rw [ofNumbered, reordered_ofOutcomes, collect]
  rcases collectFrom_ofOutcomes [] (order.filterMap ((tasks.map handOn)[·]?)) with
    ⟨found, collected, all⟩ | ⟨error, collected, failed⟩
  · -- What was collected are all outcomes, so no task has failed.
    have isValue : ∀ task ∈ tasks,
        task ∈ Set.range fun numbered : Nat × α => (numbered.1, Except.ok numbered.2) := by
      rintro ⟨number, outcome⟩ member
      have handedOn := permuted.mem_iff.2 (List.mem_map_of_mem (f := handOn) member)
      rw [all] at handedOn
      cases outcome with
      | ok value => exact ⟨(number, value), rfl⟩
      | error error => simp [handOn, Except.map] at handedOn
    obtain ⟨numbered, rfl⟩ : tasks ∈ Set.range (List.map _) := by
      rw [Set.range_list_map]
      exact isValue
    refine .inl ⟨found, collected, ?_⟩
    have handedOn : (numbered.map fun value => (value.1, Except.ok value.2)).map handOn =
        numbered.map (.ok : Nat × α → Except ε (Nat × α)) := by
      rw [List.map_map]
      rfl
    rw [all, handedOn] at permuted
    have same : found.Perm numbered :=
      (List.map_perm_map_iff fun _ _ equal => Except.ok.inj equal).1 permuted
    rw [List.map_map] at ascending
    rw [inOrder_of_perm same ascending, List.map_map, List.map_map]
    rfl
  · refine .inr ⟨error, collected, ?_⟩
    obtain ⟨⟨number, outcome⟩, member, handedOn⟩ := List.mem_map.1 (permuted.mem_iff.1 failed)
    refine List.mem_map.2 ⟨_, member, ?_⟩
    cases outcome with
    | ok value => cases handedOn
    | error other =>
      cases handedOn
      rfl

end TaskGroup

/-- The parts that items have, each with the place of its item. -/
def numbered {ι α : Type} (part? : ι → Option α) (items : List ι) : List (Nat × α) :=
  items.zipIdx.filterMap fun item => (part? item.1).map fun part => (item.2, part)

section numbered

variable {ι α : Type} (part? : ι → Option α) (items : List ι)

/-- Places ascend. -/
theorem numbered_ascending : ((numbered part? items).map Prod.fst).Pairwise (· < ·) := by
  have places : (items.zipIdx.map Prod.snd).Pairwise (· < ·) := by
    rw [List.zipIdx_map_snd]
    exact List.pairwise_lt_range'
  refine List.pairwise_map.2 ((List.pairwise_map.1 places).filterMap _ ?_)
  rintro first second less _ isFirst _ isSecond
  obtain ⟨_, -, rfl⟩ := Option.map_eq_some_iff.1 isFirst
  obtain ⟨_, -, rfl⟩ := Option.map_eq_some_iff.1 isSecond
  exact less

/-- There are at most as many parts as items. -/
theorem length_numbered_le : (numbered part? items).length ≤ items.length :=
  (List.length_filterMap_le _ _).trans (Nat.le_of_eq List.length_zipIdx)

/-- Without their places the parts are those of the items. -/
theorem map_snd_numbered : (numbered part? items).map Prod.snd = items.filterMap part? := by
  conv_rhs => rw [← List.zipIdx_map_fst 0 items]
  rw [numbered, List.map_filterMap, List.filterMap_map]
  refine List.filterMap_congr fun item _ => ?_
  rw [Option.map_map, Function.comp_apply]
  exact Option.map_id'

end numbered

namespace TaskGroup

variable {ι ε α : Type} {part? : ι → Option (Except ε α)} {items : List ι} {order : List Nat}

/-- The tasks of items may end in any order of the items. -/
theorem isFinishing_numbered (all : order.Perm (List.range items.length)) :
    (ofNumbered (numbered part? items)).IsFinishing order := by
  refine isFinishing_of_perm all (Nat.le_trans (Nat.le_of_eq ?_) (length_numbered_le part? items))
  rw [ofNumbered, ofOutcomes, size, List.length_map, List.length_map]

/-- Whatever the order in which the tasks of items end, either all succeed and their values can be
put back into the order of the items, or the failure of one of them is collected. -/
theorem collect_numbered (finishing : (ofNumbered (numbered part? items)).IsFinishing order) :
    (∃ found, ((ofNumbered (numbered part? items)).reordered order).collect.1 = .ok found ∧
        items.filterMap part? = (inOrder found).map .ok) ∨
      ∃ error, ((ofNumbered (numbered part? items)).reordered order).collect.1 =
          .error (.error error) ∧ .error error ∈ items.filterMap part? := by
  rw [← map_snd_numbered]
  exact collect_ofNumbered (numbered_ascending part? items) finishing

end TaskGroup
end Campus
