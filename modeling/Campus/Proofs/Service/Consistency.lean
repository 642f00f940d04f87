import Campus.Proofs.Service.Standing
/-!
# Calls that rely on each other

A stage of a call changes the store under one id, and no other call that has its lock is about that
id. So every call can rely on what its stage asks for, from the first call to any moment of any
order of stages, and the shelf changes exactly when a call commits.
-/

namespace Campus

namespace Traffic

/-- An open service with calls under way, each of which can rely on what its stage asks for. A blob
differs from what the shelf asks for only while a call writes it. -/
structure IsConsistent (calls : Nat → Surroundings × Change) (view : String → Option Dataset)
    (traffic : Traffic) : Prop where
  turns : traffic.TakesTurns calls
  isOpen : traffic.store.shelf.isClosed = false
  backs : ∀ folder, traffic.store.folder = some folder → folder.Backs view
  settled : ∀ id, (∀ number write, traffic.stages number = .writing write →
    (calls number).2.id ≠ id) → view id = traffic.store.shelf.datasets.get? id
  stands : ∀ number, (traffic.stages number).Stands (calls number).1 (calls number).2
    (number ∈ traffic.commits) traffic.store view
  nodup : traffic.commits.Nodup

/-- What a stage of a call does to the shelf: nothing, or the call has its lock and commits. -/
def Advances (calls : Nat → Surroundings × Change) (traffic : Traffic) (number : Nat)
    (after : Traffic) : Prop :=
  (after.commits = traffic.commits ∧ after.store.shelf = traffic.store.shelf) ∨
    ((traffic.stages number).phase? = some .holding ∧
      after.commits = traffic.commits ++ [number] ∧
      ∃ first, (calls number).2.Commits (calls number).1 traffic.store after.store.shelf first)

variable {calls : Nat → Surroundings × Change} {traffic : Traffic} {number : Nat}
  {view : String → Option Dataset}

/-- Before the first call everything is as the store has it. -/
theorem isConsistent_start {service : Service} (isOpen : service.store.shelf.isClosed = false)
    (backs : ∀ folder, service.store.folder = some folder →
      folder.Backs service.store.shelf.datasets.get?)
    (calls : Nat → Surroundings × Change) :
    (start service).IsConsistent calls service.store.shelf.datasets.get? :=
  ⟨takesTurns_start calls service, isOpen, backs, fun _ _ => rfl, fun _ => List.not_mem_nil,
    List.nodup_nil⟩

namespace IsConsistent

/-- A stage in which a call does not write. -/
theorem step_of_ne_writing (consistent : traffic.IsConsistent calls view)
    (idle : ∀ write, traffic.stages number ≠ .writing write) :
    (traffic.step calls number).IsConsistent calls view ∧
      (traffic.step calls number).store = traffic.store ∧
      (traffic.step calls number).commits = traffic.commits := by
  have turns := takesTurns_step consistent.turns number
  have isOther {other : Nat} {write : StoreWrite}
      (writes : traffic.stages other = .writing write) : other ≠ number := by
    rintro rfl
    exact idle write writes
  -- nobody else can be writing what this call has the lock of
  have alone (holds : ((traffic.stages number).next (calls number).1 number (calls number).2
      traffic.shared).2.phase? = some .holding) :
      view (calls number).2.id = traffic.store.shelf.datasets.get? (calls number).2.id := by
    refine consistent.settled _ fun other write writes same => isOther writes ?_
    refine eq_of_holding turns ?_ (stages_step_self calls traffic number ▸ holds) same
    rw [stages_step_of_ne calls traffic (isOther writes), writes]
    rfl
  obtain ⟨store, uncommitted, stands⟩ := (consistent.stands number).next_of_ne_writing number
    consistent.isOpen consistent.backs idle alone
  have commits : (traffic.step calls number).commits = traffic.commits :=
    if_neg (by rw [uncommitted]; exact Bool.false_ne_true)
  have sameStore : (traffic.step calls number).store = traffic.store := store
  refine ⟨⟨turns, ?_, ?_, ?_, ?_, ?_⟩, sameStore, commits⟩
  · rw [sameStore]
    exact consistent.isOpen
  · rw [sameStore]
    exact consistent.backs
  · intro id free
    rw [sameStore]
    refine consistent.settled id fun other write writes => free other write ?_
    rw [stages_step_of_ne calls traffic (isOther writes), writes]
  · intro other
    rw [sameStore, commits]
    by_cases same : other = number
    · rw [same, stages_step_self]
      exact stands
    · rw [stages_step_of_ne calls traffic same]
      exact consistent.stands other
  · rw [commits]
    exact consistent.nodup

/-- A stage of a call that has its lock and changes the store under its id only. The others can rely
on what they could rely on, as they are about other ids or do not have their locks. -/
theorem step_of_leaves (consistent : traffic.IsConsistent calls view) {blob : Option Dataset}
    (holds : (traffic.stages number).phase? = some .holding) (uncommitted : number ∉ traffic.commits)
    (stillOpen : (traffic.step calls number).store.shelf.isClosed = traffic.store.shelf.isClosed)
    (kept : ∀ other, other ≠ (calls number).2.id →
      (traffic.step calls number).store.shelf.datasets.get? other =
        traffic.store.shelf.datasets.get? other)
    (leaves : StoreWrite.Leaves traffic.store view (calls number).2.id blob
      (traffic.step calls number).store)
    (settled : (∀ write, (traffic.step calls number).stages number ≠ .writing write) →
      blob = (traffic.step calls number).store.shelf.datasets.get? (calls number).2.id)
    (stands : ((traffic.step calls number).stages number).Stands (calls number).1 (calls number).2
      (number ∈ (traffic.step calls number).commits) (traffic.step calls number).store
      (Function.update view (calls number).2.id blob)) :
    (traffic.step calls number).IsConsistent calls
      (Function.update view (calls number).2.id blob) := by
  refine ⟨takesTurns_step consistent.turns number, stillOpen.trans consistent.isOpen, leaves.backs,
    fun id free => ?_, fun other => ?_, nodup_commits_step consistent.nodup uncommitted calls⟩
  · by_cases own : id = (calls number).2.id
    · rw [own, Function.update_self]
      exact settled fun write goesOn => free number write goesOn own.symm
    · rw [Function.update_of_ne own, kept id own]
      refine consistent.settled id fun writer write isWriting => ?_
      by_cases same : writer = number
      · rw [same]
        exact fun sameId => own sameId.symm
      · exact free writer write ((stages_step_of_ne calls traffic same).trans isWriting)
  · by_cases same : other = number
    · rw [same]
      exact stands
    · rw [stages_step_of_ne calls traffic same, mem_commits_step_of_ne calls traffic same]
      refine (consistent.stands other).frame stillOpen kept leaves fun otherHolds sameId => ?_
      exact same (eq_of_holding consistent.turns otherHolds holds sameId)

/-- A stage in which a call writes. -/
theorem step_of_writing (consistent : traffic.IsConsistent calls view) {write : StoreWrite}
    (writes : traffic.stages number = .writing write) :
    (∃ view, (traffic.step calls number).IsConsistent calls view) ∧
      (traffic.step calls number).store.folder.isSome = traffic.store.folder.isSome ∧
      traffic.Advances calls number (traffic.step calls number) := by
  have holds : (traffic.stages number).phase? = some .holding := by
    rw [writes]
    rfl
  have own := consistent.stands number
  rw [writes] at own
  have uncommitted : number ∉ traffic.commits := own.1
  obtain ⟨blob, outcome⟩ := own.next_of_writing number
  rw [← writes, ← stages_step_self] at outcome
  obtain ⟨leaves, settled, outcome⟩ := outcome
  rcases outcome with ⟨uncommits, shelf, stands⟩ | ⟨commits, ⟨first, change⟩, stands⟩
  · have same : (traffic.step calls number).commits = traffic.commits :=
      if_neg (by rw [← stages_step_self, uncommits]; exact Bool.false_ne_true)
    have kept : (traffic.step calls number).store.shelf = traffic.store.shelf := shelf
    rw [← same] at stands
    refine ⟨⟨_, consistent.step_of_leaves holds uncommitted ?_ ?_ leaves settled stands⟩,
      leaves.hasFolder, .inl ⟨same, kept⟩⟩
    · rw [kept]
    · intro other _
      rw [kept]
  · have last : (traffic.step calls number).commits = traffic.commits ++ [number] :=
      if_pos (by rw [← stages_step_self, commits])
    have isThere : (number ∈ (traffic.step calls number).commits) = True := by simp [last]
    obtain ⟨stillOpen, kept⟩ := change.frame
    rw [← isThere] at stands
    exact ⟨⟨_, consistent.step_of_leaves holds uncommitted stillOpen kept leaves settled stands⟩,
      leaves.hasFolder, .inr ⟨holds, last, first, change⟩⟩

/-- Any stage of any call. -/
theorem step (consistent : traffic.IsConsistent calls view) (number : Nat) :
    (∃ view, (traffic.step calls number).IsConsistent calls view) ∧
      (traffic.step calls number).store.folder.isSome = traffic.store.folder.isSome ∧
      traffic.Advances calls number (traffic.step calls number) := by
  by_cases writes : ∃ write, traffic.stages number = .writing write
  · obtain ⟨write, writes⟩ := writes
    exact consistent.step_of_writing writes
  · obtain ⟨after, store, commits⟩ :=
      consistent.step_of_ne_writing fun write isWriting => writes ⟨write, isWriting⟩
    rw [store]
    exact ⟨⟨view, after⟩, rfl, .inl ⟨commits, congrArg Store.shelf store⟩⟩

/-- Any stages of any calls in any order. -/
theorem run (consistent : traffic.IsConsistent calls view) (schedule : List Nat) :
    ∃ view, (traffic.run calls schedule).IsConsistent calls view := by
  induction schedule generalizing traffic view with
  | nil => exact ⟨view, consistent⟩
  | cons number rest ih =>
    obtain ⟨⟨following, after⟩, -⟩ := consistent.step number
    exact ih after

/-- A call that is not under way has committed if and only if it has succeeded. -/
theorem mem_commits_iff (consistent : traffic.IsConsistent calls view)
    (idle : (traffic.stages number).phase? = none) :
    number ∈ traffic.commits ↔ ∃ ids, traffic.stages number = .done (.ok ids) := by
  have stands := consistent.stands number
  cases stage : traffic.stages number with
  | called =>
    rw [stage] at stands
    exact iff_of_false stands (by simp)
  | done result =>
    rw [stage] at stands
    simpa using stands.1
  | _ =>
    rw [stage] at idle
    cases idle

/-- While no call is under way the folder backs the shelf. -/
theorem backs_of_idle (consistent : traffic.IsConsistent calls view)
    (idle : ∀ number, (traffic.stages number).phase? = none) (folder : Folder)
    (found : traffic.store.folder = some folder) :
    folder.Backs traffic.store.shelf.datasets.get? := by
  have settled : view = traffic.store.shelf.datasets.get? := by
    funext id
    refine consistent.settled id fun number write writes => ?_
    have nothing := idle number
    rw [writes] at nothing
    cases nothing
  rw [← settled]
  exact consistent.backs folder found

end IsConsistent
end Traffic
end Campus
