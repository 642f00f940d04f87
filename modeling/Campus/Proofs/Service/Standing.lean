import Campus.Proofs.Service.Shape
import Campus.Proofs.Service.Traffic
import Campus.Proofs.Store.Stages
/-!
# Where calls stand

What a call has found out holds as long as it has its lock: the others change nothing under its id,
neither on the shelf nor in the folder. So each stage of a call has something to rely on, whatever
stages of other calls came between. This is kept by the stages of the call itself and by those of
the others.
-/

namespace Campus

/-- The write that a change begins with. What an upload gives does not depend on the service. -/
inductive Change.Begins (surroundings : Surroundings) : Change → StoreWrite → Prop
  | add {id : String} {kind : DatasetKind} {upload : Upload} {d : Dataset}
    (ingested : ∀ service : Service, (service.ingest surroundings id kind upload).2 = .ok d) :
    Begins surroundings (.add id kind upload) (.put d)
  | remove (id : String) : Begins surroundings (.remove id) (.delete id)

/-- A write that goes on with what another one has begun. -/
structure StoreWrite.GoesOn (device : Device) (store : Store) (first write : StoreWrite) :
    Prop where
  id : write.id = first.id
  target : ∀ shelf, write.target shelf = first.target shelf
  finds : ∀ shelf, write.finds shelf = first.finds shelf
  passes : write.passes device store = first.passes device store

/-- What a call at a stage relies on, given whether it has committed. -/
def Stage.Stands (surroundings : Surroundings) (change : Change) (committed : Prop) (store : Store)
    (view : String → Option Dataset) : Stage → Prop
  | called => ¬committed
  | waiting => ¬committed ∧ Service.checkId change.id = .ok ()
  | checking =>
    ¬committed ∧ Service.checkId change.id = .ok () ∧ change.isAddition = true
  | ingesting =>
    ¬committed ∧ Service.checkId change.id = .ok () ∧ change.isAddition = true ∧
      store.shelf.datasets.contains change.id = false
  | writing write =>
    ¬committed ∧ Service.checkId change.id = .ok () ∧
      (change.isAddition = true → store.shelf.datasets.contains change.id = false) ∧
      write.IsUnderWay store view ∧
      ∃ first, change.Begins surroundings first ∧
        StoreWrite.GoesOn surroundings.device store first write
  | listing => committed ∧ ∃ d, store.shelf.datasets.get? change.id = some d ∧ d.id = change.id
  | releasing result | clearing result | done result =>
    (committed ↔ ∃ ids, result = .ok ids) ∧ ∀ ids, result = .ok ids → change.id ∈ ids

/-- What a call does to the shelf when it commits. -/
structure Change.Commits (surroundings : Surroundings) (change : Change) (store : Store)
    (after : Shelf) (first : StoreWrite) : Prop where
  valid : Service.checkId change.id = .ok ()
  begins : change.Begins surroundings first
  new : change.isAddition = true → store.shelf.datasets.contains change.id = false
  finds : first.finds store.shelf = true
  passes : first.passes surroundings.device store = true
  target : after = first.target store.shelf

variable {surroundings : Surroundings} {change : Change} {committed : Prop}
  {store after : Store} {view : String → Option Dataset} {first write : StoreWrite}

namespace Change.Begins

/-- A change begins with a write about its own id. -/
theorem id (begins : change.Begins surroundings first) : first.id = change.id := by
  cases begins with
  | add ingested => exact Service.id_of_ingest (ingested (.onStore (.inMemory []) 0))
  | remove id => rfl

/-- A write that a change begins with has not been through any stage. -/
theorem isFirst (begins : change.Begins surroundings first) :
    (∃ d, first = .put d) ∨ ∃ id, first = .delete id := by
  cases begins with
  | add ingested => exact .inl ⟨_, rfl⟩
  | remove id => exact .inr ⟨id, rfl⟩

end Change.Begins

/-- A commit closes nothing and changes nothing under other ids. -/
theorem Change.Commits.frame {after : Shelf}
    (commits : change.Commits surroundings store after first) :
    after.isClosed = store.shelf.isClosed ∧
      ∀ other, other ≠ change.id →
        after.datasets.get? other = store.shelf.datasets.get? other := by
  rw [commits.target]
  refine ⟨StoreWrite.isClosed_target .., fun other differs => ?_⟩
  exact StoreWrite.get?_target_of_ne _ first (commits.begins.id ▸ differs)

namespace StoreWrite.GoesOn

/-- A write goes on with itself. -/
theorem refl (device : Device) (store : Store) (write : StoreWrite) :
    GoesOn device store write write :=
  ⟨rfl, fun _ => rfl, fun _ => rfl, rfl⟩

/-- The next stage of a write goes on with what the write has begun. -/
theorem following (goesOn : GoesOn surroundings.device store first write)
    {next : StoreWrite}
    (comes : ComesTo surroundings.device store view write after (.ok (.inl next))) :
    GoesOn surroundings.device after first next := by
  obtain ⟨-, sameId, aim, passes, -, -, leaves⟩ := comes
  refine ⟨sameId.trans goesOn.id, fun shelf => (aim shelf).1.trans (goesOn.target shelf),
    fun shelf => (aim shelf).2.trans (goesOn.finds shelf), ?_⟩
  rw [passes, goesOn.passes, passes_congr leaves.hasFolder]

end StoreWrite.GoesOn

namespace Service

variable {service : Service}

/-- An open service refuses an id exactly if it has a dataset of it. -/
theorem checkNew_of_isOpen (isOpen : service.store.shelf.isClosed = false) (id : String) :
    service.checkNew id =
      if service.store.shelf.datasets.contains id then .error (.duplicateId id) else .ok () := by
  have looked : service.store.contains id = .ok (service.store.shelf.datasets.contains id) :=
    Shelf.contains_eq_ok_iff.2 ⟨isOpen, rfl⟩
  rw [checkNew, looked]
  cases service.store.shelf.datasets.contains id <;> rfl

/-- An id is new to an open service if it has no dataset of it. -/
theorem checkNew_eq_ok_iff (isOpen : service.store.shelf.isClosed = false) {id : String} :
    service.checkNew id = .ok () ↔ service.store.shelf.datasets.contains id = false := by
  rw [checkNew_of_isOpen isOpen]
  cases service.store.shelf.datasets.contains id <;> simp

end Service

namespace Stage

variable {stage : Stage}

/-- What a call relies on stays when files and datasets of another id change, or of any id before
the call has its lock. -/
theorem Stands.frame (stands : stage.Stands surroundings change committed store view)
    {key : String} {blob : Option Dataset}
    (stillOpen : after.shelf.isClosed = store.shelf.isClosed)
    (kept : ∀ other, other ≠ key →
      after.shelf.datasets.get? other = store.shelf.datasets.get? other)
    (leaves : StoreWrite.Leaves store view key blob after)
    (differs : stage.phase? = some .holding → change.id ≠ key) :
    stage.Stands surroundings change committed after (Function.update view key blob) := by
  have same (holds : stage.phase? = some .holding) :
      after.shelf.datasets.get? change.id = store.shelf.datasets.get? change.id :=
    kept change.id (differs holds)
  cases stage with
  | called | waiting | checking | releasing | clearing | done => exact stands
  | ingesting =>
    obtain ⟨uncommitted, valid, isAddition, new⟩ := stands
    refine ⟨uncommitted, valid, isAddition, ?_⟩
    rwa [Keyed.contains, same rfl]
  | writing write =>
    obtain ⟨uncommitted, valid, new, underWay, first, begins, goesOn⟩ := stands
    have own : write.id = change.id := goesOn.id.trans begins.id
    have other : write.id ≠ key := own ▸ differs rfl
    refine ⟨uncommitted, valid, fun isAddition => ?_,
      underWay.frame stillOpen (own ▸ same rfl) leaves other, first, begins,
      goesOn.id, goesOn.target, goesOn.finds, ?_⟩
    · rw [Keyed.contains, same rfl]
      exact new isAddition
    · rw [StoreWrite.passes_congr leaves.hasFolder, StoreWrite.passes_congr leaves.hasFolder]
      exact goesOn.passes
  | listing =>
    obtain ⟨isCommitted, d, held, own⟩ := stands
    exact ⟨isCommitted, d, (same rfl).trans held, own⟩

/-- A stage in which a call does not write leaves the store alone, and what the next one relies on
holds. Before a call writes, the blob of its id is as the shelf asks for. -/
theorem Stands.next_of_ne_writing {shared : SharedService} (number : Nat)
    (stands : stage.Stands surroundings change committed shared.service.store view)
    (isOpen : shared.service.store.shelf.isClosed = false)
    (backs : ∀ folder, shared.service.store.folder = some folder → folder.Backs view)
    (idle : ∀ write, stage ≠ .writing write)
    (settled : (stage.next surroundings number change shared).2.phase? = some .holding →
      view change.id = shared.service.store.shelf.datasets.get? change.id) :
    let after := stage.next surroundings number change shared
    after.1.service.store = shared.service.store ∧ stage.commits after.2 = false ∧
      after.2.Stands surroundings change committed shared.service.store view := by
  have failed {error : ServiceError} (uncommitted : ¬committed) :
      (committed ↔ ∃ ids, (.error error : ChangeEnd) = .ok ids) ∧
        ∀ ids, (.error error : ChangeEnd) = .ok ids → change.id ∈ ids := by
    simp [uncommitted]
  cases stage with
  | called =>
    simp only [next]
    split
    · next valid => exact ⟨rfl, rfl, stands, valid⟩
    · exact ⟨rfl, rfl, failed stands⟩
  | waiting =>
    obtain ⟨uncommitted, valid⟩ := stands
    cases entered : shared.locks.enter? number with
    | none =>
      simp only [next, entered]
      exact ⟨trivial, rfl, uncommitted, valid⟩
    | some locks =>
      cases change with
      | add id kind upload =>
        simp only [next, entered]
        exact ⟨trivial, rfl, uncommitted, valid, rfl⟩
      | remove id =>
        have known := settled (by simp only [next, entered, phase?])
        have underWay := StoreWrite.isUnderWay_of_begins isOpen backs (.inr ⟨id, rfl⟩) known
        simp only [next, entered]
        exact ⟨trivial, rfl, uncommitted, valid, fun impossible => (by cases impossible), underWay,
          .delete id, .remove id, .refl _ _ _⟩
  | checking =>
    obtain ⟨uncommitted, valid, isAddition⟩ := stands
    simp only [next]
    split
    · next new =>
      exact ⟨rfl, rfl, uncommitted, valid, isAddition, (Service.checkNew_eq_ok_iff isOpen).1 new⟩
    · exact ⟨rfl, rfl, failed uncommitted⟩
  | ingesting =>
    obtain ⟨uncommitted, valid, isAddition, new⟩ := stands
    cases change with
    | remove id => cases isAddition
    | add id kind upload =>
      have kept := Service.store_ingest surroundings shared.service id kind upload
      have alike := fun other =>
        Service.ingest_eq surroundings shared.service other id kind upload
      cases ingested : shared.service.ingest surroundings id kind upload with
      | mk service outcome =>
        rw [ingested] at kept alike
        cases outcome with
        | error error =>
          simp only [next, ingested]
          exact ⟨kept, rfl, failed uncommitted⟩
        | ok d =>
          have known := settled (by simp only [next, ingested, phase?])
          have begins : Change.Begins surroundings (.add id kind upload) (.put d) := .add alike
          rw [← begins.id] at known
          have underWay := StoreWrite.isUnderWay_of_begins isOpen backs (.inl ⟨d, rfl⟩) known
          simp only [next, ingested]
          exact ⟨kept, rfl, uncommitted, valid, fun _ => new, underWay, .put d, begins,
            .refl _ _ _⟩
  | writing write => exact absurd rfl (idle write)
  | listing =>
    obtain ⟨isCommitted, d, held, own⟩ := stands
    have listed := Service.ids_of_isOpen isOpen
    refine ⟨rfl, rfl, iff_of_true isCommitted ⟨_, listed⟩, fun ids same => ?_⟩
    rw [listed] at same
    cases same
    rw [← own]
    exact List.mem_map_of_mem (Keyed.mem_values_iff.2 ⟨_, held⟩)
  | releasing result => exact ⟨rfl, rfl, stands⟩
  | clearing result => exact ⟨rfl, rfl, stands⟩
  | done result => exact ⟨rfl, rfl, stands⟩

/-- A stage of a write changes the store under the id of the call only. Either the call does not
commit, the shelf is as it was, and the blob of the id is as the shelf asks for unless the call goes
on writing; or it commits, and shelf and blob are as the change asks for. -/
theorem Stands.next_of_writing {shared : SharedService} (number : Nat)
    (stands : (writing write).Stands surroundings change committed shared.service.store view) :
    let after := (writing write).next surroundings number change shared
    ∃ blob, StoreWrite.Leaves shared.service.store view change.id blob after.1.service.store ∧
      ((∀ next, after.2 ≠ .writing next) →
        blob = after.1.service.store.shelf.datasets.get? change.id) ∧
      (((writing write).commits after.2 = false ∧
          after.1.service.store.shelf = shared.service.store.shelf ∧
          after.2.Stands surroundings change committed after.1.service.store
            (Function.update view change.id blob)) ∨
        ((writing write).commits after.2 = true ∧
          (∃ first, change.Commits surroundings shared.service.store
            after.1.service.store.shelf first) ∧
          after.2.Stands surroundings change True after.1.service.store
            (Function.update view change.id blob))) := by
  obtain ⟨uncommitted, valid, new, underWay, first, begins, goesOn⟩ := stands
  have own : write.id = change.id := goesOn.id.trans begins.id
  have comes := underWay.stage surroundings.device
  dsimp only [next]
  generalize write.stage surroundings.device shared.service.store = stage at comes
  obtain ⟨after, outcome⟩ := stage
  match outcome with
  | .ok (.inl following) =>
    have continued := underWay.following comes
    have onward := goesOn.following comes
    obtain ⟨shelf, sameId, -, -, -, -, leaves⟩ := comes
    rw [own] at continued leaves
    refine ⟨_, leaves, fun idle => absurd rfl (idle following), .inl ⟨rfl, shelf, ?_⟩⟩
    exact ⟨uncommitted, valid, by rwa [shelf], continued, first, begins, onward⟩
  | .error error =>
    obtain ⟨shelf, -, -, -, leaves⟩ := comes
    rw [own, ← shelf] at leaves
    refine ⟨_, leaves, fun _ => rfl, .inl ⟨rfl, shelf, ?_⟩⟩
    exact ⟨iff_of_false uncommitted (by simp), by simp⟩
  | .ok (.inr found) =>
    obtain ⟨shelf, isFound, passes, leaves⟩ := comes
    rw [own] at leaves
    rw [goesOn.target] at shelf
    rw [goesOn.finds] at isFound
    rw [goesOn.passes] at passes
    refine ⟨_, leaves, fun _ => rfl, ?_⟩
    cases begins with
    | @add id kind upload d ingested =>
      have begins : Change.Begins surroundings (.add id kind upload) (.put d) := .add ingested
      refine .inr ⟨rfl, ⟨.put d, valid, begins, new, rfl, passes isFound, shelf⟩, trivial, d, ?_,
        begins.id⟩
      rw [shelf, ← begins.id]
      exact (Keyed.get?_insert ..).trans (if_pos rfl)
    | remove id =>
      cases found with
      | true =>
        refine .inr ⟨rfl, ⟨.delete id, valid, .remove id, new, isFound.symm, passes rfl, shelf⟩,
          iff_of_true trivial ⟨_, rfl⟩, fun ids same => ?_⟩
        cases same
        exact List.mem_singleton_self _
      | false =>
        refine .inl ⟨rfl, ?_, iff_of_false uncommitted (by simp), by simp⟩
        have absent : shared.service.store.shelf.datasets.contains id = false := isFound.symm
        rw [shelf, StoreWrite.target, Keyed.erase_of_contains_eq_false absent]

end Stage
end Campus
