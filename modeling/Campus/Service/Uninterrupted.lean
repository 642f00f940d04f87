import Campus.Service.Concurrency
/-!
# Uninterrupted calls

A call whose stages are performed one after another, with no stage of another call in between, has
the result of the service's own operation and leaves the service as that operation does. So the
stages take the operations apart and add nothing to them.
-/

namespace Campus

namespace Stage

/-- Perform some stages of a call with no other call in between. -/
def advance (surroundings : Surroundings) (number : Nat) (change : Change) :
    (stages : Nat) → SharedService → Stage → SharedService × Stage
  | 0, shared, stage => (shared, stage)
  | stages + 1, shared, stage =>
    let (shared, stage) := next surroundings number change shared stage
    advance surroundings number change stages shared stage

/-- A call comes to its result within some stages and leaves a service. -/
def Ends (surroundings : Surroundings) (number : Nat) (change : Change) (stages : Nat)
    (shared : SharedService) (stage : Stage) (service : Service) (result : ChangeEnd) : Prop :=
  ∃ locks, advance surroundings number change stages shared stage = (⟨service, locks⟩, done result)

variable {surroundings : Surroundings} {number : Nat} {change : Change}

/-- A call that is over stays so. -/
theorem advance_done (stages : Nat) (shared : SharedService) (result : ChangeEnd) :
    advance surroundings number change stages shared (done result) = (shared, done result) := by
  induction stages with
  | zero => rfl
  | succ stages ih => simpa [advance, next] using ih

namespace Ends

variable {shared after : SharedService} {stage following : Stage} {service : Service}
  {result : ChangeEnd} {stages more : Nat}

/-- One stage comes before the others. -/
theorem step (first : next surroundings number change shared stage = (after, following))
    (rest : Ends surroundings number change stages after following service result) :
    Ends surroundings number change (stages + 1) shared stage service result := by
  obtain ⟨locks, reached⟩ := rest
  exact ⟨locks, by simp only [advance, first]; exact reached⟩

/-- More stages change nothing. -/
theorem mono (short : Ends surroundings number change stages shared stage service result)
    (bound : stages ≤ more) : Ends surroundings number change more shared stage service result := by
  induction stages generalizing shared stage more with
  | zero =>
    obtain ⟨locks, reached⟩ := short
    simp only [advance, Prod.mk.injEq] at reached
    exact ⟨locks, by rw [reached.1, reached.2]; exact advance_done _ _ _⟩
  | succ stages ih =>
    obtain ⟨rest, rfl⟩ : ∃ rest, more = rest + 1 := ⟨more - 1, by omega⟩
    obtain ⟨locks, reached⟩ := short
    exact step rfl (ih ⟨locks, reached⟩ (by omega))

/-- A call that is over but for its lock ends with its result. -/
theorem releasing (shared : SharedService) (result : ChangeEnd) :
    Ends surroundings number change 2 shared (releasing result) shared.service result :=
  ⟨_, rfl⟩

/-- A write in a call goes through the stages that it has by itself, counted generously. -/
theorem counted {write : StoreWrite} {count : Nat} (enough : write.stagesLeft ≤ count)
    (rest : Ends surroundings number change stages
      { shared with service := { shared.service with
          store := (write.advance surroundings.device count shared.service.store).1 } }
      (ofWrite change (write.advance surroundings.device count shared.service.store).2)
      service result) :
    Ends surroundings number change (count + stages) shared (writing write) service result := by
  induction count generalizing shared write with
  | zero => cases write <;> simp [StoreWrite.stagesLeft] at enough
  | succ count ih =>
    rw [Nat.succ_add]
    unfold StoreWrite.advance at rest
    split at rest
    · next store write' finish =>
      have fewer := StoreWrite.stagesLeft_lt_of_stage finish
      have first : next surroundings number change shared (writing write) =
          ({ shared with service := { shared.service with store } }, writing write') := by
        simp only [next, finish, ofWrite]
      exact step first (ih (by omega) rest)
    · exact mono (step rfl rest) (by omega)

/-- A write in a call changes the store as it does by itself, and the call goes on with what it
comes to. -/
theorem written {write : StoreWrite}
    (rest : Ends surroundings number change stages
      { shared with service := { shared.service with
          store := (write.perform surroundings.device shared.service.store).1 } }
      (ofWrite change ((write.perform surroundings.device shared.service.store).2.map Sum.inr))
      service result) :
    Ends surroundings number change (write.stagesLeft + stages) shared (writing write) service
      result :=
  counted (Nat.le_refl _) (by rw [StoreWrite.advance_eq_perform]; exact rest)

variable {id : String} {kind : DatasetKind} {upload : Upload}

/-- A call that puts a dataset ends as the service's commit does. -/
theorem committing (shared : SharedService) (dataset : Dataset) :
    Ends surroundings number (.add id kind upload) 7 shared (writing (.put dataset))
      (shared.service.commit surroundings dataset).1
      (shared.service.commit surroundings dataset).2 := by
  change Ends surroundings number (.add id kind upload) ((StoreWrite.put dataset).stagesLeft + 3)
    shared (writing (.put dataset)) _ _
  apply written
  unfold Service.commit Store.put
  split
  · next finish => simp only [finish]; exact step rfl (releasing _ _)
  · next finish => simp only [finish]; exact mono (releasing _ _) (by omega)

/-- An addition that has its lock ends as the service's addition does. -/
theorem adding (shared : SharedService) (valid : Service.checkId id = .ok ()) :
    Ends surroundings number (.add id kind upload) 9 shared checking
      (shared.service.add surroundings id kind upload).1
      (shared.service.add surroundings id kind upload).2 := by
  unfold Service.add
  simp only [valid]
  cases isNew : shared.service.checkNew id with
  | error error =>
    have first : next surroundings number (.add id kind upload) shared checking =
        (shared, .releasing (.error error)) := by
      simp only [next, Change.id, isNew]
    exact mono (step first (releasing _ _)) (by omega)
  | ok _ =>
    have first : next surroundings number (.add id kind upload) shared checking =
        (shared, ingesting) := by
      simp only [next, Change.id, isNew]
    refine step first ?_
    cases ingested : shared.service.ingest surroundings id kind upload with
    | mk service outcome =>
      cases outcome with
      | error error =>
        have second : next surroundings number (.add id kind upload) shared ingesting =
            ({ shared with service }, .releasing (.error error)) := by
          simp only [next, ingested]
        exact mono (step second (releasing { shared with service } _)) (by omega)
      | ok dataset =>
        have second : next surroundings number (.add id kind upload) shared ingesting =
            ({ shared with service }, writing (.put dataset)) := by
          simp only [next, ingested]
        exact step second (committing { shared with service } dataset)

/-- A removal that has its lock ends as the service's removal does. -/
theorem removing (shared : SharedService) (valid : Service.checkId id = .ok ()) :
    Ends surroundings number (.remove id) 5 shared (writing (.delete id))
      (shared.service.remove surroundings id).1
      ((shared.service.remove surroundings id).2.map fun id => [id]) := by
  change Ends surroundings number (.remove id) ((StoreWrite.delete id).stagesLeft + 2)
    shared (writing (.delete id)) _ _
  apply written
  unfold Service.remove Store.delete
  simp only [valid]
  split <;> next finish => simp only [finish]; exact releasing _ _

end Ends

/-- Whether the lock of a call's id is free for it. -/
def IsFree (number : Nat) (change : Change) (shared : SharedService) : Prop :=
  ((shared.locks.arrive number change.id).enter? number).isSome

/-- An addition that is not interrupted and does not have to wait does what the service's addition
does. -/
theorem ends_add {id : String} {kind : DatasetKind} {upload : Upload} (shared : SharedService)
    (free : IsFree number (.add id kind upload) shared) :
    Ends surroundings number (.add id kind upload) 11 shared called
      (shared.service.add surroundings id kind upload).1
      (shared.service.add surroundings id kind upload).2 := by
  obtain ⟨locks, entered⟩ := Option.isSome_iff_exists.1 free
  cases valid : Service.checkId id with
  | error error =>
    have first : next surroundings number (.add id kind upload) shared called =
        (shared, done (.error error)) := by
      simp only [next, Change.id, valid]
    refine Ends.mono (Ends.step first ⟨shared.locks, ?_⟩) (Nat.le_add_left 1 10)
    simp [Service.add, valid, advance]
  | ok _ =>
    have first : next surroundings number (.add id kind upload) shared called =
        ({ shared with locks := shared.locks.arrive number id }, waiting) := by
      simp only [next, Change.id, valid]
    have second : next surroundings number (.add id kind upload)
        { shared with locks := shared.locks.arrive number id } waiting =
        ({ shared with locks }, checking) := by
      simp only [Change.id] at entered
      simp only [next, entered]
    exact Ends.step first (Ends.step second (Ends.adding { shared with locks } valid))

/-- A removal that is not interrupted and does not have to wait does what the service's removal
does. -/
theorem ends_remove {id : String} (shared : SharedService)
    (free : IsFree number (.remove id) shared) :
    Ends surroundings number (.remove id) 7 shared called
      (shared.service.remove surroundings id).1
      ((shared.service.remove surroundings id).2.map fun id => [id]) := by
  obtain ⟨locks, entered⟩ := Option.isSome_iff_exists.1 free
  cases valid : Service.checkId id with
  | error error =>
    have first : next surroundings number (.remove id) shared called =
        (shared, done (.error error)) := by
      simp only [next, Change.id, valid]
    refine Ends.mono (Ends.step first ⟨shared.locks, ?_⟩) (Nat.le_add_left 1 6)
    simp [Service.remove, valid, advance, Except.map]
  | ok _ =>
    have first : next surroundings number (.remove id) shared called =
        ({ shared with locks := shared.locks.arrive number id }, waiting) := by
      simp only [next, Change.id, valid]
    have second : next surroundings number (.remove id)
        { shared with locks := shared.locks.arrive number id } waiting =
        ({ shared with locks }, writing (.delete id)) := by
      simp only [Change.id] at entered
      simp only [next, entered]
    exact Ends.step first (Ends.step second (Ends.removing { shared with locks } valid))

end Stage
end Campus
