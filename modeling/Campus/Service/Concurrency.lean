import Campus.Service.Basic
import Campus.Service.WriterLocks
/-!
# Concurrent calls

Calls that change datasets go through stages: they wait for the writer lock of their id, check the
id, ingest, write stage by stage, list the ids, and release the lock. Calls that read list the
datasets first and then read one. A service in use performs the stages of its calls in any order, so
what a call does is what `Stage.next` does at some moments between the stages of others.
-/

namespace Campus

/-- A change that a caller asks for. -/
inductive Change
  | add (id : String) (kind : DatasetKind) (upload : Upload)
  | remove (id : String)
deriving DecidableEq

/-- The id that a change is about. -/
def Change.id : Change → String
  | add id _ _ => id
  | remove id => id

/-- How a change ends: with the ids of all datasets after an addition, with the one id that was
removed after a removal, or with a failure. -/
abbrev ChangeEnd := Except ServiceError (List String)

/-- Where a call that changes datasets stands. -/
inductive Stage
  /-- The call has just been made. -/
  | called
  /-- It has a handle of the lock. -/
  | waiting
  /-- It holds the lock and will look whether the id is new. -/
  | checking
  /-- It will ingest the upload. -/
  | ingesting
  /-- It is about to perform a stage of a write. -/
  | writing (write : StoreWrite)
  /-- It has written and will list the ids. -/
  | listing
  /-- It is over and will release the lock. -/
  | releasing (result : ChangeEnd)
  /-- It has released the lock and will clear the table. -/
  | clearing (result : ChangeEnd)
  | done (result : ChangeEnd)

/-- A service with the locks of its writers. -/
structure SharedService where
  service : Service
  locks : WriterLocks

namespace Stage

/-- What a write comes to in a call. -/
def ofWrite (change : Change) : StoreWrite.StageEnd → Stage
  | .ok (.inl write) => writing write
  | .ok (.inr found) =>
    match change with
    | .add _ _ _ => listing
    | .remove id => if found then releasing (.ok [id]) else releasing (.error (.unknownId id))
  | .error error => releasing (.error (.store error))

/-- Perform the next stage of a call by the writer of some number. A writer whose lock is held stays
where it is. -/
def next (surroundings : Surroundings) (number : Nat) (change : Change) (shared : SharedService) :
    Stage → SharedService × Stage
  | called =>
    match Service.checkId change.id with
    | .ok () => ({ shared with locks := shared.locks.arrive number change.id }, waiting)
    | .error error => (shared, done (.error error))
  | waiting =>
    match shared.locks.enter? number with
    | some locks =>
      ({ shared with locks }, match change with
        | .add _ _ _ => checking
        | .remove id => writing (.delete id))
    | none => (shared, waiting)
  | checking =>
    match shared.service.checkNew change.id with
    | .ok () => (shared, ingesting)
    | .error error => (shared, releasing (.error error))
  | ingesting =>
    match change with
    | .add id kind upload =>
      match shared.service.ingest surroundings id kind upload with
      | (service, .ok dataset) => ({ shared with service }, writing (.put dataset))
      | (service, .error error) => ({ shared with service }, releasing (.error error))
    | .remove id => (shared, writing (.delete id))
  | writing write =>
    let (store, result) := write.stage surroundings.device shared.service.store
    ({ shared with service := { shared.service with store } }, ofWrite change result)
  | listing => (shared, releasing shared.service.ids)
  | releasing result => ({ shared with locks := shared.locks.release number }, clearing result)
  | clearing result => ({ shared with locks := shared.locks.clear number }, done result)
  | done result => (shared, done result)

/-- The result of a call that is over. -/
def result? : Stage → Option ChangeEnd
  | done result => some result
  | _ => none

end Stage

/-- Where a query stands. -/
inductive QueryStage
  | called (document : Json)
  /-- The datasets have been listed and the document accepted. -/
  | reading (query : Query)
  | done (result : Except ServiceError (List Record))

/-- Perform the next stage of a query. -/
def QueryStage.next (service : Service) : QueryStage → QueryStage
  | called document =>
    match service.list.bind fun listed => Service.readQuery listed document with
    | .ok query => reading query
    | .error error => done (.error error)
  | reading query =>
    match service.store.get? query.dataset with
    | .ok found => done (Service.answer service.rowLimit query found)
    | .error error => done (.error (.store error))
  | done result => done result

end Campus
