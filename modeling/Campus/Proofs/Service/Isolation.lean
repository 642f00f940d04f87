import Campus.Proofs.Service.Queries
/-!
# Queries see one dataset

A query document is over one dataset, or the service refuses it whatever it holds. In the first case
the listing matters only for whether it has that dataset, and the records only of that dataset are
read, so two services that agree on it give the same answer. What is added or removed under other
ids leaves the dataset as it is, and so leaves the answer as it is.
-/

namespace Campus

/-- Two open stores that agree on a dataset: both list it or none does, and both hold the same under
its id. -/
structure Store.AgreeOn (id : String) (left right : Store) : Prop where
  leftOpen : left.shelf.isClosed = false
  rightOpen : right.shelf.isClosed = false
  listed : id ∈ left.shelf.datasets.values.map Dataset.id ↔
    id ∈ right.shelf.datasets.values.map Dataset.id
  held : left.shelf.datasets.get? id = right.shelf.datasets.get? id

/-- Stores that have every dataset under its own id agree on a dataset if they hold the same. -/
theorem Store.agreeOn_of_isKeyed {id : String} {left right : Store}
    (leftOpen : left.shelf.isClosed = false) (rightOpen : right.shelf.isClosed = false)
    (leftKeyed : left.shelf.IsKeyed) (rightKeyed : right.shelf.IsKeyed)
    (held : left.shelf.datasets.get? id = right.shelf.datasets.get? id) :
    left.AgreeOn id right := by
  refine ⟨leftOpen, rightOpen, ?_, held⟩
  rw [Shelf.map_id_values leftKeyed, Shelf.map_id_values rightKeyed, Keyed.mem_keys_iff,
    Keyed.mem_keys_iff, held]

namespace Query

variable {document : Json} {id : String}

/-- A query document over one dataset is read as one query by every catalog that has the dataset,
and refused by all others for not having it. -/
theorem exists_read_eq (isQuery : IsQueryDocument id document) :
    ∃ query : Query, query.dataset = id ∧ ∀ inCatalog, Query.read inCatalog document =
      if inCatalog id then .ok query else .error (.unknownDataset id) := by
  obtain ⟨query, read⟩ := @exists_read_of_isQueryDocument (fun other => other == id) document id
    (beq_self_eq_true id) isQuery
  obtain rfl : query.dataset = id := eq_of_beq (isQueryDocument_of_read read).1
  exact ⟨query, rfl, read_of_read read⟩

/-- A document that is a query document over no dataset is refused by every catalog for the same
reason: it breaks the grammar or names several datasets. -/
theorem exists_read_eq_error (noQuery : ∀ id, ¬IsQueryDocument id document) :
    ∃ reason : QueryError,
      ((∃ fault, reason = .invalid fault) ∨ ∃ ids, reason = .multipleDatasets ids) ∧
      ∀ inCatalog, Query.read inCatalog document = .error reason := by
  have refused : ∀ query, Query.read (fun _ => true) document ≠ .ok query := fun query read =>
    noQuery _ (isQueryDocument_of_read read).2
  cases parts : Grammar.parts document with
  | error fault => exact ⟨_, .inl ⟨fault, rfl⟩, fun inCatalog => by simp only [Query.read, parts]⟩
  | ok found =>
    cases named : Grammar.datasets found.keys with
    | nil =>
      exact ⟨_, .inl ⟨.noDataset, rfl⟩, fun inCatalog => by simp only [Query.read, parts, named]⟩
    | cons first others =>
      cases others with
      | nil => exact absurd (by simp only [Query.read, parts, named, if_true]; rfl) (refused _)
      | cons second others =>
        exact ⟨_, .inr ⟨first :: second :: others, rfl⟩, fun inCatalog => by
          simp only [Query.read, parts, named]⟩

end Query

/-- The id under which a call may change something. -/
def ServiceCall.changed? : ServiceCall → Option String
  | .add id _ _ | .remove id => some id
  | .list | .query _ => none

namespace Service

variable {service : Service} {document : Json} {id : String}

/-- An open service answers a query document over one dataset from what it lists and holds of that
dataset. -/
theorem exists_query_eq (isQuery : IsQueryDocument id document) :
    ∃ query : Query, ∀ service : Service, service.store.shelf.isClosed = false →
      service.query document =
        if id ∈ service.store.shelf.datasets.values.map Dataset.id then
          answer service.rowLimit query (service.store.shelf.datasets.get? id)
        else .error (.query (.unknownDataset id)) := by
  obtain ⟨query, rfl, read⟩ := Query.exists_read_eq isQuery
  refine ⟨query, fun service isOpen => ?_⟩
  have listed := list_of_isOpen isOpen
  have looked : service.store.get? query.dataset =
      .ok (service.store.shelf.datasets.get? query.dataset) :=
    Shelf.get?_eq_ok_iff.2 ⟨isOpen, rfl⟩
  have ids : ((service.store.shelf.datasets.values.map Dataset.summary).map
      DatasetSummary.id).contains query.dataset =
        decide (query.dataset ∈ service.store.shelf.datasets.values.map Dataset.id) := by
    rw [List.map_map, List.contains_eq_mem]
    rfl
  simp only [Service.query, listed, bind, Except.bind, readQuery, read, ids, decide_eq_true_eq]
  by_cases present : query.dataset ∈ service.store.shelf.datasets.values.map Dataset.id
  · simp only [if_pos present, Except.mapError, looked]
  · simp only [if_neg present, Except.mapError]

/-- An open service refuses a document that is a query document over no dataset for the document
alone. -/
theorem query_eq_error {reason : QueryError}
    (refused : ∀ inCatalog, Query.read inCatalog document = .error reason)
    (isOpen : service.store.shelf.isClosed = false) :
    service.query document = .error (.query reason) := by
  simp only [Service.query, list_of_isOpen isOpen, bind, Except.bind, readQuery, refused,
    Except.mapError]

/-! ## Changes under other ids -/

/-- What an addition may do to the shelf. -/
theorem shelf_add (surroundings : Surroundings) (service : Service) (id : String)
    (kind : DatasetKind) (upload : Upload) :
    let after := (service.add surroundings id kind upload).1
    after.rowLimit = service.rowLimit ∧ (after.store.shelf = service.store.shelf ∨
      ∃ write : StoreWrite, write.id = id ∧
        after.store.shelf = write.target service.store.shelf) := by
  unfold add
  split
  · exact ⟨rfl, .inl rfl⟩
  · exact ⟨rfl, .inl rfl⟩
  have kept := store_ingest surroundings service id kind upload
  have limit := rowLimit_ingest surroundings service id kind upload
  split
  · next ingested =>
    rw [ingested] at kept limit
    exact ⟨limit, .inl (congrArg Store.shelf kept)⟩
  next ingesting dataset ingested =>
  rw [ingested] at kept limit
  have own : dataset.id = id := id_of_ingest (congrArg Prod.snd ingested)
  have written := StoreWrite.shelf_perform surroundings.device ingesting.store (.put dataset)
  have committed : (ingesting.commit surroundings dataset).1 =
      { ingesting with store := (ingesting.store.put surroundings.device dataset).1 } := by
    unfold commit
    split <;> next put => rw [put]
  rw [committed]
  refine ⟨limit, ?_⟩
  rw [kept] at written
  exact written.imp (fun same => by rw [kept]; exact same)
    fun target => ⟨.put dataset, own, by rw [kept]; exact target⟩

/-- What a removal may do to the shelf. -/
theorem shelf_remove (surroundings : Surroundings) (service : Service) (id : String) :
    let after := (service.remove surroundings id).1
    after.rowLimit = service.rowLimit ∧ (after.store.shelf = service.store.shelf ∨
      ∃ write : StoreWrite, write.id = id ∧
        after.store.shelf = write.target service.store.shelf) := by
  unfold remove
  split
  · exact ⟨rfl, .inl rfl⟩
  have written := StoreWrite.shelf_perform surroundings.device service.store (.delete id)
  have deleted : (service.store.delete surroundings.device id).1.shelf = service.store.shelf ∨
      ∃ write : StoreWrite, write.id = id ∧
        (service.store.delete surroundings.device id).1.shelf =
          write.target service.store.shelf :=
    written.imp_right fun target => ⟨.delete id, rfl, target⟩
  split <;> next outcome => rw [outcome] at deleted; exact ⟨rfl, deleted⟩

/-- What a service has under an id, and all that a query on it depends on besides, is as before. -/
structure Keeps (id : String) (before after : Service) : Prop where
  isClosed : after.store.shelf.isClosed = before.store.shelf.isClosed
  held : after.store.shelf.datasets.get? id = before.store.shelf.datasets.get? id
  keyed : before.store.shelf.IsKeyed → after.store.shelf.IsKeyed
  rowLimit : after.rowLimit = before.rowLimit

namespace Keeps

/-- Nothing changes if nothing happens. -/
theorem refl (id : String) (service : Service) : service.Keeps id service :=
  ⟨rfl, rfl, fun keyed => keyed, rfl⟩

/-- What is kept twice is kept. -/
theorem trans {before between after : Service} (first : before.Keeps id between)
    (second : between.Keeps id after) : before.Keeps id after :=
  ⟨second.isClosed.trans first.isClosed, second.held.trans first.held,
    fun keyed => second.keyed (first.keyed keyed), second.rowLimit.trans first.rowLimit⟩

/-- A write under another id keeps what is under an id. -/
theorem of_write {before after : Service} {other : String} (limit : after.rowLimit = before.rowLimit)
    (differs : other ≠ id) (changes : after.store.shelf = before.store.shelf ∨
      ∃ write : StoreWrite, write.id = other ∧
        after.store.shelf = write.target before.store.shelf) : before.Keeps id after := by
  rcases changes with same | ⟨write, rfl, target⟩
  · refine ⟨?_, ?_, ?_, limit⟩ <;> rw [same]
    exact fun keyed => keyed
  · refine ⟨?_, ?_, ?_, limit⟩ <;> rw [target]
    · exact StoreWrite.isClosed_target _ write
    · exact StoreWrite.get?_target_of_ne _ write (Ne.symm differs)
    · exact fun keyed => StoreWrite.isKeyed_target keyed write

end Keeps

/-- A call keeps what is under an id that it does not change. -/
theorem keeps_answerCall (surroundings : Surroundings) {call : ServiceCall}
    (differs : call.changed? ≠ some id) :
    service.Keeps id (service.answerCall surroundings call).1 := by
  cases call with
  | add other kind upload =>
    obtain ⟨limit, changes⟩ := shelf_add surroundings service other kind upload
    exact .of_write limit (fun same => differs (congrArg some same)) changes
  | remove other =>
    obtain ⟨limit, changes⟩ := shelf_remove surroundings service other
    exact .of_write limit (fun same => differs (congrArg some same)) changes
  | list | query => exact .refl id service

/-- Calls keep what is under an id that none of them changes. -/
theorem keeps_run {calls : List (Surroundings × ServiceCall)}
    (differ : ∀ call ∈ calls, call.2.changed? ≠ some id) :
    service.Keeps id (service.run calls).1 := by
  induction calls generalizing service with
  | nil => exact .refl id service
  | cons call rest ih =>
    obtain ⟨surroundings, call⟩ := call
    obtain ⟨first, later⟩ := List.forall_mem_cons.1 differ
    exact (keeps_answerCall surroundings first).trans (ih later)

/-- A query document over one dataset has one outcome in all open stores that agree on the dataset.
A document that is over no dataset, because it breaks the grammar or names several, is refused in
every open store for the same reason. So calls that add or remove other datasets, whatever becomes
of them, leave the outcome of a query as it is; every store that is opened has its datasets under
their own ids. -/
theorem query_of_agreeOn (document : Json) :
    (∀ id, IsQueryDocument id document → ∀ (service : Service) (left right : Store),
      left.AgreeOn id right →
        ({ service with store := left } : Service).query document =
          ({ service with store := right } : Service).query document) ∧
    ((∀ id, ¬IsQueryDocument id document) → ∃ reason : QueryError,
      ((∃ fault, reason = .invalid fault) ∨ ∃ ids, reason = .multipleDatasets ids) ∧
      ∀ service : Service, service.store.shelf.isClosed = false →
        service.query document = .error (.query reason)) ∧
    (∀ id, IsQueryDocument id document → ∀ service : Service,
      service.store.shelf.isClosed = false → service.store.shelf.IsKeyed →
      ∀ calls : List (Surroundings × ServiceCall),
        (∀ call ∈ calls, call.2.changed? ≠ some id) →
          (service.run calls).1.query document = service.query document) ∧
    (∀ datasets, (Store.inMemory datasets).shelf.IsKeyed) ∧
    ∀ device folder left store, Store.onFolder device folder = (left, .ok store) →
      store.shelf.IsKeyed := by
  have agreeing {id : String} (isQuery : IsQueryDocument id document) {left right : Service}
      (agree : left.store.AgreeOn id right.store) (limit : left.rowLimit = right.rowLimit) :
      left.query document = right.query document := by
    obtain ⟨query, answers⟩ := exists_query_eq isQuery
    rw [answers left agree.leftOpen, answers right agree.rightOpen, agree.held, limit]
    simp only [agree.listed]
  refine ⟨fun id isQuery service left right agree => ?_, fun noQuery => ?_,
    fun id isQuery service isOpen keyed calls differ => ?_, Shelf.isKeyed_ofDatasets,
    fun device folder left store opened => Store.isKeyed_of_onFolder opened⟩
  · exact agreeing isQuery agree rfl
  · obtain ⟨reason, kind, refused⟩ := Query.exists_read_eq_error noQuery
    exact ⟨reason, kind, fun service isOpen => query_eq_error refused isOpen⟩
  · have keeps : service.Keeps id (service.run calls).1 := keeps_run differ
    exact agreeing isQuery (Store.agreeOn_of_isKeyed (keeps.isClosed.trans isOpen) isOpen
      (keeps.keyed keyed) keyed keeps.held) keeps.rowLimit

/-- Rooms, and labs beside them. -/
def roomsAndLabs : List Dataset :=
  [.ofRecords "labs" .rooms [∅, ∅], .ofRecords "rooms" .rooms [(∅ : Record).insert "rooms_name"
    (.text "HALL_1")]]

/-- The names of rooms and of labs in one query. -/
def namesOfBoth : Json :=
  .object [("WHERE", .object []),
    ("OPTIONS", .object [("COLUMNS", .array [.text "rooms_name", .text "labs_name"])])]

/-- The names of the rooms are the same whether there are labs or not, and after the labs are
removed; a query on both is refused in every open store. -/
theorem query_of_agreeOn_roomsAndLabs :
    let service := onStore (.inMemory roomsAndLabs) 5000
    let alone := Store.inMemory roomsAndLabs.tail
    IsQueryDocument "rooms" Traffic.namesOfRooms ∧ service.store.AgreeOn "rooms" alone ∧
      service.query Traffic.namesOfRooms = (onStore alone 5000).query Traffic.namesOfRooms ∧
      (service.run [(⟨Device.sound, fun _ => .error ""⟩, .remove "labs")]).1.query
        Traffic.namesOfRooms = service.query Traffic.namesOfRooms ∧
      (∀ id, ¬IsQueryDocument id namesOfBoth) ∧
      ∃ reason, service.query namesOfBoth = .error (.query reason) := by
  intro service alone
  have isQuery : IsQueryDocument "rooms" Traffic.namesOfRooms := by
    have accepted :
        (Query.read (fun id => id == "rooms") Traffic.namesOfRooms).isOk = true := by
      decide +kernel
    cases read : Query.read (fun id => id == "rooms") Traffic.namesOfRooms with
    | error reason =>
      rw [read] at accepted
      cases accepted
    | ok query =>
      obtain ⟨known, isQuery⟩ := Query.isQueryDocument_of_read read
      rwa [eq_of_beq known] at isQuery
  have noQuery : ∀ id, ¬IsQueryDocument id namesOfBoth := fun id isQuery => by
    have refused : (Query.read (fun _ => true) namesOfBoth).isOk = false := by decide +kernel
    obtain ⟨query, read⟩ :=
      @Query.exists_read_of_isQueryDocument (fun _ => true) namesOfBoth id rfl isQuery
    rw [read] at refused
    cases refused
  have agree : service.store.AgreeOn "rooms" alone :=
    Store.agreeOn_of_isKeyed rfl rfl (Shelf.isKeyed_ofDatasets _) (Shelf.isKeyed_ofDatasets _) rfl
  obtain ⟨same, -, unchanged, -, -⟩ := query_of_agreeOn Traffic.namesOfRooms
  obtain ⟨-, refused, -, -, -⟩ := query_of_agreeOn namesOfBoth
  obtain ⟨reason, -, everywhere⟩ := refused noQuery
  exact ⟨isQuery, agree, same "rooms" isQuery service _ _ agree,
    unchanged "rooms" isQuery service rfl (Shelf.isKeyed_ofDatasets _) _ (by decide), noQuery,
    reason, everywhere service rfl⟩

end Service
end Campus
