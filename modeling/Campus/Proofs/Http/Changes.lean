import Campus.Http.Server
import Campus.Proofs.Http.Resources
import Campus.Proofs.Service.InMemory
/-!
# What requests change

Only two kinds of requests change what is stored: one to put a dataset and one to delete a dataset,
each answered with two hundred, and each changes the dataset of the id in its path and no other.
Whatever else is asked for, and whatever is refused, leaves the store as it was. Every usable id can
be asked for in this way, by escaping all of its bytes.
-/

namespace Campus

/-- A request of some method for a resource. -/
structure HttpRequest.IsFor (request : HttpRequest) (method : String) (resource : Resource) :
    Prop where
  method : request.method = method
  path : targetPath request.target = resource.path
  plain : resource.IsPlain

/-- What a request that is answered with some status does to a store in memory: the id in its path
gets the dataset that its body gives, or loses its dataset, or all is as it was. The last is so
exactly if the request is neither an addition nor a removal that is answered with two hundred. -/
inductive HttpRequest.Changes (request : HttpRequest) (gazetteer : Gazetteer)
    (status : HttpStatus) (before : Store) : Store → Prop
  | added {id kind : List Char} {name : String} {asKind : DatasetKind} {records : List Record}
    (asked : request.IsFor "PUT" (.upload id kind)) (answered : status.number = 200)
    (spellsId : Resource.decode? id = some name)
    (spellsKind : Resource.decode? kind = some asKind.label)
    (new : before.shelf.datasets.get? name = none)
    (gives : (Upload.bytes request.body).Gives gazetteer name asKind records) :
    Changes request gazetteer status before { before with shelf := { before.shelf with
      datasets := before.shelf.datasets.insert name (.ofRecords name asKind records) } }
  | removed {id : List Char} {name : String}
    (asked : request.IsFor "DELETE" (.dataset id)) (answered : status.number = 200)
    (spellsId : Resource.decode? id = some name)
    (held : (before.shelf.datasets.get? name).isSome = true) :
    Changes request gazetteer status before { before with shelf := { before.shelf with
      datasets := before.shelf.datasets.erase name } }
  | kept
    (noAddition : status.number = 200 → ∀ id kind, ¬request.IsFor "PUT" (.upload id kind))
    (noRemoval : status.number = 200 → ∀ id, ¬request.IsFor "DELETE" (.dataset id)) :
    Changes request gazetteer status before before

namespace HttpRequest

variable {request : HttpRequest} {method : String} {resource : Resource} {gazetteer : Gazetteer}
  {status : HttpStatus} {store : Store}

/-- A request is for the resource that its path leads to. -/
theorem isFor_iff : request.IsFor method resource ↔
    request.method = method ∧ Resource.ofPath? (targetPath request.target) = some resource := by
  rw [Resource.ofPath?_eq_some_iff]
  exact ⟨fun ⟨method, path, plain⟩ => ⟨method, path, plain⟩,
    fun ⟨method, path, plain⟩ => ⟨method, path, plain⟩⟩

/-- Two hundred is the number of success. -/
theorem number_eq_iff : status.number = 200 ↔ status = .ok := by
  cases status <;> simp [HttpStatus.number]

/-- A request that is not answered with success changes nothing. -/
theorem Changes.of_refused (refused : status ≠ .ok) :
    request.Changes gazetteer status store store :=
  .kept (fun answered => absurd (number_eq_iff.1 answered) refused)
    fun answered => absurd (number_eq_iff.1 answered) refused

/-- A request of a method that neither adds nor removes changes nothing. -/
theorem Changes.of_method (noAddition : request.method ≠ "PUT")
    (noRemoval : request.method ≠ "DELETE") : request.Changes gazetteer status store store :=
  .kept (fun _ _ _ asked => noAddition asked.method) fun _ _ asked => noRemoval asked.method

/-- Failures are not answered with success. -/
theorem status_ne_ok (code : ErrorCode) : code.status ≠ .ok := by
  cases code <;> nofun

end HttpRequest

/-- The kind of a name has that name. -/
theorem DatasetKind.label_of_ofLabel? {label : String} {kind : DatasetKind}
    (found : ofLabel? label = some kind) : label = kind.label := by
  unfold ofLabel? at found
  split at found <;> cases found <;> rfl

namespace Service

variable {service after : Service} {surroundings : Surroundings} {id : String}
  {kind : DatasetKind} {upload : Upload}

/-- With the store of a service in memory, a service is in memory. -/
theorem IsInMemory.of_store_eq (inMemory : service.IsInMemory)
    (same : after.store = service.store) : after.IsInMemory :=
  ⟨same ▸ inMemory.noFolder, same ▸ inMemory.keyed⟩

/-- An addition is answered, and the dataset that the upload gives is on the shelf, or it is refused
and nothing has changed. -/
theorem add_inMemory (inMemory : service.IsInMemory) (surroundings : Surroundings) (id : String)
    (kind : DatasetKind) (upload : Upload) :
    let added := service.add surroundings id kind upload
    added.1.IsInMemory ∧
      ((∃ records ids, added.2 = .ok ids ∧ service.store.shelf.datasets.get? id = none ∧
          upload.Gives surroundings.gazetteer id kind records ∧
          added.1.store = { service.store with shelf := { service.store.shelf with
            datasets := service.store.shelf.datasets.insert id (.ofRecords id kind records) } }) ∨
        ∃ error, added.2 = .error error ∧ added.1.store = service.store) := by
  intro added
  by_cases accepted : ∃ records, service.Accepts surroundings id kind upload records
  · obtain ⟨records, accepts⟩ := accepted
    obtain ⟨store, answer⟩ := add_of_accepts inMemory accepts
    refine ⟨⟨?_, ?_⟩, .inl ⟨records, _, answer, accepts.new, accepts.gives, store⟩⟩
    · rw [store]
      exact inMemory.noFolder
    · rw [store]
      exact Shelf.isKeyed_add inMemory.keyed (.ofRecords id kind records)
  · obtain ⟨same, error, failed, -⟩ :=
      add_of_not_accepts fun records accepts => accepted ⟨records, accepts⟩
    exact ⟨inMemory.of_store_eq same, .inr ⟨error, failed, same⟩⟩

end Service

namespace HttpServer

/-- A call that fails is not answered with success. -/
theorem report_error_ne_ok (error : ServiceError) : (report (.error error)).1 ≠ .ok := by
  unfold report
  dsimp only
  split
  · nofun
  · exact HttpRequest.status_ne_ok _

variable {server : HttpServer} {surroundings : Surroundings} {service : Service}
  {request : HttpRequest}

/-- Serve requests one after another: the service afterwards and all responses. -/
def run (server : HttpServer) (service : Service) :
    List (Surroundings × HttpRequest) → Service × List HttpResponse
  | [] => (service, [])
  | (surroundings, request) :: rest =>
    let (service, response) := server.serve surroundings service request
    let (service, responses) := run server service rest
    (service, response :: responses)

/-- A body that is uploaded for a resource is added to the store, or the store is as it was. -/
theorem changes_upload (inMemory : service.IsInMemory) {id kind : List Char} {name label : String}
    (asked : request.IsFor "PUT" (.upload id kind)) (spellsId : Resource.decode? id = some name)
    (spellsKind : Resource.decode? kind = some label) :
    let served := upload surroundings service name label request.body
    request.Changes surroundings.gazetteer served.2.1 service.store served.1.store ∧
      served.1.IsInMemory := by
  intro served
  unfold served upload
  split
  · exact ⟨.of_refused nofun, inMemory⟩
  next asKind found =>
  obtain rfl := DatasetKind.label_of_ofLabel? found
  obtain ⟨stillInMemory, added⟩ := Service.add_inMemory inMemory surroundings name asKind
    (.bytes request.body)
  refine ⟨?_, stillInMemory⟩
  rcases added with ⟨records, ids, answer, new, gives, store⟩ | ⟨error, failed, same⟩
  · simp only [answer, store]
    exact .added asked rfl spellsId spellsKind new gives
  · simp only [failed, same]
    exact .of_refused (report_error_ne_ok _)

/-- A dataset whose removal is asked for is taken from the store, or the store is as it was. -/
theorem changes_removal (inMemory : service.IsInMemory) {id : List Char} {name : String}
    (asked : request.IsFor "DELETE" (.dataset id)) (spellsId : Resource.decode? id = some name) :
    let removed := service.remove surroundings name
    request.Changes surroundings.gazetteer (report (removed.2.map .text)).1 service.store
        removed.1.store ∧
      removed.1.IsInMemory := by
  intro removed
  rcases Service.remove_inMemory inMemory surroundings name with
    ⟨-, -, held, answer, store⟩ | ⟨same, error, failed, -⟩
  · refine ⟨?_, ⟨by rw [store]; exact inMemory.noFolder, ?_⟩⟩
    · simp only [removed, answer, store]
      exact .removed asked rfl spellsId held
    · rw [store]
      exact Shelf.isKeyed_erase inMemory.keyed name
  · refine ⟨?_, inMemory.of_store_eq same⟩
    simp only [removed, failed, same]
    exact .of_refused (report_error_ne_ok _)

/-- A resource that is answered is added or removed as the request says, or nothing changes. -/
theorem changes_answer (inMemory : service.IsInMemory) {resource : Resource}
    (found : Resource.ofPath? (targetPath request.target) = some resource)
    (takes : resource.takes request.method = true) :
    let served := server.answer surroundings service request.body resource
    request.Changes surroundings.gazetteer served.2.1 service.store served.1.store ∧
      served.1.IsInMemory := by
  have other {status : HttpStatus} (noUpload : ∀ id kind, resource ≠ .upload id kind)
      (noDataset : ∀ id, resource ≠ .dataset id) :
      request.Changes surroundings.gazetteer status service.store service.store := by
    refine .kept (fun _ id kind asked => ?_) fun _ id asked => ?_
    · exact noUpload id kind (Option.some.inj (found ▸ (HttpRequest.isFor_iff.1 asked).2))
    · exact noDataset id (Option.some.inj (found ▸ (HttpRequest.isFor_iff.1 asked).2))
  intro served
  unfold served answer
  cases resource with
  | health => exact ⟨other nofun nofun, inMemory⟩
  | datasets => exact ⟨other nofun nofun, inMemory⟩
  | query =>
    dsimp only
    split
    · exact ⟨other nofun nofun, inMemory⟩
    · split
      · exact ⟨other nofun nofun, inMemory⟩
      · exact ⟨other nofun nofun, inMemory⟩
  | upload id kind =>
    have asked : request.IsFor "PUT" (.upload id kind) := by
      refine HttpRequest.isFor_iff.2 ⟨?_, found⟩
      simpa [Resource.takes, Resource.method] using takes
    dsimp only
    split
    · next name label spellsId spellsKind =>
      split
      · exact ⟨.of_refused nofun, inMemory⟩
      · exact changes_upload inMemory asked spellsId spellsKind
    · exact ⟨.of_refused nofun, inMemory⟩
  | dataset id =>
    have asked : request.IsFor "DELETE" (.dataset id) := by
      refine HttpRequest.isFor_iff.2 ⟨?_, found⟩
      simpa [Resource.takes, Resource.method] using takes
    dsimp only
    split
    · next name spellsId => exact changes_removal inMemory asked spellsId
    · exact ⟨.of_refused nofun, inMemory⟩

/-- What serving a request does to a store in memory. -/
theorem changes_serve (inMemory : service.IsInMemory) (server : HttpServer)
    (surroundings : Surroundings) (request : HttpRequest) :
    let served := server.serve surroundings service request
    request.Changes surroundings.gazetteer served.2.status service.store served.1.store ∧
      served.1.IsInMemory := by
  intro served
  unfold served serve
  dsimp only
  split
  · next options => exact ⟨.of_method (by simp [options]) (by simp [options]), inMemory⟩
  split
  · exact ⟨.of_refused nofun, inMemory⟩
  next resource found =>
  split
  · next takes => exact changes_answer inMemory found takes
  · exact ⟨.of_refused nofun, inMemory⟩

/-- A run of more requests goes on where the first ones led to. -/
theorem run_append (front back : List (Surroundings × HttpRequest)) (service : Service) :
    server.run service (front ++ back) =
      ((server.run (server.run service front).1 back).1,
        (server.run service front).2 ++ (server.run (server.run service front).1 back).2) := by
  induction front generalizing service with
  | nil => rfl
  | cons visit rest ih =>
    simp only [List.cons_append, run, ih]

/-- There is a response to every request. -/
theorem length_run (visits : List (Surroundings × HttpRequest)) (service : Service) :
    (server.run service visits).2.length = visits.length := by
  induction visits generalizing service with
  | nil => rfl
  | cons visit rest ih => simp only [run, List.length_cons, ih]

/-- Serving requests leaves the service in memory. -/
theorem isInMemory_run (inMemory : service.IsInMemory)
    (visits : List (Surroundings × HttpRequest)) : (server.run service visits).1.IsInMemory := by
  induction visits generalizing service with
  | nil => exact inMemory
  | cons visit rest ih => exact ih (changes_serve inMemory server visit.1 visit.2).2

/-- The response to a request is the one of the service that the requests before it led to. -/
theorem getElem?_run (front back : List (Surroundings × HttpRequest))
    (visit : Surroundings × HttpRequest) :
    (server.run service (front ++ visit :: back)).2[front.length]? =
      some (server.serve visit.1 (server.run service front).1 visit.2).2 := by
  have answered : (server.run service front).2.length = front.length := length_run front service
  rw [run_append, ← answered, List.getElem?_append_right (Nat.le_refl _), Nat.sub_self]
  rfl

end HttpServer

namespace HttpRequest

/-- A request to add a dataset, with all bytes of its id escaped. -/
def addition (id : String) (kind : DatasetKind) (origin : Option String) (body : List UInt8) :
    HttpRequest :=
  ⟨"PUT", .ofList (Resource.upload (Percent.escapeAll id) kind.label.toList).path, origin, body⟩

/-- A request to remove a dataset, with all bytes of its id escaped. -/
def removal (id : String) (origin : Option String) (body : List UInt8) : HttpRequest :=
  ⟨"DELETE", .ofList (Resource.dataset (Percent.escapeAll id)).path, origin, body⟩

/-- A request to add a dataset leads to the resource of its escaped id. -/
theorem isFor_addition (id : String) (kind : DatasetKind) (origin : Option String)
    (body : List UInt8) : (addition id kind origin body).IsFor "PUT"
      (.upload (Percent.escapeAll id) kind.label.toList) := by
  have parts {c : Char} (separates : c ∈ ['/', '?', '#']) :
      ∀ part ∈ (Resource.upload (Percent.escapeAll id) kind.label.toList).parts, c ∉ part := by
    have inName : ∀ c ∈ ['/', '?', '#'], c ∉ "dataset".toList := by simp
    have inLabel : ∀ c ∈ ['/', '?', '#'], c ∉ kind.label.toList := by
      cases kind <;> simp [DatasetKind.label]
    simp only [Resource.parts, List.mem_cons, List.not_mem_nil, or_false, forall_eq_or_imp,
      forall_eq]
    exact ⟨inName c separates, Percent.separates_notMem_escapeAll separates, inLabel c separates⟩
  refine ⟨rfl, Resource.targetPath_path fun part member => ?_, ⟨parts (by decide), ?_⟩⟩
  · exact ⟨parts (by decide) part member, parts (by decide) part member⟩
  · cases kind <;> simp [Resource.parts, DatasetKind.label]

/-- A request to remove a dataset leads to the resource of its escaped id, if there is one. -/
theorem isFor_removal {id : String} (nonEmpty : id ≠ "") (origin : Option String)
    (body : List UInt8) : (removal id origin body).IsFor "DELETE"
      (.dataset (Percent.escapeAll id)) := by
  have parts {c : Char} (separates : c ∈ ['/', '?', '#']) :
      ∀ part ∈ (Resource.dataset (Percent.escapeAll id)).parts, c ∉ part := by
    have inName : ∀ c ∈ ['/', '?', '#'], c ∉ "dataset".toList := by simp
    simp only [Resource.parts, List.mem_cons, List.not_mem_nil, or_false, forall_eq_or_imp,
      forall_eq]
    exact ⟨inName c separates, Percent.separates_notMem_escapeAll separates⟩
  refine ⟨rfl, Resource.targetPath_path fun part member => ?_, ⟨parts (by decide), ?_⟩⟩
  · exact ⟨parts (by decide) part member, parts (by decide) part member⟩
  · simpa [Resource.parts] using Percent.escapeAll_ne_nil nonEmpty

end HttpRequest

namespace HttpServer

variable {server : HttpServer} {service : Service}

/-- A request for a resource, of the method that the resource takes, is answered by it. -/
theorem serve_of_isFor {request : HttpRequest} {method : String} {resource : Resource}
    (asked : request.IsFor method resource) (taken : resource.method = method)
    (server : HttpServer) (surroundings : Surroundings) (service : Service) :
    let served := server.serve surroundings service request
    (served.1, served.2.status, served.2.body) =
      server.answer surroundings service request.body resource := by
  subst taken
  obtain ⟨method, found⟩ := HttpRequest.isFor_iff.1 asked
  have notOptions : request.method ≠ "OPTIONS" := by
    rw [method]
    cases resource <;> simp [Resource.method]
  have notHead : request.method ≠ "HEAD" := by
    rw [method]
    cases resource <;> simp [Resource.method]
  have takes : resource.takes request.method = true := by
    rw [Resource.takes, method, beq_self_eq_true, Bool.true_or]
  simp only [serve, found, takes, if_neg notOptions, if_neg notHead, if_true]

/-- An addition whose body keeps to the limit is answered as the service's own. -/
theorem serve_addition (surroundings : Surroundings) (service : Service) (id : String)
    (kind : DatasetKind) (origin : Option String) {body : List UInt8}
    (small : body.length ≤ server.bodyLimit) :
    let added := service.add surroundings id kind (.bytes body)
    let served := server.serve surroundings service (.addition id kind origin body)
    (served.1, served.2.status, served.2.body) =
      (added.1, report (added.2.map fun ids => .array (ids.map .text))) := by
  have spellsKind : Resource.decode? kind.label.toList = some kind.label := by
    cases kind <;> decide +kernel
  refine (serve_of_isFor (HttpRequest.isFor_addition id kind origin body) rfl server surroundings
    service).trans ?_
  simp only [answer, HttpRequest.addition, Resource.decode?_escapeAll, spellsKind,
    if_neg (Nat.not_lt.2 small), upload, DatasetKind.ofLabel?_label]

/-- A removal is answered as the service's own. -/
theorem serve_removal (server : HttpServer) (surroundings : Surroundings) (service : Service)
    {id : String} (nonEmpty : id ≠ "") (origin : Option String) (body : List UInt8) :
    let removed := service.remove surroundings id
    let served := server.serve surroundings service (.removal id origin body)
    (served.1, served.2.status, served.2.body) = (removed.1, report (removed.2.map .text)) := by
  refine (serve_of_isFor (HttpRequest.isFor_removal nonEmpty origin body) rfl server surroundings
    service).trans ?_
  simp only [answer, Resource.decode?_escapeAll]

/-- Whatever requests are served over a store in memory: each changes it as its method, its path and
its response say, so only an answered addition and an answered removal change it, each the dataset
of the id in its path. And every usable id, with all its bytes escaped, can be added to and removed
from any service in this way, with the answer that the service itself gives; a body only has to keep
to the limit. -/
theorem changes_of_run (inMemory : service.IsInMemory) (server : HttpServer)
    (visits : List (Surroundings × HttpRequest)) :
    (∀ front surroundings request back, visits = front ++ (surroundings, request) :: back →
      ∃ response, (server.run service visits).2[front.length]? = some response ∧
        request.Changes surroundings.gazetteer response.status (server.run service front).1.store
          (server.run service (front ++ [(surroundings, request)])).1.store) ∧
    ∀ id, isValidDatasetId id = true → ∀ (reached : Service) surroundings origin body,
      (∀ kind, body.length ≤ server.bodyLimit →
        let added := reached.add surroundings id kind (.bytes body)
        let served := server.serve surroundings reached (.addition id kind origin body)
        (served.1, served.2.status, served.2.body) =
          (added.1, report (added.2.map fun ids => .array (ids.map .text)))) ∧
      let removed := reached.remove surroundings id
      let served := server.serve surroundings reached (.removal id origin body)
      (served.1, served.2.status, served.2.body) = (removed.1, report (removed.2.map .text)) := by
  constructor
  · rintro front surroundings request back rfl
    refine ⟨_, getElem?_run front back (surroundings, request), ?_⟩
    rw [run_append]
    exact (changes_serve (isInMemory_run inMemory front) server surroundings request).1
  · intro id valid reached surroundings origin body
    have nonEmpty : id ≠ "" := by
      rintro rfl
      exact absurd valid (by decide)
    exact ⟨fun kind small => serve_addition surroundings reached id kind origin small,
      serve_removal server surroundings reached nonEmpty origin body⟩

/-- The bytes of the upload with one section. -/
def sectionBytes : List UInt8 :=
  match Service.oneSection with
  | .bytes bytes => bytes
  | .base64 _ => []

/-- A dataset whose id has a slash and a character beyond ASCII is added under that id, and the
removal of this id is answered as the service's own. -/
theorem changes_of_run_escaped :
    let server : HttpServer := ⟨.all, 1000000⟩
    let surroundings : Surroundings := ⟨Device.sound, fun _ => .error ""⟩
    let service := Service.onStore (.inMemory [.ofRecords "rooms" .rooms []]) 5000
    let put : HttpRequest := ⟨"PUT", "/dataset/%61%2F%C3%BC/sections", none, sectionBytes⟩
    let ran := server.run service [(surroundings, put)]
    let removed := ran.1.remove surroundings "a/ü"
    let served := server.serve surroundings ran.1 ⟨"DELETE", "/dataset/%61%2F%C3%BC", none, []⟩
    ran.2.map HttpResponse.status = [.ok] ∧
      (∃ d, ran.1.store.shelf.datasets.get? "a/ü" = some d ∧ d.id = "a/ü") ∧
      (served.1, served.2.status, served.2.body) = (removed.1, report (removed.2.map .text)) := by
  intro server surroundings service put ran removed served
  have answered : ran.2.map HttpResponse.status = [.ok] := by decide +kernel
  obtain ⟨each, reaches⟩ := changes_of_run (Service.isInMemory_onStore _ _ : service.IsInMemory)
    server [(surroundings, put)]
  refine ⟨answered, ?_, (reaches "a/ü" (by decide +kernel) ran.1 surroundings none []).2⟩
  obtain ⟨response, responded, changes⟩ := each [] surroundings put [] rfl
  have ok : response.status = .ok := by
    have status := congrArg (·[0]?) answered
    rw [List.getElem?_map] at status
    exact Option.some.inj ((congrArg (Option.map HttpResponse.status) responded).symm.trans status)
  have found : Resource.ofPath? (targetPath put.target) =
      some (.upload "%61%2F%C3%BC".toList "sections".toList) := by
    decide +kernel
  have asked : put.IsFor "PUT" _ := HttpRequest.isFor_iff.2 ⟨rfl, found⟩
  rw [List.nil_append] at changes
  generalize (server.run service [(surroundings, put)]).1.store = after at changes
  cases changes with
  | kept noAddition => exact absurd asked (noAddition (HttpRequest.number_eq_iff.2 ok) _ _)
  | removed asked => exact absurd asked.method (by decide)
  | @added id kind name asKind records also _ spellsId =>
    obtain ⟨rfl, -⟩ := Resource.upload.inj
      (Option.some.inj (found.symm.trans (HttpRequest.isFor_iff.1 also).2))
    have decoded : Resource.decode? "%61%2F%C3%BC".toList = some "a/ü" := by decide +kernel
    obtain rfl := Option.some.inj (decoded.symm.trans spellsId)
    exact ⟨_, (Keyed.get?_insert ..).trans (if_pos rfl), rfl⟩

end HttpServer
end Campus
