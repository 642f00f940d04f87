import Campus.Dataset.Written
import Campus.Http.Message
import Campus.Http.Origin
import Campus.Http.Resource
import Campus.Service.Basic
/-!
# Serving requests

A request is answered by the service if its path and method fit. Results come as `result` in the
body, failures as `error` with a `code`. Requests with the method `OPTIONS` are answered without
looking at the path, and only requests whose body is looked at can have too large a body.
-/

namespace Campus

/-- The version that the health report names. -/
def serviceVersion : String := "0.1.0"

/-- How requests are served. -/
structure HttpServer where
  policy : OriginPolicy
  /-- How many bytes a body may have. -/
  bodyLimit : Nat

namespace HttpServer

/-- The status and the document of a result or a failure. A breakdown drops the connection. -/
def report (outcome : Except ServiceError Json) : HttpStatus × Option Json :=
  match outcome with
  | .ok result => (.ok, some (resultJson result))
  | .error error =>
    if error.isBreakdown then (.dropped, none)
    else (error.code.status, some (failureJson error.code error.message))

/-- The status and the document of a request that the service is not asked about. -/
def refusal (message : String) : HttpStatus × Option Json :=
  (.badRequest, some (failureJson .validation message))

/-- Add the dataset in a body. -/
def upload (surroundings : Surroundings) (service : Service) (id kind : String)
    (body : List UInt8) : Service × HttpStatus × Option Json :=
  match DatasetKind.ofLabel? kind with
  | none => (service, refusal (DatasetKind.unknownMessage kind))
  | some kind =>
    let (service, outcome) := service.add surroundings id kind (.bytes body)
    (service, report (outcome.map fun ids => .array (ids.map .text)))

/-- Answer a request for a resource with a method that it takes. -/
def answer (server : HttpServer) (surroundings : Surroundings) (service : Service)
    (body : List UInt8) : Resource → Service × HttpStatus × Option Json
  | .health =>
    (service, .ok, some (.object [("status", .text "ok"), ("version", .text serviceVersion)]))
  | .datasets =>
    (service, report (service.list.map fun summaries =>
      .array (summaries.map DatasetSummary.toJson)))
  | .upload id kind =>
    match Resource.decode? id, Resource.decode? kind with
    | some id, some kind =>
      if server.bodyLimit < body.length then (service, .bodyTooLarge, none)
      else upload surroundings service id kind body
    | _, _ => (service, .badRequest, none)
  | .dataset id =>
    match Resource.decode? id with
    | some id =>
      let (service, outcome) := service.remove surroundings id
      (service, report (outcome.map .text))
    | none => (service, .badRequest, none)
  | .query =>
    if server.bodyLimit < body.length then (service, .bodyTooLarge, none)
    else match Json.parse? body with
      | none => (service, refusal "Query is not valid JSON")
      | some document =>
        (service, report ((service.query document).map fun rows => .array (rows.map Record.toJson)))

/-- Serve a request. -/
def serve (server : HttpServer) (surroundings : Surroundings) (service : Service)
    (request : HttpRequest) : Service × HttpResponse :=
  let allowOrigin := server.policy.allowed? request.origin
  if request.method = "OPTIONS" then (service, ⟨.ok, none, allowOrigin⟩)
  else match Resource.ofPath? (targetPath request.target) with
    | none => (service, ⟨.notFound, none, allowOrigin⟩)
    | some resource =>
      if resource.takes request.method then
        let (service, status, body) := server.answer surroundings service request.body resource
        (service, ⟨status, if request.method = "HEAD" then none else body, allowOrigin⟩)
      else (service, ⟨.methodNotAllowed, none, allowOrigin⟩)

end HttpServer
end Campus
