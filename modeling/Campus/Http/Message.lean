import Campus.Json.Basic
import Campus.Service.Error
/-!
# Requests and responses

The parts of requests and responses that the service looks at or decides.
-/

namespace Campus

/-- A request. -/
structure HttpRequest where
  method : String
  /-- The path, possibly with a query, or a whole address. -/
  target : String
  /-- The origin of the page that makes the request. -/
  origin : Option String
  body : List UInt8
deriving DecidableEq

/-- What became of a request. -/
inductive HttpStatus
  | ok
  | badRequest
  | notFound
  | methodNotAllowed
  | bodyTooLarge
  | serverError
  /-- The connection is dropped; there is no response to look at. -/
  | dropped
deriving DecidableEq

/-- The number of a status; zero stands for none. -/
def HttpStatus.number : HttpStatus → Nat
  | ok => 200
  | badRequest => 400
  | notFound => 404
  | methodNotAllowed => 405
  | bodyTooLarge => 413
  | serverError => 500
  | dropped => 0

/-- The status for a class of failures. -/
def ErrorCode.status : ErrorCode → HttpStatus
  | validation | resultTooLarge => .badRequest
  | notFound => .notFound
  | storage => .serverError

/-- A response. -/
structure HttpResponse where
  status : HttpStatus
  /-- The document in the body, if there is one. -/
  body : Option Json
  /-- The origin whose pages may see the response, or a star for all. -/
  allowOrigin : Option String

/-- The document that reports a failure. -/
def failureJson (code : ErrorCode) (message : String) : Json :=
  .object [("code", .text code.label), ("error", .text message)]

/-- The document that reports a result. -/
def resultJson (result : Json) : Json := .object [("result", result)]

end Campus
