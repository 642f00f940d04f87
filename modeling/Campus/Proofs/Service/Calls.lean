import Campus.Dataset.Written
import Campus.Service.Basic
/-!
# Calls and runs

A call asks the service to change, list or query its datasets and is answered with a document or a
failure. A run is any sequence of calls, each with its own surroundings: the device may fail
different steps and the gazetteer give different places every time.
-/

namespace Campus

/-- What callers ask of the service. -/
inductive ServiceCall
  | add (id : String) (kind : DatasetKind) (upload : Upload)
  | remove (id : String)
  | list
  | query (document : Json)

/-- The answer to a call. -/
abbrev ServiceAnswer := Except ServiceError Json

namespace Service

/-- Answer a call. -/
def answerCall (surroundings : Surroundings) (service : Service) :
    ServiceCall → Service × ServiceAnswer
  | .add id kind upload =>
    let (service, outcome) := service.add surroundings id kind upload
    (service, outcome.map fun ids => .array (ids.map .text))
  | .remove id =>
    let (service, outcome) := service.remove surroundings id
    (service, outcome.map .text)
  | .list =>
    (service, service.list.map fun summaries => .array (summaries.map DatasetSummary.toJson))
  | .query document =>
    (service, (service.query document).map fun rows => .array (rows.map Record.toJson))

/-- Answer calls one after another: the service afterwards and all answers. -/
def run (service : Service) : List (Surroundings × ServiceCall) → Service × List ServiceAnswer
  | [] => (service, [])
  | (surroundings, call) :: rest =>
    let (service, answer) := service.answerCall surroundings call
    let (service, answers) := run service rest
    (service, answer :: answers)

end Service
end Campus
