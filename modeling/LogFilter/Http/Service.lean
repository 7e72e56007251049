import LogFilter.Http.Endpoint
import LogFilter.Http.MediaType
import LogFilter.Http.Message
import LogFilter.Request.Where

/-!
# The service

The response of the service to a request, as a function of its settings. A request for an unknown path is
answered with 404 and one with a wrong method with 405; a HEAD request is answered like a GET request,
without the body.
-/

namespace LogFilter.Http

open Json (Fault)

/-- The greatest number of bytes that a body may have. -/
def maxBodySize : Nat := 65536

/-- The response to a request that is refused. -/
def refuse (e : QueryError) : Response := .report 400 "bad_request" e.code e.message

/-- The response to a request for an unknown path. -/
def noRoute (path : String) : Response :=
  .report 404 "not_found" "ROUTE_NOT_FOUND" ("No route for " ++ path)

/-- The response with a result, or to a request that is refused. -/
def answer {α : Type} (toJson : α → Json) : Except QueryError α → Response
  | .ok a => .ok (toJson a)
  | .error e => refuse e

/-- The number of fields that queries can use. -/
def healthJson (catalog : Catalog) : Json := .object
  [("status", .string "ok"), ("service", .string programName), ("version", .string programVersion),
    ("fields", .object [("selected", .number catalog.selected.fields.length),
      ("interesting", .number catalog.interesting.fields.length)])]

/-- The fields of a catalog, ordered by name. -/
def fieldsJson (catalog : Catalog) : Json := .object
  [("selected", .array (catalog.selected.fields.map Field.toJson)),
    ("interesting", .array (catalog.interesting.fields.map Field.toJson))]

/-- The filter of a listing, and the whole listing query. -/
structure ListingAnswer where
  whereBody : String
  query : String
  deriving DecidableEq, Repr

/-- The answer in JSON. -/
def ListingAnswer.toJson (a : ListingAnswer) : Json := .object
  [("where", .string a.whereBody), ("query", .string a.query)]

/-- The filter of a live tail in JSON. -/
def tailJson (whereBody : String) : Json := .object [("where", .string whereBody)]

/-- The filter of an aggregation in JSON, with what the request says about the aggregation. -/
def aggregateJson : AggregateRequest × String → Json
  | (aggregate, whereBody) => .object
    [("where", .string whereBody), ("groupBy", Json.ofOption aggregate.groupBy),
      ("function", Json.ofOption aggregate.function),
      ("stepSeconds", .number aggregate.stepSeconds.toNat)]

/-- The filter and the query of a listing request. -/
def filterWhere (settings : Settings) (params : Parameters) : Except QueryError ListingAnswer := do
  let request ← ListingRequest.ofParameters params
  let whereBody ← settings.whereBody request
  let query ← request.listing settings.catalog settings.table whereBody
  return ⟨whereBody, query⟩

/-- The filter of a tail request. -/
def tailWhere (settings : Settings) (params : Parameters) : Except QueryError String := do
  let tail ← TailRequest.ofParameters params
  settings.whereBody tail.toListing

/-- The filter of an aggregation request. -/
def aggregateWhere (settings : Settings) (params : Parameters) :
    Except QueryError (AggregateRequest × String) := do
  let aggregate ← AggregateRequest.ofParameters params
  let whereBody ← settings.whereBody aggregate.toListing
  return (aggregate, whereBody)

/-- The declared type of the body is JSON. -/
def declaresJson (request : Request) : Bool :=
  (request.contentType.bind MediaType.parse?).any MediaType.isJson

/-- The response to a checked proposal. -/
def checkProposal (p : Proposal) : Response :=
  answer (fun _ => .object [("valid", .bool true)]) p.check

/-- Checks the field that the body of a request proposes. -/
def validateField (request : Request) : Response :=
  if !declaresJson request then .bare 415
  else if maxBodySize < request.body.utf8ByteSize then .bare 413
  else
    match Proposal.parse request.body with
    | .ok p => checkProposal p
    | .error .malformed => .bare 400
    | .error .mismatch => .bare 422

/-- The response of an endpoint to a request with its method. -/
def Endpoint.respond (settings : Settings) (request : Request) : Endpoint → Response
  | .health => .ok (healthJson settings.catalog)
  | .openapi => .ok serviceDoc.toJson
  | .fields => .ok (fieldsJson settings.catalog)
  | .validateField => Http.validateField request
  | .filterWhere => answer ListingAnswer.toJson (Http.filterWhere settings request.parameters)
  | .tailWhere => answer tailJson (Http.tailWhere settings request.parameters)
  | .aggregateWhere => answer aggregateJson (Http.aggregateWhere settings request.parameters)

/-- The response to a request by its path and method. -/
def route (settings : Settings) (request : Request) : Response :=
  match Endpoint.ofPath? request.path with
  | none => noRoute request.path
  | some endpoint =>
    if request.method = endpoint.method || (request.method = "HEAD" && endpoint.method = "GET") then
      endpoint.respond settings request
    else .bare 405

/-- The response of the service. -/
def respond (settings : Settings) (request : Request) : Response :=
  if request.method = "HEAD" then (route settings request).headless else route settings request

/-- A request with the method and the path of an endpoint is answered by it. -/
theorem respond_of_endpoint {request : Request} (endpoint : Endpoint) (settings : Settings)
    (hmethod : request.method = endpoint.method) (hpath : request.path = endpoint.path) :
    respond settings request = endpoint.respond settings request := by
  have hhead : endpoint.method ≠ "HEAD" := by cases endpoint <;> decide
  simp [respond, route, hmethod, hpath, hhead, Endpoint.ofPath?_path]

end LogFilter.Http
