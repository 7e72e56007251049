import LogFilter.Json
import LogFilter.Program

/-!
# Endpoints

The endpoints of the service with their methods, paths and descriptions, and the document that describes
them to clients.
-/

namespace LogFilter.Http

/-- The endpoints of the service. -/
inductive Endpoint where
  | health
  | openapi
  | fields
  | validateField
  | filterWhere
  | tailWhere
  | aggregateWhere
  deriving DecidableEq, Repr

/-- A parameter of an endpoint. -/
structure ParameterDoc where
  name : String
  required : Bool
  description : String
  deriving DecidableEq, Repr

/-- The description of an endpoint. -/
structure OperationDoc where
  tag : String
  operationId : String
  parameters : List ParameterDoc
  /-- The statuses of responses with their descriptions. -/
  responses : List (Nat × String)
  deriving DecidableEq, Repr

namespace Endpoint

/-- All endpoints. -/
def all : List Endpoint :=
  [health, openapi, fields, validateField, filterWhere, tailWhere, aggregateWhere]

/-- The path of an endpoint. -/
def path : Endpoint → String
  | health => "/api/v1/health"
  | openapi => "/api/openapi.json"
  | fields => "/api/v1/logs/fields"
  | validateField => "/api/v1/logs/fields/validate"
  | filterWhere => "/api/v1/logs/where"
  | tailWhere => "/api/v1/logs/tail/where"
  | aggregateWhere => "/api/v1/logs/aggregate/where"

/-- The method of an endpoint. -/
def method : Endpoint → String
  | validateField => "POST"
  | _ => "GET"

/-- The method of an endpoint as the document writes it. -/
def methodKey : Endpoint → String
  | validateField => "post"
  | _ => "get"

/-- The endpoint at a path, in exactly this spelling. -/
def ofPath? (path : String) : Option Endpoint := all.find? (·.path = path)

/-- The path of an endpoint leads to it. -/
theorem ofPath?_path (endpoint : Endpoint) : ofPath? endpoint.path = some endpoint := by
  cases endpoint <;> decide

/-- The query parameter, which no endpoint requires. -/
def queryDoc : ParameterDoc := ⟨"q", false, "Filter query"⟩

/-- The lower time bound. -/
def startDoc (required : Bool) : ParameterDoc :=
  ⟨"timestampStart", required, "Inclusive lower timestamp bound"⟩

/-- The upper time bound. -/
def endDoc (required : Bool) : ParameterDoc :=
  ⟨"timestampEnd", required, "Inclusive upper timestamp bound"⟩

/-- The lower id bound. -/
def idStartDoc : ParameterDoc := ⟨"idStart", false, "Exclusive lower id bound"⟩

/-- The description of an endpoint; the document does not describe itself. -/
def doc? : Endpoint → Option OperationDoc
  | health => some ⟨"health", "health", [], [(200, "Service is healthy")]⟩
  | openapi => none
  | fields => some ⟨"logs", "list_fields", [], [(200, "Field catalog")]⟩
  | validateField =>
    some ⟨"logs", "validate_field", [],
      [(200, "Field definition is valid"), (400, "Field definition is invalid")]⟩
  | filterWhere =>
    some ⟨"logs", "filter_where",
      [queryDoc, ⟨"limit", false, "Maximum rows (default 30)"⟩,
        ⟨"orderBy", false, "Sort column (default timestamp)"⟩,
        ⟨"order", false, "asc or desc (default desc)"⟩, startDoc false, endDoc false, idStartDoc,
        ⟨"idEnd", false, "Exclusive upper id bound"⟩],
      [(200, "Translated filter"), (400, "Invalid filter")]⟩
  | tailWhere =>
    some ⟨"logs", "tail_where", [queryDoc, startDoc false, idStartDoc],
      [(200, "Translated filter"), (400, "Invalid filter")]⟩
  | aggregateWhere =>
    some ⟨"logs", "aggregate_where",
      [queryDoc, startDoc true, endDoc true, ⟨"step", true, "Bucket width in seconds"⟩,
        ⟨"groupBy", false, "Grouping column"⟩, ⟨"function", false, "Aggregate function"⟩],
      [(200, "Translated filter"), (400, "Invalid filter or missing bound")]⟩

/-- The endpoints that the document describes, with their descriptions. -/
def described : List (Endpoint × OperationDoc) :=
  all.filterMap fun endpoint => endpoint.doc?.map (endpoint, ·)

end Endpoint

/-- The document that describes the service. -/
structure ServiceDoc where
  title : String
  version : String
  description : String
  /-- The tags of endpoints with their descriptions. -/
  tags : List (String × String)
  operations : List (Endpoint × OperationDoc)
  /-- The names of the records in messages, in order. -/
  schemas : List String

/-- The description of the service. -/
def serviceDoc : ServiceDoc where
  title := "LogLens API"
  version := programVersion
  description := "Log filter translation"
  tags := [("health", "Health check endpoint"), ("logs", "Log filter translation and field catalog")]
  operations := Endpoint.described
  schemas := ["AggregateWhereDto", "CatalogCounts", "FieldDefinition", "FieldType", "FieldUpdate",
    "FieldsDto", "HealthResponse", "ValidateFieldDto", "WhereDto"]

/-- A parameter in the document. -/
def ParameterDoc.toJson (doc : ParameterDoc) : Json := .object
  [("name", .string doc.name), ("in", .string "query"), ("description", .string doc.description),
    ("required", .bool doc.required)]

/-- An endpoint in the document. -/
def OperationDoc.toJson (doc : OperationDoc) : Json := .object
  [("tags", .array [.string doc.tag]), ("operationId", .string doc.operationId),
    ("parameters", .array (doc.parameters.map ParameterDoc.toJson)),
    ("responses", .object (doc.responses.map fun (status, description) =>
      (Text.decimal status, .object [("description", .string description)])))]

/-- The document in JSON. -/
def ServiceDoc.toJson (doc : ServiceDoc) : Json := .object
  [("openapi", .string "3.1.0"),
    ("info", .object [("title", .string doc.title), ("description", .string doc.description),
      ("version", .string doc.version)]),
    ("paths", .object (doc.operations.map fun (endpoint, operation) =>
      (endpoint.path, .object [(endpoint.methodKey, operation.toJson)]))),
    ("components", .object [("schemas", .object (doc.schemas.map fun name =>
      (name, .object [("type", .string "object")])))]),
    ("tags", .array (doc.tags.map fun (name, description) =>
      .object [("name", .string name), ("description", .string description)]))]

end LogFilter.Http
