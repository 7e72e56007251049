import LogFilter.Fragment
import LogFilter.Request

/-!
# Predicates and listing queries of requests

The body of the WHERE clause of a request has the resolved fragments of its query, then one fragment for
each active bound, joined by `and`. An empty query gives no fragment. The whole query that lists log
records has a fixed projection, in which the arrays of keys and values are zipped into maps, the table, the
filter if there is one, the order and the limit.
-/

namespace LogFilter

open Text

/-- Refuses a query of more bytes than allowed. -/
def checkLength (query : String) (limit : UInt64) : Except QueryError Unit :=
  if query.utf8ByteSize > limit.toNat then
    .error (.queryTooLong query.utf8ByteSize limit.toNat)
  else .ok ()

/-- The fragment of a time bound, unless it is absent or zero. -/
def timeBound (comparison : String) (bound : Option UInt64) : Option String :=
  (bound.filter (· != 0)).map fun t => "timestamp " ++ comparison ++ " '" ++ decimal t.toNat ++ "' "

/-- The fragment of an id bound, unless it is absent or empty. -/
def idBound (comparison : String) (bound : Option String) : Option String :=
  (bound.filter (· != "")).map fun id => "id " ++ comparison ++ " '" ++ id ++ "' "

/-- Joins fragments to those before them: every one but the very first gets a conjunction. -/
def joinBounds (fragments : List String) : List String → List String
  | [] => fragments
  | bound :: bounds =>
    joinBounds (fragments ++ [if fragments.isEmpty then bound else "and " ++ bound]) bounds

namespace ListingRequest

/-- The fragments of the active bounds, in order. -/
def bounds (request : ListingRequest) : List String :=
  [timeBound ">=" request.timestampStart, timeBound "<=" request.timestampEnd,
    idBound ">" request.idStart, idBound "<" request.idEnd].filterMap id

/-- The resolved fragments of the query. -/
def queryFragments (request : ListingRequest) (catalog : Catalog) :
    Except QueryError (List String) :=
  if request.query = "" then .ok []
  else
    match Fragment.ofQuery request.query with
    | .error e => .error e
    | .ok fragments => catalog.resolve fragments

/-- The fragments of the request: those of the query, then those of the bounds. -/
def fragments (request : ListingRequest) (catalog : Catalog) : Except QueryError (List String) :=
  (request.queryFragments catalog).map (joinBounds · request.bounds)

/-- The body of the WHERE clause; it is empty if nothing filters. -/
def whereBody (request : ListingRequest) (catalog : Catalog) : Except QueryError String :=
  (request.fragments catalog).map String.join

/-- The body of the WHERE clause of a request whose query is not too long. -/
def checkedWhereBody (request : ListingRequest) (catalog : Catalog) (limit : UInt64) :
    Except QueryError String :=
  match checkLength request.query limit with
  | .error e => .error e
  | .ok () => request.whereBody catalog

end ListingRequest

/-! ### Listing queries -/

/-- The columns of a listing. -/
def projection : String :=
  "SELECT " ++
  "timestamp, id, trace_id, span_id, trace_flags, severity_text, severity_number, body, " ++
  "CAST((attributes_string_key, attributes_string_value), 'Map(String, String)') as attributes_string, " ++
  "CAST((attributes_int64_key, attributes_int64_value), 'Map(String, Int64)') as attributes_int64, " ++
  "CAST((attributes_float64_key, attributes_float64_value), 'Map(String, Float64)') as attributes_float64, " ++
  "CAST((resources_string_key, resources_string_value), 'Map(String, String)') as resources_string "

/-- The query that lists the records of a table which the body of a WHERE clause admits. Only a
selected field can be sorted by. -/
def ListingRequest.listing (request : ListingRequest) (catalog : Catalog) (table whereBody : String) :
    Except QueryError String :=
  if catalog.isSelected request.orderBy then
    .ok (projection ++ "FROM " ++ table ++ " " ++
      (if whereBody = "" then "" else "WHERE " ++ whereBody) ++
      "ORDER BY " ++ request.orderBy ++ " " ++ request.order.name ++
      " LIMIT " ++ Text.decimal request.limit.toNat)
  else .error (.unsortableColumn request.orderBy)

end LogFilter
