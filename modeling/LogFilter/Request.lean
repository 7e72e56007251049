import LogFilter.Error
import LogFilter.Text.Basic
import LogFilter.Text.Lowercase

/-!
# Requests

A request comes as named text values, of which the last of a name counts. Three kinds of request share
one filter: a listing, a live tail, which has only lower bounds, and an aggregation over time buckets,
which requires both time bounds. Absent, zero and empty bounds do not bound.
-/

namespace LogFilter

open Text

/-! ### Parameters -/

/-- Named values in the order given. -/
structure Parameters where
  pairs : List (String × String)
  deriving DecidableEq, Repr

namespace Parameters

/-- The last value of a name in a list of pairs. -/
def lastValue? (name : String) : List (String × String) → Option String
  | [] => none
  | (key, value) :: rest =>
    match lastValue? name rest with
    | some later => some later
    | none => if key = name then some value else none

/-- The value of a name. -/
def get? (params : Parameters) (name : String) : Option String := lastValue? name params.pairs

/-- The value of a name, or nothing if it is the empty text. -/
def nonEmpty? (params : Parameters) (name : String) : Option String :=
  (params.get? name).filter (· != "")

/-- The value of a name read as a number, if it is present. -/
def number? {α : Type} (read? : String → Option α) (params : Parameters) (name : String) :
    Except QueryError (Option α) :=
  match params.get? name with
  | none => .ok none
  | some text =>
    match read? text with
    | some value => .ok (some value)
    | none => .error (.invalidParameter name text)

/-- The value of a name read as a number, which must be present. -/
def number {α : Type} (read? : String → Option α) (params : Parameters) (name : String) :
    Except QueryError α :=
  match params.number? read? name with
  | .error e => .error e
  | .ok (some value) => .ok value
  | .ok none => .error (.missingParameter name)

/-- The parameters with these names only. -/
def restrict (params : Parameters) (names : List String) : Parameters :=
  ⟨params.pairs.filter fun pair => names.contains pair.1⟩

end Parameters

/-! ### Kinds of request -/

/-- A sort direction. -/
inductive SortOrder where
  | asc
  | desc
  deriving DecidableEq, Repr

namespace SortOrder

/-- The direction as written in a listing query. -/
def name : SortOrder → String
  | asc => "asc"
  | desc => "desc"

/-- Reads a direction, in any case. -/
def parse (text : String) : Except QueryError SortOrder :=
  match lowercase text with
  | "asc" => .ok asc
  | "desc" => .ok desc
  | _ => .error (.invalidParameter "order" text)

end SortOrder

/-- A request for a list of log records. -/
structure ListingRequest where
  query : String := ""
  limit : UInt32 := 30
  orderBy : String := "timestamp"
  order : SortOrder := .desc
  timestampStart : Option UInt64 := none
  timestampEnd : Option UInt64 := none
  idStart : Option String := none
  idEnd : Option String := none
  deriving DecidableEq, Repr

/-- The direction that the parameters ask for, downwards if they do not say. -/
def Parameters.order (params : Parameters) : Except QueryError SortOrder :=
  match params.get? "order" with
  | none => .ok .desc
  | some text => SortOrder.parse text

/-- Reads a listing request; the first bad one of limit, order and the time bounds is reported. -/
def ListingRequest.ofParameters (params : Parameters) : Except QueryError ListingRequest := do
  let limit ← params.number? readUInt32? "limit"
  let order ← params.order
  let timestampStart ← params.number? readUInt64? "timestampStart"
  let timestampEnd ← params.number? readUInt64? "timestampEnd"
  return {
    query := (params.get? "q").getD ""
    limit := limit.getD 30
    orderBy := (params.get? "orderBy").getD "timestamp"
    order, timestampStart, timestampEnd
    idStart := params.nonEmpty? "idStart"
    idEnd := params.nonEmpty? "idEnd" }

/-- A request to follow new log records. -/
structure TailRequest where
  query : String := ""
  timestampStart : Option UInt64 := none
  idStart : Option String := none
  deriving DecidableEq, Repr

namespace TailRequest

/-- Reads a tail request. -/
def ofParameters (params : Parameters) : Except QueryError TailRequest := do
  let timestampStart ← params.number? readUInt64? "timestampStart"
  return {
    query := (params.get? "q").getD ""
    timestampStart
    idStart := params.nonEmpty? "idStart" }

/-- The listing with the same filter. -/
def toListing (tail : TailRequest) : ListingRequest :=
  { query := tail.query, timestampStart := tail.timestampStart, idStart := tail.idStart }

end TailRequest

/-- A request to aggregate log records over time buckets. -/
structure AggregateRequest where
  query : String
  timestampStart : UInt64
  timestampEnd : UInt64
  groupBy : Option String
  function : Option String
  stepSeconds : UInt64
  deriving DecidableEq, Repr

namespace AggregateRequest

/-- Reads an aggregation request; the first bad or absent one of the time bounds and the step is
reported. -/
def ofParameters (params : Parameters) : Except QueryError AggregateRequest := do
  let timestampStart ← params.number readUInt64? "timestampStart"
  let timestampEnd ← params.number readUInt64? "timestampEnd"
  let stepSeconds ← params.number readUInt64? "step"
  return {
    query := (params.get? "q").getD ""
    timestampStart, timestampEnd
    groupBy := params.nonEmpty? "groupBy"
    function := params.nonEmpty? "function"
    stepSeconds }

/-- The listing with the same filter. -/
def toListing (aggregate : AggregateRequest) : ListingRequest :=
  { query := aggregate.query
    timestampStart := some aggregate.timestampStart
    timestampEnd := some aggregate.timestampEnd }

end AggregateRequest

end LogFilter
