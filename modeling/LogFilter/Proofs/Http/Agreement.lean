import LogFilter.Proofs.Http.Filter
import LogFilter.Proofs.Request.Refusal

/-!
# The service and the command agree

A filter can be translated by the service and by the `translate` command. The service reads an empty id
bound as none, and the command passes on what it is given; the service also writes a listing query, which
could fail at its sort column. Neither makes a difference to the answer.
-/

namespace LogFilter

/-! ### Lengths -/

/-- The predicate of a query is never refused for its length. -/
theorem ListingRequest.whereBody_ne_queryTooLong (request : ListingRequest) (catalog : Catalog)
    (length limit : Nat) : request.whereBody catalog ≠ .error (.queryTooLong length limit) := by
  intro h
  obtain ⟨tiles, tail, htiling, -, -⟩ := Piece.exists_tiling request.query.toList
  rcases ((whereBody_eq_error_iff htiling).mp h).kind with he | ⟨clause, he⟩ | ⟨column, he⟩ <;>
    cases he

/-- Under given settings a query is too long exactly when it has more bytes than they allow, and its
number of bytes is reported. -/
theorem Settings.whereBody_eq_queryTooLong_iff {settings : Settings} {request : ListingRequest}
    {length limit : Nat} : settings.whereBody request = .error (.queryTooLong length limit) ↔
      settings.maxQueryLength.toNat < request.query.utf8ByteSize ∧
        length = request.query.utf8ByteSize ∧ limit = settings.maxQueryLength.toNat := by
  unfold whereBody ListingRequest.checkedWhereBody checkLength
  by_cases hlong : request.query.utf8ByteSize > settings.maxQueryLength.toNat
  · simp only [if_pos hlong, Except.error.injEq, QueryError.queryTooLong.injEq]
    constructor
    · rintro ⟨rfl, rfl⟩
      exact ⟨hlong, rfl, rfl⟩
    · rintro ⟨-, rfl, rfl⟩
      exact ⟨rfl, rfl⟩
  · simp only [if_neg hlong]
    exact iff_of_false (request.whereBody_ne_queryTooLong settings.catalog length limit)
      fun h => hlong h.1

/-- The code of a query that is too long is that of no other error. -/
theorem QueryError.code_eq_queryTooLong_iff {e : QueryError} :
    e.code = "QUERY_TOO_LONG" ↔ ∃ length limit, e = .queryTooLong length limit := by
  cases e <;> simp [code]

/-! ### Arguments of the command -/

/-- An id bound as the command is given it: one that is absent may be given as the empty text. -/
def IdBoundGiven (given bound : Option String) : Prop :=
  given = bound ∨ bound = none ∧ given = some ""

/-- The command is given the filter of a request. -/
structure CommandLine.FilterArguments.Gives (filter : FilterArguments) (request : ListingRequest) :
    Prop where
  query : filter.query = request.query
  timestampStart : filter.timestampStart = request.timestampStart
  timestampEnd : filter.timestampEnd = request.timestampEnd
  idStart : IdBoundGiven filter.idStart request.idStart
  idEnd : IdBoundGiven filter.idEnd request.idEnd

private theorem idBound_of_given {given bound : Option String} (h : IdBoundGiven given bound)
    (comparison : String) : idBound comparison given = idBound comparison bound := by
  rcases h with rfl | ⟨rfl, rfl⟩ <;> rfl

/-- Only the query and the active bounds make the predicate of a request. -/
theorem Settings.whereBody_congr (settings : Settings) {request other : ListingRequest}
    (hquery : other.query = request.query) (hbounds : other.bounds = request.bounds) :
    settings.whereBody other = settings.whereBody request := by
  simp only [whereBody, ListingRequest.checkedWhereBody, ListingRequest.whereBody,
    ListingRequest.fragments, ListingRequest.queryFragments, hquery, hbounds]

/-- The command gets the predicate, or the error, of the request whose filter it is given. -/
theorem CommandLine.FilterArguments.Gives.whereBody_eq {filter : FilterArguments}
    {request : ListingRequest} (h : filter.Gives request) (settings : Settings) :
    settings.whereBody filter.toListing = settings.whereBody request := by
  apply settings.whereBody_congr h.query
  simp only [ListingRequest.bounds, toListing, h.timestampStart, h.timestampEnd,
    idBound_of_given h.idStart, idBound_of_given h.idEnd]

/-! ### Responses -/

/-- The member of an object that has this name. -/
def Json.member? (name : String) : Json → Option Json
  | .object members => members.lookup name
  | _ => none

namespace Http

/-- The text that the body of a response holds under this name. -/
def Response.text? (response : Response) (name : String) : Option String :=
  match response.body.bind (Json.member? name) with
  | some (.string text) => some text
  | _ => none

private theorem text?_where_listing (a : ListingAnswer) :
    (Response.ok a.toJson).text? "where" = some a.whereBody := rfl

private theorem text?_code_listing (a : ListingAnswer) :
    (Response.ok a.toJson).text? "code" = none := rfl

private theorem text?_code_refuse (e : QueryError) : (refuse e).text? "code" = some e.code := rfl

/-- The parameters of a listing that are also arguments of the command. -/
def filterNames : List String := ["q", "timestampStart", "timestampEnd", "idStart", "idEnd"]

variable {request : Request}

private theorem respond_filterWhere (settings : Settings) (hmethod : request.method = "GET")
    (hpath : request.path = Endpoint.filterWhere.path) :
    respond settings request =
      answer ListingAnswer.toJson (filterWhere settings request.parameters) :=
  respond_of_endpoint .filterWhere settings hmethod hpath

/-- The response to a listing holds the predicate of its request, or the error of that. -/
theorem respond_listing_cases (settings : Settings) {listing : ListingRequest}
    (hmethod : request.method = "GET")
    (hpath : request.path = Endpoint.filterWhere.path)
    (hnames : ∀ pair ∈ request.parameters.pairs, pair.1 ∈ filterNames)
    (hlisting : ListingRequest.ofParameters request.parameters = .ok listing) :
    (∃ a : ListingAnswer, settings.whereBody listing = .ok a.whereBody ∧
      respond settings request = .ok a.toJson) ∨
    ∃ e, settings.whereBody listing = .error e ∧ respond settings request = refuse e := by
  have horderBy : request.parameters.get? "orderBy" = none := by
    rw [← Parameters.restrict_eq_self hnames]
    exact Parameters.get?_restrict_of_not_mem (by decide)
  have hbody := filterWhere_map_whereBody settings horderBy
  rw [hlisting] at hbody
  rw [respond_filterWhere settings hmethod hpath]
  cases hanswer : filterWhere settings request.parameters with
  | ok a =>
    rw [hanswer] at hbody
    exact .inl ⟨a, hbody.symm, rfl⟩
  | error e =>
    rw [hanswer] at hbody
    exact .inr ⟨e, hbody.symm, rfl⟩

/-- The service and the `translate` command agree on every filter. The service answers a listing with
status 200 and a predicate exactly when the filter has it, and with status 400 and the code and message
of the error when it has none. The command, given the same filter, prints the same predicate or
reports the same error. Both refuse a query for its length exactly when it has more bytes
than the settings allow. -/
theorem respond_agrees_with_command (settings : Settings) (request : Request)
    (listing : ListingRequest) (hmethod : request.method = "GET")
    (hpath : request.path = Endpoint.filterWhere.path)
    (hnames : ∀ pair ∈ request.parameters.pairs, pair.1 ∈ filterNames)
    (hlisting : ListingRequest.ofParameters request.parameters = .ok listing) :
    (∀ body, (respond settings request).status = 200 ∧
        (respond settings request).text? "where" = some body ↔
      settings.whereBody listing = .ok body) ∧
    (∀ e, settings.whereBody listing = .error e →
      respond settings request = .report 400 "bad_request" e.code e.message) ∧
    (∀ filter : CommandLine.FilterArguments, filter.Gives listing →
      settings.whereBody filter.toListing = settings.whereBody listing ∧
      Program.printWhere settings filter.toListing =
        match settings.whereBody listing with
        | .ok body => .printed body
        | .error e => .failed (filterFailure listing.query e)) ∧
    (∀ length limit, settings.whereBody listing = .error (.queryTooLong length limit) ↔
      settings.maxQueryLength.toNat < listing.query.utf8ByteSize ∧
        length = listing.query.utf8ByteSize ∧ limit = settings.maxQueryLength.toNat) ∧
    ((respond settings request).text? "code" = some "QUERY_TOO_LONG" ↔
      settings.maxQueryLength.toNat < listing.query.utf8ByteSize) := by
  have hcommand (filter : CommandLine.FilterArguments) (hfilter : filter.Gives listing) :
      settings.whereBody filter.toListing = settings.whereBody listing ∧
      Program.printWhere settings filter.toListing =
        match settings.whereBody listing with
        | .ok body => .printed body
        | .error e => .failed (filterFailure listing.query e) := by
    have hquery : filter.toListing.query = listing.query := hfilter.query
    rw [Program.printWhere, hfilter.whereBody_eq settings, hquery]
    exact ⟨rfl, rfl⟩
  refine ⟨?_, ?_, hcommand, fun _ _ => Settings.whereBody_eq_queryTooLong_iff, ?_⟩ <;>
    rcases respond_listing_cases settings hmethod hpath hnames hlisting with
      ⟨a, hbody, hresponse⟩ | ⟨e, herror, hresponse⟩
  · intro body
    rw [hresponse, hbody, text?_where_listing, Option.some.injEq, Except.ok.injEq]
    exact and_iff_right rfl
  · intro body
    rw [hresponse, herror]
    refine iff_of_false (fun h => ?_) nofun
    exact absurd h.1 (by decide : (400 : Nat) ≠ 200)
  · intro e he
    rw [hbody] at he
    cases he
  · intro e' he
    rw [herror] at he
    cases he
    exact hresponse
  · rw [hresponse, text?_code_listing]
    refine iff_of_false nofun fun hlong => ?_
    have h := Settings.whereBody_eq_queryTooLong_iff.mpr ⟨hlong, rfl, rfl⟩
    rw [hbody] at h
    cases h
  · rw [hresponse, text?_code_refuse, Option.some.injEq, QueryError.code_eq_queryTooLong_iff]
    constructor
    · rintro ⟨length, limit, rfl⟩
      exact (Settings.whereBody_eq_queryTooLong_iff.mp herror).1
    · intro hlong
      have h := Settings.whereBody_eq_queryTooLong_iff.mpr ⟨hlong, rfl, rfl⟩
      rw [herror, Except.error.injEq] at h
      exact ⟨_, _, h⟩

/-- A query between a time and an empty id bound, over the service and from the command. -/
theorem respond_agrees_with_command_empty_bound :
    let request : Request :=
      { target := "/api/v1/logs/where?q=id+gt+1&timestampStart=5&idStart=" }
    ListingRequest.ofParameters request.parameters =
      .ok { query := "id gt 1", timestampStart := some 5 } ∧
    (respond {} request).status = 200 ∧
    (respond {} request).text? "where" = some "id > 1 and timestamp >= '5' " ∧
    Program.printWhere {} (CommandLine.FilterArguments.toListing
      { query := "id gt 1", timestampStart := some 5, idStart := some "" }) =
        .printed "id > 1 and timestamp >= '5' " := by
  intro request
  have hlisting : ListingRequest.ofParameters request.parameters =
      .ok { query := "id gt 1", timestampStart := some 5 } := by decide +kernel
  obtain ⟨hwhere, -, hcommand, -, -⟩ := respond_agrees_with_command {} request
    { query := "id gt 1", timestampStart := some 5 } rfl (by decide +kernel) (by decide +kernel)
    hlisting
  have hbody : Settings.whereBody {} { query := "id gt 1", timestampStart := some 5 } =
      .ok "id > 1 and timestamp >= '5' " := by decide +kernel
  obtain ⟨hstatus, htext⟩ := (hwhere _).mpr hbody
  refine ⟨hlisting, hstatus, htext, ?_⟩
  rw [(hcommand _ ⟨rfl, rfl, rfl, .inr ⟨rfl, rfl⟩, .inl rfl⟩).2, hbody]

end Http

end LogFilter
