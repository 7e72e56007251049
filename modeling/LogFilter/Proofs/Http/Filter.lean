import LogFilter.Http.Service
import LogFilter.Proofs.Catalog.LastGiven
import LogFilter.Proofs.Request.Parameters

/-!
# The filter behind the endpoints

Listings, live tails and aggregations share one filter. A listing also writes a query, which could fail
at its sort column; the column that it sorts by unless told otherwise is selected under all settings,
so without a sort column among the parameters only the filter decides. Tails and aggregations therefore
answer as a listing does that is given their parameters and no others.
-/

namespace LogFilter

/-- The sort column is the one that the parameters name, or that of times. -/
theorem ListingRequest.orderBy_of_ofParameters {params : Parameters} {request : ListingRequest}
    (h : ofParameters params = .ok request) :
    request.orderBy = (params.get? "orderBy").getD "timestamp" := by
  simp only [ofParameters, bind, Except.bind] at h
  split at h
  · cases h
  · split at h
    · cases h
    · split at h
      · cases h
      · split at h
        · cases h
        · cases h
          rfl

namespace Http

variable (settings : Settings) {params other : Parameters}

/-- Without a sort column among the parameters, a listing answers with the predicate of its request, and
is refused exactly as that is. -/
theorem filterWhere_map_whereBody (h : params.get? "orderBy" = none) :
    (filterWhere settings params).map ListingAnswer.whereBody =
      (ListingRequest.ofParameters params).bind settings.whereBody := by
  rw [filterWhere]
  cases hrequest : ListingRequest.ofParameters params with
  | error e => rfl
  | ok request =>
    have horder : settings.catalog.isSelected request.orderBy = true := by
      rw [ListingRequest.orderBy_of_ofParameters hrequest, h]
      exact settings.isSelected_of_builtIn (by decide)
    simp only [bind, Except.bind]
    cases settings.whereBody request with
    | error e => rfl
    | ok body =>
      simp only [ListingRequest.listing, if_pos horder]
      rfl

private theorem tailWhere_eq (params : Parameters) : tailWhere settings params =
    ((TailRequest.ofParameters params).map TailRequest.toListing).bind settings.whereBody := by
  rw [tailWhere]
  cases TailRequest.ofParameters params <;> rfl

private theorem aggregateWhere_map_snd (params : Parameters) :
    (aggregateWhere settings params).map Prod.snd =
      ((AggregateRequest.ofParameters params).map AggregateRequest.toListing).bind
        settings.whereBody := by
  rw [aggregateWhere]
  cases AggregateRequest.ofParameters params with
  | error e => rfl
  | ok aggregate =>
    simp only [bind, Except.bind, Except.map]
    cases settings.whereBody aggregate.toListing <;> rfl

/-- A tail answers as a listing does on the parameters of its filter. -/
theorem tailWhere_eq_filterWhere (params : Parameters) : tailWhere settings params =
    (filterWhere settings (params.restrict TailRequest.filterNames)).map ListingAnswer.whereBody := by
  rw [tailWhere_eq, filterWhere_map_whereBody settings
    (Parameters.get?_restrict_of_not_mem (by decide)), TailRequest.ofParameters_restrict]

/-- An aggregation whose required numbers are read answers as a listing does on the parameters of its
filter. -/
theorem aggregateWhere_eq_filterWhere
    (h : ∀ name ∈ AggregateRequest.requiredNames, ∀ e, ¬ params.Fault name e) :
    (aggregateWhere settings params).map Prod.snd =
      (filterWhere settings (params.restrict AggregateRequest.filterNames)).map
        ListingAnswer.whereBody := by
  obtain ⟨aggregate, haggregate⟩ := AggregateRequest.exists_ofParameters h
  rw [aggregateWhere_map_snd, haggregate, filterWhere_map_whereBody settings
    (Parameters.get?_restrict_of_not_mem (by decide)),
    AggregateRequest.ofParameters_restrict haggregate]
  rfl

/-- Tails and aggregations share the filter of listings. A tail answers as a listing does on the query,
the lower time bound and the lower id bound. An aggregation reports the first of its required
numbers that is absent or no numeral; without one, it answers as a listing does on the query and the time
bounds. No other parameter changes the predicate or the error of either. -/
theorem tail_aggregate_share_filter (params : Parameters) :
    tailWhere settings params =
      (filterWhere settings (params.restrict TailRequest.filterNames)).map ListingAnswer.whereBody ∧
    (∀ name e, IsFirst (fun name => ∃ e, params.Fault name e) AggregateRequest.requiredNames name →
      params.Fault name e → aggregateWhere settings params = .error e) ∧
    ((∀ name ∈ AggregateRequest.requiredNames, ∀ e, ¬ params.Fault name e) →
      (aggregateWhere settings params).map Prod.snd =
        (filterWhere settings (params.restrict AggregateRequest.filterNames)).map
          ListingAnswer.whereBody) ∧
    ∀ other : Parameters,
      ((∀ name ∈ TailRequest.filterNames, other.get? name = params.get? name) →
        tailWhere settings other = tailWhere settings params) ∧
      ((∀ name ∈ "q" :: AggregateRequest.requiredNames, other.get? name = params.get? name) →
        (aggregateWhere settings other).map Prod.snd =
          (aggregateWhere settings params).map Prod.snd) := by
  refine ⟨tailWhere_eq_filterWhere settings params, ?_, aggregateWhere_eq_filterWhere settings, ?_⟩
  · intro name e hfirst hfault
    rw [aggregateWhere, AggregateRequest.ofParameters_of_fault hfirst hfault]
    rfl
  · intro other
    constructor
    · intro h
      rw [tailWhere_eq, tailWhere_eq, TailRequest.ofParameters_congr h]
    · intro h
      rw [aggregateWhere_map_snd, aggregateWhere_map_snd, AggregateRequest.map_toListing_congr h]

end Http

end LogFilter
