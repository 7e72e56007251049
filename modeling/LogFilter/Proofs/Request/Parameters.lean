import LogFilter.Proofs.Text.Numeral
import LogFilter.Proofs.Traversal
import LogFilter.Request

/-!
# Requests and their parameters

A request is read from the values of certain names, and from nothing else. A tail request and an
aggregation request are the listing request of the same parameters, restricted to the names that their
filter depends on.
-/

namespace LogFilter

open Text

/-! ### Restriction -/

namespace Parameters

private theorem lastValue?_filter (names : List String) (name : String)
    (pairs : List (String × String)) :
    lastValue? name (pairs.filter fun pair => names.contains pair.1) =
      if name ∈ names then lastValue? name pairs else none := by
  induction pairs with
  | nil => simp [lastValue?]
  | cons pair pairs ih =>
    obtain ⟨key, value⟩ := pair
    by_cases hkey : key ∈ names
    · rw [List.filter_cons_of_pos (by simpa using hkey), lastValue?, lastValue?, ih]
      by_cases hname : name ∈ names
      · simp only [if_pos hname]
      · have hne : key ≠ name := fun heq => hname (heq ▸ hkey)
        simp only [if_neg hname, if_neg hne]
    · rw [List.filter_cons_of_neg (by simpa using hkey), lastValue?, ih]
      by_cases hname : name ∈ names
      · have hne : key ≠ name := fun heq => hkey (heq ▸ hname)
        simp only [if_pos hname, if_neg hne]
        cases lastValue? name pairs <;> rfl
      · simp only [if_neg hname]

variable {params other : Parameters} {names : List String} {name : String}

/-- Restricted parameters keep the values of the given names. -/
theorem get?_restrict_of_mem (h : name ∈ names) :
    (params.restrict names).get? name = params.get? name := by
  rw [get?, restrict, lastValue?_filter, if_pos h, get?]

/-- Restricted parameters have no other names. -/
theorem get?_restrict_of_not_mem (h : name ∉ names) : (params.restrict names).get? name = none := by
  rw [get?, restrict, lastValue?_filter, if_neg h]

/-- Parameters that use only the given names are not changed by restriction to them. -/
theorem restrict_eq_self (h : ∀ pair ∈ params.pairs, pair.1 ∈ names) :
    params.restrict names = params := by
  have hfilter : params.pairs.filter (fun pair => names.contains pair.1) = params.pairs := by
    rw [List.filter_eq_self]
    intro pair hpair
    simpa using h pair hpair
  rw [restrict, hfilter]

/-! ### Values -/

variable {α : Type} {read? : String → Option α}

private theorem number?_congr (h : other.get? name = params.get? name) :
    other.number? read? name = params.number? read? name := by
  rw [number?, number?, h]

private theorem number_congr (h : other.get? name = params.get? name) :
    other.number read? name = params.number read? name := by
  rw [number, number, number?_congr h]

private theorem nonEmpty?_congr (h : other.get? name = params.get? name) :
    other.nonEmpty? name = params.nonEmpty? name := by
  rw [nonEmpty?, nonEmpty?, h]

private theorem number?_of_absent (h : params.get? name = none) :
    params.number? read? name = .ok none := by
  rw [number?, h]

private theorem nonEmpty?_of_absent (h : params.get? name = none) :
    params.nonEmpty? name = none := by
  rw [nonEmpty?, h]
  rfl

/-- What is wrong with a required number. -/
inductive Fault (params : Parameters) (name : String) : QueryError → Prop
  /-- It is not there. -/
  | absent (missing : params.get? name = none) : Fault params name (.missingParameter name)
  /-- It is not the numeral of a word of 64 bits. -/
  | invalid {text : String} (present : params.get? name = some text)
      (unreadable : ∀ n < UInt64.size, ¬ Denotes text n) :
      Fault params name (.invalidParameter name text)

private theorem readUInt64?_eq_none_iff {text : String} :
    readUInt64? text = none ↔ ∀ n < UInt64.size, ¬ Denotes text n := by
  rw [readsNumerals_readUInt64?.eq_none_iff]
  simp only [IsNumeralBelow, denotes_iff_isNumeral, not_exists, not_and]

/-- A required number is refused exactly for what is wrong with it. -/
theorem number_eq_error_iff {e : QueryError} :
    params.number readUInt64? name = .error e ↔ params.Fault name e := by
  unfold number number?
  constructor
  · intro h
    split at h
    · next e' herror =>
      cases h
      split at herror
      · cases herror
      · next text htext =>
        split at herror
        · cases herror
        · next hread =>
          cases herror
          exact .invalid htext (readUInt64?_eq_none_iff.mp hread)
    · cases h
    · next hnone =>
      cases h
      split at hnone
      · next habsent => exact .absent habsent
      · split at hnone <;> cases hnone
  · intro h
    cases h with
    | absent missing => rw [missing]
    | invalid present unreadable =>
      rw [present]
      simp only [readUInt64?_eq_none_iff.mpr unreadable]

/-- A required number that is read is read as an optional one too. -/
theorem number?_of_number {w : α} (h : params.number read? name = .ok w) :
    params.number? read? name = .ok (some w) := by
  unfold number at h
  split at h
  · cases h
  · next value hvalue =>
    cases h
    exact hvalue
  · cases h

end Parameters

/-! ### Requests -/

/-- The names that the filter of a tail request depends on. -/
def TailRequest.filterNames : List String := ["q", "timestampStart", "idStart"]

/-- The names that the filter of an aggregation request depends on. -/
def AggregateRequest.filterNames : List String := ["q", "timestampStart", "timestampEnd"]

/-- The numbers that an aggregation request requires, in the order in which they are read. -/
def AggregateRequest.requiredNames : List String := ["timestampStart", "timestampEnd", "step"]

variable {params other : Parameters}

/-- Parameters that say nothing about limit and order give a listing with the defaults for them. -/
theorem ListingRequest.ofParameters_of_absent (hlimit : params.get? "limit" = none)
    (horder : params.get? "order" = none) (horderBy : params.get? "orderBy" = none) :
    ofParameters params = (params.number? readUInt64? "timestampStart").bind fun timestampStart =>
      (params.number? readUInt64? "timestampEnd").map fun timestampEnd =>
        { query := (params.get? "q").getD "", timestampStart, timestampEnd
          idStart := params.nonEmpty? "idStart", idEnd := params.nonEmpty? "idEnd" } := by
  rw [ofParameters, Parameters.number?_of_absent hlimit, Parameters.order, horder, horderBy]
  cases params.number? readUInt64? "timestampStart" with
  | error e => rfl
  | ok start => cases params.number? readUInt64? "timestampEnd" <;> rfl

namespace TailRequest

private theorem ofParameters_eq (params : Parameters) :
    ofParameters params = (params.number? readUInt64? "timestampStart").map fun timestampStart =>
      { query := (params.get? "q").getD "", timestampStart
        idStart := params.nonEmpty? "idStart" } := by
  rw [ofParameters]
  cases params.number? readUInt64? "timestampStart" <;> rfl

/-- The listing of restricted parameters has the filter of the tail request. -/
theorem ofParameters_restrict (params : Parameters) :
    ListingRequest.ofParameters (params.restrict filterNames) =
      (ofParameters params).map toListing := by
  have hget {name : String} (h : name ∈ filterNames) := params.get?_restrict_of_mem h
  have hnone {name : String} (h : name ∉ filterNames) := params.get?_restrict_of_not_mem h
  have hend := hnone (by decide : "timestampEnd" ∉ filterNames)
  have hidEnd := hnone (by decide : "idEnd" ∉ filterNames)
  rw [ListingRequest.ofParameters_of_absent (hnone (by decide)) (hnone (by decide))
      (hnone (by decide)),
    Parameters.number?_congr (hget (by decide : "timestampStart" ∈ filterNames)),
    Parameters.number?_of_absent hend, hget (by decide : "q" ∈ filterNames),
    Parameters.nonEmpty?_congr (hget (by decide : "idStart" ∈ filterNames)),
    Parameters.nonEmpty?_of_absent hidEnd, ofParameters_eq]
  cases params.number? readUInt64? "timestampStart" <;> rfl

/-- No other parameter changes a tail request. -/
theorem ofParameters_congr (h : ∀ name ∈ filterNames, other.get? name = params.get? name) :
    ofParameters other = ofParameters params := by
  rw [ofParameters_eq, ofParameters_eq, h "q" (by decide),
    Parameters.number?_congr (h "timestampStart" (by decide)),
    Parameters.nonEmpty?_congr (h "idStart" (by decide))]

end TailRequest

namespace AggregateRequest

private theorem ofParameters_eq (params : Parameters) :
    ofParameters params = (params.number readUInt64? "timestampStart").bind fun timestampStart =>
      (params.number readUInt64? "timestampEnd").bind fun timestampEnd =>
        (params.number readUInt64? "step").map fun stepSeconds =>
          { query := (params.get? "q").getD "", timestampStart, timestampEnd
            groupBy := params.nonEmpty? "groupBy", function := params.nonEmpty? "function"
            stepSeconds } := by
  rw [ofParameters]
  cases params.number readUInt64? "timestampStart" with
  | error e => rfl
  | ok start =>
    cases params.number readUInt64? "timestampEnd" with
    | error e => rfl
    | ok stop => cases params.number readUInt64? "step" <;> rfl

/-- An aggregation request is refused exactly when its required numbers are not all read. -/
theorem ofParameters_eq_error_iff {e : QueryError} : ofParameters params = .error e ↔
    requiredNames.mapM (params.number readUInt64?) = .error e := by
  rw [ofParameters_eq, requiredNames, List.mapM_cons, List.mapM_cons, List.mapM_cons, List.mapM_nil]
  cases params.number readUInt64? "timestampStart" with
  | error e => simp [bind, Except.bind]
  | ok start =>
    cases params.number readUInt64? "timestampEnd" with
    | error e => simp [bind, Except.bind]
    | ok stop =>
      cases params.number readUInt64? "step" with
      | error e => simp [bind, Except.bind, Except.map]
      | ok step => simp [bind, pure, Except.bind, Except.pure, Except.map]

/-- The first required number that is absent or no numeral is reported. -/
theorem ofParameters_of_fault {name : String} {e : QueryError}
    (hfirst : IsFirst (fun name => ∃ e, params.Fault name e) requiredNames name)
    (hfault : params.Fault name e) : ofParameters params = .error e := by
  rw [ofParameters_eq_error_iff]
  apply hfirst.mapM_eq_error
  · intro other _ hgood
    cases hnumber : params.number readUInt64? other with
    | error e => exact absurd ⟨e, Parameters.number_eq_error_iff.mp hnumber⟩ hgood
    | ok w => exact ⟨w, rfl⟩
  · exact Parameters.number_eq_error_iff.mpr hfault

/-- If every required number is there and is a numeral, there is a request. -/
theorem exists_ofParameters (h : ∀ name ∈ requiredNames, ∀ e, ¬ params.Fault name e) :
    ∃ aggregate, ofParameters params = .ok aggregate := by
  cases hparams : ofParameters params with
  | ok aggregate => exact ⟨aggregate, rfl⟩
  | error e =>
    rw [ofParameters_eq_error_iff] at hparams
    obtain ⟨front, name, back, -, hnames, -, herror⟩ := mapM_eq_error_iff.mp hparams
    have hmem : name ∈ requiredNames := by
      rw [hnames]
      simp
    exact absurd (Parameters.number_eq_error_iff.mp herror) (h name hmem e)

/-- The listing of restricted parameters has the filter of the aggregation request. -/
theorem ofParameters_restrict {aggregate : AggregateRequest}
    (h : ofParameters params = .ok aggregate) :
    ListingRequest.ofParameters (params.restrict filterNames) = .ok aggregate.toListing := by
  have hget {name : String} (h : name ∈ filterNames) := params.get?_restrict_of_mem h
  have hnone {name : String} (h : name ∉ filterNames) := params.get?_restrict_of_not_mem h
  rw [ListingRequest.ofParameters_of_absent (hnone (by decide)) (hnone (by decide))
      (hnone (by decide)),
    Parameters.number?_congr (hget (by decide : "timestampStart" ∈ filterNames)),
    Parameters.number?_congr (hget (by decide : "timestampEnd" ∈ filterNames)),
    hget (by decide : "q" ∈ filterNames),
    Parameters.nonEmpty?_of_absent (hnone (by decide : "idStart" ∉ filterNames)),
    Parameters.nonEmpty?_of_absent (hnone (by decide : "idEnd" ∉ filterNames))]
  rw [ofParameters_eq] at h
  cases hstart : params.number readUInt64? "timestampStart" with
  | error e => simp [hstart, Except.bind] at h
  | ok start =>
    cases hstop : params.number readUInt64? "timestampEnd" with
    | error e => simp [hstart, hstop, Except.bind] at h
    | ok stop =>
      cases hstep : params.number readUInt64? "step" with
      | error e => simp [hstart, hstop, hstep, Except.bind, Except.map] at h
      | ok step =>
        simp only [hstart, hstop, hstep, Except.bind, Except.map, Except.ok.injEq] at h
        subst h
        rw [Parameters.number?_of_number hstart, Parameters.number?_of_number hstop]
        rfl

/-- The filter of an aggregation request, or why there is none, depends on no other parameter. -/
theorem map_toListing_congr
    (h : ∀ name ∈ "q" :: requiredNames, other.get? name = params.get? name) :
    (ofParameters other).map toListing = (ofParameters params).map toListing := by
  rw [ofParameters_eq, ofParameters_eq, h "q" (by decide),
    Parameters.number_congr (h "timestampStart" (by decide)),
    Parameters.number_congr (h "timestampEnd" (by decide)),
    Parameters.number_congr (h "step" (by decide))]
  cases params.number readUInt64? "timestampStart" with
  | error e => rfl
  | ok start =>
    cases params.number readUInt64? "timestampEnd" with
    | error e => rfl
    | ok stop => cases params.number readUInt64? "step" <;> rfl

end AggregateRequest

end LogFilter
