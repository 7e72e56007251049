import LogFilter.Proofs.Request.Parameters
import LogFilter.Proofs.Text.Lowercase

/-!
# Exact reading of listing requests

A listing request is read from parameters that are texts: a limit, an order and time bounds among them.
The request holds what these denote, and of several bad ones the first is reported. How a number is
written, with a plus sign or with zeros in front, makes no difference.
-/

namespace LogFilter

open Text

/-! ### Sort orders -/

namespace SortOrder

variable {text : String} {order : SortOrder}

/-- No letter outside ASCII is lowercased to a letter of the name of an order. -/
theorem lowercase_eq_name_iff : lowercase text = order.name ↔ text.toLower = order.name := by
  apply lowercase_eq_iff_toLower
  apply List.all_eq_true.mp
  cases order <;> decide

/-- An order is read from its name in any case of ASCII letters. -/
theorem parse_eq_ok_iff : parse text = .ok order ↔ text.toLower = order.name := by
  rw [← lowercase_eq_name_iff]
  unfold parse
  split
  · next h => cases order <;> simp [h, name]
  · next h => cases order <;> simp [h, name]
  · next hasc hdesc =>
    cases order with
    | asc => exact iff_of_false nofun hasc
    | desc => exact iff_of_false nofun hdesc

private theorem parse_eq_error_iff {e : QueryError} : parse text = .error e ↔
    (¬ ∃ order : SortOrder, text.toLower = order.name) ∧ e = .invalidParameter "order" text := by
  simp only [← parse_eq_ok_iff]
  unfold parse
  split
  · simp
  · simp
  · simp [eq_comm]

end SortOrder

namespace Parameters

variable {params : Parameters} {name : String} {α β : Type}

/-! ### Parts of a request -/

/-- A part of a request is what the parameter means, or its default if the parameter is absent. -/
def Sets (params : Parameters) (name : String) (means : String → α → Prop) (default part : α) :
    Prop :=
  match params.get? name with
  | none => part = default
  | some text => means text part

/-- The text means an optional bound, which is there. -/
def MeansNumber {W : Type} (toNat : W → Nat) (text : String) (bound : Option W) : Prop :=
  ∃ w, bound = some w ∧ IsNumeral text (toNat w)

/-- The text means an identifier, unless it is empty. -/
def MeansIdentifier (text : String) (id : Option String) : Prop :=
  id = if text = "" then none else some text

private theorem sets_text_iff {default part : String} :
    params.Sets name (fun text part => part = text) default part ↔
      part = (params.get? name).getD default := by
  unfold Sets
  cases params.get? name <;> simp

private theorem sets_identifier_iff {id : Option String} :
    params.Sets name MeansIdentifier none id ↔ id = params.nonEmpty? name := by
  unfold Sets nonEmpty? MeansIdentifier
  cases params.get? name with
  | none => simp
  | some text => by_cases h : text = "" <;> simp [h, Option.filter]

private theorem sets_order_iff {order : SortOrder} :
    params.Sets "order" (fun text order => text.toLower = order.name) .desc order ↔
      params.order = .ok order := by
  unfold Sets Parameters.order
  cases params.get? "order" with
  | none => simp [eq_comm]
  | some text => simp only [SortOrder.parse_eq_ok_iff]

section

variable {W : Type} {read? : String → Option W} {toNat : W → Nat} {bound : Nat}
  (hread : ReadsNumerals read? toNat bound)
include hread

private theorem sets_number_iff {value : Option W} :
    params.Sets name (MeansNumber toNat) none value ↔ params.number? read? name = .ok value := by
  unfold Sets number? MeansNumber
  cases params.get? name with
  | none => simp [eq_comm]
  | some text =>
    simp only [← hread.eq_some_iff]
    cases read? text <;> simp [eq_comm]

private theorem sets_numberD_iff {default w : W} :
    params.Sets name (fun text w => IsNumeral text (toNat w)) default w ↔
      ∃ value, params.number? read? name = .ok value ∧ w = value.getD default := by
  unfold Sets number?
  cases params.get? name with
  | none => simp
  | some text =>
    simp only [← hread.eq_some_iff]
    cases read? text <;> simp [eq_comm]

end

/-! ### Checks -/

/-- A parameter whose value is checked, and what the value has to be. -/
structure Check where
  name : String
  isGood : String → Prop

/-- The parameter is there, and its value is not what it has to be. -/
def Offends (params : Parameters) (check : Check) : Prop :=
  ∃ text, params.get? check.name = some text ∧ ¬ check.isGood text

/-- The error gives the name of the parameter and its value. -/
def Reports (params : Parameters) (check : Check) (e : QueryError) : Prop :=
  ∃ text, params.get? check.name = some text ∧ e = .invalidParameter check.name text

/-- The error is about the first of the checks that the parameters offend against. -/
def ReportsFirst (params : Parameters) (checks : List Check) (e : QueryError) : Prop :=
  ∃ check, IsFirst params.Offends checks check ∧ params.Reports check e

/-- A step of reading fails exactly when the parameters offend against a check, and reports it. -/
def Performs (params : Parameters) (check : Check) (step : Except QueryError α) : Prop :=
  ∀ e, step = .error e ↔ params.Offends check ∧ params.Reports check e

private theorem not_reportsFirst_nil {e : QueryError} : ¬ params.ReportsFirst [] e := by
  rintro ⟨check, hfirst, -⟩
  exact absurd hfirst.mem List.not_mem_nil

private theorem reportsFirst_cons {check : Check} {checks : List Check} {e : QueryError} :
    params.ReportsFirst (check :: checks) e ↔
      params.Offends check ∧ params.Reports check e ∨
        ¬ params.Offends check ∧ params.ReportsFirst checks e := by
  simp only [ReportsFirst, isFirst_cons]
  constructor
  · rintro ⟨found, ⟨hoffends, rfl⟩ | ⟨hgood, hfirst⟩, hreports⟩
    · exact .inl ⟨hoffends, hreports⟩
    · exact .inr ⟨hgood, found, hfirst, hreports⟩
  · rintro (⟨hoffends, hreports⟩ | ⟨hgood, found, hfirst, hreports⟩)
    · exact ⟨check, .inl ⟨hoffends, rfl⟩, hreports⟩
    · exact ⟨found, .inr ⟨hgood, hfirst⟩, hreports⟩

/-- A step that performs a check gives something exactly when the parameters do not offend. -/
theorem Performs.exists_ok_iff {check : Check} {step : Except QueryError α}
    (h : params.Performs check step) : (∃ a, step = .ok a) ↔ ¬ params.Offends check := by
  constructor
  · rintro ⟨a, rfl⟩ ⟨text, htext, hbad⟩
    cases (h _).mpr ⟨⟨text, htext, hbad⟩, text, htext, rfl⟩
  · intro hgood
    cases hstep : step with
    | error e => exact absurd ((h e).mp hstep).1 hgood
    | ok a => exact ⟨a, rfl⟩

/-- Steps in a row report the first check that the parameters offend against. -/
theorem Performs.bind_eq_error_iff {check : Check} {checks : List Check}
    {step : Except QueryError α} {next : α → Except QueryError β} {e : QueryError}
    (hstep : params.Performs check step)
    (hnext : ∀ a, next a = .error e ↔ params.ReportsFirst checks e) :
    (step >>= next) = .error e ↔ params.ReportsFirst (check :: checks) e := by
  rw [LogFilter.bind_eq_error_iff, reportsFirst_cons, hstep e, ← hstep.exists_ok_iff]
  simp only [hnext, exists_and_right]

/-- Reading a number performs the check of its parameter. -/
theorem performs_number? {W : Type} {read? : String → Option W} {toNat : W → Nat} {bound : Nat}
    (hread : ReadsNumerals read? toNat bound) (params : Parameters) (name : String) :
    params.Performs ⟨name, IsNumeralBelow bound⟩ (params.number? read? name) := by
  intro e
  unfold number? Offends Reports
  cases params.get? name with
  | none => simp
  | some text =>
    have hbad : read? text = none ↔ ¬ IsNumeralBelow bound text := hread.eq_none_iff
    cases hvalue : read? text with
    | none => simp [← hbad, hvalue, eq_comm]
    | some w => simp [← hbad, hvalue]

/-- Reading the direction performs the check of its parameter. -/
theorem performs_order (params : Parameters) :
    params.Performs ⟨"order", fun text => ∃ order : SortOrder, text.toLower = order.name⟩
      params.order := by
  intro e
  unfold Parameters.order Offends Reports
  cases params.get? "order" with
  | none => simp
  | some text => simp [SortOrder.parse_eq_error_iff]

end Parameters

/-! ### Requests -/

namespace ListingRequest

open Parameters

variable {params : Parameters} {request : ListingRequest}

/-- The parameters that are checked, in the order in which they are read. -/
def checks : List Check :=
  [⟨"limit", IsNumeralBelow UInt32.size⟩,
    ⟨"order", fun text => ∃ order : SortOrder, text.toLower = order.name⟩,
    ⟨"timestampStart", IsNumeralBelow UInt64.size⟩, ⟨"timestampEnd", IsNumeralBelow UInt64.size⟩]

/-- The request says what the parameters say, and has the defaults for those that are absent. -/
structure IsReadFrom (request : ListingRequest) (params : Parameters) : Prop where
  query : params.Sets "q" (fun text query => query = text) ({} : ListingRequest).query request.query
  limit : params.Sets "limit" (fun text limit => IsNumeral text limit.toNat)
    ({} : ListingRequest).limit request.limit
  orderBy : params.Sets "orderBy" (fun text column => column = text)
    ({} : ListingRequest).orderBy request.orderBy
  order : params.Sets "order" (fun text order => text.toLower = order.name)
    ({} : ListingRequest).order request.order
  timestampStart : params.Sets "timestampStart" (MeansNumber UInt64.toNat) none
    request.timestampStart
  timestampEnd : params.Sets "timestampEnd" (MeansNumber UInt64.toNat) none request.timestampEnd
  idStart : params.Sets "idStart" MeansIdentifier none request.idStart
  idEnd : params.Sets "idEnd" MeansIdentifier none request.idEnd

/-- Exactly the request that the parameters say is read. -/
theorem ofParameters_eq_ok_iff : ofParameters params = .ok request ↔ request.IsReadFrom params := by
  unfold ofParameters
  simp only [bind_eq_ok_iff, pure, Except.pure, Except.ok.injEq]
  constructor
  · rintro ⟨limit, hlimit, order, horder, start, hstart, stop, hstop, rfl⟩
    exact {
      query := sets_text_iff.mpr rfl
      limit := (sets_numberD_iff readsNumerals_readUInt32?).mpr ⟨limit, hlimit, rfl⟩
      orderBy := sets_text_iff.mpr rfl
      order := sets_order_iff.mpr horder
      timestampStart := (sets_number_iff readsNumerals_readUInt64?).mpr hstart
      timestampEnd := (sets_number_iff readsNumerals_readUInt64?).mpr hstop
      idStart := sets_identifier_iff.mpr rfl
      idEnd := sets_identifier_iff.mpr rfl }
  · intro h
    obtain ⟨limit, hlimit, hlimitD⟩ := (sets_numberD_iff readsNumerals_readUInt32?).mp h.limit
    refine ⟨limit, hlimit, _, sets_order_iff.mp h.order,
      _, (sets_number_iff readsNumerals_readUInt64?).mp h.timestampStart,
      _, (sets_number_iff readsNumerals_readUInt64?).mp h.timestampEnd, ?_⟩
    cases request
    congr 1
    · exact (sets_text_iff.mp h.query).symm
    · exact hlimitD.symm
    · exact (sets_text_iff.mp h.orderBy).symm
    · exact (sets_identifier_iff.mp h.idStart).symm
    · exact (sets_identifier_iff.mp h.idEnd).symm

/-- The first bad parameter is reported. -/
theorem ofParameters_eq_error_iff {e : QueryError} :
    ofParameters params = .error e ↔ params.ReportsFirst checks e := by
  unfold ofParameters checks
  -- The steps perform the checks one by one, in the order of the list.
  apply (performs_number? readsNumerals_readUInt32? params "limit").bind_eq_error_iff
  intro limit
  apply (performs_order params).bind_eq_error_iff
  intro order
  apply (performs_number? readsNumerals_readUInt64? params "timestampStart").bind_eq_error_iff
  intro start
  apply (performs_number? readsNumerals_readUInt64? params "timestampEnd").bind_eq_error_iff
  intro stop
  exact iff_of_false nofun not_reportsFirst_nil

/-- A request is read exactly if no parameter is bad. -/
theorem exists_ofParameters_iff : (∃ request, ofParameters params = .ok request) ↔
    ∀ check ∈ checks, ¬ params.Offends check := by
  constructor
  · rintro ⟨request, hrequest⟩
    rcases exists_isFirst_or_forall params.Offends checks with ⟨check, hfirst⟩ | hgood
    · obtain ⟨text, htext, -⟩ := hfirst.1
      rw [ofParameters_eq_error_iff.mpr ⟨check, hfirst, text, htext, rfl⟩] at hrequest
      cases hrequest
    · exact hgood
  · intro hgood
    cases hparams : ofParameters params with
    | ok request => exact ⟨request, rfl⟩
    | error e =>
      obtain ⟨check, hfirst, -⟩ := ofParameters_eq_error_iff.mp hparams
      exact absurd hfirst.1 (hgood check hfirst.mem)

/-! ### Ways to write a number -/

/-- The parameters whose values are numbers. -/
def numberNames : List String := ["limit", "timestampStart", "timestampEnd"]

end ListingRequest

/-- The texts are the same, or numerals of one number. -/
def SameValue (text text' : String) : Prop :=
  text = text' ∨ ∃ n, IsNumeral text n ∧ IsNumeral text' n

private theorem SameValue.symm {text text' : String} (h : SameValue text text') :
    SameValue text' text := by
  rcases h with rfl | ⟨n, hn, hn'⟩
  · exact .inl rfl
  · exact .inr ⟨n, hn', hn⟩

private theorem SameValue.isNumeral {text text' : String} (h : SameValue text text') {n : Nat}
    (hn : IsNumeral text n) : IsNumeral text' n := by
  rcases h with rfl | ⟨m, hm, hm'⟩
  · exact hn
  · rwa [hn.unique hm]

namespace Parameters

/-- The parameters differ at most in how numbers are written. -/
structure SameValues (params other : Parameters) : Prop where
  numbers : ∀ name ∈ ListingRequest.numberNames,
    Option.Rel SameValue (params.get? name) (other.get? name)
  others : ∀ name ∉ ListingRequest.numberNames, params.get? name = other.get? name

variable {params other : Parameters}

private theorem SameValues.symm (h : params.SameValues other) : other.SameValues params := by
  refine ⟨?_, fun name hname => (h.others name hname).symm⟩
  intro name hname
  have hrel := h.numbers name hname
  generalize params.get? name = value at hrel ⊢
  generalize other.get? name = value' at hrel ⊢
  cases hrel with
  | none => exact .none
  | some hvalue => exact .some hvalue.symm

private theorem Sets.congr {α : Type} {name : String} {means : String → α → Prop} {default part : α}
    (h : params.Sets name means default part) (heq : params.get? name = other.get? name) :
    other.Sets name means default part := by
  rwa [Sets, ← heq]

/-- What depends on the value of a number only is the same. -/
theorem Sets.congr_number {α : Type} {name : String} {means : String → α → Prop}
    {default part : α} (h : params.Sets name means default part)
    (hrel : Option.Rel SameValue (params.get? name) (other.get? name))
    (hmeans : ∀ {text text'}, SameValue text text' → means text part → means text' part) :
    other.Sets name means default part := by
  unfold Sets at h ⊢
  generalize params.get? name = value at h hrel
  generalize other.get? name = value' at hrel ⊢
  cases hrel with
  | none => exact h
  | some hvalue => exact hmeans hvalue h

private theorem MeansNumber.of_sameValue {W : Type} {toNat : W → Nat} {text text' : String}
    {bound : Option W} (hvalue : SameValue text text') (h : MeansNumber toNat text bound) :
    MeansNumber toNat text' bound := by
  obtain ⟨w, hw, hnumeral⟩ := h
  exact ⟨w, hw, hvalue.isNumeral hnumeral⟩

end Parameters

namespace ListingRequest

open Parameters

variable {params other : Parameters} {request : ListingRequest}

/-- A request is read alike from parameters with the same values. -/
theorem IsReadFrom.of_sameValues (h : request.IsReadFrom params) (hsame : params.SameValues other) :
    request.IsReadFrom other where
  query := h.query.congr (hsame.others "q" (by decide))
  limit := h.limit.congr_number (hsame.numbers "limit" (by decide)) fun hvalue hlimit =>
    hvalue.isNumeral hlimit
  orderBy := h.orderBy.congr (hsame.others "orderBy" (by decide))
  order := h.order.congr (hsame.others "order" (by decide))
  timestampStart := h.timestampStart.congr_number (hsame.numbers "timestampStart" (by decide))
    MeansNumber.of_sameValue
  timestampEnd := h.timestampEnd.congr_number (hsame.numbers "timestampEnd" (by decide))
    MeansNumber.of_sameValue
  idStart := h.idStart.congr (hsame.others "idStart" (by decide))
  idEnd := h.idEnd.congr (hsame.others "idEnd" (by decide))

/-- Numbers are read exactly. There is a request exactly if the limit and the time bounds, where present,
are numerals of numbers of 32 and of 64 bits and the order, where present, is the name of one in any
case of ASCII letters. The request then holds what is denoted, or the default of what is absent. Otherwise
the first bad parameter of these is reported with its text. Parameters that differ only in how numbers are
written give the same request. -/
theorem reads_parameters_exactly (params : Parameters) :
    ((∃ request, ofParameters params = .ok request) ↔
      ∀ check ∈ checks, ¬ params.Offends check) ∧
    (∀ request, ofParameters params = .ok request ↔ request.IsReadFrom params) ∧
    (∀ e, ofParameters params = .error e ↔
      ∃ check, IsFirst params.Offends checks check ∧
        ∃ text, params.get? check.name = some text ∧ e = .invalidParameter check.name text) ∧
    ∀ other, params.SameValues other →
      ∀ request, ofParameters params = .ok request ↔ ofParameters other = .ok request := by
  refine ⟨exists_ofParameters_iff, fun request => ofParameters_eq_ok_iff,
    fun e => ofParameters_eq_error_iff, ?_⟩
  intro other hsame request
  rw [ofParameters_eq_ok_iff, ofParameters_eq_ok_iff]
  exact ⟨fun h => h.of_sameValues hsame, fun h => h.of_sameValues hsame.symm⟩

/-- The greatest numbers, with signs and with zeros in front. -/
theorem reads_parameters_exactly_greatest :
    let params : Parameters := ⟨[("limit", "4294967295"), ("order", "ASC"),
      ("timestampEnd", "18446744073709551615"), ("idStart", "")]⟩
    let other : Parameters := ⟨[("limit", "+0004294967295"), ("order", "ASC"),
      ("timestampEnd", "00018446744073709551615"), ("idStart", "")]⟩
    params.SameValues other ∧ ofParameters other =
      .ok { limit := 4294967295, order := .asc, timestampEnd := some 18446744073709551615 } := by
  intro params other
  have hnumeral (text : String) (n : Nat) (h : numeral? text = some n) : IsNumeral text n :=
    denotes_iff_isNumeral.mp (numeral?_eq_some_iff.mp h)
  have hsame : params.SameValues other := by
    constructor
    · simp only [numberNames, List.forall_mem_cons]
      exact ⟨.some (.inr ⟨_, hnumeral _ _ rfl, hnumeral _ _ rfl⟩), .none,
        .some (.inr ⟨_, hnumeral _ _ rfl, hnumeral _ _ rfl⟩), nofun⟩
    · intro name hname
      simp only [numberNames, List.mem_cons, List.not_mem_nil, or_false, not_or] at hname
      obtain ⟨hlimit, -, hstop⟩ := hname
      simp [params, other, get?, lastValue?, Ne.symm hlimit, Ne.symm hstop]
  exact ⟨hsame, ((reads_parameters_exactly params).2.2.2 other hsame _).mp (by decide)⟩

end ListingRequest

end LogFilter
