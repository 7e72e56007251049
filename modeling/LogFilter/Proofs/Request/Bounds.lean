import LogFilter.Proofs.Fragment.Spacing
import LogFilter.Proofs.Request.Joining
import LogFilter.Proofs.Text.Numeral

/-!
# Queries and bounds

The predicate of a request restricts by its query and by its bounds. A bound gets a conjunction if
anything stands before it, be it the query or another bound. The whole is the conjunction of two
predicates, that of the query alone and that of the bounds alone.
-/

namespace LogFilter

open Text

/-- A bound on the times or on the ids of records. -/
inductive Bound where
  | notBefore (time : UInt64)
  | notAfter (time : UInt64)
  | above (id : String)
  | below (id : String)
  deriving DecidableEq, Repr

namespace Bound

/-- The bound restricts: its time is not zero, or its id is not empty. -/
def isActive : Bound → Bool
  | notBefore time | notAfter time => time != 0
  | above id | below id => id != ""

/-- The predicate of the bound. -/
def text : Bound → String
  | notBefore time => "timestamp >= '" ++ decimal time.toNat ++ "' "
  | notAfter time => "timestamp <= '" ++ decimal time.toNat ++ "' "
  | above id => "id > '" ++ id ++ "' "
  | below id => "id < '" ++ id ++ "' "

end Bound

/-- Two predicates in conjunction. An empty one does not restrict. -/
def conjoin (first second : String) : String :=
  if first = "" ∨ second = "" then first ++ second else first ++ "and " ++ second

namespace ListingRequest

/-- The bounds that the request gives, in the order in which they are written. -/
def givenBounds (request : ListingRequest) : List Bound :=
  request.timestampStart.toList.map .notBefore ++ request.timestampEnd.toList.map .notAfter ++
    request.idStart.toList.map .above ++ request.idEnd.toList.map .below

/-- The bounds of the request that restrict. -/
def activeBounds (request : ListingRequest) : List Bound := request.givenBounds.filter Bound.isActive

/-- The request without its bounds. -/
def withoutBounds (request : ListingRequest) : ListingRequest :=
  { request with timestampStart := none, timestampEnd := none, idStart := none, idEnd := none }

/-- The request without its query. -/
def withoutQuery (request : ListingRequest) : ListingRequest := { request with query := "" }

end ListingRequest

/-! ### Bounds -/

/-- The bound of an option is written as the list of it is. -/
theorem toList_map_filter {α : Type} (bound : α → Bound) (value : Option α) :
    ((value.filter fun a => (bound a).isActive).map fun a => (bound a).text).toList =
      ((value.toList.map bound).filter Bound.isActive).map Bound.text := by
  cases value with
  | none => rfl
  | some a => cases h : (bound a).isActive <;> simp [Option.filter, h]

/-- The fragments of the bounds are the predicates of those that restrict. -/
theorem ListingRequest.bounds_eq (request : ListingRequest) :
    request.bounds = request.activeBounds.map Bound.text := by
  have hlist (a b c d : Option String) :
      [a, b, c, d].filterMap id = a.toList ++ b.toList ++ c.toList ++ d.toList := by
    cases a <;> cases b <;> cases c <;> cases d <;> rfl
  simp only [activeBounds, givenBounds, List.filter_append, List.map_append, ← toList_map_filter]
  exact hlist _ _ _ _

private theorem Bound.endsInSpace_text (bound : Bound) : EndsInSpace bound.text := by
  have hquote : EndsSolid "'" := ⟨'\'', by decide, by decide⟩
  have hclose : EndsInSpace "' " := ⟨"'", hquote, rfl⟩
  cases bound <;> exact hclose.append _

/-! ### Joining -/

/-- After other fragments every bound gets a conjunction. -/
theorem joinBounds_of_ne_nil {fragments : List String} (h : fragments ≠ []) (bounds : List String) :
    joinBounds fragments bounds = fragments ++ bounds.map ("and " ++ ·) := by
  induction bounds generalizing fragments with
  | nil => simp [joinBounds]
  | cons bound bounds ih =>
    rw [joinBounds, ih (by simp)]
    simp [h]

/-- A bound at the very beginning gets none. -/
theorem joinBounds_nil_cons (bound : String) (bounds : List String) :
    joinBounds [] (bound :: bounds) = bound :: bounds.map ("and " ++ ·) :=
  joinBounds_of_ne_nil (List.cons_ne_nil bound []) bounds

private theorem join_cons_map_and (bound : String) (bounds : List String) :
    String.join (bound :: bounds.map ("and " ++ ·)) = "and ".intercalate (bound :: bounds) := by
  induction bounds generalizing bound with
  | nil => simp
  | cons next bounds ih =>
    rw [String.intercalate_cons_cons, ← ih, List.map_cons, String.join_cons, String.join_cons,
      String.join_cons, String.append_assoc, String.append_assoc]

section

variable {fragments bounds : List String} (hfragments : ∀ fragment ∈ fragments, EndsInSpace fragment)
  (hbounds : ∀ bound ∈ bounds, EndsInSpace bound)

include hfragments hbounds

private theorem endsInSpace_joinBounds :
    ∀ fragment ∈ joinBounds fragments bounds, EndsInSpace fragment := by
  have hjoined : ∀ fragment ∈ bounds.map ("and " ++ ·), EndsInSpace fragment :=
    List.forall_mem_map.mpr fun bound hbound => (hbounds bound hbound).append "and "
  by_cases hnil : fragments = []
  · subst hnil
    cases bounds with
    | nil => exact hfragments
    | cons bound bounds =>
      rw [joinBounds_nil_cons]
      exact List.forall_mem_cons.mpr ⟨hbounds bound List.mem_cons_self,
        (List.forall_mem_cons.mp hjoined).2⟩
  · rw [joinBounds_of_ne_nil hnil]
    exact List.forall_mem_append.mpr ⟨hfragments, hjoined⟩

/-- Bounds that are joined to fragments are in conjunction with them. -/
theorem join_joinBounds : String.join (joinBounds fragments bounds) =
    conjoin (String.join fragments) ("and ".intercalate bounds) := by
  cases bounds with
  | nil => simp [joinBounds, conjoin]
  | cons bound bounds =>
    by_cases hnil : fragments = []
    · rw [hnil, joinBounds_nil_cons, join_cons_map_and]
      simp [conjoin]
    · have hfirst : String.join fragments ≠ "" := (EndsInSpace.join hnil hfragments).ne_empty
      have hsecond : "and ".intercalate (bound :: bounds) ≠ "" := by
        have hends : ∀ fragment ∈ joinBounds [] (bound :: bounds), EndsInSpace fragment :=
          endsInSpace_joinBounds (by simp) hbounds
        rw [joinBounds_nil_cons] at hends
        rw [← join_cons_map_and]
        exact (EndsInSpace.join (List.cons_ne_nil _ _) hends).ne_empty
      rw [joinBounds_of_ne_nil hnil, String.join_append, List.map_cons, String.join_cons,
        String.append_assoc, ← String.join_cons, join_cons_map_and, conjoin,
        if_neg (not_or.mpr ⟨hfirst, hsecond⟩), String.append_assoc]

end

/-! ### Requests -/

/-- A query gives at least one fragment. -/
theorem Fragment.ofQuery_ne_nil {query : String} {fragments : List String}
    (h : ofQuery query = .ok fragments) : fragments ≠ [] := by
  unfold ofQuery at h
  split at h
  · cases h
  · cases h
    simp
  · next clauses hne _ =>
    rintro rfl
    exact hne (List.map_eq_nil_iff.mp (mapM_eq_ok_iff.mp h))

namespace ListingRequest

variable {request : ListingRequest} {catalog : Catalog} {fragments : List String}

/-- The fragments of a query end with one space each, and there are some unless the query is empty. -/
theorem queryFragments_spec (h : request.queryFragments catalog = .ok fragments) :
    (∀ fragment ∈ fragments, EndsInSpace fragment) ∧ (fragments = [] ↔ request.query = "") := by
  unfold queryFragments at h
  split at h
  · next hquery =>
    cases h
    simp [hquery]
  · next hquery =>
    split at h
    · cases h
    · next written hwritten =>
      have hends := Fragment.endsInSpace_of_ofQuery hwritten
      refine ⟨Catalog.endsInSpace_of_resolve hends h, iff_of_false ?_ hquery⟩
      rintro rfl
      exact Fragment.ofQuery_ne_nil hwritten (List.map_eq_nil_iff.mp (mapM_eq_ok_iff.mp h))

private theorem endsInSpace_bounds (request : ListingRequest) :
    ∀ bound ∈ request.bounds, EndsInSpace bound := by
  rw [bounds_eq]
  exact List.forall_mem_map.mpr fun bound _ => bound.endsInSpace_text

/-- The predicate of a request joins its bounds to the fragments of its query. -/
theorem whereBody_eq_map (request : ListingRequest) (catalog : Catalog) :
    request.whereBody catalog = (request.queryFragments catalog).map fun fragments =>
      String.join (joinBounds fragments request.bounds) := by
  unfold whereBody ListingRequest.fragments
  cases request.queryFragments catalog <;> rfl

/-- A predicate is empty if neither the query nor a bound restricts, and else ends with one space. -/
theorem whereBody_ends {body : String} (h : request.whereBody catalog = .ok body) :
    (body = "" ∧ request.query = "" ∧ request.activeBounds = []) ∨
      (EndsInSpace body ∧ (request.query ≠ "" ∨ request.activeBounds ≠ [])) := by
  rw [whereBody_eq_map] at h
  cases hfragments : request.queryFragments catalog with
  | error e =>
    rw [hfragments] at h
    cases h
  | ok fragments =>
    rw [hfragments, Except.map, Except.ok.injEq] at h
    subst h
    obtain ⟨hends, hempty⟩ := queryFragments_spec hfragments
    have hjoined := endsInSpace_joinBounds hends request.endsInSpace_bounds
    have hnil : joinBounds fragments request.bounds = [] ↔
        request.query = "" ∧ request.activeBounds = [] := by
      rw [← List.length_eq_zero_iff, Fragment.length_joinBounds, Nat.add_eq_zero_iff,
        List.length_eq_zero_iff, List.length_eq_zero_iff, hempty, bounds_eq, List.map_eq_nil_iff]
    by_cases hnone : joinBounds fragments request.bounds = []
    · exact .inl ⟨by rw [hnone, String.join_nil], hnil.mp hnone⟩
    · exact .inr ⟨.join hnone hjoined, Decidable.not_and_iff_not_or_not.mp (hnil.not.mp hnone)⟩

/-- The predicate of the bounds alone. -/
theorem whereBody_withoutQuery (request : ListingRequest) (catalog : Catalog) :
    request.withoutQuery.whereBody catalog =
      .ok ("and ".intercalate (request.activeBounds.map Bound.text)) := by
  have hquery : request.withoutQuery.queryFragments catalog = .ok [] := rfl
  have hbounds : request.withoutQuery.bounds = request.bounds := rfl
  have hjoin : String.join (joinBounds [] request.bounds) =
      conjoin (String.join []) ("and ".intercalate request.bounds) :=
    join_joinBounds (by simp) request.endsInSpace_bounds
  rw [whereBody_eq_map, hquery, hbounds, Except.map, hjoin, bounds_eq]
  simp [conjoin]

/-- The predicate of a request is that of its query in conjunction with that of its bounds. -/
theorem whereBody_eq_conjoin (request : ListingRequest) (catalog : Catalog) :
    request.whereBody catalog = (request.withoutBounds.whereBody catalog).map
      (conjoin · ("and ".intercalate (request.activeBounds.map Bound.text))) := by
  have hquery : request.withoutBounds.queryFragments catalog = request.queryFragments catalog := rfl
  have hbounds : request.withoutBounds.bounds = [] := rfl
  rw [whereBody_eq_map, whereBody_eq_map, hquery, hbounds, ← bounds_eq]
  cases hfragments : request.queryFragments catalog with
  | error e => rfl
  | ok fragments =>
    have hjoin := join_joinBounds (queryFragments_spec hfragments).1 request.endsInSpace_bounds
    simp only [Except.map, hjoin, joinBounds]

/-- A request restricts by its query and by its bounds. Its bounds alone have a predicate: those that
are given and are neither zero nor empty, joined in order, where a time is written in decimal digits
that are read back as it. An error of its query alone is its error. Otherwise its predicate is that of the
query in conjunction with that of the bounds, and is empty exactly when the query is and no bound
restricts. -/
theorem whereBody_query_and_bounds (request : ListingRequest) (catalog : Catalog) :
    ∃ bounds, request.withoutQuery.whereBody catalog = .ok bounds ∧
      bounds = "and ".intercalate (request.activeBounds.map Bound.text) ∧
      (∀ time : UInt64, readUInt64? (decimal time.toNat) = some time) ∧
      (∀ e, request.withoutBounds.whereBody catalog = .error e →
        request.whereBody catalog = .error e) ∧
      (∀ query, request.withoutBounds.whereBody catalog = .ok query →
        request.whereBody catalog = .ok (conjoin query bounds)) ∧
      (request.whereBody catalog = .ok "" ↔ request.query = "" ∧ request.activeBounds = []) := by
  refine ⟨_, request.whereBody_withoutQuery catalog, rfl, ?_, ?_, ?_, ?_⟩
  · exact fun time => readUInt64?_eq_some_iff.mpr (denotes_decimal time.toNat)
  · intro e herror
    rw [whereBody_eq_conjoin, herror, Except.map]
  · intro query hquery
    rw [whereBody_eq_conjoin, hquery, Except.map]
  · constructor
    · intro hempty
      rcases whereBody_ends hempty with ⟨-, hnone⟩ | ⟨hends, -⟩
      · exact hnone
      · exact absurd rfl hends.ne_empty
    · rintro ⟨hquery, hbounds⟩
      have hsame : request.withoutQuery = request := by
        rw [withoutQuery, ← hquery]
      have hwhere := request.whereBody_withoutQuery catalog
      rwa [hsame, hbounds] at hwhere

/-- An upper time bound after a query without clauses, and an empty id bound. -/
example : ({ query := "disk full", timestampEnd := some 9, idStart := some "" } :
    ListingRequest).whereBody .builtIn = .ok "body ILIKE '%disk full%' and timestamp <= '9' " := by
  decide +kernel

end ListingRequest

end LogFilter
