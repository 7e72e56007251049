import LogFilter.Proofs.Catalog.Admission
import LogFilter.Proofs.Catalog.LastGiven
import LogFilter.Proofs.Request.Refusal
import LogFilter.Request.Where

/-!
# Adding new names

Fields whose names a catalog does not list can be added to it without harm to what could be asked
before. Every predicate and every listing query stays as it is, and so does every error but two that the
new names can repair: a column that the catalog did not have, and a sort column that was not selected.
-/

namespace LogFilter

namespace QueryError

/-- The query asks for a column that the catalog does not have. -/
def IsUnresolvable (e : QueryError) : Prop := ∃ column, e = .unresolvableColumn column

end QueryError

namespace Catalog

/-- No field has a name that the catalog lists. -/
def AllNew (catalog : Catalog) (fields : List Field) : Prop :=
  ∀ field ∈ fields, ¬ catalog.Lists field.name

variable {catalog : Catalog} {selected interesting : List Field}

section

variable (hnew : catalog.AllNew (selected ++ interesting))

include hnew

/-- A column that is listed is found as before. -/
theorem lookups_extend {column : String} (h : catalog.Lists column) :
    (catalog.extend selected interesting).isSelected column = catalog.isSelected column ∧
      (catalog.extend selected interesting).interestingField? column =
        catalog.interestingField? column := by
  have hne : ∀ field ∈ selected ++ interesting, field.name ≠ column := by
    rintro field hfield rfl
    exact hnew field hfield h
  obtain ⟨hselected, hinteresting⟩ := List.forall_mem_append.mp hne
  constructor
  · exact congrArg Option.isSome
      (FieldTable.get?_extend_of_forall_ne hselected catalog.selected)
  · exact FieldTable.get?_extend_of_forall_ne hinteresting catalog.interesting

/-- A fragment is resolved as before, unless its column was missing. -/
theorem resolveFragment_extend {fragment : String}
    (h : ∀ e, catalog.resolveFragment fragment = .error e → ¬ e.IsUnresolvable) :
    (catalog.extend selected interesting).resolveFragment fragment =
      catalog.resolveFragment fragment := by
  cases hcolumn : Fragment.column fragment with
  | error e => simp only [resolveFragment, hcolumn]
  | ok column =>
    by_cases hbody : column = bodyColumn
    · simp [resolveFragment, hcolumn, hbody]
    · by_cases hlists : catalog.Lists column
      · obtain ⟨hselected, hinteresting⟩ := lookups_extend hnew hlists
        simp only [resolveFragment, hcolumn, hselected, hinteresting]
      · have hresolves : ¬ catalog.Resolves column := by
          rintro ((hcol | hsel) | hint)
          · exact hbody hcol
          · exact hlists (.inl hsel)
          · exact hlists (.inr hint)
        have herror := resolveFragment_of_not_resolves hcolumn hresolves
        exact absurd ⟨column, rfl⟩ (h _ herror)

/-- A predicate, or the error in its place, stays as it is unless a column was missing. -/
theorem whereBody_extend {request : ListingRequest}
    (h : ∀ e, request.whereBody catalog = .error e → ¬ e.IsUnresolvable) :
    request.whereBody (catalog.extend selected interesting) = request.whereBody catalog := by
  by_cases hquery : request.query = ""
  · simp only [ListingRequest.whereBody, ListingRequest.fragments, ListingRequest.queryFragments,
      if_pos hquery]
  · rw [ListingRequest.whereBody_eq hquery] at h
    rw [ListingRequest.whereBody_eq hquery, ListingRequest.whereBody_eq hquery]
    cases hfragments : Fragment.ofQuery request.query with
    | error e => simp only [Except.bind]
    | ok fragments =>
      rw [hfragments] at h
      have hresolve : (catalog.extend selected interesting).resolve fragments =
          catalog.resolve fragments := by
        apply mapM_congr_of_not_error (fun fragment => resolveFragment_extend hnew)
        intro e he
        apply h
        change (catalog.resolve fragments).map _ = _
        rw [resolve, he]
        rfl
      simp only [Except.bind, hresolve]

end

/-- The selected names after fields are added. -/
theorem isSelected_extend_iff {name : String} :
    (catalog.extend selected interesting).isSelected name = true ↔
      catalog.isSelected name = true ∨ name ∈ selected.map Field.name :=
  FieldTable.contains_extend_iff

/-- Fields of new names change no predicate and no listing query that could be written before. A
predicate that was refused is refused for the same reason unless a column was missing, and a listing
query unless its sort column is among the fields that are now selected. -/
theorem extend_conservative (hnew : catalog.AllNew (selected ++ interesting))
    (request : ListingRequest) :
    (∀ body, request.whereBody catalog = .ok body →
      request.whereBody (catalog.extend selected interesting) = .ok body) ∧
    (∀ table body sql, request.listing catalog table body = .ok sql →
      request.listing (catalog.extend selected interesting) table body = .ok sql) ∧
    (∀ e, request.whereBody catalog = .error e → (∀ column, e ≠ .unresolvableColumn column) →
      request.whereBody (catalog.extend selected interesting) = .error e) ∧
    ∀ table body e, request.listing catalog table body = .error e →
      (request.orderBy ∉ selected.map Field.name →
        request.listing (catalog.extend selected interesting) table body = .error e) ∧
      (request.orderBy ∈ selected.map Field.name →
        ∃ sql, request.listing (catalog.extend selected interesting) table body = .ok sql) := by
  refine ⟨?_, ?_, ?_, ?_⟩
  · intro body hbody
    rw [whereBody_extend hnew, hbody]
    intro e he
    rw [hbody] at he
    cases he
  · intro table body sql hsql
    unfold ListingRequest.listing at hsql ⊢
    split at hsql
    · next hselected => rwa [if_pos (isSelected_extend_iff.mpr (.inl hselected))]
    · cases hsql
  · intro e he hother
    rw [whereBody_extend hnew, he]
    rintro e' he' ⟨column, rfl⟩
    exact hother column (Except.error.inj (he.symm.trans he'))
  · intro table body e he
    unfold ListingRequest.listing at he ⊢
    split at he
    · cases he
    · next hselected =>
      constructor
      · intro hadded
        have hnot : ¬ (catalog.extend selected interesting).isSelected request.orderBy = true := by
          rw [isSelected_extend_iff, or_iff_left hadded]
          exact hselected
        rwa [if_neg hnot]
      · intro hadded
        rw [if_pos (isSelected_extend_iff.mpr (.inr hadded))]
        exact ⟨_, rfl⟩

/-- A query on a built-in field, sorted by a column that neither group gets. -/
theorem extend_conservative_span_id :
    let zone : Field := { name := "zone", kind := .resources, dataType := "String" }
    let user : Field := { name := "user_id", kind := .attributes, dataType := "String" }
    let request : ListingRequest := { query := "span_id gt 1", orderBy := "user_id" }
    let body := "static_string_value[indexOf(static_string_key, 'span_id')] > 1 "
    builtIn.AllNew ([zone] ++ [user]) ∧ request.whereBody builtIn = .ok body ∧
    request.whereBody (builtIn.extend [zone] [user]) = .ok body ∧
    request.listing builtIn "logs" body = .error (.unsortableColumn "user_id") ∧
    request.listing (builtIn.extend [zone] [user]) "logs" body =
      .error (.unsortableColumn "user_id") := by
  intro zone user request body
  have hnew : builtIn.AllNew ([zone] ++ [user]) := by
    intro field hfield
    simp only [List.cons_append, List.nil_append, List.mem_cons, List.not_mem_nil,
      or_false] at hfield
    rcases hfield with rfl | rfl <;> decide +kernel
  have hbody : request.whereBody builtIn = .ok body := by decide +kernel
  have hlisting : request.listing builtIn "logs" body = .error (.unsortableColumn "user_id") := by
    decide +kernel
  obtain ⟨hsame, -, -, hrefused⟩ := extend_conservative hnew request
  exact ⟨hnew, hbody, hsame body hbody, hlisting,
    (hrefused "logs" body _ hlisting).1 (by decide)⟩

/-- A field that becomes selected can be sorted by, which was refused before. -/
theorem extend_repairs_sort_column :
    let zone : Field := { name := "zone", kind := .resources, dataType := "String" }
    let request : ListingRequest := { orderBy := "zone" }
    builtIn.AllNew ([zone] ++ []) ∧
    request.listing builtIn "logs" "" = .error (.unsortableColumn "zone") ∧
    ∃ sql, request.listing (builtIn.extend [zone] []) "logs" "" = .ok sql := by
  intro zone request
  have hnew : builtIn.AllNew ([zone] ++ []) := by
    intro field hfield
    rw [List.append_nil, List.mem_singleton] at hfield
    subst hfield
    decide +kernel
  have hrefused : request.listing builtIn "logs" "" = .error (.unsortableColumn "zone") := by
    decide +kernel
  have hselected : (builtIn.extend [zone] []).isSelected "zone" = true := by decide +kernel
  refine ⟨hnew, hrefused, ?_⟩
  rw [ListingRequest.listing, if_pos hselected]
  exact ⟨_, rfl⟩

end Catalog

end LogFilter
