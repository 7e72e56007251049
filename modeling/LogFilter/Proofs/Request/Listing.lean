import LogFilter.Proofs.Request.Bounds
import LogFilter.Request.Where

/-!
# Listing queries

A listing query is put together from the projection, the table, the filter, the order and the limit. Only
the filter depends on what the user writes, and it goes in as it stands. Each part is kept apart from the
next by one space, from the fragments of a query up to the listing.
-/

namespace LogFilter

open Text

/-- A table contains the names of its fields. -/
theorem FieldTable.contains_iff {table : FieldTable} {name : String} :
    table.contains name = true ↔ ∃ field ∈ table.fields, field.name = name := by
  simp [contains, get?, List.find?_isSome]

namespace ListingRequest

variable {request : ListingRequest} {catalog : Catalog} {table body sql : String}

/-- The order and the limit, as the listing query ends with them. -/
def sorting (request : ListingRequest) : String :=
  "ORDER BY " ++ request.orderBy ++ " " ++ request.order.name ++ " LIMIT " ++
    decimal request.limit.toNat

/-- Exactly the requests that are sorted by a selected field have a listing query. -/
theorem listing_eq_ok_iff : request.listing catalog table body = .ok sql ↔
    (∃ field ∈ catalog.selected.fields, field.name = request.orderBy) ∧
      sql = projection ++ "FROM " ++ table ++ " " ++
        (if body = "" then "" else "WHERE " ++ body) ++ request.sorting := by
  rw [← FieldTable.contains_iff, eq_comm (a := sql)]
  unfold listing
  by_cases hselected : catalog.isSelected request.orderBy = true
  · rw [if_pos hselected, Except.ok.injEq, sorting]
    simp only [String.append_assoc]
    exact (and_iff_right hselected).symm
  · rw [if_neg hselected]
    exact iff_of_false nofun fun h => hselected h.1

/-- Texts that are written one after the other are kept apart by one space. Every fragment of a query ends
with one space after a character that is not blank, and so does what the resolution makes of any of them. The
predicate of a request is empty or ends alike. A request has a listing query exactly when it is sorted by
a selected field. The listing query has no filter if the request has no query and no bound that restricts,
and otherwise has one space between the filter and the order. -/
theorem listing_keeps_parts_apart (catalog : Catalog) :
    (∀ query fragments, Fragment.ofQuery query = .ok fragments →
      (∀ fragment ∈ fragments, EndsInSpace fragment) ∧
      ∀ part resolved, part ⊆ fragments → catalog.resolve part = .ok resolved →
        ∀ fragment ∈ resolved, EndsInSpace fragment) ∧
    ∀ (request : ListingRequest) (body : String), request.whereBody catalog = .ok body →
      (body = "" ∨ EndsInSpace body) ∧
      ∀ table,
        ((∃ sql, request.listing catalog table body = .ok sql) ↔
          ∃ field ∈ catalog.selected.fields, field.name = request.orderBy) ∧
        ∀ sql, request.listing catalog table body = .ok sql →
          (request.query = "" ∧ request.activeBounds = [] →
            sql = projection ++ "FROM " ++ table ++ " " ++ request.sorting) ∧
          (request.query ≠ "" ∨ request.activeBounds ≠ [] →
            ∃ core, EndsSolid core ∧ body = core ++ " " ∧
              sql = projection ++ "FROM " ++ table ++ " " ++ "WHERE " ++ core ++ " " ++
                request.sorting) := by
  refine ⟨?_, ?_⟩
  · intro query fragments hquery
    have hends := Fragment.endsInSpace_of_ofQuery hquery
    refine ⟨hends, fun part resolved hpart hresolved => ?_⟩
    exact Catalog.endsInSpace_of_resolve (fun fragment hmem => hends fragment (hpart hmem)) hresolved
  · intro request body hbody
    have hcases := whereBody_ends hbody
    refine ⟨hcases.imp (fun h => h.1) (fun h => h.1), fun table => ⟨?_, ?_⟩⟩
    · simp only [listing_eq_ok_iff, exists_and_left, exists_eq, and_true]
    · intro sql hsql
      obtain ⟨-, rfl⟩ := listing_eq_ok_iff.mp hsql
      rcases hcases with ⟨hempty, hquery, hbounds⟩ | ⟨hends, hfilter⟩
      · refine ⟨fun _ => by simp [hempty], fun hfilter => ?_⟩
        exact absurd ⟨hquery, hbounds⟩ (Decidable.not_and_iff_not_or_not.mpr hfilter)
      · refine ⟨fun hnone => absurd hnone (Decidable.not_and_iff_not_or_not.mpr hfilter), fun _ => ?_⟩
        have hne := hends.ne_empty
        obtain ⟨core, hcore, rfl⟩ := hends
        refine ⟨core, hcore, rfl, ?_⟩
        rw [if_neg hne]
        simp only [String.append_assoc]

end ListingRequest

end LogFilter
