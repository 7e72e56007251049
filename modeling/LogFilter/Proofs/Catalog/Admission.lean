import LogFilter.Proofs.Field.Rules
import LogFilter.Proofs.Request.Joining

/-!
# Filtering on admitted fields

A field that passes the check can be added to a catalog whatever its name. Of the new names that a
comparison can be written with, exactly those without capital letters, other than `and`, can be filtered
on.
-/

namespace LogFilter

open Text

/-! ### Single comparisons -/

/-- A clause that is a whole text with only two spaces is read there. -/
theorem Phrase.reads_of_two_spaces {p : Phrase} (hp : p.WellFormed)
    (hcount : p.text.toList.count ' ' = 2) : Reads p.text.toList p [] := by
  refine ⟨hp, (List.append_nil _).symm, ?_, ?_⟩
  · -- A conjunction would need a third space.
    intro q tail hq htext hconj
    obtain ⟨word, spaces, -, hlead⟩ := hq.lead.resolve_left (conjunction_eq_true_iff.mp hconj)
    rw [htext, toList_text, body, hlead] at hcount
    simp only [List.count_append, List.count_replicate_self, List.count_cons_self] at hcount
    omega
  · intro q tail _ htext _
    rw [htext, List.length_append]
    omega

/-- The clause `name gt 1`. -/
def comparisonClause (name : String) : Clause where
  lead := ""
  shape := .comparison
  column := name
  keyword := "gt"
  operand := "1"
  operator := .gt

private theorem wellFormed_comparisonClause {name : String}
    (hname : IsRun Shape.comparison.isColumnChar name.toList) :
    (comparisonClause name).WellFormed where
  lead := .inl rfl
  column := hname
  keyword := by
    change Shape.comparison.spells "gt".toList = true
    decide
  operand := by
    change IsRun (fun c => !isBlank c) "1".toList
    decide

/-- The query `name gt 1` is read as one clause, also if the name is `and`. -/
theorem scan_comparison {name : String}
    (hname : IsRun Shape.comparison.isColumnChar name.toList) :
    Clause.scan (name ++ " gt 1") = .ok [comparisonClause name] := by
  have hclause := wellFormed_comparisonClause hname
  have htext : (comparisonClause name).text = name ++ " gt 1" := by
    simp [Phrase.text, Phrase.withKeyword, comparisonClause, String.append_assoc]
  have hcount : (comparisonClause name).text.toList.count ' ' = 2 := by
    rw [htext, String.toList_append, List.count_append, List.count_eq_zero.mpr hname.space_not_mem]
    decide
  have hreads := Phrase.reads_of_two_spaces hclause hcount
  rw [← List.append_nil (Phrase.text _).toList] at hreads
  have htiling : Tiling (name ++ " gt 1").toList [⟨[], (comparisonClause name).toPhrase⟩] [] := by
    rw [← htext]
    exact .step (by simp) (by simp) hreads (.stop not_clauseAt_nil)
  rw [Clause.scan_eq_ok_iff htiling, Clause.mapM_ofPhrase_eq_ok_iff]
  refine ⟨⟨rfl, ?_⟩, .inr (by simp [gaps])⟩
  rw [List.forall_mem_singleton]
  change Operator.ofKeyword? "gt" = some .gt
  decide

private theorem ofClause_comparisonClause (name : String) :
    Fragment.ofClause (comparisonClause name) = .ok (name ++ " > 1 ") := by
  simp [Fragment.ofClause, comparisonClause, Operator.isTextSearch, Operator.shape,
    Phrase.withKeyword, Operator.symbol, String.append_assoc]

/-- The predicate of the query `name gt 1` is its resolved fragment. -/
theorem whereBody_comparison {name : String}
    (hname : IsRun Shape.comparison.isColumnChar name.toList) (catalog : Catalog) :
    ({ query := name ++ " gt 1" } : ListingRequest).whereBody catalog =
      catalog.resolveFragment (name ++ " > 1 ") := by
  have hquery : name ++ " gt 1" ≠ "" := by
    intro hempty
    have hlen := congrArg (·.toList.length) hempty
    simp at hlen
  have hfragments : Fragment.ofQuery (name ++ " gt 1") = .ok [name ++ " > 1 "] := by
    rw [Fragment.ofQuery_of_clauses (scan_comparison hname) (by simp), mapM_singleton,
      ofClause_comparisonClause]
    rfl
  simp only [ListingRequest.whereBody, ListingRequest.fragments, ListingRequest.queryFragments,
    if_neg hquery, hfragments, Catalog.resolve, mapM_singleton]
  cases catalog.resolveFragment (name ++ " > 1 ") with
  | error e => rfl
  | ok resolved =>
    change Except.ok (String.join [resolved]) = .ok resolved
    simp

/-! ### Admitted fields -/

/-- The catalog has a field of this name in one of its groups. -/
def Catalog.Lists (catalog : Catalog) (name : String) : Prop :=
  catalog.isSelected name = true ∨ (catalog.interestingField? name).isSome = true

instance (catalog : Catalog) (name : String) : Decidable (catalog.Lists name) :=
  inferInstanceAs (Decidable (_ ∨ _))

/-- Adding an interesting field adds no physical column. -/
theorem Catalog.isSelected_add_interesting (catalog : Catalog) (field : Field) (name : String) :
    (catalog.add .interesting field).isSelected name = catalog.isSelected name := rfl

/-- The interesting fields after one is added. -/
theorem Catalog.interestingField?_add_interesting (catalog : Catalog) (field : Field)
    (name : String) : (catalog.add .interesting field).interestingField? name =
      if field.name = name then some field else catalog.interestingField? name :=
  catalog.interesting.get?_insert field name

/-- An accepted proposal keeps its name. -/
theorem Proposal.name_accept {p : Proposal} {field : Field} (h : p.accept = .ok field) :
    field.name = p.name := by
  obtain ⟨-, rfl⟩ := accept_eq_ok_iff.mp h
  rfl

/-- A look-up is longer than the name it looks up. -/
theorem Field.lookup_ne (field : Field) (column : String) : field.lookup column ≠ column := by
  intro h
  have hlen := congrArg (·.toList.length) h
  simp only [lookup, String.toList_append, List.length_append] at hlen
  have hclose : "')]".toList.length = 3 := by decide
  omega

/-- An interesting field of lowercase name is found by it. -/
theorem Catalog.resolveFragment_comparison {catalog : Catalog} {field : Field}
    (hname : IsRun Shape.comparison.isColumnChar field.name.toList)
    (hbody : field.name ≠ bodyColumn) (hselected : catalog.isSelected field.name = false)
    (hlower : lowercase field.name = field.name) (hand : field.name ≠ conjunctionWord) :
    (catalog.add .interesting field).resolveFragment (field.name ++ " > 1 ") =
      .ok (field.lookup field.name ++ " > 1 ") := by
  have hascii := lowercase_ascii hname.plain.isAscii
  have htext : (field.name ++ " > 1 ").toList =
      field.name.toList ++ ' ' :: (['>'] ++ ' ' :: (['1'] ++ ' ' :: [])) := by
    simp
  obtain ⟨column, hcolumn⟩ := Fragment.exists_column hname.plain (by decide) (by decide) htext
  have hnot : ¬ IsAndWord field.name.toList := by
    rwa [isAndWord_iff, ← hascii, hlower]
  obtain rfl := Fragment.column_of_first_word hname.plain hnot htext hcolumn
  rw [← hascii, hlower] at hcolumn
  have hphysical : ¬ (catalog.add .interesting field).IsPhysical field.name := by
    rw [IsPhysical, isSelected_add_interesting, hselected]
    simp [hbody]
  have hfound : (catalog.add .interesting field).interestingField? field.name = some field := by
    rw [interestingField?_add_interesting, if_pos rfl]
  rw [resolveFragment_of_interesting hcolumn hphysical hfound, replaceFirst, String.toList_append,
    replaceFirstChars_append, String.ofList_append, String.ofList_toList, String.ofList_toList]

/-- A comparison that becomes a look-up is not about a column called `and`. -/
theorem not_isAndWord_of_lookup {catalog : Catalog} {field : Field} {name column : String}
    (hname : IsRun Shape.comparison.isColumnChar name.toList)
    (h : catalog.resolveFragment (name ++ " > 1 ") = .ok (field.lookup column ++ " > 1 ")) :
    ¬ IsAndWord name.toList := by
  have hjoins : Fragment.Joins (field.lookup column ++ " > 1 ") ↔ IsAndWord name.toList :=
    Clause.joins_resolved_iff (wellFormed_comparisonClause hname) (ofClause_comparisonClause name) h
  have htext : (field.lookup column ++ " > 1 ").toList =
      [] ++ (field.lookup column).toList ++ " > 1 ".toList := by
    rw [String.toList_append, List.nil_append]
  rw [← hjoins]
  exact Fragment.not_joins_of_lookup [] (Nat.zero_le 3) htext

/-- A comparison becomes the look-up of an added field only if the field has the lowercase name. -/
theorem Catalog.name_of_lookup {catalog : Catalog} {field : Field} {name : String}
    (hname : IsRun Shape.comparison.isColumnChar name.toList) (hand : ¬ IsAndWord name.toList)
    (hnew : catalog.interestingField? (lowercase name) = none)
    (h : (catalog.add .interesting field).resolveFragment (name ++ " > 1 ") =
      .ok (field.lookup name ++ " > 1 ")) : field.name = lowercase name := by
  have htext : (name ++ " > 1 ").toList = name.toList ++ ' ' :: "> 1 ".toList := by simp
  obtain ⟨column, hcolumn, hcases⟩ := resolveFragment_inv h
  obtain rfl := Fragment.column_of_first_word hname.plain hand htext hcolumn
  rw [← lowercase_ascii hname.plain.isAscii] at hcases
  rcases hcases with ⟨-, hsame⟩ | ⟨-, found, hfound, -⟩
  · exact absurd ((String.append_left_inj _).mp hsame) (field.lookup_ne name)
  · rw [interestingField?_add_interesting, hnew] at hfound
    split at hfound
    · assumption
    · cases hfound

/-- A field whose proposal is accepted, with a name that a comparison can use and that is new to the
catalog, can be filtered on as an interesting field exactly when its name has no capital letter and
is not `and`. -/
theorem Proposal.filterable_iff {p : Proposal} {field : Field} {catalog : Catalog}
    (haccept : p.accept = .ok field) (hname : IsRun Shape.comparison.isColumnChar p.name.toList)
    (hbody : p.name ≠ bodyColumn) (hnew : ¬ catalog.Lists (lowercase p.name)) :
    ({ query := p.name ++ " gt 1" } : ListingRequest).whereBody (catalog.add .interesting field) =
        .ok (field.lookup p.name ++ " > 1 ") ↔
      lowercase p.name = p.name ∧ p.name ≠ conjunctionWord := by
  obtain ⟨hselected, hmissing⟩ := not_or.mp hnew
  rw [whereBody_comparison hname]
  rw [← name_accept haccept] at *
  constructor
  · intro h
    have hand := not_isAndWord_of_lookup hname h
    have hlower := Catalog.name_of_lookup hname hand (by simpa using hmissing) h
    refine ⟨hlower.symm, ?_⟩
    rwa [isAndWord_iff, ← lowercase_ascii hname.plain.isAscii, ← hlower] at hand
  · rintro ⟨hlower, hand⟩
    rw [hlower, Bool.not_eq_true] at hselected
    exact Catalog.resolveFragment_comparison hname hbody hselected hlower hand

/-- A name in lower case. -/
theorem Proposal.filterable_iff_user_id :
    let p : Proposal := { name := "user_id", kind := "attributes", dataType := "String" }
    let field : Field := { name := "user_id", kind := .attributes, dataType := "String" }
    p.accept = .ok field ∧ IsRun Shape.comparison.isColumnChar p.name.toList ∧
    p.name ≠ bodyColumn ∧ ¬ Catalog.builtIn.Lists (lowercase p.name) ∧
    (({ query := p.name ++ " gt 1" } : ListingRequest).whereBody
        (Catalog.builtIn.add .interesting field) = .ok (field.lookup p.name ++ " > 1 ") ↔
      lowercase p.name = p.name ∧ p.name ≠ conjunctionWord) := by
  intro p field
  have haccept : p.accept = .ok field := by decide +kernel
  have hname : IsRun Shape.comparison.isColumnChar p.name.toList := by decide +kernel
  have hbody : p.name ≠ bodyColumn := by decide
  have hnew : ¬ Catalog.builtIn.Lists (lowercase p.name) := by decide +kernel
  exact ⟨haccept, hname, hbody, hnew, filterable_iff haccept hname hbody hnew⟩

/-- A field with a capital letter in its name passes the check and cannot be filtered on. -/
theorem Proposal.accepted_not_filterable :
    let p : Proposal := { name := "userId", kind := "attributes", dataType := "String" }
    let field : Field := { name := "userId", kind := .attributes, dataType := "String" }
    p.accept = .ok field ∧ IsRun Shape.comparison.isColumnChar p.name.toList ∧
    p.name ≠ bodyColumn ∧ ¬ Catalog.builtIn.Lists p.name ∧
    ¬ Catalog.builtIn.Lists (lowercase p.name) ∧
    ({ query := p.name ++ " gt 1" } : ListingRequest).whereBody
      (Catalog.builtIn.add .interesting field) = .error (.unresolvableColumn "userid") := by
  decide +kernel

end LogFilter
