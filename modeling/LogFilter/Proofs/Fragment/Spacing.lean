import LogFilter.Proofs.Fragment.Written

/-!
# Spaces between fragments

Fragments are joined by concatenation, so each brings the space that keeps it apart from what follows.
Every fragment of a query ends with one space after a character that is not blank. The resolution of its
column keeps this end, also where the name of the column is replaced at the end of the operand.
-/

namespace LogFilter

open Text

/-- The text ends with a character that is not blank. -/
def EndsSolid (text : String) : Prop := ∃ c, text.toList.getLast? = some c ∧ isBlank c = false

/-- The text ends with one space, after a character that is not blank. -/
def EndsInSpace (text : String) : Prop := ∃ core, EndsSolid core ∧ text = core ++ " "

/-! ### Ends of texts -/

namespace EndsSolid

variable {text front back : String}

/-- What stands before a text does not change how it ends. -/
theorem append (front : String) (h : EndsSolid text) : EndsSolid (front ++ text) := by
  obtain ⟨c, hlast, hc⟩ := h
  refine ⟨c, ?_, hc⟩
  rw [String.toList_append, List.getLast?_append, hlast, Option.some_or]

/-- The end of a text is that of its last part, if that has one. -/
theorem of_append (h : EndsSolid (front ++ back)) (hne : back ≠ "") : EndsSolid back := by
  obtain ⟨c, hlast, hc⟩ := h
  refine ⟨c, ?_, hc⟩
  have hback : back.toList ≠ [] := by simpa using hne
  rw [String.toList_append, List.getLast?_append, List.getLast?_eq_some_getLast hback,
    Option.some_or] at hlast
  rwa [List.getLast?_eq_some_getLast hback]

/-- A text that is changed in one place ends as before, or as what is put there. -/
theorem replaceFirst {new : String} (h : EndsSolid text) (hnew : EndsSolid new) (word : String) :
    EndsSolid (replaceFirst text word new) := by
  rcases replaceFirst_cases text word new with hsame | ⟨before, after, rfl, hreplaced⟩
  · rwa [hsame]
  · rw [hreplaced]
    by_cases hafter : after = ""
    · rw [hafter, String.append_empty]
      exact hnew.append before
    · exact (h.of_append hafter).append (before ++ new)

/-- A run of characters that are not blank ends with one of them. -/
theorem of_isRun (h : IsRun (fun c => !isBlank c) text.toList) : EndsSolid text := by
  refine ⟨text.toList.getLast h.1, List.getLast?_eq_some_getLast h.1, ?_⟩
  simpa using h.2 _ (List.getLast_mem h.1)

end EndsSolid

namespace EndsInSpace

variable {text : String}

/-- What stands before a text does not change how it ends. -/
theorem append (front : String) (h : EndsInSpace text) : EndsInSpace (front ++ text) := by
  obtain ⟨core, hcore, rfl⟩ := h
  exact ⟨front ++ core, hcore.append front, String.append_assoc.symm⟩

/-- A text that ends in a space is not empty. -/
theorem ne_empty (h : EndsInSpace text) : text ≠ "" := by
  obtain ⟨core, -, rfl⟩ := h
  simp

/-- Joined fragments end as the last of them. -/
theorem join {fragments : List String} (hne : fragments ≠ [])
    (h : ∀ fragment ∈ fragments, EndsInSpace fragment) : EndsInSpace (String.join fragments) := by
  induction fragments with
  | nil => exact absurd rfl hne
  | cons fragment fragments ih =>
    obtain ⟨hfragment, hfragments⟩ := List.forall_mem_cons.mp h
    rw [String.join_cons]
    by_cases hlast : fragments = []
    · rw [hlast, String.join_nil, String.append_empty]
      exact hfragment
    · exact (ih hlast hfragments).append fragment

end EndsInSpace

/-! ### Written fragments -/

/-- What a text search looks for ends with a quote. -/
theorem endsSolid_quote : EndsSolid "%'" := ⟨'\'', by decide, by decide⟩

/-- The written operand ends with a character that is not blank. -/
theorem Clause.endsSolid_writtenOperand {clause : Clause} (h : clause.WellFormed)
    (hop : Operator.ofKeyword? clause.keyword = some clause.operator) :
    EndsSolid clause.writtenOperand := by
  have hshape := Operator.shape_of_ofKeyword? h.keyword hop
  have hoperand := h.operand
  rw [← hshape] at hoperand
  unfold writtenOperand Operator.isTextSearch
  cases hcase : clause.operator.shape with
  | textSearch => exact endsSolid_quote.append _
  | membership =>
    rw [hcase] at hoperand
    obtain ⟨inside, -, htext⟩ := hoperand
    refine ⟨')', ?_, by decide⟩
    change clause.operand.toList.getLast? = some ')'
    rw [htext, ← List.cons_append, List.getLast?_concat]
  | comparison =>
    rw [hcase] at hoperand
    exact .of_isRun hoperand

namespace Fragment

/-- Every fragment of a query ends with one space. -/
theorem endsInSpace_of_ofQuery {query : String} {fragments : List String}
    (h : ofQuery query = .ok fragments) : ∀ fragment ∈ fragments, EndsInSpace fragment := by
  intro fragment hfragment
  rcases mem_ofQuery h hfragment with rfl | ⟨clause, hclause, hop, rfl⟩
  · have hclose : "%' " = "%'" ++ " " := rfl
    rw [ofText, hclose, ← String.append_assoc]
    exact ⟨_, endsSolid_quote.append _, rfl⟩
  · exact ⟨_, (Clause.endsSolid_writtenOperand hclause hop).append _, rfl⟩

/-- The column of a fragment is a word. -/
theorem space_not_mem_column {fragment col : String} (h : column fragment = .ok col) :
    ' ' ∉ col.toList := by
  have hmem : col ∈ words (lowercase fragment) := by
    unfold column at h
    split at h
    · next hwords =>
      rw [hwords]
      cases h
      split <;> simp
    · cases h
  intro hspace
  have hblank := isBlank_of_mem_words hmem ' ' hspace
  rw [isBlank_space] at hblank
  cases hblank

end Fragment

/-! ### Resolved fragments -/

private theorem Field.endsSolid_lookup (field : Field) (column : String) :
    EndsSolid (field.lookup column) := by
  have hclose : EndsSolid "')]" := ⟨']', by decide, by decide⟩
  exact hclose.append _

namespace Catalog

variable {catalog : Catalog}

/-- A fragment that ends with one space does so once it is resolved. The name of a column has no space, so
that the space at the end is never replaced. -/
theorem endsInSpace_of_resolveFragment {fragment resolved : String} (hends : EndsInSpace fragment)
    (h : catalog.resolveFragment fragment = .ok resolved) : EndsInSpace resolved := by
  obtain ⟨column, hcolumn, ⟨-, rfl⟩ | ⟨-, field, -, rfl⟩⟩ := resolveFragment_inv h
  · exact hends
  · obtain ⟨core, hcore, rfl⟩ := hends
    refine ⟨replaceFirst core column (field.lookup column),
      hcore.replaceFirst (field.endsSolid_lookup column) column, ?_⟩
    exact replaceFirst_append_space (Fragment.space_not_mem_column hcolumn) core _

/-- Resolution keeps the space at the end of every fragment. -/
theorem endsInSpace_of_resolve {fragments resolved : List String}
    (hends : ∀ fragment ∈ fragments, EndsInSpace fragment)
    (h : catalog.resolve fragments = .ok resolved) : ∀ fragment ∈ resolved, EndsInSpace fragment := by
  intro fragment hfragment
  obtain ⟨written, hwritten, hresolved⟩ := exists_of_mem_mapM h hfragment
  exact endsInSpace_of_resolveFragment (hends written hwritten) hresolved

end Catalog

end LogFilter
