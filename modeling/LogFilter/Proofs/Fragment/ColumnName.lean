import LogFilter.Proofs.Fragment.Written

/-!
# The column of a clause and the column of its fragment

The column of a clause is found twice: in the query, and again among the words of the fragment that is
written for the clause. The two agree unless the clause has no conjunction and its column is named `and`:
the word is then taken for a conjunction, and the first word of the operator for the column.
-/

namespace LogFilter

open Text

/-- No operator starts with the word `and`. -/
theorem Operator.lower_symbolWord_ne (op : Operator) :
    String.ofList (op.symbolWord.map Char.toLower) ≠ conjunctionWord := by
  cases op <;> decide

namespace Clause

variable {clause : Clause}

/-- The column that the clause is about: its column in lower case, or the body where a text search
names the alias of the body. -/
def logicalColumn (clause : Clause) : String :=
  if clause.operator.isTextSearch && lowercase clause.column == fulltextAlias then bodyColumn
  else lowercase clause.column

/-- The clause starts with a column that reads as a conjunction. -/
def StartsWithAnd (clause : Clause) : Prop :=
  clause.conjunction = false ∧ IsAndWord clause.column.toList

instance : DecidablePred StartsWithAnd := fun _ => inferInstanceAs (Decidable (_ ∧ _))

/-- Unless a text search is in the full text, its column is the lowercased one. -/
theorem logicalColumn_eq_lowercase
    (h : clause.operator.isTextSearch = true → lowercase clause.column ≠ fulltextAlias) :
    clause.logicalColumn = lowercase clause.column := by
  unfold logicalColumn
  split
  · next hbody =>
    rw [Bool.and_eq_true, beq_iff_eq] at hbody
    exact absurd hbody.2 (h hbody.1)
  · rfl

/-- Column names are lowercased letter by letter. -/
theorem toList_lowercase_column (h : clause.WellFormed) :
    (lowercase clause.column).toList = clause.column.toList.map Char.toLower := by
  rw [lowercase_column h, String.toList_ofList]

/-- The written column, in lower case, is the column that the clause is about. -/
theorem lower_writtenColumn (h : clause.WellFormed) :
    String.ofList (clause.writtenColumn.toList.map Char.toLower) = clause.logicalColumn := by
  unfold writtenColumn logicalColumn
  cases hsearch : clause.operator.isTextSearch with
  | false => exact (lowercase_column h).symm
  | true =>
    by_cases hbody : lowercase clause.column = fulltextAlias
    · simp only [Fragment.searchColumn, hbody, if_true, beq_self_eq_true, Bool.and_self]
      decide
    · have hne : (lowercase clause.column == fulltextAlias) = false := beq_false_of_ne hbody
      simp only [Fragment.searchColumn, hbody, hne, if_true, if_false, Bool.and_false,
        Bool.false_eq_true]
      rw [toList_lowercase_column h, map_toLower_toLower, lowercase_column h]

private theorem writtenLead_eq_empty_iff :
    clause.writtenLead = "" ↔ clause.conjunction = false := by
  unfold writtenLead
  split
  · cases clause.conjunction <;> simp
  · exact Phrase.conjunction_eq_false_iff.symm

/-! ### The two readings -/

/-- Behind a conjunction, or if it is not named `and`, the column is found again in what is written for
the clause. -/
theorem column_written_eq_logicalColumn (h : clause.WellFormed)
    (hop : Operator.ofKeyword? clause.keyword = some clause.operator)
    (hand : ¬ clause.StartsWithAnd) :
    Fragment.column clause.written = .ok clause.logicalColumn := by
  have hcolumn := isRun_writtenColumn h
  have htext := clause.toList_written
  obtain ⟨name, hname⟩ := Fragment.exists_column_iff.mpr (length_words_written h hop)
  have hlower : name = String.ofList (clause.writtenColumn.toList.map Char.toLower) := by
    rcases writtenLead_cases h with hlead | hlead
    · have hnot : ¬ IsAndWord clause.writtenColumn.toList := by
        rw [isAndWord_writtenColumn h]
        intro hword
        exact hand ⟨writtenLead_eq_empty_iff.mp hlead, hword⟩
      rw [hlead, String.toList_empty, List.nil_append] at htext
      exact Fragment.column_of_first_word hcolumn hnot htext hname
    · exact Fragment.column_after_conjunction hlead hcolumn htext hname
  rw [hname, hlower, lower_writtenColumn h]

/-- A column named `and` without a conjunction before it passes for one: the first word of the operator
is found in its place. -/
theorem column_written_of_startsWithAnd (h : clause.WellFormed)
    (hop : Operator.ofKeyword? clause.keyword = some clause.operator)
    (hand : clause.StartsWithAnd) :
    Fragment.column clause.written =
      .ok (String.ofList (clause.operator.symbolWord.map Char.toLower)) := by
  have htext := clause.toList_written
  obtain ⟨more, hsymbol⟩ := clause.operator.symbol_append (clause.writtenOperand.toList ++ [' '])
  obtain ⟨name, hname⟩ := Fragment.exists_column_iff.mpr (length_words_written h hop)
  have hlead : IsConjunction (clause.writtenColumn.toList ++ [' ']) :=
    ⟨_, 0, (isAndWord_writtenColumn h).mpr hand.2, rfl⟩
  have hafter : clause.written.toList = clause.writtenColumn.toList ++ [' '] ++
      (clause.operator.symbolWord ++
        ' ' :: (more ++ (clause.writtenOperand.toList ++ [' ']))) := by
    rw [htext, writtenLead_eq_empty_iff.mpr hand.1, hsymbol]
    simp
  rw [hname, Fragment.column_after_conjunction hlead clause.operator.isRun_symbolWord hafter hname]

/-- A column named `and` is the column that its clause is about. -/
theorem StartsWithAnd.logicalColumn_eq (h : clause.WellFormed) (hand : clause.StartsWithAnd) :
    clause.logicalColumn = conjunctionWord := by
  have hname : lowercase clause.column = conjunctionWord := by
    rw [lowercase_column h]
    exact isAndWord_iff.mp hand.2
  rw [logicalColumn_eq_lowercase, hname]
  intro _
  rw [hname]
  decide

end Clause

namespace Fragment

/-- The fragment of a query at some place is that of its clause there. -/
theorem getElem?_ofQuery {query : String} {clauses : List Clause} {fragments : List String}
    {i : Nat} {clause : Clause} (hscan : Clause.scan query = .ok clauses)
    (h : ofQuery query = .ok fragments) (hclause : clauses[i]? = some clause) :
    ∃ fragment, fragments[i]? = some fragment ∧ ofClause clause = .ok fragment := by
  have hne : clauses ≠ [] := by
    rintro rfl
    cases hclause
  rw [ofQuery_of_clauses hscan hne, mapM_eq_ok_iff] at h
  have hat := congrArg (·[i]?) h
  simp only [List.getElem?_map, hclause, Option.map_some] at hat
  cases hfragment : fragments[i]? with
  | none =>
    rw [hfragment] at hat
    cases hat
  | some fragment =>
    rw [hfragment] at hat
    exact ⟨fragment, rfl, Option.some.inj hat⟩

/-- A query has as many fragments as clauses, if it has clauses. -/
theorem length_ofQuery {query : String} {clauses : List Clause} {fragments : List String}
    (hscan : Clause.scan query = .ok clauses) (hne : clauses ≠ [])
    (h : ofQuery query = .ok fragments) : fragments.length = clauses.length := by
  rw [ofQuery_of_clauses hscan hne, mapM_eq_ok_iff] at h
  have hlength := congrArg List.length h
  rw [List.length_map, List.length_map] at hlength
  exact hlength.symm

/-- The column that is found in the fragment of a clause is the column that the clause is about, unless
the clause has no conjunction and its column is named `and`; the first word of the operator is then
found instead. A query without clauses is about the body, whatever its text. -/
theorem column_agrees_with_clause (query : String) {clauses : List Clause}
    (hscan : Clause.scan query = .ok clauses) :
    (clauses = [] → ofQuery query = .ok [ofText query] ∧ column (ofText query) = .ok bodyColumn) ∧
    ∀ fragments, clauses ≠ [] → ofQuery query = .ok fragments →
      fragments.length = clauses.length ∧
      ∀ (i : Nat) (clause : Clause), clauses[i]? = some clause →
        ∃ fragment name, fragments[i]? = some fragment ∧ ofClause clause = .ok fragment ∧
          column fragment = .ok name ∧
          (name = clause.logicalColumn ↔ ¬ clause.StartsWithAnd) ∧
          (clause.StartsWithAnd →
            name = String.ofList (clause.operator.symbolWord.map Char.toLower)) := by
  refine ⟨?_, ?_⟩
  · rintro rfl
    rw [ofQuery, hscan]
    exact ⟨rfl, column_ofText query⟩
  · intro fragments hne hquery
    refine ⟨length_ofQuery hscan hne hquery, ?_⟩
    intro i clause hclause
    have hmem := List.mem_of_getElem? hclause
    have hwell := Clause.wellFormed_of_scan hscan clause hmem
    have hop := Clause.operator_of_scan hscan clause hmem
    obtain ⟨fragment, hat, hfragment⟩ := getElem?_ofQuery hscan hquery hclause
    obtain rfl := eq_written_of_ofClause hfragment
    by_cases hand : clause.StartsWithAnd
    · have hname := Clause.column_written_of_startsWithAnd hwell hop hand
      refine ⟨_, _, hat, hfragment, hname, ?_, fun _ => rfl⟩
      rw [hand.logicalColumn_eq hwell]
      exact iff_of_false clause.operator.lower_symbolWord_ne (not_not_intro hand)
    · have hname := Clause.column_written_eq_logicalColumn hwell hop hand
      exact ⟨_, _, hat, hfragment, hname, iff_of_true rfl hand, fun h => absurd h hand⟩

/-- Two columns named `and`, the second behind a conjunction, and the alias of the body. -/
theorem column_agrees_with_clause_and :
    let query := "AND in (1) and and gt 2 and FullText contains x"
    ofQuery query = .ok ["AND IN (1) ", "and and > 2 ", "AND body ILIKE '%x%' "] ∧
    column "AND IN (1) " = .ok "in" ∧ column "and and > 2 " = .ok "and" ∧
    column "AND body ILIKE '%x%' " = .ok "body" := by
  intro query
  let first : Clause :=
    { lead := "", shape := .membership, column := "AND", keyword := "in", operand := "(1)",
      operator := .isIn }
  let second : Clause :=
    { lead := "and ", shape := .comparison, column := "and", keyword := "gt", operand := "2",
      operator := .gt }
  let third : Clause :=
    { lead := "and ", shape := .textSearch, column := "FullText", keyword := "contains",
      operand := "x", operator := .contains }
  have hscan : Clause.scan query = .ok [first, second, third] := by decide +kernel
  have hquery : ofQuery query = .ok ["AND IN (1) ", "and and > 2 ", "AND body ILIKE '%x%' "] := by
    rw [ofQuery_of_clauses hscan (List.cons_ne_nil _ _)]
    decide +kernel
  obtain ⟨-, hagree⟩ := (column_agrees_with_clause query hscan).2 _ (List.cons_ne_nil _ _) hquery
  refine ⟨hquery, ?_, ?_, ?_⟩
  · obtain ⟨fragment, name, hat, -, hname, -, hsymbol⟩ := hagree 0 first rfl
    obtain rfl := Option.some.inj hat
    rw [hname, hsymbol (by decide)]
    decide
  · obtain ⟨fragment, name, hat, -, hname, hiff, -⟩ := hagree 1 second rfl
    obtain rfl := Option.some.inj hat
    rw [hname, hiff.mpr (by decide)]
    decide +kernel
  · obtain ⟨fragment, name, hat, -, hname, hiff, -⟩ := hagree 2 third rfl
    obtain rfl := Option.some.inj hat
    rw [hname, hiff.mpr (by decide)]
    decide +kernel

end Fragment

end LogFilter
