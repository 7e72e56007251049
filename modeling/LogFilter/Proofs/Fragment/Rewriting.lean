import LogFilter.Proofs.Field.Lookup
import LogFilter.Proofs.Fragment.ColumnName

/-!
# Where look-ups are written

The look-up of an interesting column is written where the name of the column, in lower case, first
occurs in the fragment. That is not always the column: the name can occur in the conjunction, and a
column with capitals does not hold it. In a clause with such a column the conjunction or the operand is
changed, or nothing is.
-/

namespace LogFilter

open Text

/-- In a look-up no capital stands before the bracket. -/
theorem Field.lookup_split (field : Field) (column : String) :
    ∃ head rest, (field.lookup column).toList = head ++ '[' :: rest ∧
      ∀ c ∈ head, c.isUpper = false := by
  have hvalue : ∀ c ∈ "_value".toList, c.isUpper = false := forall_isUpper_eq_false (by decide)
  refine ⟨field.bucket.toList ++ "_value".toList,
    ("indexOf(" ++ field.bucket ++ "_key, '" ++ column ++ "')]").toList, ?_, ?_⟩
  · simp [lookup]
  · intro c hc
    rcases List.mem_append.mp hc with hc | hc
    · exact isUpper_of_mem_bucket hc
    · exact hvalue c hc

namespace Clause

variable {clause : Clause}

/-- What is written for the clause, with other texts in the places of its conjunction, its column
and its operand. -/
def withParts (clause : Clause) (lead column operand : String) : String :=
  lead ++ column ++ " " ++ clause.operator.symbol ++ " " ++ operand ++ " "

private theorem withParts_eq (clause : Clause) (lead column operand : String) :
    clause.withParts lead column operand =
      lead ++ (column ++ " " ++ (clause.operator.symbol ++ " " ++ (operand ++ " "))) := by
  simp only [withParts, String.append_assoc]

section

variable (hsearch : clause.operator.isTextSearch = false)

include hsearch

private theorem writtenLead_eq_lead : clause.writtenLead = clause.lead := by
  simp [writtenLead, hsearch]

/-- Outside text searches only the operator is written in another way. -/
theorem written_eq_withParts :
    clause.written = clause.withParts clause.lead clause.column clause.operand := by
  simp [written, withParts, writtenLead, writtenColumn, writtenOperand, hsearch]

end

/-- The word of the conjunction in front of the clause, as the query has it. -/
def leadWord (clause : Clause) : List Char := clause.lead.toList.takeWhile (· != ' ')

/-! ### Names of columns -/

private theorem space_not_mem_lowercase_column (h : clause.WellFormed) :
    ' ' ∉ (lowercase clause.column).toList := by
  rw [toList_lowercase_column h]
  exact h.column.plain.space_not_mem_lower

/-- A column is its own name exactly when it has no capital. -/
theorem lowercase_column_eq_self_iff (h : clause.WellFormed) :
    lowercase clause.column = clause.column ↔ ∀ c ∈ clause.column.toList, c.isUpper = false := by
  rw [← String.toList_inj, toList_lowercase_column h, map_toLower_eq_self_iff]

/-- The name of a column with a capital does not occur in it. -/
theorem not_infix_column (h : clause.WellFormed)
    (hcapital : ∃ c ∈ clause.column.toList, c.isUpper = true) :
    ¬ (lowercase clause.column).toList <:+: clause.column.toList := by
  intro hin
  have hlength : (lowercase clause.column).toList.length = clause.column.toList.length := by
    rw [toList_lowercase_column h, List.length_map]
  have hsame : lowercase clause.column = clause.column :=
    String.toList_inj.mp (hin.eq_of_length hlength)
  have hself := (lowercase_column_eq_self_iff h).mp hsame
  obtain ⟨c, hc, hupper⟩ := hcapital
  rw [hself c hc] at hupper
  cases hupper

/-- The name of a column with a capital does not occur in a symbol. -/
theorem not_infix_symbol (h : clause.WellFormed)
    (hcapital : ∃ c ∈ clause.column.toList, c.isUpper = true) (op : Operator) :
    ¬ (lowercase clause.column).toList <:+: op.symbol.toList := by
  obtain ⟨c, hc, hupper⟩ := hcapital
  -- The capital is in lower case there, and symbols have no letter in lower case.
  have hlower : c.toLower.isLower = true := by
    revert hupper
    exact ascii_cases c (h.column.plain.isAscii c hc) (by decide +kernel)
  have hsymbol : op.symbol.toList.all (!·.isLower) = true := by cases op <;> decide
  apply not_infix_of_not_mem (c := c.toLower)
  · rw [toList_lowercase_column h]
    exact List.mem_map_of_mem hc
  · intro hmem
    have hnot := List.all_eq_true.mp hsymbol _ hmem
    rw [hlower] at hnot
    cases hnot

/-! ### Names in conjunctions -/

/-- A name without spaces occurs in a conjunction when it occurs in its word. -/
theorem infix_lead_iff (h : clause.WellFormed) :
    (lowercase clause.column).toList <:+: clause.lead.toList ↔
      (lowercase clause.column).toList <:+: clause.leadWord := by
  have hspace := space_not_mem_lowercase_column h
  rcases h.lead with hlead | ⟨word, spaces, hand, hlead⟩
  · rw [leadWord, hlead]
    rfl
  · have hword : clause.leadWord = word := by
      rw [leadWord, hlead, List.takeWhile_append_of_pos]
      · simp [List.replicate_succ]
      · intro c hc
        rw [bne_iff_ne]
        rintro rfl
        exact hand.space_not_mem hc
    rw [hword, hlead, List.replicate_succ, infix_append_cons_iff hspace, or_iff_left]
    intro hin
    obtain ⟨c, hc⟩ := List.exists_mem_of_ne_nil _ h.column.plain.lower_ne_nil
    rw [← toList_lowercase_column h] at hc
    rw [List.eq_of_mem_replicate (hin.subset hc)] at hc
    exact hspace hc

/-- The conjunction of a text search does not hold the name of the column. -/
theorem not_infix_writtenLead (h : clause.WellFormed)
    (hsearch : clause.operator.isTextSearch = true) :
    ¬ (lowercase clause.column).toList <:+: clause.writtenLead.toList := by
  rw [toList_lowercase_column h, writtenLead, if_pos hsearch]
  split
  · exact not_infix_capitals h.column.plain
  · intro hin
    exact h.column.plain.lower_ne_nil (List.infix_nil.mp hin)

/-- The search for the name goes on behind a conjunction that does not hold it. -/
theorem replaceFirst_writtenLead (h : clause.WellFormed)
    (hnot : ¬ (lowercase clause.column).toList <:+: clause.writtenLead.toList)
    (new rest : String) :
    replaceFirst (clause.writtenLead ++ rest) (lowercase clause.column) new =
      clause.writtenLead ++ replaceFirst rest (lowercase clause.column) new := by
  rcases writtenLead_cases h with hlead | ⟨word, spaces, -, hlead⟩
  · rw [hlead, String.empty_append, String.empty_append]
  · have hsplit : clause.writtenLead =
        String.ofList (word ++ List.replicate spaces ' ') ++ " " := by
      rw [← String.toList_inj, hlead, List.replicate_succ']
      simp
    rw [hsplit, String.toList_append] at hnot
    rw [hsplit]
    apply replaceFirst_append_back (space_not_mem_lowercase_column h)
    intro hin
    exact hnot (hin.trans (List.prefix_append _ _).isInfix)

/-! ### The three places -/

/-- The name occurs in the conjunction: the look-up is written there. -/
theorem replaceFirst_written_of_lead (hsearch : clause.operator.isTextSearch = false)
    (hin : (lowercase clause.column).toList <:+: clause.lead.toList) (new : String) :
    replaceFirst clause.written (lowercase clause.column) new =
      clause.withParts (replaceFirst clause.lead (lowercase clause.column) new) clause.column
        clause.operand := by
  rw [written_eq_withParts hsearch, withParts_eq, withParts_eq, replaceFirst_append_front hin]

/-- The column is written as its name: the look-up is written in its place. -/
theorem replaceFirst_written_of_column (h : clause.WellFormed)
    (hnot : ¬ (lowercase clause.column).toList <:+: clause.writtenLead.toList)
    (hcolumn : clause.writtenColumn = lowercase clause.column) (new : String) :
    replaceFirst clause.written (lowercase clause.column) new =
      clause.withParts clause.writtenLead new clause.writtenOperand := by
  have hwritten : clause.written =
      clause.withParts clause.writtenLead clause.writtenColumn clause.writtenOperand := rfl
  rw [hwritten, hcolumn, withParts_eq, withParts_eq, replaceFirst_writtenLead h hnot]
  simp only [String.append_assoc, replaceFirst_append]

/-- The column has a capital and its name is not in the conjunction: the look-up is written in the
operand, if anywhere. -/
theorem replaceFirst_written_of_operand (h : clause.WellFormed)
    (hsearch : clause.operator.isTextSearch = false)
    (hnot : ¬ (lowercase clause.column).toList <:+: clause.lead.toList)
    (hcapital : ∃ c ∈ clause.column.toList, c.isUpper = true) (new : String) :
    replaceFirst clause.written (lowercase clause.column) new =
      clause.withParts clause.lead clause.column
        (replaceFirst clause.operand (lowercase clause.column) new) := by
  have hspace := space_not_mem_lowercase_column h
  have hlead := writtenLead_eq_lead hsearch
  have hrest := replaceFirst_writtenLead h (hlead ▸ hnot) new
  rw [hlead] at hrest
  rw [written_eq_withParts hsearch, withParts_eq, withParts_eq, hrest,
    replaceFirst_append_back hspace (not_infix_column h hcapital),
    replaceFirst_append_back hspace (not_infix_symbol h hcapital clause.operator),
    replaceFirst_append_space hspace]

/-! ### Look-ups in the place of columns -/

/-- A column with a capital is not the beginning of a look-up. -/
theorem withParts_ne_of_capital (h : clause.WellFormed)
    (hcapital : ∃ c ∈ clause.column.toList, c.isUpper = true) (field : Field)
    (lead name operand operand' : String) :
    clause.withParts lead clause.column operand' ≠
      clause.withParts lead (field.lookup name) operand := by
  intro heq
  obtain ⟨head, rest, hlookup, hhead⟩ := field.lookup_split name
  obtain ⟨c, hc, hupper⟩ := hcapital
  have hbracket : '[' ∉ clause.column.toList := by
    intro hmem
    have hchar := h.column.2 '[' hmem
    cases hshape : clause.shape <;> rw [hshape] at hchar <;> revert hchar <;> decide
  have hlist := congrArg String.toList heq
  simp only [withParts_eq, String.toList_append, List.append_cancel_left_eq, hlookup,
    List.append_assoc, List.cons_append] at hlist
  -- The column ends before the bracket of the look-up, where there are no capitals.
  have hbefore : clause.column.toList <+: head := by
    apply prefix_of_prefix_append_cons head hbracket
    rw [← hlist]
    exact List.prefix_append _ _
  rw [hhead c (hbefore.subset hc)] at hupper
  cases hupper

/-- What is written behind a conjunction joins. -/
theorem joins_withParts {lead : String} (hlead : IsConjunction lead.toList)
    (column operand : String) : Fragment.Joins (clause.withParts lead column operand) := by
  obtain ⟨word, spaces, hand, hlead⟩ := hlead
  have htext : (clause.withParts lead column operand).toList = word ++ ' ' ::
      (List.replicate spaces ' ' ++ (column ++ " " ++
        (clause.operator.symbol ++ " " ++ (operand ++ " "))).toList) := by
    rw [withParts_eq, String.toList_append, hlead, List.replicate_succ]
    simp
  rwa [Fragment.joins_iff hand.space_not_mem htext]

/-! ### The column of a written clause -/

/-- The column of what is written for a clause is the column of the clause, in lower case. -/
theorem column_written (h : clause.WellFormed)
    (hop : Operator.ofKeyword? clause.keyword = some clause.operator)
    (hfulltext : clause.operator.isTextSearch = true → lowercase clause.column ≠ fulltextAlias)
    (hand : clause.conjunction = false → lowercase clause.column ≠ conjunctionWord) :
    Fragment.column clause.written = .ok (lowercase clause.column) := by
  have hnot : ¬ clause.StartsWithAnd := by
    rintro ⟨hconj, hword⟩
    rw [isAndWord_iff, ← lowercase_column h] at hword
    exact hand hconj hword
  rw [column_written_eq_logicalColumn h hop hnot, logicalColumn_eq_lowercase hfulltext]

/-! ### Rewriting -/

/-- The look-up takes the place of the column exactly in text searches, and where the column has no
capital and does not occur in the conjunction. -/
theorem replaceFirst_written_eq_iff (h : clause.WellFormed)
    (hfulltext : clause.operator.isTextSearch = true → lowercase clause.column ≠ fulltextAlias)
    (field : Field) :
    replaceFirst clause.written (lowercase clause.column) (field.lookup (lowercase clause.column)) =
        clause.withParts clause.writtenLead (field.lookup (lowercase clause.column))
          clause.writtenOperand ↔
      clause.operator.isTextSearch = true ∨
        ((∀ c ∈ clause.column.toList, c.isUpper = false) ∧
          (clause.conjunction = true → ¬ clause.column.toList <:+: clause.leadWord)) := by
  cases hsearch : clause.operator.isTextSearch with
  | true =>
    have hcolumn : clause.writtenColumn = lowercase clause.column := by
      rw [writtenColumn, if_pos hsearch, Fragment.searchColumn, if_neg (hfulltext hsearch)]
    exact iff_of_true
      (replaceFirst_written_of_column h (not_infix_writtenLead h hsearch) hcolumn _) (.inl rfl)
  | false =>
    have hlead := writtenLead_eq_lead hsearch
    have hcolumn : clause.writtenColumn = clause.column := by simp [writtenColumn, hsearch]
    by_cases hin : (lowercase clause.column).toList <:+: clause.lead.toList
    · -- The conjunction is lost, and would be kept if the column gave way.
      have hne : clause.lead ≠ "" := by
        intro hempty
        rw [hempty, String.toList_empty, List.infix_nil, toList_lowercase_column h] at hin
        exact h.column.plain.lower_ne_nil hin
      have hconj := h.lead.resolve_left hne
      apply iff_of_false
      · intro heq
        have hjoins : Fragment.Joins (clause.withParts clause.writtenLead
            (field.lookup (lowercase clause.column)) clause.writtenOperand) :=
          joins_withParts (hlead ▸ hconj) _ _
        have htext := clause.toList_written
        rw [hlead] at htext
        rw [← heq, lowercase_column h] at hjoins
        rw [toList_lowercase_column h] at hin
        have hword := h.column.plain
        exact Fragment.not_joins_replaceFirst field hin (fun _ _ hfront =>
          hconj.length_init_le hword.lower_ne_nil hword.space_not_mem_lower hfront) htext hjoins
      · rintro (hsearch | ⟨hlower, hfree⟩)
        · cases hsearch
        · apply hfree (Phrase.conjunction_eq_true_iff.mpr hne)
          rw [← (lowercase_column_eq_self_iff h).mpr hlower]
          exact (infix_lead_iff h).mp hin
    · by_cases hlower : ∀ c ∈ clause.column.toList, c.isUpper = false
      · have hname := (lowercase_column_eq_self_iff h).mpr hlower
        apply iff_of_true
        · exact replaceFirst_written_of_column h (hlead ▸ hin) (hcolumn.trans hname.symm) _
        · refine .inr ⟨hlower, fun _ hword => hin ((infix_lead_iff h).mpr ?_)⟩
          rwa [hname]
      · have hcapital : ∃ c ∈ clause.column.toList, c.isUpper = true := by
          simpa using hlower
        apply iff_of_false
        · rw [replaceFirst_written_of_operand h hsearch hin hcapital, hlead]
          exact withParts_ne_of_capital h hcapital field _ _ _ _
        · rintro (hsearch | ⟨hlower', -⟩)
          · cases hsearch
          · exact hlower hlower'

end Clause

/-- Where resolution writes the look-up of an interesting column. The fragment changes in one place
at most. The column gives way to the look-up, with all else kept, exactly in text searches and where
the column has no capital and does not occur in the word of the conjunction. A column with a capital
stays, outside text searches: the look-up is written in the conjunction if the name occurs there,
and in the operand otherwise. -/
theorem Catalog.lookup_replaces_column_iff (catalog : Catalog) {query : String}
    {clauses : List Clause} {fragments : List String} {i : Nat} {clause : Clause} {field : Field}
    (hscan : Clause.scan query = .ok clauses) (hquery : Fragment.ofQuery query = .ok fragments)
    (hclause : clauses[i]? = some clause)
    (hphysical : ¬ catalog.IsPhysical (lowercase clause.column))
    (hfield : catalog.interestingField? (lowercase clause.column) = some field)
    (hfulltext : ¬ (clause.operator.isTextSearch = true ∧ lowercase clause.column = fulltextAlias))
    (hand : ¬ (clause.conjunction = false ∧ lowercase clause.column = conjunctionWord)) :
    ∃ fragment resolved, fragments[i]? = some fragment ∧ Fragment.ofClause clause = .ok fragment ∧
      fragment = clause.withParts clause.writtenLead clause.writtenColumn clause.writtenOperand ∧
      catalog.resolveFragment fragment = .ok resolved ∧
      (resolved = fragment ∨ ∃ before after,
        fragment = before ++ lowercase clause.column ++ after ∧
        resolved = before ++ field.lookup (lowercase clause.column) ++ after) ∧
      (resolved = clause.withParts clause.writtenLead (field.lookup (lowercase clause.column))
          clause.writtenOperand ↔
        clause.operator.isTextSearch = true ∨
          ((∀ c ∈ clause.column.toList, c.isUpper = false) ∧
            (clause.conjunction = true → ¬ clause.column.toList <:+: clause.leadWord))) ∧
      (clause.operator.isTextSearch = false → (∃ c ∈ clause.column.toList, c.isUpper = true) →
        ((lowercase clause.column).toList <:+: clause.leadWord →
          resolved = clause.withParts (replaceFirst clause.lead (lowercase clause.column)
            (field.lookup (lowercase clause.column))) clause.column clause.operand) ∧
        (¬ (lowercase clause.column).toList <:+: clause.leadWord →
          resolved = clause.withParts clause.lead clause.column
            (replaceFirst clause.operand (lowercase clause.column)
              (field.lookup (lowercase clause.column))))) := by
  have hmem := List.mem_of_getElem? hclause
  have hwell := Clause.wellFormed_of_scan hscan clause hmem
  have hop := Clause.operator_of_scan hscan clause hmem
  have hsearched : clause.operator.isTextSearch = true →
      lowercase clause.column ≠ fulltextAlias := fun hsearch heq => hfulltext ⟨hsearch, heq⟩
  have hcolumn := Clause.column_written hwell hop hsearched fun hconj heq => hand ⟨hconj, heq⟩
  obtain ⟨fragment, hat, hfragment⟩ := Fragment.getElem?_ofQuery hscan hquery hclause
  obtain rfl := Fragment.eq_written_of_ofClause hfragment
  refine ⟨_, _, hat, hfragment, rfl,
    Catalog.resolveFragment_of_interesting hcolumn hphysical hfield,
    replaceFirst_cases _ _ _, Clause.replaceFirst_written_eq_iff hwell hsearched field, ?_⟩
  intro hsearch hcapital
  rw [← Clause.infix_lead_iff hwell]
  exact ⟨fun hin => Clause.replaceFirst_written_of_lead hsearch hin _,
    fun hnot => Clause.replaceFirst_written_of_operand hwell hsearch hnot hcapital _⟩

/-- A column that occurs in its operand too: without capitals the column gives way, with capitals a
part of the operand. -/
theorem Catalog.lookup_replaces_column_span_id :
    let query := "id gt 1 and span_id gt 'span_id' and Span_Id gt 'span_id'"
    let first : Clause :=
      { lead := "", shape := .comparison, column := "id", keyword := "gt", operand := "1",
        operator := .gt }
    let plain : Clause :=
      { lead := "and ", shape := .comparison, column := "span_id", keyword := "gt",
        operand := "'span_id'", operator := .gt }
    let capital : Clause := { plain with column := "Span_Id" }
    let lookup := "static_string_value[indexOf(static_string_key, 'span_id')]"
    Clause.scan query = .ok [first, plain, capital] ∧
    builtIn.resolveFragment "and span_id > 'span_id' " =
      .ok ("and " ++ lookup ++ " > 'span_id' ") ∧
    builtIn.resolveFragment "and Span_Id > 'span_id' " =
      .ok ("and Span_Id > '" ++ lookup ++ "' ") := by
  intro query first plain capital lookup
  have hscan : Clause.scan query = .ok [first, plain, capital] := by decide +kernel
  have hquery : Fragment.ofQuery query =
      .ok ["id > 1 ", "and span_id > 'span_id' ", "and Span_Id > 'span_id' "] := by
    rw [Fragment.ofQuery_of_clauses hscan (List.cons_ne_nil _ _)]
    decide +kernel
  have hplain : lowercase plain.column = "span_id" := by decide +kernel
  have hcapital : lowercase capital.column = "span_id" := by decide +kernel
  have hphysical : ¬ builtIn.IsPhysical "span_id" := by
    rw [IsPhysical]
    decide +kernel
  have hfield : builtIn.interestingField? "span_id" =
      some { name := "span_id", kind := .static, dataType := "String" } := by decide +kernel
  refine ⟨hscan, ?_, ?_⟩
  · obtain ⟨fragment, resolved, hat, -, -, hresolved, -, hcolumn, -⟩ :=
      builtIn.lookup_replaces_column_iff (i := 1) hscan hquery rfl (hplain ▸ hphysical)
        (hplain ▸ hfield) (by decide) (by decide)
    obtain rfl := Option.some.inj hat
    have hlower : ∀ c ∈ plain.column.toList, c.isUpper = false :=
      forall_isUpper_eq_false (by decide)
    rw [hresolved, hcolumn.mpr (.inr ⟨hlower, by decide⟩), hplain]
    decide +kernel
  · obtain ⟨fragment, resolved, hat, -, -, hresolved, -, -, hkept⟩ :=
      builtIn.lookup_replaces_column_iff (i := 2) hscan hquery rfl (hcapital ▸ hphysical)
        (hcapital ▸ hfield) (by decide) (by decide)
    obtain rfl := Option.some.inj hat
    rw [hresolved, (hkept rfl ⟨'S', by decide, by decide⟩).2 (by decide +kernel), hcapital]
    decide +kernel

end LogFilter
