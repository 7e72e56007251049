import LogFilter.Proofs.Fragment.Resolution
import LogFilter.Proofs.Query.Tiling
import LogFilter.Proofs.Text.Lowercase

/-!
# Written fragments

The fragment of a clause is made of words: a conjunction if the clause has one, a plain column, the
words of a symbol, and an operand that is not blank. These are three words at least, so every fragment of
a query has a column.
-/

namespace LogFilter

open Text

/-! ### Columns -/

private theorem isPlain_toLower {c : Char} (h : isPlain c = true) : isPlain c.toLower = true := by
  have hascii : c.toNat < 128 := by
    rw [isPlain, Bool.and_eq_true, decide_eq_true_eq] at h
    exact h.1
  revert h
  exact ascii_cases c hascii (by decide +kernel)

/-- A plain word in lower case is plain. -/
theorem IsRun.lower {word : List Char} (h : IsRun isPlain word) :
    IsRun isPlain (word.map Char.toLower) := by
  refine ⟨h.lower_ne_nil, ?_⟩
  intro c hc
  obtain ⟨d, hd, rfl⟩ := List.mem_map.mp hc
  exact isPlain_toLower (h.2 d hd)

/-- Lowering letters twice is lowering them once. -/
theorem map_toLower_toLower (word : List Char) :
    (word.map Char.toLower).map Char.toLower = word.map Char.toLower := by
  rw [List.map_map]
  exact List.map_congr_left fun c _ => toLower_toLower c

namespace Clause

variable {clause : Clause}

/-- The column of a clause is lowercased letter by letter. -/
theorem lowercase_column (h : clause.WellFormed) :
    lowercase clause.column = String.ofList (clause.column.toList.map Char.toLower) :=
  lowercase_ascii h.column.plain.isAscii

/-- The written column is plain. -/
theorem isRun_writtenColumn (h : clause.WellFormed) :
    IsRun isPlain clause.writtenColumn.toList := by
  unfold writtenColumn
  split
  · unfold Fragment.searchColumn
    split
    · unfold bodyColumn
      decide
    · rw [lowercase_column h, String.toList_ofList]
      exact h.column.plain.lower
  · exact h.column.plain

/-- Writing the column makes no other name into `and`, and `and` into no other. -/
theorem isAndWord_writtenColumn (h : clause.WellFormed) :
    IsAndWord clause.writtenColumn.toList ↔ IsAndWord clause.column.toList := by
  unfold writtenColumn
  split
  · unfold Fragment.searchColumn
    have hand : IsAndWord clause.column.toList ↔ lowercase clause.column = conjunctionWord := by
      rw [isAndWord_iff, lowercase_column h]
    split
    · next hfull =>
      rw [hand, hfull]
      decide
    · rw [hand, isAndWord_iff, lowercase_column h, String.toList_ofList, map_toLower_toLower]
  · rfl

end Clause

/-! ### Conjunctions, symbols and operands -/

namespace Operator

/-- The first word of the symbol. -/
def symbolWord (op : Operator) : List Char := op.symbol.toList.takeWhile (· != ' ')

/-- The first word of a symbol, and what follows it. -/
theorem symbol_append (op : Operator) (rest : List Char) :
    ∃ more, op.symbol.toList ++ ' ' :: rest = op.symbolWord ++ ' ' :: (more ++ rest) := by
  cases op with
  | notIn => exact ⟨['I', 'N', ' '], rfl⟩
  | lacks => exact ⟨['I', 'L', 'I', 'K', 'E', ' '], rfl⟩
  | _ => exact ⟨[], rfl⟩

/-- The first word of a symbol is plain. -/
theorem isRun_symbolWord (op : Operator) : IsRun isPlain op.symbolWord := by
  cases op <;> decide

end Operator

namespace Clause

variable {clause : Clause}

/-- The written conjunction is empty or a conjunction. -/
theorem writtenLead_cases (h : clause.WellFormed) :
    clause.writtenLead = "" ∨ IsConjunction clause.writtenLead.toList := by
  unfold writtenLead
  split
  · split
    · exact .inr ⟨['A', 'N', 'D'], 0, by decide, by decide⟩
    · exact .inl rfl
  · exact h.lead

/-- No lowercase name occurs in the conjunction of a text search, which is written in capitals. -/
theorem not_infix_capitals {word : List Char} (h : IsRun isPlain word) :
    ¬ word.map Char.toLower <:+: "AND ".toList := by
  obtain ⟨c, word, rfl⟩ := List.exists_cons_of_ne_nil h.1
  have hcapital : isPlain c = true → c.toLower ∉ "AND ".toList :=
    ascii_cases c (h.isAscii c List.mem_cons_self) (by decide +kernel)
  exact not_infix_of_not_mem List.mem_cons_self (hcapital (h.2 c List.mem_cons_self))

/-- The written operand is not blank. -/
theorem exists_mem_writtenOperand (h : clause.WellFormed)
    (hop : Operator.ofKeyword? clause.keyword = some clause.operator) :
    ∃ c ∈ clause.writtenOperand.toList, isBlank c = false := by
  have hshape := Operator.shape_of_ofKeyword? h.keyword hop
  have hoperand := h.operand
  rw [← hshape] at hoperand
  unfold writtenOperand Operator.isTextSearch
  cases hcase : clause.operator.shape with
  | textSearch => exact ⟨'%', by simp, by decide⟩
  | membership =>
    rw [hcase] at hoperand
    obtain ⟨inside, -, htext⟩ := hoperand
    exact ⟨'(', by simp [htext], by decide⟩
  | comparison =>
    rw [hcase] at hoperand
    obtain ⟨c, rest, htext⟩ := List.exists_cons_of_ne_nil hoperand.1
    have hmem : c ∈ clause.operand.toList := by simp [htext]
    exact ⟨c, hmem, by simpa using hoperand.2 c hmem⟩

/-- What is written for a clause has at least three words. -/
theorem length_words_written (h : clause.WellFormed)
    (hop : Operator.ofKeyword? clause.keyword = some clause.operator) :
    3 ≤ (words clause.written).length := by
  have hspace : " ".toList = [' '] := by decide
  have hcol := isRun_writtenColumn h
  have hsym := clause.operator.isRun_symbolWord
  obtain ⟨c, hmem, hblank⟩ := exists_mem_writtenOperand h hop
  obtain ⟨more, hsymbol⟩ := clause.operator.symbol_append (clause.writtenOperand.toList ++ [' '])
  have htext : clause.written.toList = clause.writtenLead.toList ++ (clause.writtenColumn.toList ++
      ' ' :: (clause.operator.symbolWord ++
        ' ' :: (more ++ (clause.writtenOperand.toList ++ [' '])))) := by
    rw [← hsymbol]
    simp [written, hspace]
  have hbody : wordChars (clause.writtenColumn.toList ++ ' ' :: (clause.operator.symbolWord ++
      ' ' :: (more ++ (clause.writtenOperand.toList ++ [' '])))) =
      clause.writtenColumn.toList :: clause.operator.symbolWord ::
        wordChars (more ++ (clause.writtenOperand.toList ++ [' '])) := by
    rw [wordChars_append hcol.1 hcol.isBlank_eq_false isBlank_space,
      wordChars_append hsym.1 hsym.isBlank_eq_false isBlank_space]
  rw [words, List.length_map, htext]
  rcases writtenLead_cases h with hlead | ⟨word, spaces, hand, hlead⟩
  · -- Without a conjunction the third word lies in the operand.
    have hne : wordChars (more ++ (clause.writtenOperand.toList ++ [' '])) ≠ [] :=
      wordChars_ne_nil (by simp [hmem]) hblank
    have hpos := List.length_pos_iff.mpr hne
    rw [hlead, String.toList_empty, List.nil_append, hbody, List.length_cons, List.length_cons]
    omega
  · have hspaces : ∀ x ∈ List.replicate spaces ' ', isBlank x = true := by
      intro x hx
      rw [List.eq_of_mem_replicate hx, isBlank_space]
    rw [hlead, List.replicate_succ, List.append_assoc, List.cons_append,
      wordChars_append hand.plain.1 hand.plain.isBlank_eq_false isBlank_space,
      wordChars_append_blanks hspaces, hbody]
    simp only [List.length_cons]
    omega

end Clause

/-! ### Columns of fragments -/

namespace Fragment

/-- Exactly the fragments of three or more words have a column. -/
theorem exists_column_iff {fragment : String} :
    (∃ col, column fragment = .ok col) ↔ 3 ≤ (words fragment).length := by
  rw [← length_words_lowercase, column]
  rcases words (lowercase fragment) with _ | ⟨first, _ | ⟨second, _ | ⟨third, more⟩⟩⟩ <;> simp

/-- A search in the body is about the body. -/
theorem column_ofText (query : String) : column (ofText query) = .ok bodyColumn := by
  have htext : (ofText query).toList = "body".toList ++ ' ' :: ("ILIKE".toList ++ ' ' ::
      ("'%" ++ query ++ "%' ").toList) := by
    simp [ofText, bodyColumn]
  have hbody : IsRun isPlain "body".toList := by decide
  have hsymbol : IsRun isPlain "ILIKE".toList := by decide
  have hwords : 3 ≤ (words (ofText query)).length := by
    have hne : wordChars ("'%" ++ query ++ "%' ").toList ≠ [] :=
      wordChars_ne_nil (c := '%') (by simp) (by decide)
    have hpos := List.length_pos_iff.mpr hne
    rw [words, List.length_map, htext,
      wordChars_append hbody.1 hbody.isBlank_eq_false isBlank_space,
      wordChars_append hsymbol.1 hsymbol.isBlank_eq_false isBlank_space, List.length_cons,
      List.length_cons]
    omega
  obtain ⟨col, hcol⟩ := exists_column_iff.mpr hwords
  rw [hcol, column_of_first_word (by decide) (by decide) htext hcol]
  rfl

/-- Inversion: a fragment of a query is a search for its text, or is written for one of its clauses. -/
theorem mem_ofQuery {query fragment : String} {fragments : List String}
    (h : ofQuery query = .ok fragments) (hmem : fragment ∈ fragments) :
    fragment = ofText query ∨ ∃ clause : Clause, clause.WellFormed ∧
      Operator.ofKeyword? clause.keyword = some clause.operator ∧ fragment = clause.written := by
  unfold ofQuery at h
  split at h
  · cases h
  · cases h
    exact .inl (List.mem_singleton.mp hmem)
  · next clauses _ hscan =>
    obtain ⟨clause, hclause, hwritten⟩ := exists_of_mem_mapM h hmem
    exact .inr ⟨clause, Clause.wellFormed_of_scan hscan clause hclause,
      Clause.operator_of_scan hscan clause hclause, eq_written_of_ofClause hwritten⟩

/-- Every fragment of a query has a column. -/
theorem exists_column_of_ofQuery {query : String} {fragments : List String}
    (h : ofQuery query = .ok fragments) :
    ∀ fragment ∈ fragments, ∃ col, column fragment = .ok col := by
  intro fragment hfragment
  rcases mem_ofQuery h hfragment with rfl | ⟨clause, hclause, hop, rfl⟩
  · exact ⟨bodyColumn, column_ofText query⟩
  · exact exists_column_iff.mpr (Clause.length_words_written hclause hop)

end Fragment

end LogFilter
