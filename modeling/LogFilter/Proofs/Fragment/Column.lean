import LogFilter.Fragment
import LogFilter.Proofs.Phrase.Recognition
import LogFilter.Proofs.Text.Words

/-!
# Columns of fragments

The column of a fragment is found again among the words of its lowercased text: the second word if the
fragment starts with a conjunction, and the first if it does not.
-/

namespace LogFilter

open Text

/-- An ASCII character that is not blank, as in column names and operator symbols. -/
def isPlain (c : Char) : Bool := decide (c.toNat < 128) && !isBlank c

/-- Column names are plain. -/
theorem Shape.isPlain_of_isColumnChar {shape : Shape} {c : Char}
    (h : shape.isColumnChar c = true) : isPlain c = true := by
  have hascii := Shape.toNat_lt_of_isColumnChar h
  have hblank : Shape.membership.isColumnChar c = true → isBlank c = false :=
    ascii_cases c hascii (by decide +kernel)
  have hmember : Shape.membership.isColumnChar c = true := by
    simp only [Shape.isColumnChar, Bool.or_eq_true, Bool.and_eq_true] at h ⊢
    exact h.imp_right fun hdash => ⟨hdash.1, rfl⟩
  rw [isPlain, hblank hmember]
  simp [hascii]

namespace IsRun

variable {word : List Char}

/-- Plain words are ASCII. -/
theorem isAscii (h : IsRun isPlain word) : IsAscii word := by
  intro c hc
  have hplain := h.2 c hc
  rw [isPlain, Bool.and_eq_true, decide_eq_true_eq] at hplain
  exact hplain.1

/-- Plain words have no blanks. -/
theorem isBlank_eq_false (h : IsRun isPlain word) : ∀ c ∈ word, isBlank c = false := by
  intro c hc
  have hplain := h.2 c hc
  rw [isPlain, Bool.and_eq_true, Bool.not_eq_true'] at hplain
  exact hplain.2

/-- Plain words have no spaces. -/
theorem plain_space_not_mem (h : IsRun isPlain word) : ' ' ∉ word := by
  intro hmem
  have hblank := h.isBlank_eq_false ' ' hmem
  rw [isBlank_space] at hblank
  cases hblank

/-- The column of a clause is plain. -/
theorem plain {shape : Shape} (h : IsRun shape.isColumnChar word) : IsRun isPlain word :=
  ⟨h.1, fun c hc => Shape.isPlain_of_isColumnChar (h.2 c hc)⟩

end IsRun

/-- The word `and` is plain. -/
theorem IsAndWord.plain {word : List Char} (h : IsAndWord word) : IsRun isPlain word := by
  refine ⟨?_, ?_⟩
  · rintro rfl
    cases h
  · intro c hc
    have hlower : c.toLower ∈ ['a', 'n', 'd'] := by
      rw [← h]
      exact List.mem_map_of_mem hc
    have hascii : IsAscii word := by
      apply isAscii_of_map_toLower
      rw [h]
      decide
    have hblank : isBlank c = false := by
      rw [← isBlank_toLower]
      revert hlower
      generalize c.toLower = l
      simp only [List.mem_cons, List.not_mem_nil, or_false]
      rintro (rfl | rfl | rfl) <;> decide
    simp [isPlain, hascii c hc, hblank]

/-! ### Words of lowercased texts -/

/-- The first word of a lowercased text is the lowercase of its first word. -/
theorem wordChars_lowerFrom {word : List Char} (h : IsRun isPlain word) (before rest : List Char) :
    ∃ before', wordChars (lowerFrom before (word ++ ' ' :: rest)) =
      word.map Char.toLower :: wordChars (lowerFrom before' rest) := by
  refine ⟨' ' :: (word.reverse ++ before), ?_⟩
  have hspace : IsAscii [' '] := by
    intro c hc
    rw [List.mem_singleton.mp hc]
    decide
  have hlower : ∀ c ∈ word.map Char.toLower, isBlank c = false := by
    intro c hc
    obtain ⟨d, hd, rfl⟩ := List.mem_map.mp hc
    rw [isBlank_toLower, h.isBlank_eq_false d hd]
  have hone := lowerFrom_ascii hspace (word.reverse ++ before) rest
  rw [List.singleton_append] at hone
  rw [lowerFrom_ascii h.isAscii, hone]
  exact wordChars_append (by simpa using h.1) hlower isBlank_space _

/-- Spaces in front change no word of a lowercased text. -/
theorem wordChars_lowerFrom_spaces (spaces : Nat) (before rest : List Char) :
    ∃ before', wordChars (lowerFrom before (List.replicate spaces ' ' ++ rest)) =
      wordChars (lowerFrom before' rest) := by
  induction spaces generalizing before with
  | zero => exact ⟨before, rfl⟩
  | succ spaces ih =>
    obtain ⟨before', h⟩ := ih (' ' :: before)
    refine ⟨before', ?_⟩
    have hspace : lowerChar ' ' = [' '] := lowerChar_of_ascii (by decide)
    rw [List.replicate_succ, List.cons_append, lowerFrom, if_neg (by decide), hspace,
      List.singleton_append, wordChars_cons_blank isBlank_space, h]

/-- The word `and` is told by its lower case. -/
theorem isAndWord_iff {word : List Char} :
    IsAndWord word ↔ String.ofList (word.map Char.toLower) = conjunctionWord := by
  rw [IsAndWord, ← String.toList_inj, String.toList_ofList]
  rfl

namespace Fragment

variable {fragment col : String} {word rest : List Char}

/-- A fragment of three words has a column. -/
theorem exists_column {second third : List Char} (hword : IsRun isPlain word)
    (hsecond : IsRun isPlain second) (hthird : IsRun isPlain third)
    (htext : fragment.toList = word ++ ' ' :: (second ++ ' ' :: (third ++ ' ' :: rest))) :
    ∃ col, column fragment = .ok col := by
  obtain ⟨before, hwords⟩ := wordChars_lowerFrom hword [] (second ++ ' ' :: (third ++ ' ' :: rest))
  obtain ⟨before', hwords'⟩ := wordChars_lowerFrom hsecond before (third ++ ' ' :: rest)
  obtain ⟨before'', hwords''⟩ := wordChars_lowerFrom hthird before' rest
  rw [column, words, lowercase, String.toList_ofList, htext, hwords, hwords', hwords'']
  exact ⟨_, rfl⟩

/-- The column of a fragment that starts with another word than `and` is that word. -/
theorem column_of_first_word (hword : IsRun isPlain word) (hand : ¬ IsAndWord word)
    (htext : fragment.toList = word ++ ' ' :: rest) (hcol : column fragment = .ok col) :
    col = String.ofList (word.map Char.toLower) := by
  obtain ⟨before, hwords⟩ := wordChars_lowerFrom hword [] rest
  rw [column, words, lowercase, String.toList_ofList, htext, hwords, List.map_cons] at hcol
  split at hcol
  · next first second third more heq =>
    obtain ⟨rfl, -⟩ := List.cons.inj heq
    rw [if_neg (isAndWord_iff.not.mp hand)] at hcol
    exact (Except.ok.inj hcol).symm
  · cases hcol

/-- The column of a fragment that starts with a conjunction is the word after it. -/
theorem column_after_conjunction {lead : List Char} (hlead : IsConjunction lead)
    (hword : IsRun isPlain word) (htext : fragment.toList = lead ++ (word ++ ' ' :: rest))
    (hcol : column fragment = .ok col) : col = String.ofList (word.map Char.toLower) := by
  obtain ⟨conj, spaces, hconj, rfl⟩ := hlead
  rw [List.replicate_succ, List.append_assoc, List.cons_append] at htext
  obtain ⟨before, hfirst⟩ := wordChars_lowerFrom hconj.plain []
    (List.replicate spaces ' ' ++ (word ++ ' ' :: rest))
  obtain ⟨before', hspaces⟩ := wordChars_lowerFrom_spaces spaces before (word ++ ' ' :: rest)
  obtain ⟨before'', hsecond⟩ := wordChars_lowerFrom hword before' rest
  rw [column, words, lowercase, String.toList_ofList, htext, hfirst, hspaces, hsecond,
    List.map_cons, List.map_cons] at hcol
  split at hcol
  · next first second third more heq =>
    rw [List.cons.injEq, List.cons.injEq] at heq
    obtain ⟨rfl, rfl, -⟩ := heq
    rw [if_pos (isAndWord_iff.mp hconj)] at hcol
    exact (Except.ok.inj hcol).symm
  · cases hcol

end Fragment

/-! ### The fragment of a clause -/

namespace Clause

/-- The conjunction as the fragment of the clause writes it. -/
def writtenLead (clause : Clause) : String :=
  if clause.operator.isTextSearch then if clause.conjunction then "AND " else "" else clause.lead

/-- The column as the fragment of the clause writes it. -/
def writtenColumn (clause : Clause) : String :=
  if clause.operator.isTextSearch then Fragment.searchColumn clause.column else clause.column

/-- The operand as the fragment of the clause writes it. -/
def writtenOperand (clause : Clause) : String :=
  if clause.operator.isTextSearch then
    "'%" ++ String.ofList (Fragment.unquote (trimChars clause.operand.toList)) ++ "%'"
  else clause.operand

/-- What is written for the clause: its parts in order, with a space after each. -/
def written (clause : Clause) : String :=
  clause.writtenLead ++ clause.writtenColumn ++ " " ++ clause.operator.symbol ++ " " ++
    clause.writtenOperand ++ " "

/-- The parts of a written clause, with one space after each. -/
theorem toList_written (clause : Clause) :
    clause.written.toList = clause.writtenLead.toList ++ (clause.writtenColumn.toList ++
      ' ' :: (clause.operator.symbol.toList ++ ' ' :: (clause.writtenOperand.toList ++ [' ']))) := by
  have hspace : " ".toList = [' '] := by decide
  simp [written, hspace]

/-- The text search has nothing to search for. -/
def searchesBlank (clause : Clause) : Bool :=
  clause.operator.isTextSearch && (trimChars clause.operand.toList).isEmpty

end Clause

namespace Fragment

variable {clause : Clause}

/-- The fragment of a clause is what is written for it, unless it searches for nothing. -/
theorem ofClause_eq (clause : Clause) : ofClause clause =
    if clause.searchesBlank then .error (.malformedClause clause.text) else .ok clause.written := by
  unfold ofClause Clause.searchesBlank
  cases hsearch : clause.operator.isTextSearch with
  | true =>
    rw [if_pos rfl, Bool.true_and, ofTextSearch]
    have hquote : " '%" = " " ++ "'%" := rfl
    have hclose : "%' " = "%'" ++ " " := rfl
    simp only [Clause.written, Clause.writtenLead, Clause.writtenColumn, Clause.writtenOperand,
      hsearch, if_pos, hquote, hclose, String.append_assoc]
  | false =>
    simp [Clause.written, Clause.writtenLead, Clause.writtenColumn, Clause.writtenOperand, hsearch,
      Phrase.withKeyword]

/-- A clause that gives a fragment gives the written one. -/
theorem eq_written_of_ofClause {fragment : String} (h : ofClause clause = .ok fragment) :
    fragment = clause.written := by
  rw [ofClause_eq] at h
  split at h
  · cases h
  · exact (Except.ok.inj h).symm

/-- The parts of the fragment of a clause. -/
theorem ofClause_parts {fragment : String} (h : ofClause clause = .ok fragment) :
    fragment.toList = clause.writtenLead.toList ++ (clause.writtenColumn.toList ++
      ' ' :: (clause.operator.symbol.toList ++ ' ' :: (clause.writtenOperand.toList ++ [' ']))) := by
  rw [eq_written_of_ofClause h, Clause.toList_written]

end Fragment

end LogFilter
