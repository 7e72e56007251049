import LogFilter.Fragment
import LogFilter.Proofs.Query.Tiling
import LogFilter.Proofs.Text.Words
import Mathlib.Data.List.Forall2

/-!
# Canonical queries

A canonical query joins clauses by `and`, with one space between all words. Only its last clause may
be a membership or a text search, since their operands run on over spaces. Operators, column names
and fragments are spelled out here as the language has them: a canonical query is read as exactly
the clauses it was written from, and each of them gives the fragment with the listed symbol.
-/

namespace LogFilter

open Text

/-- The operators of the language: the keyword that names each in a query, the shape of its clauses,
and the symbol that takes the place of the keyword in a predicate. -/
inductive Operator.Listed : Operator → String → Shape → String → Prop
  | lt : Listed .lt "lt" .comparison "<"
  | gt : Listed .gt "gt" .comparison ">"
  | lte : Listed .lte "lte" .comparison "<="
  | gte : Listed .gte "gte" .comparison ">="
  | isIn : Listed .isIn "in" .membership "IN"
  | notIn : Listed .notIn "nin" .membership "NOT IN"
  | contains : Listed .contains "contains" .textSearch "ILIKE"
  | lacks : Listed .lacks "ncontains" .textSearch "NOT ILIKE"

/-- The operator has the listed keyword, shape and symbol. -/
theorem Operator.Listed.eq {op : Operator} {word symbol : String} {shape : Shape}
    (h : op.Listed word shape symbol) :
    op.keyword = word ∧ op.shape = shape ∧ op.symbol = symbol := by
  cases h <;> exact ⟨rfl, rfl, rfl⟩

/-- A character of any column name. -/
def IsColumnNameChar (c : Char) : Prop :=
  'A' ≤ c ∧ c ≤ 'Z' ∨ 'a' ≤ c ∧ c ≤ 'z' ∨ '0' ≤ c ∧ c ≤ '9' ∨ c = '_' ∨ c = '.'

instance : DecidablePred IsColumnNameChar := fun _ => inferInstanceAs (Decidable (_ ∨ _))

/-- Column names have these characters, and in a membership also hyphens. -/
theorem Shape.isColumnChar_of_isColumnNameChar {shape : Shape} {c : Char}
    (h : IsColumnNameChar c ∨ shape = .membership ∧ c = '-') : shape.isColumnChar c = true := by
  unfold isColumnChar Char.isAlphanum Char.isAlpha Char.isUpper Char.isLower Char.isDigit
  simp only [Bool.or_eq_true, Bool.and_eq_true, decide_eq_true_eq, beq_iff_eq]
  rcases h with (h | h | h | h | h) | ⟨rfl, h⟩
  · exact .inl (.inl (.inl (.inl (.inl h))))
  · exact .inl (.inl (.inl (.inl (.inr h))))
  · exact .inl (.inl (.inl (.inr h)))
  · exact .inl (.inl (.inr h))
  · exact .inl (.inr h)
  · exact .inr ⟨h, rfl⟩

namespace Fragment

/-- `core` is what is left of a text once a quote at its start is cut off, and then a quote at its
end. -/
def IsUnquoted (cs core : List Char) : Prop :=
  ∃ opening closing, cs = opening ++ core ++ closing ∧
    (opening = ['\''] ∨ opening = [] ∧ cs.head? ≠ some '\'') ∧
    (closing = ['\''] ∨ closing = [] ∧ core.getLast? ≠ some '\'')

private def cutClosing (cs : List Char) : List Char :=
  if cs.getLast? = some '\'' then cs.dropLast else cs

private theorem cutClosing_eq_iff {cs core : List Char} :
    cutClosing cs = core ↔ ∃ closing, cs = core ++ closing ∧
      (closing = ['\''] ∨ closing = [] ∧ core.getLast? ≠ some '\'') := by
  constructor
  · rintro rfl
    by_cases hlast : cs.getLast? = some '\''
    · obtain ⟨init, rfl⟩ := List.getLast?_eq_some_iff.mp hlast
      rw [cutClosing, if_pos hlast, List.dropLast_concat]
      exact ⟨['\''], rfl, .inl rfl⟩
    · rw [cutClosing, if_neg hlast]
      exact ⟨[], (List.append_nil cs).symm, .inr ⟨rfl, hlast⟩⟩
  · rintro ⟨closing, rfl, rfl | ⟨rfl, hlast⟩⟩
    · rw [cutClosing, if_pos List.getLast?_concat, List.dropLast_concat]
    · rw [List.append_nil, cutClosing, if_neg hlast]

private theorem unquote_of_head?_ne {cs : List Char} (h : cs.head? ≠ some '\'') :
    unquote cs = cutClosing cs := by
  have hstart (rest : List Char) : cs ≠ '\'' :: rest := by
    rintro rfl
    exact h rfl
  simp only [unquote, cutClosing]

/-- Cutting off the quotes is described by what is cut off and what is left. -/
theorem unquote_eq_iff {cs core : List Char} : unquote cs = core ↔ IsUnquoted cs core := by
  constructor
  · intro h
    by_cases hquote : cs.head? = some '\''
    · obtain ⟨rest, rfl⟩ := List.head?_eq_some_iff.mp hquote
      obtain ⟨closing, rfl, hclosing⟩ := cutClosing_eq_iff.mp h
      exact ⟨['\''], closing, rfl, .inl rfl, hclosing⟩
    · rw [unquote_of_head?_ne hquote] at h
      obtain ⟨closing, hcs, hclosing⟩ := cutClosing_eq_iff.mp h
      exact ⟨[], closing, hcs, .inr ⟨rfl, hquote⟩, hclosing⟩
  · rintro ⟨opening, closing, hcs, rfl | ⟨rfl, hquote⟩, hclosing⟩
    · rw [hcs]
      exact cutClosing_eq_iff.mpr ⟨closing, rfl, hclosing⟩
    · rw [unquote_of_head?_ne hquote]
      exact cutClosing_eq_iff.mpr ⟨closing, hcs, hclosing⟩

/-- A text search for `operand` looks for `pattern`: the blanks around the operand are cut off, and
then the quotes. -/
def SearchesFor (operand pattern : String) : Prop :=
  ∃ core, IsTrimmed operand.toList core ∧ IsUnquoted core pattern.toList

/-- The pattern is what cutting off blanks and quotes leaves. -/
theorem searchesFor_iff {operand pattern : String} :
    SearchesFor operand pattern ↔
      String.ofList (unquote (trimChars operand.toList)) = pattern := by
  rw [← String.toList_inj, String.toList_ofList, unquote_eq_iff]
  constructor
  · rintro ⟨core, htrim, hcore⟩
    rwa [trimChars_eq_iff.mpr htrim]
  · intro h
    exact ⟨trimChars operand.toList, trimChars_eq_iff.mp rfl, h⟩

/-- One quote is cut off at each end; blanks inside the quotes stay. -/
example : SearchesFor " ''a b' ' " "'a b' " := searchesFor_iff.mpr (by decide)

end Fragment

/-- A clause of a canonical query. -/
structure CanonicalClause where
  operator : Operator
  shape : Shape
  symbol : String
  column : String
  /-- The keyword, its letters in any case. -/
  keyword : String
  operand : String
  listed : operator.Listed (String.ofList (keyword.toList.map Char.toLower)) shape symbol
  column_ne : column ≠ ""
  column_chars : ∀ c ∈ column.toList, IsColumnNameChar c ∨ shape = .membership ∧ c = '-'
  operand_form : shape.IsOperand operand.toList
  operand_visible : ∃ c ∈ operand.toList, c ≠ ' '

namespace CanonicalClause

/-- The words of the clause, with one space between them. -/
def text (c : CanonicalClause) : String := c.column ++ " " ++ c.keyword ++ " " ++ c.operand

/-- The clause as it is read after a conjunction, or after nothing. -/
def clause (c : CanonicalClause) (lead : String) : Clause where
  lead
  shape := c.shape
  column := c.column
  keyword := c.keyword
  operand := c.operand
  operator := c.operator

/-- The column that a text search looks in. -/
def target (c : CanonicalClause) : String :=
  let name := String.ofList (c.column.toList.map Char.toLower)
  if name = "fulltext" then "body" else name

/-- The text is the fragment of the clause, first in its query or later. A text search is written
anew; otherwise only the keyword changes. -/
def HasFragment (c : CanonicalClause) (later : Bool) (text : String) : Prop :=
  if c.shape = .textSearch then
    ∃ pattern, Fragment.SearchesFor c.operand pattern ∧
      text = (if later then "AND " else "") ++ c.target ++ " " ++ c.symbol ++
        " '%" ++ pattern ++ "%' "
  else
    text = (if later then "and " else "") ++ c.column ++ " " ++ c.symbol ++ " " ++ c.operand ++ " "

end CanonicalClause

/-- Clauses that a canonical query can join. -/
structure CanonicalQuery where
  first : CanonicalClause
  later : List CanonicalClause
  comparisons : ∀ c ∈ (first :: later).dropLast, c.shape = .comparison
  first_column : ¬ IsAndWord first.column.toList

namespace CanonicalQuery

/-- The query: the first clause, and every later one after `and`. -/
def text (q : CanonicalQuery) : String :=
  q.first.text ++ String.join (q.later.map fun c => " and " ++ c.text)

/-- The clauses as they are read. -/
def clauses (q : CanonicalQuery) : List Clause :=
  q.first.clause "" :: q.later.map (·.clause "and ")

/-- The texts are the fragments of the clauses, one for each and in order. -/
def HasFragments (q : CanonicalQuery) (texts : List String) : Prop :=
  ∃ first later, texts = first :: later ∧ q.first.HasFragment false first ∧
    List.Forall₂ (fun c text => c.HasFragment true text) q.later later

end CanonicalQuery

/-! ### Reading -/

private theorem isConjunction_and : IsConjunction "and ".toList :=
  ⟨['a', 'n', 'd'], 0, by decide, by decide⟩

namespace CanonicalClause

private theorem isRun_column (c : CanonicalClause) :
    IsRun c.shape.isColumnChar c.column.toList := by
  refine ⟨?_, fun x hx => Shape.isColumnChar_of_isColumnNameChar (c.column_chars x hx)⟩
  rw [Ne, String.toList_eq_nil_iff]
  exact c.column_ne

private theorem map_toLower_keyword (c : CanonicalClause) :
    c.keyword.toList.map Char.toLower = c.operator.keyword.toList := by
  rw [c.listed.eq.1, String.toList_ofList]

/-- The clause is well formed, alone or after `and`. -/
theorem wellFormed (c : CanonicalClause) {lead : String} (h : lead = "" ∨ lead = "and ") :
    (c.clause lead).WellFormed where
  lead := by
    rcases h with rfl | rfl
    · exact .inl rfl
    · exact .inr isConjunction_and
  column := c.isRun_column
  keyword := by
    have hascii : IsAscii c.keyword.toList := by
      apply isAscii_of_map_toLower
      rw [c.map_toLower_keyword]
      exact c.operator.isAscii_keyword
    rw [Shape.spells_iff]
    exact ⟨c.operator, c.listed.eq.2.1,
      (map_foldLetter hascii.longS_not_mem).trans c.map_toLower_keyword⟩
  operand := c.operand_form

/-- The operand is the longest at the end of a text, and that of a comparison also before a space.
-/
theorem longest_operand (c : CanonicalClause) {rest : List Char}
    (h : rest = [] ∨ c.shape = .comparison ∧ rest.head? = some ' ') :
    Longest c.shape.IsOperand (c.operand.toList ++ rest) c.operand.toList rest := by
  have hform := c.operand_form
  rcases h with rfl | ⟨hshape, hrest⟩
  · rw [List.append_nil]
    exact .whole hform
  · rw [hshape] at hform ⊢
    apply IsRun.longest hform
    intro x hx
    rw [hrest, Option.mem_some] at hx
    rw [← hx, isBlank_space]
    rfl

/-- The clause is read back before what may follow it. -/
theorem reads (c : CanonicalClause) {lead : String} {rest : List Char}
    (hlead : lead = "and " ∨ lead = "" ∧ ¬ IsAndWord c.column.toList)
    (hrest : rest = [] ∨ c.shape = .comparison ∧ rest.head? = some ' ') :
    Phrase.Reads ((c.clause lead).text.toList ++ rest) (c.clause lead).toPhrase rest := by
  apply Phrase.reads_of_atHead?
  apply Phrase.atHead?_text (c.wellFormed (hlead.symm.imp_left And.left)) (c.longest_operand hrest)
  rcases hlead with rfl | ⟨rfl, hcol⟩
  · exact .inl rfl
  · exact .inr hcol

/-- The text of the clause as it is read. -/
theorem text_clause (c : CanonicalClause) (lead : String) :
    (c.clause lead).text = lead ++ c.text := by
  simp [Phrase.text, Phrase.withKeyword, clause, text, String.append_assoc]

end CanonicalClause

/-- No clause starts with a space. -/
theorem not_clauseAt_space (cs : List Char) : ¬ ClauseAt (' ' :: cs) 0 := by
  rintro ⟨clause, ⟨p, hp, rfl⟩, tail, htext⟩
  rw [List.drop_zero, Phrase.toList_text, List.append_assoc] at htext
  rcases hp.lead with hlead | ⟨word, spaces, hword, hlead⟩
  · apply hp.head?_body tail
    rw [hlead, String.toList_empty, List.nil_append] at htext
    rw [htext, List.head?_cons]
  · obtain ⟨a, n, d, rfl⟩ := hword.eq_letters
    rw [hlead] at htext
    have ha : a = ' ' := (List.cons.inj htext).1
    exact hword.space_not_mem (by simp [ha])

/-- The text of later clauses, each after a space and `and`. -/
def laterText (later : List CanonicalClause) : List Char :=
  later.flatMap fun c => ' ' :: (c.clause "and ").text.toList

/-- What follows a clause that is not the last starts with a space. -/
theorem laterText_head {later : List CanonicalClause} {c : CanonicalClause}
    (h : ∀ d ∈ (c :: later).dropLast, d.shape = .comparison) :
    laterText later = [] ∨
      c.shape = .comparison ∧ (laterText later).head? = some ' ' := by
  cases later with
  | nil => exact .inl rfl
  | cons d later => exact .inr ⟨h c (by simp), rfl⟩

private theorem mem_dropLast_cons {c d : CanonicalClause} {later : List CanonicalClause}
    (h : d ∈ later.dropLast) : d ∈ (c :: later).dropLast := by
  cases later with
  | nil => cases h
  | cons e later => exact List.mem_cons_of_mem c h

/-- Later clauses are tiled with single spaces as gaps. -/
theorem tiling_laterText {later : List CanonicalClause}
    (h : ∀ c ∈ later.dropLast, c.shape = .comparison) :
    Tiling (laterText later) (later.map fun c => ⟨[' '], (c.clause "and ").toPhrase⟩) [] := by
  induction later with
  | nil => exact .stop not_clauseAt_nil
  | cons c later ih =>
    have hmore := ih fun d hd => h d (mem_dropLast_cons hd)
    refine .step rfl ?_ (c.reads (.inl rfl) (laterText_head h)) hmore
    · intro i hi
      obtain rfl : i = 0 := by simpa using hi
      exact not_clauseAt_space _

namespace CanonicalQuery

/-- A canonical query is tiled by its clauses, with single spaces between them. -/
theorem tiling (q : CanonicalQuery) :
    Tiling q.text.toList (⟨[], (q.first.clause "").toPhrase⟩ ::
      q.later.map fun c => ⟨[' '], (c.clause "and ").toPhrase⟩) [] := by
  have hlater := tiling_laterText fun c hc => q.comparisons c (mem_dropLast_cons hc)
  have hreads := q.first.reads (.inr ⟨rfl, q.first_column⟩) (laterText_head q.comparisons)
  refine .step ?_ (by simp) hreads hlater
  rw [CanonicalClause.text_clause, text, laterText, String.toList_append, String.toList_join,
    List.flatMap_map, String.toList_append, String.toList_empty, List.nil_append, List.nil_append]
  congr 2
  funext c
  rw [CanonicalClause.text_clause, String.toList_append, String.toList_append]
  rfl

/-- A canonical query is read as its clauses. -/
theorem scan_text (q : CanonicalQuery) : Clause.scan q.text = .ok q.clauses := by
  rw [Clause.scan_eq_ok_iff q.tiling, Clause.mapM_ofPhrase_eq_ok_iff]
  refine ⟨⟨?_, ?_⟩, .inr ?_⟩
  · simp [clauses]
  · intro clause hclause
    obtain ⟨c, lead, rfl⟩ : ∃ (c : CanonicalClause) (lead : String), clause = c.clause lead := by
      rcases List.mem_cons.mp hclause with rfl | hclause
      · exact ⟨q.first, "", rfl⟩
      · obtain ⟨c, -, rfl⟩ := List.mem_map.mp hclause
        exact ⟨c, "and ", rfl⟩
    exact Operator.ofKeyword?_eq_some_iff.mpr c.map_toLower_keyword
  · intro gap hgap x hx
    have hspace : gap = [] ∨ gap = [' '] := by
      simp only [gaps, List.map_cons, List.map_map, List.cons_append, List.mem_cons,
        List.mem_append, List.mem_map, List.not_mem_nil, or_false] at hgap
      rcases hgap with rfl | ⟨c, -, rfl⟩ | rfl
      · exact .inl rfl
      · exact .inr rfl
      · exact .inl rfl
    rcases hspace with rfl | rfl
    · cases hx
    · rw [List.mem_singleton.mp hx, isBlank_space]

end CanonicalQuery

/-! ### Fragments -/

namespace CanonicalClause

/-- The column of a text search is lowercased letter by letter. -/
theorem searchColumn_eq (c : CanonicalClause) : Fragment.searchColumn c.column = c.target := by
  have hascii : IsAscii c.column.toList :=
    fun x hx => Shape.toNat_lt_of_isColumnChar (c.isRun_column.2 x hx)
  rw [Fragment.searchColumn, lowercase_ascii hascii]
  rfl

/-- The operand of a text search is not blank. -/
theorem trimChars_operand_ne_nil (c : CanonicalClause) (h : c.shape = .textSearch) :
    trimChars c.operand.toList ≠ [] := by
  have hform := c.operand_form
  obtain ⟨x, hx, hne⟩ := c.operand_visible
  rw [h] at hform
  have hinline := hform.2 x hx
  rw [Ne, trimChars_eq_nil_iff]
  intro hblank
  rw [isInline, hblank x hx, Bool.or_eq_true, beq_iff_eq] at hinline
  rcases hinline with hinline | hinline
  · exact hne hinline
  · cases hinline

private theorem ofClause_of_textSearch (c : CanonicalClause) (h : c.shape = .textSearch)
    (later : Bool) :
    Fragment.ofClause (c.clause (if later then "and " else "")) =
      .ok ((if later then "AND " else "") ++ c.target ++ " " ++ c.symbol ++ " '%" ++
        String.ofList (Fragment.unquote (trimChars c.operand.toList)) ++ "%' ") := by
  obtain ⟨-, hshape, hsymbol⟩ := c.listed.eq
  have hsearch : c.operator.isTextSearch = true := by
    rw [Operator.isTextSearch, hshape, h, beq_self_eq_true]
  have htrim := List.isEmpty_eq_false_iff.mpr (c.trimChars_operand_ne_nil h)
  simp only [Fragment.ofClause, Fragment.ofTextSearch, clause, hsearch, if_true, htrim,
    c.searchColumn_eq, hsymbol, Bool.false_eq_true, if_false]
  cases later <;> rfl

private theorem ofClause_of_ne_textSearch (c : CanonicalClause) (h : c.shape ≠ .textSearch)
    (lead : String) :
    Fragment.ofClause (c.clause lead) =
      .ok (lead ++ c.column ++ " " ++ c.symbol ++ " " ++ c.operand ++ " ") := by
  obtain ⟨-, hshape, hsymbol⟩ := c.listed.eq
  have hsearch : c.operator.isTextSearch = false := by
    rwa [Operator.isTextSearch, hshape, beq_eq_false_iff_ne]
  simp only [Fragment.ofClause, clause, hsearch, hsymbol, Phrase.withKeyword, Bool.false_eq_true,
    if_false]

/-- A clause is translated into exactly the fragment that it has. -/
theorem ofClause_eq_ok_iff (c : CanonicalClause) (later : Bool) (text : String) :
    Fragment.ofClause (c.clause (if later then "and " else "")) = .ok text ↔
      c.HasFragment later text := by
  unfold HasFragment
  by_cases h : c.shape = .textSearch
  · rw [c.ofClause_of_textSearch h, if_pos h, Except.ok.injEq]
    simp only [Fragment.searchesFor_iff, exists_eq_left']
    exact eq_comm
  · rw [c.ofClause_of_ne_textSearch h, if_neg h, Except.ok.injEq, eq_comm]

private theorem exists_ofClause (c : CanonicalClause) (later : Bool) :
    ∃ text, Fragment.ofClause (c.clause (if later then "and " else "")) = .ok text := by
  by_cases h : c.shape = .textSearch
  · exact ⟨_, c.ofClause_of_textSearch h later⟩
  · exact ⟨_, c.ofClause_of_ne_textSearch h _⟩

end CanonicalClause

namespace CanonicalQuery

/-- A canonical query is translated. -/
theorem exists_ofQuery (q : CanonicalQuery) :
    ∃ fragments, Fragment.ofQuery q.text = .ok fragments := by
  rw [Fragment.ofQuery_of_clauses q.scan_text (by simp [clauses])]
  apply exists_mapM
  intro clause hclause
  rcases List.mem_cons.mp hclause with rfl | hclause
  · exact q.first.exists_ofClause false
  · obtain ⟨c, -, rfl⟩ := List.mem_map.mp hclause
    exact c.exists_ofClause true

/-- The fragments of a canonical query are exactly those of its clauses. -/
theorem ofQuery_eq_ok_iff (q : CanonicalQuery) (fragments : List String) :
    Fragment.ofQuery q.text = .ok fragments ↔ q.HasFragments fragments := by
  have hfirst (text : String) := q.first.ofClause_eq_ok_iff false text
  have hlater (c : CanonicalClause) (text : String) := c.ofClause_eq_ok_iff true text
  have hforall {later : List String} :
      (q.later.map (·.clause "and ")).mapM Fragment.ofClause = .ok later ↔
        List.Forall₂ (fun c text => c.HasFragment true text) q.later later := by
    rw [mapM_eq_ok_iff, ← List.forall₂_eq_eq_eq, List.forall₂_map_left_iff,
      List.forall₂_map_left_iff, List.forall₂_map_right_iff]
    simp only [← hlater, if_true]
  rw [Fragment.ofQuery_of_clauses q.scan_text (by simp [clauses]), clauses, mapM_cons_eq_ok_iff]
  simp only [hforall]
  constructor
  · rintro ⟨first, later, hone, hmore, rfl⟩
    exact ⟨first, later, rfl, (hfirst first).mp hone, hmore⟩
  · rintro ⟨first, later, rfl, hone, hmore⟩
    exact ⟨first, later, (hfirst first).mpr hone, hmore, rfl⟩

end CanonicalQuery

/-- A canonical query is read as exactly the clauses it was written from, in order and with all
their parts. It is translated into exactly one fragment for each clause, with the listed symbol in the
place of the keyword; a text search is written anew, around what its operand searches for. -/
theorem CanonicalQuery.lossless (q : CanonicalQuery) :
    Clause.scan q.text = .ok q.clauses ∧
      (∃ fragments, Fragment.ofQuery q.text = .ok fragments) ∧
      ∀ fragments, Fragment.ofQuery q.text = .ok fragments ↔ q.HasFragments fragments :=
  ⟨q.scan_text, q.exists_ofQuery, q.ofQuery_eq_ok_iff⟩

/-- A comparison and a membership, with a keyword in mixed case and an operand that holds a space. -/
example : ∃ q : CanonicalQuery, q.text = "status Gte and and host nin (a, b)" := by
  have hchars {shape : Shape} {column : String}
      (h : (column.toList.all fun c => decide (IsColumnNameChar c)) = true) :
      ∀ c ∈ column.toList, IsColumnNameChar c ∨ shape = .membership ∧ c = '-' :=
    fun c hc => .inl (of_decide_eq_true (List.all_eq_true.mp h c hc))
  let status : CanonicalClause := {
    operator := .gte, shape := .comparison, symbol := ">="
    column := "status", keyword := "Gte", operand := "and"
    listed := .gte
    column_ne := by decide
    column_chars := hchars (by decide)
    operand_form := by
      change IsRun (fun c => !isBlank c) "and".toList
      decide
    operand_visible := ⟨'a', by decide, by decide⟩ }
  let host : CanonicalClause := {
    operator := .notIn, shape := .membership, symbol := "NOT IN"
    column := "host", keyword := "nin", operand := "(a, b)"
    listed := .notIn
    column_ne := by decide
    column_chars := hchars (by decide)
    operand_form := ⟨"a, b".toList, by decide, by decide⟩
    operand_visible := ⟨'(', by decide, by decide⟩ }
  have hcomparisons : ∀ c ∈ [status, host].dropLast, c.shape = .comparison := by
    intro c hc
    rw [List.mem_singleton.mp hc]
  have hfirst : ¬ IsAndWord "status".toList := by decide
  exact ⟨⟨status, [host], hcomparisons, hfirst⟩, rfl⟩

end LogFilter
