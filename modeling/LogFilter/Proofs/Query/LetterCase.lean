import LogFilter.Proofs.Fragment.ColumnName
import LogFilter.Proofs.Phrase.LetterCase
import LogFilter.Proofs.Query.Placement
import Mathlib.Data.List.Forall2

/-!
# Queries and the case of letters

Two queries that differ only in the case of ASCII letters have their clauses at the same places, and
are read alike or refused for the same kind of reason. Keywords may be written in any case without an
effect on the fragments, and so may the conjunctions and columns of text searches.
-/

namespace LogFilter

open Text

/-! ### Results of one kind -/

/-- Two results of one kind: values that are related, or errors with the same code. -/
def Alike {α β : Type} (R : α → β → Prop) : Except QueryError α → Except QueryError β → Prop
  | .ok a, .ok b => R a b
  | .error e, .error e' => e.code = e'.code
  | _, _ => False

/-- Alike results are both there and related, or both errors with the same code. -/
theorem alike_iff {α β : Type} {R : α → β → Prop} {x : Except QueryError α}
    {y : Except QueryError β} :
    Alike R x y ↔ (∃ a b, x = .ok a ∧ y = .ok b ∧ R a b) ∨
      ∃ e e', x = .error e ∧ y = .error e' ∧ e.code = e'.code := by
  cases x <;> cases y <;> simp [Alike]

private theorem Alike.refl {α : Type} {R : α → α → Prop} (hR : ∀ a, R a a)
    (x : Except QueryError α) :
    Alike R x x := by
  cases x with
  | ok a => exact hR a
  | error e => exact rfl

/-- Traversals of lists that give results of one kind, member by member, are of one kind. -/
theorem mapM_alike {α α' β β' : Type} {f : α → Except QueryError β} {g : α' → Except QueryError β'}
    {R : β → β' → Prop} {as : List α} {as' : List α'}
    (h : List.Forall₂ (fun a a' => Alike R (f a) (g a')) as as') :
    Alike (List.Forall₂ R) (as.mapM f) (as'.mapM g) := by
  induction h with
  | nil => exact List.Forall₂.nil
  | @cons a a' as as' hhead _ ih =>
    rw [mapM_cons_eq, mapM_cons_eq]
    rcases alike_iff.mp hhead with ⟨b, b', ha, ha', hb⟩ | ⟨e, e', ha, ha', he⟩
    · rw [ha, ha']
      rcases alike_iff.mp ih with ⟨bs, bs', has, has', hbs⟩ | ⟨e, e', has, has', he⟩
      · rw [has, has']
        exact List.Forall₂.cons hb hbs
      · rw [has, has']
        exact he
    · rw [ha, ha']
      exact he

/-! ### Pieces and places -/

namespace Piece

/-- The piece with all its ASCII letters in lower case. -/
def lower : Piece → Piece
  | gap c => gap c.toLower
  | phrase p => phrase p.lower

/-- A lowercased text is cut into the lowercased pieces of the text. -/
theorem split_map_toLower (cs : List Char) :
    split (cs.map Char.toLower) = (split cs).map lower := by
  induction cs using split.induct with
  | case1 => rw [List.map_nil, split, List.map_nil]
  | case2 c cs p rest h ih =>
    have hlower := Phrase.atHead?_lower_of_some h
    rw [List.map_cons] at hlower ⊢
    rw [split_of_some hlower, split_of_some h, ih]
    rfl
  | case3 c cs h ih =>
    have hlower := Phrase.atHead?_lower_of_none h
    rw [List.map_cons] at hlower ⊢
    rw [split_of_none hlower, split_of_none h, ih]
    rfl

/-- Lowercasing makes no gap blank, and none that is blank into another character. -/
theorem all_isBlank_gaps_lower (pieces : List Piece) :
    ((pieces.map lower).filterMap gap?).all isBlank = (pieces.filterMap gap?).all isBlank := by
  induction pieces with
  | nil => rfl
  | cons piece pieces ih =>
    cases piece with
    | gap c =>
      change (isBlank c.toLower && ((pieces.map lower).filterMap gap?).all isBlank) =
        (isBlank c && (pieces.filterMap gap?).all isBlank)
      rw [isBlank_toLower, ih]
    | phrase p => exact ih

end Piece

/-- The stretches of a query that a phrase and its parts take. -/
structure Layout where
  phrase : Span
  lead : Span
  column : Span
  keyword : Span
  operand : Span
  deriving DecidableEq, Repr

namespace Placement

/-- Where the phrase and its parts stand. -/
def layout (place : Placement) : Layout where
  phrase := place.span
  lead := place.leadSpan
  column := place.columnSpan
  keyword := place.keywordSpan
  operand := place.operandSpan

/-- The position takes either case of a letter without an effect on the fragment of the clause: it lies
in the keyword or, in a text search, in the conjunction or the column. -/
def IgnoresCase (place : Placement) (i : Nat) : Prop :=
  i ∈ place.keywordSpan ∨
    place.phrase.shape = .textSearch ∧ (i ∈ place.leadSpan ∨ i ∈ place.columnSpan)

instance (place : Placement) (i : Nat) : Decidable (place.IgnoresCase i) :=
  inferInstanceAs (Decidable (_ ∨ _ ∧ (_ ∨ _)))

private theorem mem_span_of_ignoresCase (place : Placement) {i : Nat} (h : place.IgnoresCase i) :
    i ∈ place.span := by
  have horder := place.parts_in_order
  simp only [IgnoresCase, Span.mem_iff] at h ⊢
  omega

/-- The case of letters matters in the operand. -/
theorem not_ignoresCase_operand (place : Placement) {i : Nat} (h : i ∈ place.operandSpan) :
    i ∈ place.span ∧ ¬ place.IgnoresCase i := by
  have horder := place.parts_in_order
  simp only [IgnoresCase, Span.mem_iff] at h ⊢
  omega

/-- The case of letters matters in the conjunction and in the column outside text searches. -/
theorem not_ignoresCase_of_shape (place : Placement) {i : Nat}
    (hshape : place.phrase.shape ≠ .textSearch) (h : i ∈ place.leadSpan ∨ i ∈ place.columnSpan) :
    i ∈ place.span ∧ ¬ place.IgnoresCase i := by
  have horder := place.parts_in_order
  simp only [IgnoresCase, Span.mem_iff, hshape, false_and, or_false] at h ⊢
  omega

/-- The phrase in lower case, at the same place. -/
def lower (place : Placement) : Placement := { place with phrase := place.phrase.lower }

/-- A lowercased phrase and its parts stand where they stood. -/
theorem layout_lower (place : Placement) : place.lower.layout = place.layout := by
  have hspan : place.lower.span = place.span :=
    congrArg (Span.mk place.start) (Phrase.length_text_lower place.phrase)
  rw [layout, layout, hspan]
  simp only [lower, leadSpan, columnSpan, keywordSpan, operandSpan, Span.stop, Phrase.lower,
    length_toLower]

end Placement

private theorem Piece.placements_map_lower (start : Nat) (pieces : List Piece) :
    placements start (pieces.map lower) = (placements start pieces).map Placement.lower := by
  induction pieces generalizing start with
  | nil => rfl
  | cons piece pieces ih =>
    cases piece with
    | gap c => exact ih (start + 1)
    | phrase p =>
      change _ :: placements (start + p.lower.text.length) (pieces.map lower) = _
      rw [Phrase.length_text_lower, ih]
      rfl

/-! ### Two queries -/

namespace Clause

variable {q q' : String}

section

variable (h : q.toList.map Char.toLower = q'.toList.map Char.toLower)

include h

private theorem map_lower_split :
    (Piece.split q.toList).map Piece.lower = (Piece.split q'.toList).map Piece.lower := by
  rw [← Piece.split_map_toLower, h, Piece.split_map_toLower]

/-- The phrases of the two queries stand at the same places and are the same in lower case. -/
theorem map_lower_placements :
    (placements q).map Placement.lower = (placements q').map Placement.lower := by
  rw [placements, placements, ← Piece.placements_map_lower, map_lower_split h,
    Piece.placements_map_lower]

/-- Queries that differ only in the case of letters have the same layout. -/
theorem map_layout_placements :
    (placements q).map Placement.layout = (placements q').map Placement.layout := by
  have hlayout := congrArg (List.map Placement.layout) (map_lower_placements h)
  have hsame : Placement.layout ∘ Placement.lower = Placement.layout :=
    funext Placement.layout_lower
  rwa [List.map_map, List.map_map, hsame] at hlayout

private theorem forall₂_lower_placements :
    List.Forall₂ (fun place place' => place.lower = place'.lower) (placements q)
      (placements q') := by
  have heq := map_lower_placements h
  rwa [← List.forall₂_eq_eq_eq, List.forall₂_map_left_iff, List.forall₂_map_right_iff] at heq

end

/-- Phrases that are the same in lower case name the same operator, or none. -/
theorem ofPhrase_alike {S : Phrase → Phrase → Prop} {p p' : Phrase} (hS : S p p')
    (hlower : p.lower = p'.lower) :
    Alike (fun clause clause' => S clause.toPhrase clause'.toPhrase ∧
      Operator.ofKeyword? clause.keyword = some clause.operator ∧
      clause.operator = clause'.operator) (ofPhrase p) (ofPhrase p') := by
  have hkeyword : Operator.ofKeyword? p.keyword = Operator.ofKeyword? p'.keyword := by
    have hletters := congrArg (fun p : Phrase => p.keyword.toList) hlower
    simp only [Phrase.lower, toList_toLower] at hletters
    rw [Operator.ofKeyword?, Operator.ofKeyword?, hletters]
  unfold ofPhrase
  rw [← hkeyword]
  cases hop : Operator.ofKeyword? p.keyword with
  | none => exact rfl
  | some op => exact ⟨hS, hop, rfl⟩

/-- Two queries that differ in the case of letters are read alike: their clauses correspond, with the
same operators. -/
theorem scan_alike {S : Phrase → Phrase → Prop}
    (h : q.toList.map Char.toLower = q'.toList.map Char.toLower)
    (hlower : ∀ p p', S p p' → p.lower = p'.lower)
    (hS : List.Forall₂ S ((placements q).map Placement.phrase)
      ((placements q').map Placement.phrase)) :
    Alike (List.Forall₂ fun clause clause' => S clause.toPhrase clause'.toPhrase ∧
      Operator.ofKeyword? clause.keyword = some clause.operator ∧
      clause.operator = clause'.operator) (scan q) (scan q') := by
  have hmap := mapM_alike (hS.imp fun p p' hp => ofPhrase_alike hp (hlower p p' hp))
  have hgaps : ((Piece.split q.toList).filterMap Piece.gap?).all isBlank =
      ((Piece.split q'.toList).filterMap Piece.gap?).all isBlank := by
    rw [← Piece.all_isBlank_gaps_lower, map_lower_split h, Piece.all_isBlank_gaps_lower]
  rw [placements, placements, Piece.map_phrase_placements, Piece.map_phrase_placements] at hmap
  unfold scan ofPieces
  rw [hgaps]
  rcases alike_iff.mp hmap with ⟨clauses, clauses', hq, hq', hclauses⟩ | ⟨e, e', hq, hq', hcode⟩
  · have hempty : clauses.isEmpty = clauses'.isEmpty := by
      cases hclauses <;> rfl
    rw [hq, hq']
    dsimp only
    rw [hempty]
    split
    · exact hclauses
    · exact rfl
  · rw [hq, hq']
    exact hcode

/-! ### Fragments -/

/-- The two phrases have the same fragment: they differ at most in the case of letters, in the keyword
or, for a text search, in the conjunction and the column. -/
structure SameFragment (p p' : Phrase) : Prop where
  wellFormed : p.WellFormed
  lower : p.lower = p'.lower
  operand : p.operand = p'.operand
  lead : p.shape ≠ .textSearch → p.lead = p'.lead
  column : p.shape ≠ .textSearch → p.column = p'.column

/-- Clauses of such phrases have the same fragment, or both search for nothing. -/
theorem ofClause_alike {clause clause' : Clause}
    (h : SameFragment clause.toPhrase clause'.toPhrase)
    (hop : Operator.ofKeyword? clause.keyword = some clause.operator)
    (hsame : clause.operator = clause'.operator) :
    Alike Eq (Fragment.ofClause clause) (Fragment.ofClause clause') := by
  have hwell' : clause'.WellFormed :=
    Phrase.wellFormed_lower_iff.mp (h.lower ▸ Phrase.wellFormed_lower_iff.mpr h.wellFormed)
  have hshape := Operator.shape_of_ofKeyword? h.wellFormed.keyword hop
  have hconj : clause.conjunction = clause'.conjunction := by
    rw [← Phrase.conjunction_lower, h.lower, Phrase.conjunction_lower]
  have hname : lowercase clause.column = lowercase clause'.column := by
    have hletters := congrArg (fun p : Phrase => p.column.toList) h.lower
    simp only [Phrase.lower, toList_toLower] at hletters
    rw [lowercase_column h.wellFormed, lowercase_column hwell', hletters]
  have hblank : clause.searchesBlank = clause'.searchesBlank := by
    rw [searchesBlank, searchesBlank, hsame, h.operand]
  have hwritten : clause.written = clause'.written := by
    unfold written writtenLead writtenColumn writtenOperand
    rw [← hsame, ← h.operand, ← hconj]
    cases hsearch : clause.operator.isTextSearch with
    | true => simp only [if_true, Fragment.searchColumn, hname]
    | false =>
      have hnot : clause.shape ≠ .textSearch := by
        intro htext
        rw [Operator.isTextSearch, hshape, htext] at hsearch
        cases hsearch
      simp only [Bool.false_eq_true, if_false, h.lead hnot, h.column hnot]
  rw [Fragment.ofClause_eq, Fragment.ofClause_eq, ← hblank, ← hwritten]
  split
  · exact rfl
  · exact rfl

section

variable
  (hcase : ∀ i, q.toList[i]? ≠ q'.toList[i]? → ∃ place ∈ placements q, place.IgnoresCase i)

include hcase

/-- The queries agree on a stretch of a phrase in which the case of letters matters. -/
theorem slice_eq_of_matters {place : Placement} {s : Span} (hplace : place ∈ placements q)
    (hs : ∀ i ∈ s, i ∈ place.span ∧ ¬ place.IgnoresCase i) :
    s.slice q.toList = s.slice q'.toList := by
  apply Span.slice_congr
  intro i hi
  by_cases heq : q.toList[i]? = q'.toList[i]?
  · exact heq
  · obtain ⟨other, hother, hignores⟩ := hcase i heq
    obtain ⟨hin, hmatters⟩ := hs i hi
    -- The phrase that allows the difference can only be this one.
    obtain rfl := eq_of_mem_span hplace hother hin (other.mem_span_of_ignoresCase hignores)
    exact absurd hignores hmatters

/-- Two phrases at the same place have the same fragment. -/
theorem sameFragment_of_lower {place place' : Placement} (hplace : place ∈ placements q)
    (hplace' : place' ∈ placements q') (hlower : place.lower = place'.lower) :
    SameFragment place.phrase place'.phrase := by
  obtain ⟨before, after, hstands, hreads⟩ := exists_standsIn hplace
  obtain ⟨before', after', hstands', -⟩ := exists_standsIn hplace'
  have hlayout : place.layout = place'.layout := by
    rw [← place.layout_lower, hlower, place'.layout_lower]
  refine ⟨hreads.wellFormed, congrArg Placement.phrase hlower, ?_, ?_, ?_⟩
  · have hspan : place.operandSpan = place'.operandSpan := congrArg Layout.operand hlayout
    rw [← String.toList_inj, ← hstands.slice_operandSpan, ← hstands'.slice_operandSpan, ← hspan]
    exact slice_eq_of_matters hcase hplace fun i hi => place.not_ignoresCase_operand hi
  · intro hshape
    have hspan : place.leadSpan = place'.leadSpan := congrArg Layout.lead hlayout
    rw [← String.toList_inj, ← hstands.slice_leadSpan, ← hstands'.slice_leadSpan, ← hspan]
    exact slice_eq_of_matters hcase hplace fun i hi =>
      place.not_ignoresCase_of_shape hshape (.inl hi)
  · intro hshape
    have hspan : place.columnSpan = place'.columnSpan := congrArg Layout.column hlayout
    rw [← String.toList_inj, ← hstands.slice_columnSpan, ← hstands'.slice_columnSpan, ← hspan]
    exact slice_eq_of_matters hcase hplace fun i hi =>
      place.not_ignoresCase_of_shape hshape (.inr hi)

private theorem forall₂_sameFragment (h : q.toList.map Char.toLower = q'.toList.map Char.toLower) :
    List.Forall₂ SameFragment ((placements q).map Placement.phrase)
      ((placements q').map Placement.phrase) := by
  obtain ⟨hlength, hpairs⟩ := List.forall₂_iff_zip.mp (forall₂_lower_placements h)
  rw [List.forall₂_map_left_iff, List.forall₂_map_right_iff, List.forall₂_iff_zip]
  refine ⟨hlength, fun hpair => ?_⟩
  obtain ⟨hplace, hplace'⟩ := List.of_mem_zip hpair
  exact sameFragment_of_lower hcase hplace hplace' (hpairs hpair)

/-- Without clauses the case of letters matters everywhere. -/
theorem eq_of_placements_eq_nil (hnil : placements q = []) : q = q' := by
  rw [← String.toList_inj]
  apply List.ext_getElem?
  intro i
  by_cases heq : q.toList[i]? = q'.toList[i]?
  · exact heq
  · obtain ⟨place, hplace, -⟩ := hcase i heq
    rw [hnil] at hplace
    cases hplace

/-- The queries have the same fragments, or are refused for the same kind of reason. -/
theorem ofQuery_alike (h : q.toList.map Char.toLower = q'.toList.map Char.toLower) :
    Alike Eq (Fragment.ofQuery q) (Fragment.ofQuery q') := by
  have hscan := scan_alike h (fun p p' hp => hp.lower) (forall₂_sameFragment hcase h)
  rcases alike_iff.mp hscan with ⟨clauses, clauses', hq, hq', hclauses⟩ | ⟨e, e', hq, hq', hcode⟩
  · by_cases hnil : clauses = []
    · -- The whole text is searched for, so the queries must not differ at all.
      have hplaces := map_phrase_placements hq
      rw [hnil, List.map_nil, List.map_eq_nil_iff] at hplaces
      rw [eq_of_placements_eq_nil hcase hplaces]
      exact Alike.refl (fun _ => rfl) _
    · have hnil' : clauses' ≠ [] := by
        rintro rfl
        cases hclauses
        exact hnil rfl
      have hfragment : List.Forall₂ (fun clause clause' =>
          Alike Eq (Fragment.ofClause clause) (Fragment.ofClause clause')) clauses clauses' :=
        hclauses.imp fun clause clause' hc => ofClause_alike hc.1 hc.2.1 hc.2.2
      have hfragments := mapM_alike hfragment
      rw [Fragment.ofQuery_of_clauses hq hnil, Fragment.ofQuery_of_clauses hq' hnil']
      rwa [List.forall₂_eq_eq_eq] at hfragments
  · rw [Fragment.ofQuery, Fragment.ofQuery, hq, hq']
    exact hcode

end

/-- Reading a query ignores the case of ASCII letters. Two queries that differ only there are refused
for the same kind of reason, or read as clauses that correspond: they and their parts stand at the same
places, with the same operators, and with conjunctions or without. If besides they differ only where a
clause ignores the case of letters, which is in keywords and in the conjunctions and columns of text
searches, they have the same fragments, or are refused for the same kind of reason. -/
theorem scan_ignores_letter_case {q q' : String}
    (h : q.toList.map Char.toLower = q'.toList.map Char.toLower) :
    Alike (fun clauses clauses' =>
        List.Forall₂ (fun clause clause' => clause.conjunction = clause'.conjunction ∧
          clause.operator = clause'.operator) clauses clauses' ∧
        PlacedIn clauses q (placements q) ∧ PlacedIn clauses' q' (placements q') ∧
        (placements q).map Placement.layout = (placements q').map Placement.layout)
      (scan q) (scan q') ∧
    ((∀ i, q.toList[i]? ≠ q'.toList[i]? → ∃ place ∈ placements q, place.IgnoresCase i) →
      Alike Eq (Fragment.ofQuery q) (Fragment.ofQuery q')) := by
  refine ⟨?_, fun hcase => ofQuery_alike hcase h⟩
  have hphrases : List.Forall₂ (fun p p' : Phrase => p.lower = p'.lower)
      ((placements q).map Placement.phrase) ((placements q').map Placement.phrase) := by
    rw [List.forall₂_map_left_iff, List.forall₂_map_right_iff]
    exact (forall₂_lower_placements h).imp fun _ _ hplace => congrArg Placement.phrase hplace
  have hscan := scan_alike h (fun _ _ hp => hp) hphrases
  rw [alike_iff] at hscan ⊢
  rcases hscan with ⟨clauses, clauses', hq, hq', hclauses⟩ | hrefused
  · refine .inl ⟨clauses, clauses', hq, hq', ?_, placedIn_placements hq,
      placedIn_placements hq', map_layout_placements h⟩
    refine hclauses.imp fun clause clause' hc => ⟨?_, hc.2.2⟩
    rw [← Phrase.conjunction_lower, hc.1, Phrase.conjunction_lower]
  · exact .inr hrefused

/-- A comparison whose keyword changes case, and a text search whose conjunction, column and keyword
do. -/
theorem scan_ignores_letter_case_text_search :
    let q := "id gt 1 AND FullText Contains Disk"
    let q' := "id GT 1 and fulltext cONTAINS Disk"
    (placements q).map Placement.layout = (placements q').map Placement.layout ∧
    Fragment.ofQuery q = .ok ["id > 1 ", "AND body ILIKE '%Disk%' "] ∧
    Fragment.ofQuery q' = .ok ["id > 1 ", "AND body ILIKE '%Disk%' "] := by
  intro q q'
  have hletters : q.toList.map Char.toLower = q'.toList.map Char.toLower := by decide
  have hquery : Fragment.ofQuery q = .ok ["id > 1 ", "AND body ILIKE '%Disk%' "] := by
    decide +kernel
  have hcase : ∀ i, q.toList[i]? ≠ q'.toList[i]? →
      ∃ place ∈ placements q, place.IgnoresCase i := by
    intro i hi
    by_cases hlt : i < 34
    · have hall : ∀ i < 34, q.toList[i]? ≠ q'.toList[i]? →
          ∃ place ∈ placements q, place.IgnoresCase i := by decide +kernel
      exact hall i hlt hi
    · have hlength : q.toList.length = 34 := by decide
      have hlength' : q'.toList.length = 34 := by decide
      rw [List.getElem?_eq_none (by omega), List.getElem?_eq_none (by omega)] at hi
      exact absurd rfl hi
  obtain ⟨hscan, hfragments⟩ := scan_ignores_letter_case hletters
  have hsame := hfragments hcase
  rw [hquery] at hsame
  refine ⟨?_, hquery, ?_⟩
  · rcases alike_iff.mp hscan with ⟨clauses, clauses', -, -, -, -, -, hlayout⟩ | ⟨e, e', he, -⟩
    · exact hlayout
    · rw [Fragment.ofQuery, he] at hquery
      cases hquery
  · rcases alike_iff.mp hsame with ⟨fragments, fragments', hq, hq', rfl⟩ | ⟨e, e', he, -⟩
    · rw [hq, hq']
    · cases he

end Clause

end LogFilter
