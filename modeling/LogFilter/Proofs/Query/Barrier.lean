import LogFilter.Proofs.Fragment.Column
import LogFilter.Proofs.Query.Tiling

/-!
# Line breaks between clauses

No clause goes past a blank other than the space, such as a line break or a tab. Two queries with such
a blank between them are therefore read one after the other, and the fragments of the second follow those
of the first. A query without clauses is text beside the clauses of the other, and may only be blank.
-/

namespace LogFilter

open Text

/-- A blank other than the space, which ends a line of a query. -/
def IsBarrier (c : Char) : Prop := isBlank c = true ∧ c ≠ ' '

instance : DecidablePred IsBarrier := fun _ => inferInstanceAs (Decidable (_ ∧ _))

/-! ### Clauses stay on one line -/

/-- No keyword holds a blank. -/
theorem Shape.isBlank_of_spells {shape : Shape} {word : List Char} (h : shape.spells word = true) :
    ∀ c ∈ word, isBlank c = false := by
  intro c hc
  obtain ⟨op, -, hop⟩ := Shape.spells_iff.mp h
  have hletter : foldLetter c ∈ op.keyword.toList := by
    rw [← hop]
    exact List.mem_map_of_mem hc
  have hkeyword : op.keyword.toList.all (!isBlank ·) = true := by cases op <;> decide
  have hblank : isBlank (foldLetter c) = false := by
    simpa using List.all_eq_true.mp hkeyword _ hletter
  by_cases hlong : c = 'ſ'
  · rw [hlong]
    decide
  · rwa [foldLetter, if_neg hlong, isBlank_toLower] at hblank

private theorem Shape.IsOperand.isInline {shape : Shape} {operand : List Char}
    (h : shape.IsOperand operand) : ∀ c ∈ operand, isInline c = true := by
  cases shape with
  | membership =>
    obtain ⟨inside, hinside, rfl⟩ := h
    intro c hc
    rcases List.mem_cons.mp hc with rfl | hc
    · decide
    · rcases List.mem_append.mp hc with hc | hc
      · exact hinside.2 c hc
      · rw [List.mem_singleton.mp hc]
        decide
  | comparison =>
    intro c hc
    apply isInline_of_isBlank_eq_false
    simpa using h.2 c hc
  | textSearch => exact h.2

private theorem IsConjunction.isInline {lead : List Char} (h : IsConjunction lead) :
    ∀ c ∈ lead, isInline c = true := by
  obtain ⟨word, spaces, hword, rfl⟩ := h
  intro c hc
  rcases List.mem_append.mp hc with hc | hc
  · exact isInline_of_isBlank_eq_false (hword.plain.isBlank_eq_false c hc)
  · rw [List.eq_of_mem_replicate hc]
    decide

/-- A phrase stands on one line. -/
theorem Phrase.WellFormed.isInline {p : Phrase} (h : p.WellFormed) :
    ∀ c ∈ p.text.toList, isInline c = true := by
  intro c hc
  rw [Phrase.toList_text, Phrase.body] at hc
  simp only [List.mem_append, List.mem_cons] at hc
  rcases hc with hc | hc | rfl | hc | rfl | hc
  · rcases h.lead with hlead | hlead
    · rw [hlead] at hc
      cases hc
    · exact hlead.isInline c hc
  · exact isInline_of_isBlank_eq_false (h.column.plain.isBlank_eq_false c hc)
  · decide
  · exact isInline_of_isBlank_eq_false (Shape.isBlank_of_spells h.keyword c hc)
  · decide
  · exact h.operand.isInline c hc

/-- No barrier stands inside a phrase. -/
theorem Phrase.WellFormed.barrier_not_mem {p : Phrase} (h : p.WellFormed) {c : Char}
    (hc : IsBarrier c) : c ∉ p.text.toList := by
  intro hmem
  have hinline := h.isInline c hmem
  rw [isInline_eq_false_iff.mpr hc] at hinline
  cases hinline

/-! ### Reading before a barrier -/

/-- A beginning of a text without some character ends before the character. -/
theorem exists_of_append_cons_eq {c : Char} {xs ys front tail : List Char} (hc : c ∉ front)
    (h : xs ++ c :: ys = front ++ tail) :
    ∃ middle, xs = front ++ middle ∧ tail = middle ++ c :: ys := by
  rcases List.append_eq_append_iff.mp h with ⟨middle, rfl, htail⟩ | ⟨middle, hxs, htail⟩
  · cases middle with
    | nil => exact ⟨[], by simp, htail.symm⟩
    | cons d middle =>
      obtain ⟨rfl, -⟩ := List.cons.inj htail
      exact absurd (List.mem_append_right xs List.mem_cons_self) hc
  · exact ⟨middle, hxs, htail⟩

variable {c : Char} {xs : List Char}

namespace Phrase

/-- What is read before a barrier does not depend on what stands behind it. -/
theorem Reads.append_barrier {p : Phrase} {rest : List Char} (h : Reads xs p rest)
    (hc : IsBarrier c) (ys : List Char) : Reads (xs ++ c :: ys) p (rest ++ c :: ys) where
  wellFormed := h.wellFormed
  text := by rw [h.text, List.append_assoc]
  conjunction := by
    intro q tail hq htext hconj
    obtain ⟨middle, hxs, -⟩ := exists_of_append_cons_eq (hq.barrier_not_mem hc) htext
    exact h.conjunction q middle hq hxs hconj
  longest := by
    intro q tail hq htext hsame
    obtain ⟨middle, hxs, -⟩ := exists_of_append_cons_eq (hq.barrier_not_mem hc) htext
    exact h.longest q middle hq hxs hsame

private theorem atHead?_append_barrier_of_some {p : Phrase} {rest : List Char} (hc : IsBarrier c)
    (h : atHead? xs = some (p, rest)) (ys : List Char) :
    atHead? (xs ++ c :: ys) = some (p, rest ++ c :: ys) :=
  atHead?_eq_some_iff_reads.mpr ((reads_of_atHead? h).append_barrier hc ys)

private theorem atHead?_append_barrier_of_none (hc : IsBarrier c) (h : atHead? xs = none)
    (ys : List Char) : atHead? (xs ++ c :: ys) = none := by
  rw [atHead?_eq_none_iff] at h ⊢
  rintro clause rest htext ⟨p, hp, rfl⟩
  obtain ⟨middle, hxs, -⟩ := exists_of_append_cons_eq (hp.barrier_not_mem hc) htext
  exact h _ middle hxs hp.isClause

end Phrase

namespace Piece

/-- A text is cut into pieces on the two sides of a barrier apart. -/
theorem split_append_barrier (hc : IsBarrier c) (xs ys : List Char) :
    split (xs ++ c :: ys) = split xs ++ gap c :: split ys := by
  induction xs using split.induct with
  | case1 =>
    have hnone : Phrase.atHead? [] = none := clauseAt_zero_iff.mp (not_clauseAt_nil 0)
    rw [List.nil_append, split_of_none (Phrase.atHead?_append_barrier_of_none hc hnone ys), split,
      List.nil_append]
  | case2 x xs p rest h ih =>
    have hjoined := Phrase.atHead?_append_barrier_of_some hc h ys
    rw [List.cons_append] at hjoined ⊢
    rw [split_of_some hjoined, split_of_some h, ih, List.cons_append]
  | case3 x xs h ih =>
    have hjoined := Phrase.atHead?_append_barrier_of_none hc h ys
    rw [List.cons_append] at hjoined ⊢
    rw [split_of_none hjoined, split_of_none h, ih, List.cons_append]

/-- Without phrases all characters are gaps. -/
theorem filterMap_gap?_of_no_phrase {pieces : List Piece} (h : pieces.filterMap phrase? = []) :
    pieces.filterMap gap? = pieces.flatMap chars := by
  induction pieces with
  | nil => rfl
  | cons piece pieces ih =>
    cases piece with
    | gap d => exact congrArg (d :: ·) (ih h)
    | phrase p => cases h

end Piece

/-! ### Reading on both sides -/

namespace Clause

/-- Some text beside the clauses is not blank. -/
theorem ofPieces_eq_unknownTokens {pieces : List Piece} {clauses : List Clause} {d : Char}
    (h : (pieces.filterMap Piece.phrase?).mapM ofPhrase = .ok clauses) (hne : clauses ≠ [])
    (hd : d ∈ pieces.filterMap Piece.gap?) (hblank : isBlank d = false) :
    ofPieces pieces = .error .unknownTokens := by
  have hcond : ¬ (clauses.isEmpty || (pieces.filterMap Piece.gap?).all isBlank) = true := by
    rw [Bool.or_eq_true, List.isEmpty_iff, List.all_eq_true]
    rintro (hnil | hall)
    · exact hne hnil
    · rw [hall d hd] at hblank
      cases hblank
  unfold ofPieces
  simp only [h, hcond, if_false, Bool.false_eq_true]

section

variable {q q' : String} {clauses clauses' : List Clause}

private theorem toList_append_singleton (q q' : String) (c : Char) :
    (q ++ String.singleton c ++ q').toList = q.toList ++ c :: q'.toList := by
  simp

/-- The pieces of the joined query, in its phrases and in its gaps. -/
theorem filterMap_split_joined {β : Type} (f : Piece → Option β) (hc : IsBarrier c) :
    (Piece.split (q ++ String.singleton c ++ q').toList).filterMap f =
      (Piece.split q.toList).filterMap f ++
        ([Piece.gap c].filterMap f ++ (Piece.split q'.toList).filterMap f) := by
  rw [toList_append_singleton, Piece.split_append_barrier hc, List.filterMap_append,
    ← List.singleton_append, List.filterMap_append]

/-- The phrases on both sides have the clauses of the two queries. -/
theorem mapM_ofPhrase_joined (hc : IsBarrier c) (h : scan q = .ok clauses)
    (h' : scan q' = .ok clauses') :
    ((Piece.split (q ++ String.singleton c ++ q').toList).filterMap Piece.phrase?).mapM ofPhrase =
      .ok (clauses ++ clauses') := by
  obtain ⟨hphrases, hops⟩ := phrases_of_scan h
  obtain ⟨hphrases', hops'⟩ := phrases_of_scan h'
  rw [filterMap_split_joined _ hc, mapM_ofPhrase_eq_ok_iff, ← hphrases, ← hphrases']
  refine ⟨List.map_append, ?_⟩
  intro clause hclause
  rcases List.mem_append.mp hclause with hclause | hclause
  · exact hops clause hclause
  · exact hops' clause hclause

/-- A query without clauses has nothing but gaps. -/
theorem gaps_of_scan_eq_nil (h : scan q = .ok []) :
    (Piece.split q.toList).filterMap Piece.gap? = q.toList := by
  have hphrases := (phrases_of_scan h).1
  rw [Piece.filterMap_gap?_of_no_phrase hphrases.symm, Piece.flatMap_chars_split]

/-- A query whose gaps are blank on both sides of a barrier is read as the clauses of both sides. -/
theorem scan_joined_of_blank (hc : IsBarrier c) (h : scan q = .ok clauses)
    (h' : scan q' = .ok clauses')
    (hblank : ∀ d ∈ (Piece.split q.toList).filterMap Piece.gap?, isBlank d = true)
    (hblank' : ∀ d ∈ (Piece.split q'.toList).filterMap Piece.gap?, isBlank d = true) :
    scan (q ++ String.singleton c ++ q') = .ok (clauses ++ clauses') := by
  rw [scan, ofPieces_eq_ok_iff]
  refine ⟨mapM_ofPhrase_joined hc h h', .inr ?_⟩
  intro d hd
  rw [filterMap_split_joined _ hc] at hd
  rcases List.mem_append.mp hd with hd | hd
  · exact hblank d hd
  · rcases List.mem_append.mp hd with hd | hd
    · rw [List.mem_singleton.mp hd]
      exact hc.1
    · exact hblank' d hd

/-- With clauses on some side, text in a gap of either side that is not blank is unknown. -/
theorem scan_joined_of_not_blank (hc : IsBarrier c) (h : scan q = .ok clauses)
    (h' : scan q' = .ok clauses') (hne : clauses ++ clauses' ≠ []) {d : Char}
    (hd : d ∈ (Piece.split q.toList).filterMap Piece.gap? ∨
      d ∈ (Piece.split q'.toList).filterMap Piece.gap?)
    (hblank : isBlank d = false) :
    scan (q ++ String.singleton c ++ q') = .error .unknownTokens := by
  rw [scan]
  apply ofPieces_eq_unknownTokens (mapM_ofPhrase_joined hc h h') hne _ hblank
  rw [filterMap_split_joined _ hc]
  rcases hd with hd | hd
  · exact List.mem_append_left _ hd
  · exact List.mem_append_right _ (List.mem_append_right _ hd)

/-- The gaps of a query with clauses are blank, and so is all of a blank query. -/
theorem isBlank_gaps (h : scan q = .ok clauses)
    (hq : clauses ≠ [] ∨ ∀ d ∈ q.toList, isBlank d = true) :
    ∀ d ∈ (Piece.split q.toList).filterMap Piece.gap?, isBlank d = true := by
  by_cases hnil : clauses = []
  · subst hnil
    rw [gaps_of_scan_eq_nil h]
    exact hq.resolve_left (not_not_intro rfl)
  · exact (ofPieces_eq_ok_iff.mp h).2.resolve_left hnil

/-- The fragments of the two sides follow each other. -/
theorem ofQuery_joined (hc : IsBarrier c) (h : scan q = .ok clauses) (h' : scan q' = .ok clauses')
    (hne : clauses ≠ []) (hne' : clauses' ≠ []) {fragments fragments' : List String}
    (hfragments : Fragment.ofQuery q = .ok fragments)
    (hfragments' : Fragment.ofQuery q' = .ok fragments') :
    Fragment.ofQuery (q ++ String.singleton c ++ q') = .ok (fragments ++ fragments') := by
  have hjoined := scan_joined_of_blank hc h h' (isBlank_gaps h (.inl hne))
    (isBlank_gaps h' (.inl hne'))
  rw [Fragment.ofQuery_of_clauses h hne, mapM_eq_ok_iff] at hfragments
  rw [Fragment.ofQuery_of_clauses h' hne', mapM_eq_ok_iff] at hfragments'
  rw [Fragment.ofQuery_of_clauses hjoined (List.append_ne_nil_of_left_ne_nil hne _),
    mapM_eq_ok_iff, List.map_append, hfragments, hfragments', List.map_append]

end

/-- A blank other than the space is a barrier between clauses. Two queries with one between them are
read as the clauses of the first and then those of the second. A query without clauses counts as text
beside the clauses of the other: it may be blank, and is unknown otherwise. Without any clause on both
sides, the joined query has none. If both have clauses, the fragments follow each other likewise. -/
theorem scan_barrier {q q' : String} {c : Char} {clauses clauses' : List Clause} (hc : IsBarrier c)
    (h : scan q = .ok clauses) (h' : scan q' = .ok clauses') :
    (clauses ≠ [] → clauses' ≠ [] →
      scan (q ++ String.singleton c ++ q') = .ok (clauses ++ clauses')) ∧
    (clauses = [] → clauses' ≠ [] →
      ((∀ d ∈ q.toList, isBlank d = true) →
        scan (q ++ String.singleton c ++ q') = .ok (clauses ++ clauses')) ∧
      ((∃ d ∈ q.toList, isBlank d = false) →
        scan (q ++ String.singleton c ++ q') = .error .unknownTokens)) ∧
    (clauses ≠ [] → clauses' = [] →
      ((∀ d ∈ q'.toList, isBlank d = true) →
        scan (q ++ String.singleton c ++ q') = .ok (clauses ++ clauses')) ∧
      ((∃ d ∈ q'.toList, isBlank d = false) →
        scan (q ++ String.singleton c ++ q') = .error .unknownTokens)) ∧
    (clauses = [] → clauses' = [] → scan (q ++ String.singleton c ++ q') = .ok []) ∧
    (clauses ≠ [] → clauses' ≠ [] → ∀ fragments fragments',
      Fragment.ofQuery q = .ok fragments → Fragment.ofQuery q' = .ok fragments' →
      Fragment.ofQuery (q ++ String.singleton c ++ q') = .ok (fragments ++ fragments')) := by
  refine ⟨?_, ?_, ?_, ?_, ?_⟩
  · intro hne hne'
    exact scan_joined_of_blank hc h h' (isBlank_gaps h (.inl hne)) (isBlank_gaps h' (.inl hne'))
  · rintro rfl hne'
    refine ⟨?_, ?_⟩
    · intro hblank
      exact scan_joined_of_blank hc h h' (isBlank_gaps h (.inr hblank))
        (isBlank_gaps h' (.inl hne'))
    · rintro ⟨d, hd, hblank⟩
      rw [← gaps_of_scan_eq_nil h] at hd
      exact scan_joined_of_not_blank hc h h' hne' (.inl hd) hblank
  · rintro hne rfl
    refine ⟨?_, ?_⟩
    · intro hblank
      exact scan_joined_of_blank hc h h' (isBlank_gaps h (.inl hne))
        (isBlank_gaps h' (.inr hblank))
    · rintro ⟨d, hd, hblank⟩
      rw [← gaps_of_scan_eq_nil h'] at hd
      exact scan_joined_of_not_blank hc h h' (List.append_ne_nil_of_left_ne_nil hne _) (.inr hd)
        hblank
  · rintro rfl rfl
    rw [scan, ofPieces_eq_ok_iff]
    exact ⟨mapM_ofPhrase_joined hc h h', .inl rfl⟩
  · intro hne hne' fragments fragments' hfragments hfragments'
    exact ofQuery_joined hc h h' hne hne' hfragments hfragments'

/-- Across a space the text search would go on over the comparison; across a line break it does not. -/
theorem scan_barrier_line_break :
    let search : Clause :=
      { lead := "", shape := .textSearch, column := "body", keyword := "contains",
        operand := "disk full", operator := .contains }
    let comparison : Clause :=
      { lead := "and ", shape := .comparison, column := "id", keyword := "gt", operand := "1",
        operator := .gt }
    scan ("body contains disk full" ++ String.singleton '\n' ++ "and id gt 1") =
      .ok [search, comparison] ∧
    Fragment.ofQuery ("body contains disk full" ++ String.singleton '\n' ++ "and id gt 1") =
      .ok ["body ILIKE '%disk full%' ", "and id > 1 "] ∧
    scan ("stray" ++ String.singleton '\t' ++ "and id gt 1") = .error .unknownTokens := by
  intro search comparison
  have hsearch : scan "body contains disk full" = .ok [search] := by decide +kernel
  have hcomparison : scan "and id gt 1" = .ok [comparison] := by decide +kernel
  have hstray : scan "stray" = .ok [] := by decide +kernel
  have hsearch' : Fragment.ofQuery "body contains disk full" =
      .ok ["body ILIKE '%disk full%' "] := by decide +kernel
  have hcomparison' : Fragment.ofQuery "and id gt 1" = .ok ["and id > 1 "] := by decide +kernel
  have hline : IsBarrier '\n' := by decide
  have htab : IsBarrier '\t' := by decide
  obtain ⟨hboth, -, -, -, hfragments⟩ := scan_barrier hline hsearch hcomparison
  refine ⟨hboth (by simp) (by simp), hfragments (by simp) (by simp) _ _ hsearch' hcomparison', ?_⟩
  exact ((scan_barrier htab hstray hcomparison).2.1 rfl (by simp)).2 ⟨'s', by decide, by decide⟩

end Clause

end LogFilter
