import LogFilter.Proofs.Query.Tiling

/-!
# Places of clauses

The clauses of a query stand at places in it, and so do their parts. Every part of a clause is what the
query holds at its place, the clause is the one that is read there, and no two clauses share a position.
-/

namespace LogFilter

open Text

/-- A stretch of a text: the position of its first character, and how many there are. -/
structure Span where
  start : Nat
  length : Nat
  deriving DecidableEq, Repr

namespace Span

/-- The first position after the stretch. -/
def stop (s : Span) : Nat := s.start + s.length

instance : Membership Nat Span := ⟨fun s i => s.start ≤ i ∧ i < s.stop⟩

/-- The positions of a span run from its start up to its stop. -/
theorem mem_iff {s : Span} {i : Nat} : i ∈ s ↔ s.start ≤ i ∧ i < s.stop := Iff.rfl

instance (s : Span) (i : Nat) : Decidable (i ∈ s) := decidable_of_iff _ mem_iff.symm

/-- The characters of a text in the stretch. -/
def slice (s : Span) (cs : List Char) : List Char := (cs.drop s.start).take s.length

/-- The characters of a text in the stretch, with other ones in the place of an inner stretch. -/
def splice (s inner : Span) (cs word : List Char) : List Char :=
  slice ⟨s.start, inner.start - s.start⟩ cs ++ word ++ slice ⟨inner.stop, s.stop - inner.stop⟩ cs

/-- A part of a text is what the text holds there. -/
theorem slice_append {start length : Nat} {before part : List Char} (after : List Char)
    (hstart : before.length = start) (hlength : part.length = length) :
    slice ⟨start, length⟩ (before ++ (part ++ after)) = part := by
  subst hstart hlength
  rw [slice, List.drop_left, List.take_left]

private theorem getElem?_slice {s : Span} {cs : List Char} {i : Nat} (h : i < s.length) :
    (s.slice cs)[i]? = cs[s.start + i]? := by
  rw [slice, List.getElem?_take, if_pos h, List.getElem?_drop]

/-- Two texts that agree on a stretch hold the same there. -/
theorem slice_congr {s : Span} {cs ds : List Char} (h : ∀ i ∈ s, cs[i]? = ds[i]?) :
    s.slice cs = s.slice ds := by
  apply List.ext_getElem?
  intro i
  by_cases hi : i < s.length
  · rw [getElem?_slice hi, getElem?_slice hi]
    apply h
    rw [mem_iff, stop]
    omega
  · rw [slice, slice, List.getElem?_take, List.getElem?_take, if_neg hi, if_neg hi]

end Span

/-- A phrase, and the position in a query at which it starts. -/
structure Placement where
  start : Nat
  phrase : Phrase
  deriving DecidableEq, Repr

namespace Placement

/-- Where the whole phrase stands. -/
def span (place : Placement) : Span := ⟨place.start, place.phrase.text.length⟩

/-- Where the conjunction stands, with its spaces. -/
def leadSpan (place : Placement) : Span := ⟨place.start, place.phrase.lead.length⟩

/-- Where the column stands. -/
def columnSpan (place : Placement) : Span := ⟨place.leadSpan.stop, place.phrase.column.length⟩

/-- Where the keyword stands, one space after the column. -/
def keywordSpan (place : Placement) : Span :=
  ⟨place.columnSpan.stop + 1, place.phrase.keyword.length⟩

/-- Where the operand stands, one space after the keyword. -/
def operandSpan (place : Placement) : Span :=
  ⟨place.keywordSpan.stop + 1, place.phrase.operand.length⟩

/-- The parts of the phrase follow each other, from its start to its end. -/
theorem parts_in_order (place : Placement) :
    place.span.start = place.leadSpan.start ∧
    place.leadSpan.start ≤ place.leadSpan.stop ∧
    place.leadSpan.stop = place.columnSpan.start ∧
    place.columnSpan.start ≤ place.columnSpan.stop ∧
    place.columnSpan.stop < place.keywordSpan.start ∧
    place.keywordSpan.start ≤ place.keywordSpan.stop ∧
    place.keywordSpan.stop < place.operandSpan.start ∧
    place.operandSpan.start ≤ place.operandSpan.stop ∧
    place.operandSpan.stop = place.span.stop := by
  refine ⟨rfl, Nat.le_add_right _ _, rfl, Nat.le_add_right _ _, Nat.lt_succ_self _,
    Nat.le_add_right _ _, Nat.lt_succ_self _, Nat.le_add_right _ _, ?_⟩
  have hspace : " ".length = 1 := by decide
  simp only [span, operandSpan, keywordSpan, columnSpan, leadSpan, Span.stop, Phrase.text,
    Phrase.withKeyword, String.length_append, hspace]
  omega

/-- The phrase stands in the text at its place, with these characters before it and after it. -/
structure StandsIn (place : Placement) (cs before after : List Char) : Prop where
  text : cs = before ++ (place.phrase.text.toList ++ after)
  start : before.length = place.start

namespace StandsIn

variable {place : Placement} {cs before after : List Char}

/-- The span of a placed phrase holds its text. -/
theorem slice_span (h : place.StandsIn cs before after) :
    place.span.slice cs = place.phrase.text.toList := by
  rw [h.text]
  exact Span.slice_append after h.start String.length_toList

/-- What follows the phrase. -/
theorem drop_stop (h : place.StandsIn cs before after) : cs.drop place.span.stop = after := by
  have hstop : place.span.stop = (before ++ place.phrase.text.toList).length := by
    rw [List.length_append, h.start, String.length_toList]
    rfl
  rw [hstop, h.text, ← List.append_assoc, List.drop_left]

/-- The text, cut at the parts of the phrase. -/
theorem text_parts (h : place.StandsIn cs before after) :
    cs = before ++ (place.phrase.lead.toList ++ (place.phrase.column.toList ++
      ([' '] ++ (place.phrase.keyword.toList ++ ([' '] ++
        (place.phrase.operand.toList ++ after)))))) := by
  rw [h.text, Phrase.toList_text, Phrase.body]
  simp

/-- The span of the conjunction holds it. -/
theorem slice_leadSpan (h : place.StandsIn cs before after) :
    place.leadSpan.slice cs = place.phrase.lead.toList := by
  rw [h.text_parts]
  exact Span.slice_append _ h.start String.length_toList

/-- The span of the column holds it. -/
theorem slice_columnSpan (h : place.StandsIn cs before after) :
    place.columnSpan.slice cs = place.phrase.column.toList := by
  rw [h.text_parts, ← List.append_assoc]
  apply Span.slice_append _ _ String.length_toList
  simp only [leadSpan, Span.stop, List.length_append, h.start, String.length_toList]

/-- The span of the keyword holds it. -/
theorem slice_keywordSpan (h : place.StandsIn cs before after) :
    place.keywordSpan.slice cs = place.phrase.keyword.toList := by
  rw [h.text_parts, ← List.append_assoc, ← List.append_assoc, ← List.append_assoc]
  apply Span.slice_append _ _ String.length_toList
  simp only [columnSpan, leadSpan, Span.stop, List.length_append, List.length_singleton, h.start,
    String.length_toList]

/-- The span of the operand holds it. -/
theorem slice_operandSpan (h : place.StandsIn cs before after) :
    place.operandSpan.slice cs = place.phrase.operand.toList := by
  rw [h.text_parts, ← List.append_assoc, ← List.append_assoc, ← List.append_assoc,
    ← List.append_assoc, ← List.append_assoc]
  apply Span.slice_append _ _ String.length_toList
  simp only [keywordSpan, columnSpan, leadSpan, Span.stop, List.length_append,
    List.length_singleton, h.start, String.length_toList]

/-- Another word in the place of the keyword, and all else as the text holds it. -/
theorem splice_keywordSpan (h : place.StandsIn cs before after) (word : String) :
    place.span.splice place.keywordSpan cs word.toList =
      (place.phrase.withKeyword word).toList := by
  have hfront : Span.slice ⟨place.span.start, place.keywordSpan.start - place.span.start⟩ cs =
      place.phrase.lead.toList ++ place.phrase.column.toList ++ [' '] := by
    have htext : cs = before ++ ((place.phrase.lead.toList ++ place.phrase.column.toList ++ [' ']) ++
        (place.phrase.keyword.toList ++ ([' '] ++ (place.phrase.operand.toList ++ after)))) := by
      rw [h.text_parts]
      simp only [List.append_assoc]
    rw [htext]
    apply Span.slice_append _ h.start
    simp only [keywordSpan, columnSpan, leadSpan, span, Span.stop, List.length_append,
      List.length_singleton, String.length_toList]
    omega
  have hback : Span.slice ⟨place.keywordSpan.stop, place.span.stop - place.keywordSpan.stop⟩ cs =
      [' '] ++ place.phrase.operand.toList := by
    have htext : cs = (before ++ place.phrase.lead.toList ++ place.phrase.column.toList ++ [' '] ++
        place.phrase.keyword.toList) ++ (([' '] ++ place.phrase.operand.toList) ++ after) := by
      rw [h.text_parts]
      simp only [List.append_assoc]
    have hend := place.parts_in_order.2.2.2.2.2.2.2.2
    rw [htext, ← hend]
    apply Span.slice_append
    · simp only [keywordSpan, columnSpan, leadSpan, Span.stop, List.length_append,
        List.length_singleton, h.start, String.length_toList]
    · simp only [operandSpan, Span.stop, List.length_append, List.length_singleton,
        String.length_toList]
      omega
  have hspace : " ".toList = [' '] := by decide
  rw [Span.splice, hfront, hback]
  simp [Phrase.withKeyword, hspace]

end StandsIn

end Placement

/-! ### The places of the clauses of a query -/

namespace Piece

/-- The phrases among the pieces of a text, and where they start, if the text starts at `start`. -/
def placements (start : Nat) : List Piece → List Placement
  | [] => []
  | gap _ :: pieces => placements (start + 1) pieces
  | phrase p :: pieces => ⟨start, p⟩ :: placements (start + p.text.length) pieces

/-- The placed phrases are those of the pieces, in order. -/
theorem map_phrase_placements (start : Nat) (pieces : List Piece) :
    (placements start pieces).map Placement.phrase = pieces.filterMap phrase? := by
  induction pieces generalizing start with
  | nil => rfl
  | cons piece pieces ih =>
    cases piece with
    | gap c => exact ih (start + 1)
    | phrase p => exact congrArg (p :: ·) (ih (start + p.text.length))

private theorem start_le_of_mem_placements {start : Nat} {pieces : List Piece} {place : Placement}
    (h : place ∈ placements start pieces) : start ≤ place.start := by
  induction pieces generalizing start with
  | nil => cases h
  | cons piece pieces ih =>
    cases piece with
    | gap c =>
      have hle := ih h
      omega
    | phrase p =>
      rcases List.mem_cons.mp h with rfl | h
      · exact Nat.le_refl start
      · have hle := ih h
        omega

/-- Each phrase ends before the next one starts. -/
theorem pairwise_placements (start : Nat) (pieces : List Piece) :
    (placements start pieces).Pairwise fun a b => a.span.stop ≤ b.start := by
  induction pieces generalizing start with
  | nil => exact List.Pairwise.nil
  | cons piece pieces ih =>
    cases piece with
    | gap c => exact ih (start + 1)
    | phrase p =>
      apply List.pairwise_cons.mpr
      exact ⟨fun place hplace => start_le_of_mem_placements hplace, ih _⟩

/-- The phrases among the pieces of a text are read at their places. -/
theorem reads_of_mem_placements {start : Nat} {cs : List Char} {place : Placement}
    (h : place ∈ placements start (split cs)) :
    ∃ before after, cs = before ++ (place.phrase.text.toList ++ after) ∧
      start + before.length = place.start ∧
      Phrase.Reads (place.phrase.text.toList ++ after) place.phrase after := by
  induction cs using split.induct generalizing start with
  | case1 =>
    rw [split] at h
    cases h
  | case2 c cs p rest hp ih =>
    have hreads := Phrase.reads_of_atHead? hp
    rw [split_of_some hp] at h
    rcases List.mem_cons.mp h with rfl | h
    · exact ⟨[], rest, hreads.text, rfl, hreads.text ▸ hreads⟩
    · obtain ⟨before, after, htext, hstart, hplace⟩ := ih h
      refine ⟨p.text.toList ++ before, after, ?_, ?_, hplace⟩
      · rw [hreads.text, htext, List.append_assoc]
      · rw [List.length_append, String.length_toList]
        omega
  | case3 c cs hnone ih =>
    rw [split_of_none hnone] at h
    obtain ⟨before, after, htext, hstart, hplace⟩ := ih h
    refine ⟨c :: before, after, ?_, ?_, hplace⟩
    · rw [htext, List.cons_append]
    · rw [List.length_cons]
      omega

end Piece

namespace Clause

/-- The clauses of a query as phrases, with the positions at which they start. -/
def placements (query : String) : List Placement := Piece.placements 0 (Piece.split query.toList)

/-- A query that is read gives the clauses that stand at its places. -/
theorem map_phrase_placements {query : String} {clauses : List Clause}
    (h : scan query = .ok clauses) :
    (placements query).map Placement.phrase = clauses.map toPhrase := by
  rw [placements, Piece.map_phrase_placements, (phrases_of_scan h).1]

/-- A phrase stands at its place in the query, and is the one that is read there. -/
theorem exists_standsIn {query : String} {place : Placement} (h : place ∈ placements query) :
    ∃ before after, place.StandsIn query.toList before after ∧
      Phrase.Reads (place.phrase.text.toList ++ after) place.phrase after := by
  obtain ⟨before, after, htext, hstart, hreads⟩ := Piece.reads_of_mem_placements h
  exact ⟨before, after, ⟨htext, by omega⟩, hreads⟩

/-- Each phrase ends before the next one starts. -/
theorem pairwise_placements (query : String) :
    (placements query).Pairwise fun a b => a.span.stop ≤ b.start :=
  Piece.pairwise_placements 0 (Piece.split query.toList)

/-- The clauses stand in the query at these places, one after the other. -/
structure PlacedIn (clauses : List Clause) (query : String) (places : List Placement) : Prop where
  phrases : places.map Placement.phrase = clauses.map toPhrase
  standsIn : ∀ place ∈ places, ∃ before after, place.StandsIn query.toList before after
  apart : places.Pairwise fun a b => a.span.stop ≤ b.start

/-- The clauses of a query are placed in it. -/
theorem placedIn_placements {query : String} {clauses : List Clause}
    (h : scan query = .ok clauses) : PlacedIn clauses query (placements query) where
  phrases := map_phrase_placements h
  standsIn := by
    intro place hplace
    obtain ⟨before, after, hstands, -⟩ := exists_standsIn hplace
    exact ⟨before, after, hstands⟩
  apart := pairwise_placements query

/-- No two phrases share a position. -/
theorem eq_of_mem_span {query : String} {place place' : Placement} {i : Nat}
    (h : place ∈ placements query) (h' : place' ∈ placements query) (hi : i ∈ place.span)
    (hi' : i ∈ place'.span) : place = place' := by
  have hapart := pairwise_placements query
  rw [List.pairwise_iff_getElem] at hapart
  obtain ⟨m, hm, rfl⟩ := List.getElem_of_mem h
  obtain ⟨n, hn, rfl⟩ := List.getElem_of_mem h'
  rw [Span.mem_iff] at hi hi'
  rcases Nat.lt_trichotomy m n with hlt | rfl | hgt
  · have hle := Nat.le_trans (hapart m n hm hn hlt) hi'.1
    omega
  · rfl
  · have hle := Nat.le_trans (hapart n m hn hm hgt) hi.1
    omega

end Clause

end LogFilter
