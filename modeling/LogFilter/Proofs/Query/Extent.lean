import LogFilter.Proofs.Query.Placement
import Mathlib.Data.List.TakeWhile

/-!
# The extent of clauses

A clause of a query is made of a conjunction or nothing, a column, a keyword and an operand, each where
the one before it ends, with one space after the column and one after the keyword. The operand reaches as
far as it can. Another word in the place of the keyword leaves all else as the query has it.
-/

namespace LogFilter

open Text

/-! ### Where operands end -/

/-- What may stand after an operand of the shape. A membership ends with the last closing parenthesis
of its line, a comparison before a blank, and a text search at the end of its line. -/
def Shape.Stops : Shape → List Char → Prop
  | .membership, rest => ')' ∉ rest.takeWhile isInline
  | .comparison, rest => ∀ c ∈ rest.head?, isBlank c = true
  | .textSearch, rest => ∀ c ∈ rest.head?, isBlank c = true ∧ c ≠ ' '

namespace Longest

/-- The longest run ends where no character of its class follows. -/
theorem head?_of_isRun {p : Char → Bool} {front back : List Char}
    (h : Longest (IsRun p) (front ++ back) front back) : ∀ c ∈ back.head?, p c = false := by
  intro c hc
  cases back with
  | nil => cases hc
  | cons d back =>
    obtain rfl := Option.some.inj hc
    apply Bool.eq_false_iff.mpr
    intro hd
    have hlonger : IsRun p (front ++ [d]) := by
      refine ⟨by simp, ?_⟩
      intro x hx
      rcases List.mem_append.mp hx with hx | hx
      · exact h.mem.2 x hx
      · rwa [List.mem_singleton.mp hx]
    have hle := h.length_le (front ++ [d]) back (by simp) hlonger
    rw [List.length_append, List.length_singleton] at hle
    omega

/-- No closing parenthesis follows the longest membership operand on its line. -/
theorem closing_not_mem {operand rest : List Char}
    (h : Longest Shape.membership.IsOperand (operand ++ rest) operand rest) :
    ')' ∉ rest.takeWhile isInline := by
  intro hmem
  obtain ⟨inside, hinside, rfl⟩ := h.mem
  obtain ⟨front, back, hline⟩ := List.append_of_mem hmem
  have hrest : rest = front ++ ')' :: (back ++ rest.dropWhile isInline) := by
    rw [← List.cons_append, ← List.append_assoc, ← hline, List.takeWhile_append_dropWhile]
  have hfront : ∀ c ∈ front, isInline c = true := by
    intro c hc
    apply List.all_eq_true.mp (List.all_takeWhile (p := isInline) (l := rest)) c
    rw [hline]
    exact List.mem_append_left _ hc
  have hlonger : Shape.membership.IsOperand ('(' :: ((inside ++ ')' :: front) ++ [')'])) := by
    refine ⟨inside ++ ')' :: front, ⟨by simp, ?_⟩, rfl⟩
    intro c hc
    rcases List.mem_append.mp hc with hc | hc
    · exact hinside.2 c hc
    · rcases List.mem_cons.mp hc with rfl | hc
      · decide
      · exact hfront c hc
  have htext : '(' :: (inside ++ [')']) ++ rest =
      '(' :: ((inside ++ ')' :: front) ++ [')']) ++ (back ++ rest.dropWhile isInline) := by
    conv => lhs; rw [hrest]
    simp
  have hle := h.length_le _ _ htext hlonger
  simp only [List.length_cons, List.length_append, List.length_nil] at hle
  omega

/-- The longest operand ends where it cannot go on. -/
theorem stops {shape : Shape} {operand rest : List Char}
    (h : Longest shape.IsOperand (operand ++ rest) operand rest) : shape.Stops rest := by
  cases shape with
  | membership => exact closing_not_mem h
  | comparison =>
    intro c hc
    simpa using head?_of_isRun h c hc
  | textSearch =>
    intro c hc
    exact isInline_eq_false_iff.mp (head?_of_isRun h c hc)

end Longest

/-- The phrase that is read at the head of a text has the longest operand there. -/
theorem Phrase.Reads.longest_operand {cs rest : List Char} {p : Phrase} (h : Reads cs p rest) :
    Longest p.shape.IsOperand (p.operand.toList ++ rest) p.operand.toList rest := by
  refine ⟨rfl, h.wellFormed.operand, ?_⟩
  intro other tail htext hother
  let q : Phrase := { p with operand := String.ofList other }
  have hoperand : q.operand.toList = other := String.toList_ofList
  have hq : q.WellFormed := {
    lead := h.wellFormed.lead
    column := h.wellFormed.column
    keyword := h.wellFormed.keyword
    operand := by rwa [hoperand] }
  have hcs : cs = q.text.toList ++ tail := by
    rw [h.text, toList_text, toList_text, body, body, hoperand]
    simp only [List.append_assoc, List.cons_append, htext, q]
  have hle := h.longest q tail hq hcs rfl
  simp only [toList_text, body, hoperand, List.length_append, List.length_cons, q] at hle
  omega

/-! ### Clauses at their places -/

namespace Clause

/-- How a clause stands in a text: what its parts are and where the text holds them, how far its
operand reaches, and what another word in the place of its keyword makes of it. -/
structure StandsAt (clause : Clause) (place : Placement) (cs : List Char) : Prop where
  text : clause.text =
    clause.lead ++ clause.column ++ " " ++ clause.keyword ++ " " ++ clause.operand
  text_slice : place.span.slice cs = clause.text.toList
  lead_slice : place.leadSpan.slice cs = clause.lead.toList
  column_slice : place.columnSpan.slice cs = clause.column.toList
  keyword_slice : place.keywordSpan.slice cs = clause.keyword.toList
  operand_slice : place.operandSpan.slice cs = clause.operand.toList
  lead_eq_empty_iff : clause.lead = "" ↔ clause.conjunction = false
  lead : clause.conjunction = true → IsConjunction clause.lead.toList
  column : IsRun clause.operator.shape.isColumnChar clause.column.toList
  keyword : clause.keyword.toList.map Char.toLower = clause.operator.keyword.toList
  operand : clause.operator.shape.IsOperand clause.operand.toList
  stops : clause.operator.shape.Stops (cs.drop place.span.stop)
  withKeyword_eq : ∀ word, clause.withKeyword word =
    clause.lead ++ clause.column ++ " " ++ word ++ " " ++ clause.operand
  withKeyword_splice : ∀ word, (clause.withKeyword word).toList =
    place.span.splice place.keywordSpan cs word.toList

/-- A clause stands where the phrase that it was read from stands. -/
theorem standsAt_of_reads {clause : Clause} {place : Placement} {cs before after : List Char}
    (hphrase : place.phrase = clause.toPhrase)
    (hop : Operator.ofKeyword? clause.keyword = some clause.operator)
    (h : place.StandsIn cs before after)
    (hreads : Phrase.Reads (place.phrase.text.toList ++ after) place.phrase after) :
    clause.StandsAt place cs := by
  have hwell := hreads.wellFormed
  have hlongest := hreads.longest_operand
  rw [hphrase] at hwell hlongest
  have hshape := Operator.shape_of_ofKeyword? hwell.keyword hop
  rw [← hshape] at hlongest
  exact {
    text := rfl
    text_slice := by rw [h.slice_span, hphrase]
    lead_slice := by rw [h.slice_leadSpan, hphrase]
    column_slice := by rw [h.slice_columnSpan, hphrase]
    keyword_slice := by rw [h.slice_keywordSpan, hphrase]
    operand_slice := by rw [h.slice_operandSpan, hphrase]
    lead_eq_empty_iff := Phrase.conjunction_eq_false_iff.symm
    lead := fun hconj => hwell.lead.resolve_left (Phrase.conjunction_eq_true_iff.mp hconj)
    column := hshape ▸ hwell.column
    keyword := Operator.ofKeyword?_eq_some_iff.mp hop
    operand := hlongest.mem
    stops := by
      rw [h.drop_stop]
      exact hlongest.stops
    withKeyword_eq := fun _ => rfl
    withKeyword_splice := fun word => by rw [h.splice_keywordSpan, hphrase] }

/-- Every clause that a query is read as stands in the query, at a place of its own, with the longest
operand that it can have there. -/
theorem scan_extent {query : String} {clauses : List Clause} (h : scan query = .ok clauses) :
    (placements query).length = clauses.length ∧
    ∀ (i : Nat) (clause : Clause) (place : Placement), clauses[i]? = some clause →
      (placements query)[i]? = some place → clause.StandsAt place query.toList := by
  have hphrases := map_phrase_placements h
  refine ⟨?_, ?_⟩
  · have hlength := congrArg List.length hphrases
    rwa [List.length_map, List.length_map] at hlength
  · intro i clause place hclause hplace
    have hat := congrArg (·[i]?) hphrases
    simp only [List.getElem?_map, hclause, hplace, Option.map_some, Option.some.injEq] at hat
    obtain ⟨before, after, hstands, hreads⟩ := exists_standsIn (List.mem_of_getElem? hplace)
    exact standsAt_of_reads hat (operator_of_scan h clause (List.mem_of_getElem? hclause)) hstands
      hreads

/-- Columns and operands that spell keywords, a list with a second closing parenthesis, and a text
search that ends with spaces. -/
theorem scan_extent_keywords :
    let query := "gt gt gt and k8s-pod NIN (a) b)\tAND  in contains gt 1 "
    let first : Clause :=
      { lead := "", shape := .comparison, column := "gt", keyword := "gt", operand := "gt",
        operator := .gt }
    let second : Clause :=
      { lead := "and ", shape := .membership, column := "k8s-pod", keyword := "NIN",
        operand := "(a) b)", operator := .notIn }
    let third : Clause :=
      { lead := "AND  ", shape := .textSearch, column := "in", keyword := "contains",
        operand := "gt 1 ", operator := .contains }
    scan query = .ok [first, second, third] ∧
    first.StandsAt ⟨0, first.toPhrase⟩ query.toList ∧ first.withKeyword ">" = "gt > gt" ∧
    second.StandsAt ⟨9, second.toPhrase⟩ query.toList ∧
    third.StandsAt ⟨32, third.toPhrase⟩ query.toList := by
  intro query first second third
  have hscan : scan query = .ok [first, second, third] := by decide +kernel
  have hplaces : placements query =
      [⟨0, first.toPhrase⟩, ⟨9, second.toPhrase⟩, ⟨32, third.toPhrase⟩] := by decide +kernel
  obtain ⟨-, hextent⟩ := scan_extent hscan
  rw [hplaces] at hextent
  have hfirst := hextent 0 first _ rfl rfl
  refine ⟨hscan, hfirst, ?_, hextent 1 second _ rfl rfl, hextent 2 third _ rfl rfl⟩
  rw [hfirst.withKeyword_eq]
  decide

end Clause

end LogFilter
