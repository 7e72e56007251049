import LogFilter.Proofs.Phrase.Language

/-!
# Recognition of phrases

The recogniser at the head of a text, characterised by the clause language. Among the clauses that
the text starts with, those with a conjunction come first; of these, or of the others if there are none,
the longest is taken.
-/

namespace LogFilter

open Text

/-! ### Execution on a text of known parts -/

/-- The recogniser of a shape, on a text with a column and a keyword of that shape. -/
theorem Shape.phrase?_parts {shape : Shape} {column keyword : List Char} (lead text : List Char)
    (hcol : IsRun shape.isColumnChar column) (hkey : shape.spells keyword = true) :
    shape.phrase? lead (column ++ ' ' :: (keyword ++ ' ' :: text)) =
      (shape.operand? text).map fun parts =>
        (⟨String.ofList lead, shape, String.ofList column, String.ofList keyword,
          String.ofList parts.1⟩, parts.2) := by
  have hspace : ¬ (shape.isColumnChar ' ' = true) := by simp [shape.isColumnChar_space]
  have hword : ∀ c ∈ keyword, (c != ' ') = true := by
    intro c hc
    rw [bne_iff_ne]
    rintro rfl
    exact Shape.space_not_mem_of_spells hkey hc
  have hne : column.isEmpty = false := List.isEmpty_eq_false_iff.mpr hcol.1
  unfold Shape.phrase?
  simp only [List.dropWhile_append_of_pos hcol.2, List.dropWhile_cons_of_neg hspace,
    List.takeWhile_append_of_pos hcol.2, List.takeWhile_cons_of_neg hspace,
    List.dropWhile_append_of_pos hword, List.takeWhile_append_of_pos hword,
    List.dropWhile_cons, List.takeWhile_cons, bne_self_eq_false, Bool.false_eq_true, if_false,
    List.append_nil, hkey, hne, Bool.not_false, Bool.and_self, if_true]
  cases shape.operand? text <;> rfl

/-- Inversion: what a recognised phrase of a shape says about the text. -/
theorem Shape.phrase?_inv {shape : Shape} {lead cs rest : List Char} {p : Phrase}
    (h : shape.phrase? lead cs = some (p, rest)) :
    ∃ column keyword text operand, cs = column ++ ' ' :: (keyword ++ ' ' :: text) ∧
      IsRun shape.isColumnChar column ∧ shape.spells keyword = true ∧
      shape.operand? text = some (operand, rest) ∧
      p = ⟨String.ofList lead, shape, String.ofList column, String.ofList keyword,
        String.ofList operand⟩ := by
  unfold Shape.phrase? at h
  split at h
  · next afterColumn hcol =>
    split at h
    · next afterKeyword hkey =>
      dsimp only at h
      split at h
      · next hcond =>
        split at h
        · next operand rest' hop =>
          cases h
          rw [Bool.and_eq_true, Bool.not_eq_true', List.isEmpty_eq_false_iff] at hcond
          refine ⟨cs.takeWhile shape.isColumnChar, afterColumn.takeWhile (· != ' '), afterKeyword,
            operand, ?_, ⟨hcond.1, ?_⟩, hcond.2, hop, rfl⟩
          · rw [← hkey, List.takeWhile_append_dropWhile, ← hcol, List.takeWhile_append_dropWhile]
          · exact fun c hc => List.all_eq_true.mp List.all_takeWhile c hc
        · cases h
      · cases h
    · cases h
  · cases h

/-- No column holds a space. -/
theorem IsRun.space_not_mem {shape : Shape} {column : List Char}
    (h : IsRun shape.isColumnChar column) : ' ' ∉ column := by
  intro hmem
  have hc := h.2 ' ' hmem
  rw [shape.isColumnChar_space] at hc
  cases hc

/-- Only the shape that the keyword belongs to is recognised. -/
theorem Shape.phrase?_eq_none {shape shape' : Shape} {column keyword : List Char}
    (lead text : List Char) (hcol : IsRun shape.isColumnChar column)
    (hkey : shape.spells keyword = true) (hne : shape' ≠ shape) :
    shape'.phrase? lead (column ++ ' ' :: (keyword ++ ' ' :: text)) = none := by
  cases h : shape'.phrase? lead (column ++ ' ' :: (keyword ++ ' ' :: text)) with
  | none => rfl
  | some result =>
    obtain ⟨column', keyword', text', operand, hcs, hcol', hkey', -⟩ := Shape.phrase?_inv h
    have hafter := (cut_unique hcol.space_not_mem hcol'.space_not_mem hcs).2
    obtain ⟨rfl, -⟩ := cut_unique (Shape.space_not_mem_of_spells hkey)
      (Shape.space_not_mem_of_spells hkey') hafter
    exact absurd (Shape.spells_unique hkey' hkey) hne

namespace Phrase

/-- Recognition after a conjunction, on a text with a column and a keyword of one shape. -/
theorem afterLead?_parts {shape : Shape} {column keyword : List Char} (lead text : List Char)
    (hcol : IsRun shape.isColumnChar column) (hkey : shape.spells keyword = true) :
    afterLead? lead (column ++ ' ' :: (keyword ++ ' ' :: text)) =
      (shape.operand? text).map fun parts =>
        (⟨String.ofList lead, shape, String.ofList column, String.ofList keyword,
          String.ofList parts.1⟩, parts.2) := by
  have hother {shape' : Shape} (hne : shape' ≠ shape) :=
    Shape.phrase?_eq_none lead text hcol hkey hne
  unfold afterLead? Shape.all
  simp only [List.findSome?_cons, List.findSome?_nil]
  cases shape with
  | membership =>
    rw [Shape.phrase?_parts lead text hcol hkey, hother (by decide), hother (by decide)]
    cases Shape.membership.operand? text <;> rfl
  | comparison =>
    rw [hother (by decide), Shape.phrase?_parts lead text hcol hkey, hother (by decide)]
    cases Shape.comparison.operand? text <;> rfl
  | textSearch =>
    rw [hother (by decide), hother (by decide), Shape.phrase?_parts lead text hcol hkey]
    cases Shape.textSearch.operand? text <;> rfl

/-- A phrase recognised after a conjunction is well formed. -/
theorem wellFormed_of_afterLead? {lead cs rest : List Char} {p : Phrase}
    (hlead : lead = [] ∨ IsConjunction lead) (h : afterLead? lead cs = some (p, rest)) :
    p.WellFormed ∧ p.lead.toList = lead := by
  obtain ⟨shape, -, hs⟩ := List.exists_of_findSome?_eq_some h
  obtain ⟨column, keyword, text, operand, -, hcol, hkey, hop, rfl⟩ := Shape.phrase?_inv hs
  have hoperand := (shape.findsLongest_operand?.sound hop).mem
  refine ⟨⟨?_, ?_, ?_, ?_⟩, String.toList_ofList⟩
  · rcases hlead with rfl | hlead
    · exact .inl String.ofList_nil
    · right
      rwa [String.toList_ofList]
  · rwa [String.toList_ofList]
  · rwa [String.toList_ofList]
  · rwa [String.toList_ofList]

/-- A recognised phrase is well formed. -/
theorem wellFormed_of_atHead? {cs rest : List Char} {p : Phrase}
    (h : atHead? cs = some (p, rest)) : p.WellFormed := by
  rcases Option.or_eq_some_iff.mp h with h | ⟨-, h⟩
  · obtain ⟨⟨lead, tail⟩, hlead, h⟩ := Option.bind_eq_some_iff.mp h
    exact (wellFormed_of_afterLead? (.inr (findsLongest_conjunction?.sound hlead).mem) h).1
  · exact (wellFormed_of_afterLead? (.inl rfl) h).1

/-! ### Completeness -/

/-- After a conjunction, the body of a well-formed phrase is recognised with the longest operand. -/
theorem afterLead?_body {q : Phrase} (hq : q.WellFormed) (lead tail : List Char) :
    ∃ operand rest, afterLead? lead (q.body ++ tail) =
        some ({ q with lead := String.ofList lead, operand := String.ofList operand }, rest) ∧
      Longest q.shape.IsOperand (q.operand.toList ++ tail) operand rest := by
  have hsome : (q.shape.operand? (q.operand.toList ++ tail)).isSome = true :=
    q.shape.findsLongest_operand?.complete hq.operand
  obtain ⟨⟨operand, rest⟩, hop⟩ := Option.isSome_iff_exists.mp hsome
  refine ⟨operand, rest, ?_, q.shape.findsLongest_operand?.sound hop⟩
  have hparts := afterLead?_parts lead (q.operand.toList ++ tail) hq.column hq.keyword
  rw [hop] at hparts
  simpa [body] using hparts

/-- A phrase starts with a conjunction exactly when its lead is not empty. -/
theorem conjunction_eq_true_iff {p : Phrase} : p.conjunction = true ↔ p.lead ≠ "" := by
  simp [conjunction]

/-- A phrase starts with no conjunction exactly when its lead is empty. -/
theorem conjunction_eq_false_iff {p : Phrase} : p.conjunction = false ↔ p.lead = "" := by
  simp [conjunction]

/-- No space stands between the conjunction and the column. -/
theorem WellFormed.head?_body {q : Phrase} (hq : q.WellFormed) (tail : List Char) :
    (q.body ++ tail).head? ≠ some ' ' := by
  obtain ⟨c, column, hcol⟩ := List.exists_cons_of_ne_nil hq.column.1
  intro hhead
  rw [body, hcol] at hhead
  apply hq.column.space_not_mem
  rw [hcol, ← Option.some.inj hhead]
  exact List.mem_cons_self

/-- A well-formed phrase with a conjunction is recognised, with the longest operand. -/
theorem atHead?_of_conjunction {q : Phrase} (hq : q.WellFormed) (hconj : q.conjunction = true)
    (tail : List Char) :
    ∃ operand rest, atHead? (q.text.toList ++ tail) =
        some ({ q with operand := String.ofList operand }, rest) ∧
      Longest q.shape.IsOperand (q.operand.toList ++ tail) operand rest := by
  have hlead := hq.lead.resolve_left (conjunction_eq_true_iff.mp hconj)
  have hsplit := findsLongest_conjunction?.eq_some_iff.mpr (hlead.longest (hq.head?_body tail))
  obtain ⟨operand, rest, hafter, hlong⟩ := afterLead?_body hq q.lead.toList tail
  refine ⟨operand, rest, ?_, hlong⟩
  rw [String.ofList_toList] at hafter
  rw [toList_text, List.append_assoc, atHead?, hsplit, Option.bind_some]
  dsimp only
  rw [hafter, Option.some_or]

/-- A well-formed phrase without a conjunction is recognised, with the longest operand, unless a
phrase with a conjunction is. -/
theorem atHead?_of_no_conjunction {q : Phrase} (hq : q.WellFormed) (hconj : q.conjunction = false)
    (tail : List Char) :
    ∃ p rest, atHead? (q.text.toList ++ tail) = some (p, rest) ∧
      (p.conjunction = true ∨ ∃ operand, p = { q with operand := String.ofList operand } ∧
        Longest q.shape.IsOperand (q.operand.toList ++ tail) operand rest) := by
  have hlead := conjunction_eq_false_iff.mp hconj
  obtain ⟨operand, rest, hafter, hlong⟩ := afterLead?_body hq [] tail
  rw [String.ofList_nil, ← hlead] at hafter
  have htext : q.text.toList = q.body := by
    rw [toList_text, hlead, String.toList_empty, List.nil_append]
  rw [htext, atHead?, hafter]
  cases hsplit : conjunction? (q.body ++ tail) with
  | none => exact ⟨_, rest, rfl, .inr ⟨operand, rfl, hlong⟩⟩
  | some parts =>
    obtain ⟨lead, text⟩ := parts
    rw [Option.bind_some]
    dsimp only
    cases hwith : afterLead? lead text with
    | none => exact ⟨_, rest, rfl, .inr ⟨operand, rfl, hlong⟩⟩
    | some result =>
      obtain ⟨p, rest'⟩ := result
      refine ⟨p, rest', rfl, .inl ?_⟩
      have hmem := (findsLongest_conjunction?.sound hsplit).mem
      have hp := (wellFormed_of_afterLead? (.inr hmem) hwith).2
      rw [conjunction_eq_true_iff]
      intro hempty
      obtain ⟨word, spaces, -, rfl⟩ := hmem
      rw [hempty, List.replicate_succ'] at hp
      simp at hp

/-- A phrase is read back from its text if its operand is the longest there and if its column, where
no conjunction stands before it, is not the word `and`. -/
theorem atHead?_text {p : Phrase} {rest : List Char} (hp : p.WellFormed)
    (hlong : Longest p.shape.IsOperand (p.operand.toList ++ rest) p.operand.toList rest)
    (hfirst : p.conjunction = true ∨ ¬ IsAndWord p.column.toList) :
    atHead? (p.text.toList ++ rest) = some (p, rest) := by
  cases hconj : p.conjunction with
  | true =>
    obtain ⟨operand, rest', h, hlong'⟩ := atHead?_of_conjunction hp hconj rest
    obtain ⟨rfl, rfl⟩ := hlong.unique hlong'
    rw [h, String.ofList_toList]
  | false =>
    obtain ⟨q, rest', h, hq⟩ := atHead?_of_no_conjunction hp hconj rest
    rcases hq with hq | ⟨operand, rfl, hlong'⟩
    · -- A conjunction at the head would be the column.
      have hlead := (wellFormed_of_atHead? h).lead.resolve_left (conjunction_eq_true_iff.mp hq)
      obtain ⟨word, spaces, hword, hlead⟩ := hlead
      have htext := atHead?_eq_some h
      rw [toList_text, toList_text, hlead, conjunction_eq_false_iff.mp hconj, String.toList_empty,
        List.nil_append, body, List.replicate_succ, List.append_assoc, List.append_assoc,
        List.append_assoc, List.cons_append, List.cons_append] at htext
      have hcol := (cut_unique hp.column.space_not_mem hword.space_not_mem htext).1
      rw [hconj, hcol] at hfirst
      exact absurd hword (hfirst.resolve_left Bool.false_ne_true)
    · obtain ⟨rfl, rfl⟩ := hlong.unique hlong'
      rw [h, String.ofList_toList]

/-- The clause that a text starts with: one with a conjunction if there is any such, and of these or
of those without a conjunction the longest. -/
structure Reads (cs : List Char) (p : Phrase) (rest : List Char) : Prop where
  wellFormed : p.WellFormed
  text : cs = p.text.toList ++ rest
  conjunction : ∀ (q : Phrase) tail, q.WellFormed → cs = q.text.toList ++ tail →
    q.conjunction = true → p.conjunction = true
  longest : ∀ (q : Phrase) tail, q.WellFormed → cs = q.text.toList ++ tail →
    q.conjunction = p.conjunction → q.text.toList.length ≤ p.text.toList.length

private theorem length_text_le {q : Phrase} {operand rest tail : List Char}
    (h : Longest q.shape.IsOperand (q.operand.toList ++ tail) operand rest) (hq : q.WellFormed) :
    q.text.toList.length ≤
      ({ q with operand := String.ofList operand } : Phrase).text.toList.length := by
  have hle := h.length_le _ tail rfl hq.operand
  simp only [toList_text, body, String.toList_ofList, List.length_append, List.length_cons]
  omega

/-- What the recogniser returns is the clause that the text starts with. -/
theorem reads_of_atHead? {cs rest : List Char} {p : Phrase}
    (h : atHead? cs = some (p, rest)) : Reads cs p rest := by
  refine ⟨wellFormed_of_atHead? h, atHead?_eq_some h, ?_, ?_⟩
  · intro q tail hq hcs hconj
    obtain ⟨operand, rest', hq', -⟩ := atHead?_of_conjunction hq hconj tail
    rw [← hcs, h] at hq'
    cases hq'
    exact hconj
  · intro q tail hq hcs hsame
    cases hconj : q.conjunction with
    | true =>
      obtain ⟨operand, rest', hq', hlong⟩ := atHead?_of_conjunction hq hconj tail
      rw [← hcs, h] at hq'
      cases hq'
      exact length_text_le hlong hq
    | false =>
      obtain ⟨p', rest', hq', hp'⟩ := atHead?_of_no_conjunction hq hconj tail
      rw [← hcs, h] at hq'
      cases hq'
      rcases hp' with hp' | ⟨operand, rfl, hlong⟩
      · rw [← hsame, hconj] at hp'
        cases hp'
      · exact length_text_le hlong hq

/-- A text that starts with a clause is recognised. -/
theorem isSome_atHead? {q : Phrase} (hq : q.WellFormed) (tail : List Char) :
    (atHead? (q.text.toList ++ tail)).isSome = true := by
  cases hconj : q.conjunction with
  | true =>
    obtain ⟨operand, rest, h, -⟩ := atHead?_of_conjunction hq hconj tail
    rw [h, Option.isSome_some]
  | false =>
    obtain ⟨p, rest, h, -⟩ := atHead?_of_no_conjunction hq hconj tail
    rw [h, Option.isSome_some]

/-- Exactly the clause that the text starts with is recognised. -/
theorem atHead?_eq_some_iff_reads {cs rest : List Char} {p : Phrase} :
    atHead? cs = some (p, rest) ↔ Reads cs p rest := by
  constructor
  · exact reads_of_atHead?
  · intro hr
    have hsome := isSome_atHead? hr.wellFormed rest
    rw [← hr.text] at hsome
    obtain ⟨⟨p', rest'⟩, h⟩ := Option.isSome_iff_exists.mp hsome
    have hr' := reads_of_atHead? h
    have hconj : p.conjunction = p'.conjunction := by
      rw [Bool.eq_iff_iff]
      constructor
      · exact hr'.conjunction p rest hr.wellFormed hr.text
      · exact hr.conjunction p' rest' hr'.wellFormed hr'.text
    have hle := hr.longest p' rest' hr'.wellFormed hr'.text hconj.symm
    have hge := hr'.longest p rest hr.wellFormed hr.text hconj
    obtain ⟨htext, rfl⟩ := List.append_inj (hr.text.symm.trans hr'.text) (by omega)
    obtain ⟨operand, rfl⟩ : ∃ operand, p' = { p with operand := String.ofList operand } := by
      cases hc : p.conjunction with
      | true =>
        obtain ⟨operand, rest', hq, -⟩ := atHead?_of_conjunction hr.wellFormed hc rest
        rw [← hr.text, h] at hq
        exact ⟨operand, congrArg Prod.fst (Option.some.inj hq)⟩
      | false =>
        obtain ⟨q, rest', hq, hor⟩ := atHead?_of_no_conjunction hr.wellFormed hc rest
        rw [← hr.text, h] at hq
        cases hq
        rcases hor with hor | ⟨operand, rfl, -⟩
        · rw [← hconj, hc] at hor
          cases hor
        · exact ⟨operand, rfl⟩
    simp only [toList_text, body, String.toList_ofList, List.append_cancel_left_eq,
      List.cons.injEq, true_and] at htext
    rw [h, ← htext, String.ofList_toList]

/-- A text without a recognised phrase starts with no clause. -/
theorem atHead?_eq_none_iff {cs : List Char} :
    atHead? cs = none ↔ ∀ clause rest, cs = clause ++ rest → ¬ IsClause clause := by
  constructor
  · rintro h clause rest rfl ⟨q, hq, rfl⟩
    have hsome := isSome_atHead? hq rest
    rw [h] at hsome
    cases hsome
  · intro h
    cases hp : atHead? cs with
    | none => rfl
    | some result =>
      exact absurd (wellFormed_of_atHead? hp).isClause (h _ _ (atHead?_eq_some hp))

end Phrase

end LogFilter
