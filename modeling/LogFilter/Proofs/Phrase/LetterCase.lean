import LogFilter.Proofs.Phrase.Recognition

/-!
# Phrases and the case of letters

Lowercasing the ASCII letters of a text changes no class that phrases are made of: columns, keywords,
conjunctions and operands stay what they are, and nothing becomes one of them. The phrase at the head of a
lowercased text is therefore the lowercased phrase at the head of the text.
-/

namespace LogFilter

open Text

/-! ### Characters -/

/-- Lowercasing makes no letter into another character. -/
theorem toLower_eq_iff {c x : Char} (hx : x.isAlpha = false) : c.toLower = x ↔ c = x := by
  cases hc : c.isUpper with
  | false => rw [toLower_eq_self_iff.mpr hc]
  | true =>
    have hascii : c.toNat < 128 := by
      by_cases hlt : c.toNat < 128
      · exact hlt
      · have hself := toLower_eq_self_iff.mp (toLower_of_ge (c := c) (by omega))
        rw [hself] at hc
        cases hc
    have hletters : c.isUpper = true → c.isAlpha = true ∧ c.toLower.isAlpha = true :=
      ascii_cases c hascii (by decide +kernel)
    obtain ⟨halpha, hlower⟩ := hletters hc
    apply iff_of_false
    · rintro rfl
      rw [hlower] at hx
      cases hx
    · rintro rfl
      rw [halpha] at hx
      cases hx

private theorem Shape.isColumnChar_toLower (shape : Shape) (c : Char) :
    shape.isColumnChar c.toLower = shape.isColumnChar c := by
  by_cases h : c.toNat < 128
  · cases shape <;> exact ascii_cases c h (by decide +kernel)
  · rw [toLower_of_ge (by omega)]

private theorem isInline_toLower (c : Char) : isInline c.toLower = isInline c := by
  by_cases h : c.toNat < 128
  · exact ascii_cases c h (by decide +kernel)
  · rw [toLower_of_ge (by omega)]

private theorem foldLetter_toLower (c : Char) : foldLetter c.toLower = foldLetter c := by
  by_cases h : c.toNat < 128
  · exact ascii_cases c h (by decide +kernel)
  · rw [toLower_of_ge (by omega)]

/-! ### Parts of phrases -/

private theorem isRun_map_toLower_iff {p : Char → Bool} (hp : ∀ c, p c.toLower = p c)
    {cs : List Char} :
    IsRun p (cs.map Char.toLower) ↔ IsRun p cs := by
  unfold IsRun
  simp only [Ne, List.map_eq_nil_iff, List.forall_mem_map, hp]

private theorem isAndWord_map_toLower_iff {word : List Char} :
    IsAndWord (word.map Char.toLower) ↔ IsAndWord word := by
  have htwice : Char.toLower ∘ Char.toLower = Char.toLower := funext toLower_toLower
  rw [IsAndWord, IsAndWord, List.map_map, htwice]

private theorem map_toLower_eq_replicate_iff {cs : List Char} {n : Nat} :
    cs.map Char.toLower = List.replicate n ' ' ↔ cs = List.replicate n ' ' := by
  rw [List.eq_replicate_iff, List.eq_replicate_iff, List.length_map, List.forall_mem_map]
  simp only [toLower_eq_iff (x := ' ') (by decide)]

private theorem isConjunction_map_toLower_iff {lead : List Char} :
    IsConjunction (lead.map Char.toLower) ↔ IsConjunction lead := by
  constructor
  · rintro ⟨word, spaces, hword, hlead⟩
    obtain ⟨word', tail, rfl, rfl, htail⟩ := List.map_eq_append_iff.mp hlead
    rw [map_toLower_eq_replicate_iff] at htail
    exact ⟨word', spaces, isAndWord_map_toLower_iff.mp hword, by rw [htail]⟩
  · rintro ⟨word, spaces, hword, rfl⟩
    refine ⟨word.map Char.toLower, spaces, isAndWord_map_toLower_iff.mpr hword, ?_⟩
    rw [List.map_append, map_toLower_eq_replicate_iff.mpr rfl]

private theorem Shape.spells_map_toLower (shape : Shape) (word : List Char) :
    shape.spells (word.map Char.toLower) = shape.spells word := by
  have hfold : foldLetter ∘ Char.toLower = foldLetter := funext foldLetter_toLower
  rw [spells, spells, List.map_map, hfold]

private theorem Shape.isOperand_map_toLower_iff {shape : Shape} {operand : List Char} :
    shape.IsOperand (operand.map Char.toLower) ↔ shape.IsOperand operand := by
  cases shape with
  | membership =>
    constructor
    · rintro ⟨inside, hinside, htext⟩
      obtain ⟨opening, tail, rfl, hopening, htail⟩ := List.map_eq_cons_iff.mp htext
      obtain ⟨inside', closing, rfl, rfl, hclosing⟩ := List.map_eq_append_iff.mp htail
      obtain ⟨last, rfl, hlast⟩ := List.map_eq_singleton_iff.mp hclosing
      rw [toLower_eq_iff (by decide)] at hopening hlast
      rw [isRun_map_toLower_iff isInline_toLower] at hinside
      exact ⟨inside', hinside, by rw [hopening, hlast]⟩
    · rintro ⟨inside, hinside, rfl⟩
      refine ⟨inside.map Char.toLower, (isRun_map_toLower_iff isInline_toLower).mpr hinside, ?_⟩
      rw [List.map_cons, List.map_append]
      rfl
  | comparison => exact isRun_map_toLower_iff fun c => by rw [isBlank_toLower]
  | textSearch => exact isRun_map_toLower_iff isInline_toLower

/-! ### Phrases -/

/-- Lowering ASCII letters keeps the length. -/
theorem length_toLower (s : String) : s.toLower.length = s.length := by
  rw [← String.length_toList, toList_toLower, List.length_map, String.length_toList]

private theorem ofList_map_toLower (cs : List Char) :
    String.ofList (cs.map Char.toLower) = (String.ofList cs).toLower := by
  rw [← String.toList_inj, toList_toLower, String.toList_ofList, String.toList_ofList]

private theorem toLower_eq_empty_iff {s : String} : s.toLower = "" ↔ s = "" := by
  rw [← String.toList_inj, toList_toLower, ← String.toList_inj, String.toList_empty,
    List.map_eq_nil_iff]

namespace Phrase

/-- The phrase with all its ASCII letters in lower case. -/
def lower (p : Phrase) : Phrase where
  lead := p.lead.toLower
  shape := p.shape
  column := p.column.toLower
  keyword := p.keyword.toLower
  operand := p.operand.toLower

private theorem toList_text_lower (p : Phrase) :
    p.lower.text.toList = p.text.toList.map Char.toLower := by
  have hspace : ' '.toLower = ' ' := by decide
  simp only [toList_text, body, lower, toList_toLower, List.map_append, List.map_cons, hspace]

/-- A phrase in lower case is as long as the phrase. -/
theorem length_text_lower (p : Phrase) : p.lower.text.length = p.text.length := by
  rw [← String.length_toList, toList_text_lower, List.length_map, String.length_toList]

/-- A phrase in lower case has a conjunction exactly when the phrase has one. -/
theorem conjunction_lower (p : Phrase) : p.lower.conjunction = p.conjunction := by
  rw [Bool.eq_iff_iff, conjunction_eq_true_iff, conjunction_eq_true_iff]
  exact not_congr toLower_eq_empty_iff

/-- A phrase in lower case is well formed exactly when the phrase is. -/
theorem wellFormed_lower_iff {p : Phrase} : p.lower.WellFormed ↔ p.WellFormed := by
  have hlead : p.lower.lead = "" ∨ IsConjunction p.lower.lead.toList ↔
      p.lead = "" ∨ IsConjunction p.lead.toList := by
    rw [lower, toLower_eq_empty_iff, toList_toLower, isConjunction_map_toLower_iff]
  have hcolumn : IsRun p.lower.shape.isColumnChar p.lower.column.toList ↔
      IsRun p.shape.isColumnChar p.column.toList := by
    rw [lower, toList_toLower]
    exact isRun_map_toLower_iff p.shape.isColumnChar_toLower
  have hkeyword : p.lower.shape.spells p.lower.keyword.toList = p.shape.spells p.keyword.toList := by
    rw [lower, toList_toLower, Shape.spells_map_toLower]
  have hoperand : p.lower.shape.IsOperand p.lower.operand.toList ↔
      p.shape.IsOperand p.operand.toList := by
    rw [lower, toList_toLower, Shape.isOperand_map_toLower_iff]
  constructor
  · intro h
    exact ⟨hlead.mp h.lead, hcolumn.mp h.column, hkeyword ▸ h.keyword, hoperand.mp h.operand⟩
  · intro h
    exact ⟨hlead.mpr h.lead, hcolumn.mpr h.column, hkeyword.symm ▸ h.keyword,
      hoperand.mpr h.operand⟩

/-- A phrase in a lowercased text is a lowercased phrase of the text. -/
theorem exists_lower_of_text {cs tail : List Char} {q : Phrase}
    (h : cs.map Char.toLower = q.text.toList ++ tail) :
    ∃ (p : Phrase) (tail' : List Char), cs = p.text.toList ++ tail' ∧ p.lower = q := by
  have hspace (c : Char) : c.toLower = ' ' ↔ c = ' ' := toLower_eq_iff (by decide)
  rw [toList_text, body] at h
  obtain ⟨front, tail', rfl, hfront, -⟩ := List.map_eq_append_iff.mp h
  obtain ⟨lead, rest, rfl, hlead, hrest⟩ := List.map_eq_append_iff.mp hfront
  obtain ⟨column, rest, rfl, hcolumn, hrest⟩ := List.map_eq_append_iff.mp hrest
  obtain ⟨space, rest, rfl, hfirst, hrest⟩ := List.map_eq_cons_iff.mp hrest
  obtain ⟨keyword, rest, rfl, hkeyword, hrest⟩ := List.map_eq_append_iff.mp hrest
  obtain ⟨space', operand, rfl, hsecond, hoperand⟩ := List.map_eq_cons_iff.mp hrest
  rw [hspace] at hfirst hsecond
  subst hfirst hsecond
  refine ⟨⟨String.ofList lead, q.shape, String.ofList column, String.ofList keyword,
    String.ofList operand⟩, tail', ?_, ?_⟩
  · simp only [toList_text, body, String.toList_ofList]
  · simp only [lower, ← ofList_map_toLower, hlead, hcolumn, hkeyword, hoperand,
      String.ofList_toList]

/-- The phrase that a lowercased text starts with is the lowercased phrase that the text starts
with. -/
theorem Reads.lower {cs rest : List Char} {p : Phrase} (h : Reads cs p rest) :
    Reads (cs.map Char.toLower) p.lower (rest.map Char.toLower) where
  wellFormed := wellFormed_lower_iff.mpr h.wellFormed
  text := by rw [h.text, List.map_append, toList_text_lower]
  conjunction := by
    intro q tail hq htext hconj
    obtain ⟨q', tail', hcs, rfl⟩ := exists_lower_of_text htext
    rw [conjunction_lower] at hconj ⊢
    exact h.conjunction q' tail' (wellFormed_lower_iff.mp hq) hcs hconj
  longest := by
    intro q tail hq htext hsame
    obtain ⟨q', tail', hcs, rfl⟩ := exists_lower_of_text htext
    rw [conjunction_lower, conjunction_lower] at hsame
    rw [toList_text_lower, toList_text_lower, List.length_map, List.length_map]
    exact h.longest q' tail' (wellFormed_lower_iff.mp hq) hcs hsame

/-- A recognised phrase is recognised in lower case. -/
theorem atHead?_lower_of_some {cs rest : List Char} {p : Phrase}
    (h : atHead? cs = some (p, rest)) :
    atHead? (cs.map Char.toLower) = some (p.lower, rest.map Char.toLower) :=
  atHead?_eq_some_iff_reads.mpr (reads_of_atHead? h).lower

/-- Where no phrase is recognised, none is in lower case. -/
theorem atHead?_lower_of_none {cs : List Char} (h : atHead? cs = none) :
    atHead? (cs.map Char.toLower) = none := by
  rw [atHead?_eq_none_iff] at h ⊢
  rintro clause rest htext ⟨q, hq, rfl⟩
  obtain ⟨p, rest', hcs, rfl⟩ := exists_lower_of_text htext
  exact h _ rest' hcs (wellFormed_lower_iff.mp hq).isClause

end Phrase

end LogFilter
