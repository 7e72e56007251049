import LogFilter.Proofs.Text.Ascii
import LogFilter.Proofs.Text.Longest

/-!
# The clause language

Which texts are clauses, said without the recogniser: an optional conjunction, a column, a keyword
and an operand of one of the three shapes. The recognisers of conjunctions and of operands split off the
longest text of their kind.
-/

namespace LogFilter

open Text

/-- The word `and`, in any case. -/
def IsAndWord (word : List Char) : Prop := word.map Char.toLower = ['a', 'n', 'd']

instance (word : List Char) : Decidable (IsAndWord word) := inferInstanceAs (Decidable (_ = _))

/-- A conjunction: the word `and` in any case, and one or more spaces. -/
def IsConjunction (cs : List Char) : Prop :=
  ∃ word spaces, IsAndWord word ∧ cs = word ++ List.replicate (spaces + 1) ' '

/-- The operands of a shape. A membership has something between parentheses, a comparison a run
without blanks, a text search a run on one line. -/
def Shape.IsOperand : Shape → List Char → Prop
  | .membership, cs => ∃ inside, IsRun isInline inside ∧ cs = '(' :: (inside ++ [')'])
  | .comparison, cs => IsRun (fun c => !isBlank c) cs
  | .textSearch, cs => IsRun isInline cs

namespace Phrase

/-- The parts of the phrase are what they are called. -/
structure WellFormed (p : Phrase) : Prop where
  lead : p.lead = "" ∨ IsConjunction p.lead.toList
  column : IsRun p.shape.isColumnChar p.column.toList
  keyword : p.shape.spells p.keyword.toList = true
  operand : p.shape.IsOperand p.operand.toList

/-- The text of the phrase after its conjunction. -/
def body (p : Phrase) : List Char :=
  p.column.toList ++ ' ' :: (p.keyword.toList ++ ' ' :: p.operand.toList)

/-- The text of a phrase is its conjunction and its body. -/
theorem toList_text (p : Phrase) : p.text.toList = p.lead.toList ++ p.body := by
  have hspace : " ".toList = [' '] := by decide
  simp [text, withKeyword, body, hspace]

end Phrase

/-- The text is a clause. -/
def IsClause (cs : List Char) : Prop := ∃ p : Phrase, p.WellFormed ∧ p.text.toList = cs

/-- The text of a well-formed phrase is a clause. -/
theorem Phrase.WellFormed.isClause {p : Phrase} (h : p.WellFormed) : IsClause p.text.toList :=
  ⟨p, h, rfl⟩

/-! ### Spaces -/

/-- The space is blank. -/
theorem isBlank_space : isBlank ' ' = true := by decide

/-- A line ends at exactly the blanks other than the space. -/
theorem isInline_eq_false_iff {c : Char} : isInline c = false ↔ isBlank c = true ∧ c ≠ ' ' := by
  rw [isInline, Bool.or_eq_false_iff, beq_eq_false_iff_ne, Bool.not_eq_false', and_comm]

/-- A character that is not blank does not end a line. -/
theorem isInline_of_isBlank_eq_false {c : Char} (h : isBlank c = false) : isInline c = true := by
  rw [isInline, h, Bool.not_false, Bool.or_true]

/-- The space ends a column name. -/
theorem Shape.isColumnChar_space (shape : Shape) : shape.isColumnChar ' ' = false := by
  cases shape <;> decide

/-- Column names are ASCII. -/
theorem Shape.toNat_lt_of_isColumnChar {shape : Shape} {c : Char}
    (h : shape.isColumnChar c = true) : c.toNat < 128 := by
  delta Shape.isColumnChar Char.isAlphanum Char.isAlpha Char.isUpper Char.isLower Char.isDigit at h
  simp only [Bool.or_eq_true, Bool.and_eq_true, decide_eq_true_eq, beq_iff_eq] at h
  rcases h with ((((h | h) | h) | rfl) | rfl) | ⟨rfl, -⟩
  · exact Nat.lt_of_le_of_lt (UInt32.le_iff_toNat_le.mp h.2) (by decide)
  · exact Nat.lt_of_le_of_lt (UInt32.le_iff_toNat_le.mp h.2) (by decide)
  · exact Nat.lt_of_le_of_lt (UInt32.le_iff_toNat_le.mp h.2) (by decide)
  · decide
  · decide
  · decide

/-! ### Keywords -/

namespace Operator

/-- Two operators do not share a keyword. -/
theorem keyword_injective {op op' : Operator} (h : op.keyword = op'.keyword) : op = op' := by
  have hof := ofKeyword?_keyword op
  rw [h, ofKeyword?_keyword op'] at hof
  exact (Option.some.inj hof).symm

/-- Exactly the words that differ from the keyword in the case of letters name the operator. -/
theorem ofKeyword?_eq_some_iff {word : String} {op : Operator} :
    ofKeyword? word = some op ↔ word.toList.map Char.toLower = op.keyword.toList := by
  constructor
  · intro h
    have heq := List.find?_some h
    exact (beq_iff_eq.mp heq).symm
  · intro h
    have hsome : (ofKeyword? word).isSome = true := by
      rw [ofKeyword?, List.find?_isSome]
      exact ⟨op, mem_all op, by rw [h, beq_self_eq_true]⟩
    obtain ⟨op', hop'⟩ := Option.isSome_iff_exists.mp hsome
    have heq := List.find?_some hop'
    rw [h, beq_iff_eq, String.toList_inj] at heq
    rw [hop', keyword_injective heq]

/-- Keywords are ASCII. -/
theorem isAscii_keyword (op : Operator) : IsAscii op.keyword.toList := by
  cases op <;> decide

end Operator

namespace Shape

/-- The keywords of a shape, with the long s counted as an s. -/
theorem spells_iff {shape : Shape} {word : List Char} :
    shape.spells word = true ↔
      ∃ op : Operator, op.shape = shape ∧ word.map foldLetter = op.keyword.toList := by
  simp only [spells, List.any_eq_true, Bool.and_eq_true, beq_iff_eq]
  constructor
  · rintro ⟨op, -, hshape, hop⟩
    exact ⟨op, hshape, hop.symm⟩
  · rintro ⟨op, hshape, hop⟩
    exact ⟨op, op.mem_all, hshape, hop.symm⟩

/-- Two shapes do not share a keyword. -/
theorem spells_unique {shape shape' : Shape} {word : List Char}
    (h : shape.spells word = true) (h' : shape'.spells word = true) : shape = shape' := by
  obtain ⟨op, rfl, hop⟩ := spells_iff.mp h
  obtain ⟨op', rfl, hop'⟩ := spells_iff.mp h'
  rw [Operator.keyword_injective (String.toList_injective (hop.symm.trans hop'))]

/-- No keyword holds a space. -/
theorem space_not_mem_of_spells {shape : Shape} {word : List Char}
    (h : shape.spells word = true) : ' ' ∉ word := by
  obtain ⟨op, -, hop⟩ := spells_iff.mp h
  intro hmem
  have hspace : ' ' ∈ op.keyword.toList := by
    rw [← hop]
    exact List.mem_map.mpr ⟨' ', hmem, by decide⟩
  revert hspace
  cases op <;> decide

end Shape

/-- The long s is not ASCII. -/
theorem Text.IsAscii.longS_not_mem {word : List Char} (h : IsAscii word) : 'ſ' ∉ word := by
  intro hmem
  have hlt := h 'ſ' hmem
  revert hlt
  decide

/-- Without a long s only the case of letters counts. -/
theorem map_foldLetter {word : List Char} (h : 'ſ' ∉ word) :
    word.map foldLetter = word.map Char.toLower := by
  apply List.map_congr_left
  intro c hc
  have hlong : c ≠ 'ſ' := by
    rintro rfl
    exact h hc
  rw [foldLetter, if_neg hlong]

/-- A keyword of a shape names an operator exactly when it is ASCII. -/
theorem isAscii_iff_ofKeyword? {shape : Shape} {word : String}
    (h : shape.spells word.toList = true) :
    IsAscii word.toList ↔ ∃ op, Operator.ofKeyword? word = some op := by
  constructor
  · intro hascii
    obtain ⟨op, -, hop⟩ := Shape.spells_iff.mp h
    rw [map_foldLetter hascii.longS_not_mem] at hop
    exact ⟨op, Operator.ofKeyword?_eq_some_iff.mpr hop⟩
  · rintro ⟨op, hop⟩
    apply isAscii_of_map_toLower
    rw [Operator.ofKeyword?_eq_some_iff.mp hop]
    exact op.isAscii_keyword

/-- A keyword of a shape is ASCII exactly when it has no long s. -/
theorem isAscii_iff_longS_not_mem {shape : Shape} {word : List Char}
    (h : shape.spells word = true) : IsAscii word ↔ 'ſ' ∉ word := by
  constructor
  · exact fun hascii => hascii.longS_not_mem
  · intro hlong
    obtain ⟨op, -, hop⟩ := Shape.spells_iff.mp h
    apply isAscii_of_map_toLower
    rw [← map_foldLetter hlong, hop]
    exact op.isAscii_keyword

/-- The operator that a keyword of a shape names is of this shape. -/
theorem Operator.shape_of_ofKeyword? {shape : Shape} {word : String} {op : Operator}
    (h : shape.spells word.toList = true) (hop : ofKeyword? word = some op) : op.shape = shape := by
  have hascii : IsAscii word.toList := (isAscii_iff_ofKeyword? h).mpr ⟨op, hop⟩
  have hspells : op.shape.spells word.toList = true := by
    rw [Shape.spells_iff]
    exact ⟨op, rfl, by rw [map_foldLetter hascii.longS_not_mem, ofKeyword?_eq_some_iff.mp hop]⟩
  exact Shape.spells_unique hspells h

/-! ### The longest conjunction -/

/-- The word `and` has three letters. -/
theorem IsAndWord.eq_letters {word : List Char} (h : IsAndWord word) :
    ∃ a n d, word = [a, n, d] := by
  have hlen := congrArg List.length h
  rw [List.length_map] at hlen
  match word, hlen with
  | [a, n, d], _ => exact ⟨a, n, d, rfl⟩

/-- The word `and` holds no space. -/
theorem IsAndWord.space_not_mem {word : List Char} (h : IsAndWord word) : ' ' ∉ word := by
  intro hmem
  have hspace : ' '.toLower ∈ word.map Char.toLower := List.mem_map_of_mem hmem
  rw [h] at hspace
  revert hspace
  decide

/-- A conjunction that no space follows is the longest. -/
theorem IsConjunction.longest {lead rest : List Char} (h : IsConjunction lead)
    (hstop : rest.head? ≠ some ' ') : Longest IsConjunction (lead ++ rest) lead rest := by
  refine ⟨rfl, h, ?_⟩
  intro other tail heq hother
  obtain ⟨word, spaces, hword, rfl⟩ := h
  obtain ⟨word', spaces', hword', rfl⟩ := hother
  have hlen := congrArg List.length (hword.trans hword'.symm)
  rw [List.length_map, List.length_map] at hlen
  rw [List.append_assoc, List.append_assoc] at heq
  obtain ⟨-, heq⟩ := List.append_inj heq hlen
  rw [List.length_append, List.length_append, List.length_replicate, List.length_replicate]
  apply Nat.le_of_not_lt
  intro hlt
  -- A longer one would go on with a space where `rest` starts.
  have hmore : List.replicate (spaces' + 1) ' ' =
      List.replicate (spaces + 1) ' ' ++ List.replicate (spaces' - spaces - 1 + 1) ' ' := by
    rw [List.replicate_append_replicate]
    congr 1
    omega
  rw [hmore, List.append_assoc, List.append_cancel_left_eq] at heq
  rw [heq] at hstop
  simp [List.replicate_succ] at hstop

private theorem takeWhile_space (cs : List Char) :
    cs.takeWhile (· == ' ') = List.replicate (cs.takeWhile (· == ' ')).length ' ' := by
  apply List.eq_replicate_of_mem
  intro c hc
  simpa using List.all_eq_true.mp List.all_takeWhile c hc

/-- The recogniser of conjunctions finds the longest one. -/
theorem findsLongest_conjunction? : FindsLongest IsConjunction conjunction? where
  sound := by
    intro cs lead rest h
    unfold conjunction? at h
    split at h
    · next a n d tail =>
      split at h
      · next hand =>
        cases h
        have hlead : IsConjunction (a :: n :: d :: ' ' :: tail.takeWhile (· == ' ')) := by
          refine ⟨[a, n, d], (tail.takeWhile (· == ' ')).length, hand, ?_⟩
          rw [List.replicate_succ, ← takeWhile_space]
          rfl
        have hstop : (tail.dropWhile (· == ' ')).head? ≠ some ' ' := by
          intro hs
          have hnot := List.head?_dropWhile_not (· == ' ') tail
          rw [hs] at hnot
          simp at hnot
        have hlong := hlead.longest hstop
        simpa using hlong
      · cases h
    · cases h
  complete := by
    rintro lead rest ⟨word, spaces, hand, rfl⟩
    obtain ⟨a, n, d, rfl⟩ := hand.eq_letters
    unfold IsAndWord at hand
    simp only [List.replicate_succ, List.cons_append, List.nil_append, conjunction?]
    rw [if_pos hand]
    rfl

/-! ### The longest operand -/

private theorem membership_eq_some {cs operand rest : List Char}
    (h : Shape.membership.operand? cs = some (operand, rest)) :
    ∃ c tail init after, cs = '(' :: c :: tail ∧ isInline c = true ∧
      tail.takeWhile isInline = init ++ ')' :: after ∧ ')' ∉ after ∧
      operand = '(' :: c :: (init ++ [')']) := by
  unfold Shape.operand? at h
  split at h
  · next c tail _ =>
    split at h
    · next hc =>
      split at h
      · next inside after hsplit =>
        cases h
        have hline := splitAfterLast_eq_some hsplit
        obtain ⟨⟨init, rfl⟩, hafter⟩ := splitAfterLast_last hsplit
        exact ⟨c, tail, init, after, rfl, hc, by simpa using hline, hafter, rfl⟩
      · cases h
    · cases h
  · cases h
  · next hshape => cases hshape
  · next hshape => cases hshape

private theorem takeWhile_closing {inside rest : List Char}
    (h : ∀ c ∈ inside, isInline c = true) :
    (inside ++ ')' :: rest).takeWhile isInline = inside ++ ')' :: rest.takeWhile isInline := by
  rw [List.takeWhile_append_of_pos h, List.takeWhile_cons_of_pos (by decide)]

private theorem findsLongest_membership :
    FindsLongest Shape.membership.IsOperand Shape.membership.operand? where
  sound := by
    intro cs operand rest h
    have htext := Shape.operand?_eq_some h
    obtain ⟨c, tail, init, after, rfl, hc, hline, hafter, rfl⟩ := membership_eq_some h
    refine ⟨htext, ⟨c :: init, ⟨by simp, ?_⟩, by simp⟩, ?_⟩
    · intro x hx
      rcases List.mem_cons.mp hx with rfl | hx
      · exact hc
      · have hmem : x ∈ tail.takeWhile isInline := by
          rw [hline]
          exact List.mem_append_left _ hx
        exact List.all_eq_true.mp List.all_takeWhile x hmem
    · -- The closing parenthesis of another operand lies on the same line.
      rintro other rest' heq ⟨inside, ⟨hne, hinside⟩, rfl⟩
      obtain ⟨c', inside, rfl⟩ := List.exists_cons_of_ne_nil hne
      simp only [List.cons_append, List.append_assoc, List.nil_append, List.cons.injEq] at heq
      obtain ⟨-, -, rfl⟩ := heq
      rw [takeWhile_closing fun x hx => hinside x (List.mem_cons_of_mem _ hx)] at hline
      have hle := length_le_of_last hline hafter
      simpa using hle
  complete := by
    rintro operand rest ⟨inside, ⟨hne, hinside⟩, rfl⟩
    obtain ⟨c, inside, rfl⟩ := List.exists_cons_of_ne_nil hne
    simp only [List.cons_append, List.append_assoc, List.nil_append, Shape.operand?]
    rw [if_pos (hinside c List.mem_cons_self),
      takeWhile_closing fun x hx => hinside x (List.mem_cons_of_mem _ hx)]
    cases hsplit : splitAfterLast ')' (inside ++ ')' :: rest.takeWhile isInline) with
    | none => exact absurd (by simp) (splitAfterLast_eq_none_iff.mp hsplit)
    | some parts => rfl

/-- The recogniser of operands finds the longest operand of its shape. -/
theorem Shape.findsLongest_operand? (shape : Shape) :
    FindsLongest shape.IsOperand shape.operand? := by
  cases shape with
  | membership => exact findsLongest_membership
  | comparison => exact findsLongest_run? _
  | textSearch => exact findsLongest_run? _

end LogFilter
