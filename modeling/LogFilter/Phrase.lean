import LogFilter.Operator
import LogFilter.Text.Basic

/-!
# Phrases

A phrase is a piece of query text that has the form of a clause: an optional conjunction, a column, a
keyword and an operand, with one space between the parts. Recognition at the head of a text is greedy:
the column and the operand extend as far as their classes allow. A recognised phrase and what follows it
make up the text, so nothing is lost.
-/

namespace LogFilter

open Text

/-- A recognised clause as it is written. -/
structure Phrase where
  /-- The conjunction word with the spaces after it, or nothing. -/
  lead : String
  shape : Shape
  column : String
  keyword : String
  operand : String
  deriving DecidableEq, Repr

/-- The whole text of the phrase, with another word in the place of the keyword. -/
def Phrase.withKeyword (p : Phrase) (word : String) : String :=
  p.lead ++ p.column ++ " " ++ word ++ " " ++ p.operand

/-- The whole text of the phrase. -/
def Phrase.text (p : Phrase) : String := p.withKeyword p.keyword

/-- The phrase starts with a conjunction. -/
def Phrase.conjunction (p : Phrase) : Bool := p.lead != ""

/-- A letter of a keyword in lower case. The long s counts as an s. -/
def foldLetter (c : Char) : Char := if c = 'ſ' then 's' else c.toLower

namespace Shape

/-- A character of a column name. Membership clauses also allow the hyphen. -/
def isColumnChar (shape : Shape) (c : Char) : Bool :=
  c.isAlphanum || c == '_' || c == '.' || (c == '-' && shape == .membership)

/-- The word is a keyword of this shape, up to the case of letters. -/
def spells (shape : Shape) (word : List Char) : Bool :=
  Operator.all.any fun op => op.shape == shape && op.keyword.toList == word.map foldLetter

end Shape

/-- Splits off the maximal run of characters of a class, if it is not empty. -/
def run? (p : Char → Bool) (cs : List Char) : Option (List Char × List Char) :=
  if (cs.takeWhile p).isEmpty then none else some (cs.takeWhile p, cs.dropWhile p)

/-- Splits a text after the last occurrence of a character. -/
def splitAfterLast (x : Char) : List Char → Option (List Char × List Char)
  | [] => none
  | c :: cs =>
    match splitAfterLast x cs with
    | some (front, back) => some (c :: front, back)
    | none => if c = x then some ([c], cs) else none

/-- Splits off a conjunction: the word `and` in any case, and all spaces after it, at least one. -/
def conjunction? : List Char → Option (List Char × List Char)
  | a :: n :: d :: ' ' :: rest =>
    if [a, n, d].map Char.toLower = ['a', 'n', 'd'] then
      some (a :: n :: d :: ' ' :: rest.takeWhile (· == ' '), rest.dropWhile (· == ' '))
    else none
  | _ => none

namespace Shape

/-- Splits off the longest operand of this shape. A membership operand is a parenthesis, something
inside, and the last closing parenthesis on the line; a comparison operand is a run without blanks; a
text operand runs to the end of the line. -/
def operand? : Shape → List Char → Option (List Char × List Char)
  | .membership, '(' :: c :: rest =>
    if isInline c then
      match splitAfterLast ')' (rest.takeWhile isInline) with
      | some (inside, after) => some ('(' :: c :: inside, after ++ rest.dropWhile isInline)
      | none => none
    else none
  | .membership, _ => none
  | .comparison, cs => run? (fun c => !isBlank c) cs
  | .textSearch, cs => run? isInline cs

/-- Recognises a phrase of this shape, after a conjunction already read, and what follows it. -/
def phrase? (shape : Shape) (lead : List Char) (cs : List Char) : Option (Phrase × List Char) :=
  match cs.dropWhile shape.isColumnChar with
  | ' ' :: afterColumn =>
    match afterColumn.dropWhile (· != ' ') with
    | ' ' :: afterKeyword =>
      let column := cs.takeWhile shape.isColumnChar
      let keyword := afterColumn.takeWhile (· != ' ')
      if !column.isEmpty && shape.spells keyword then
        match shape.operand? afterKeyword with
        | some (operand, rest) =>
          some (⟨String.ofList lead, shape, String.ofList column, String.ofList keyword,
            String.ofList operand⟩, rest)
        | none => none
      else none
    | _ => none
  | _ => none

end Shape

namespace Phrase

/-- Recognises a phrase of the first shape that fits, after a conjunction already read. -/
def afterLead? (lead : List Char) (cs : List Char) : Option (Phrase × List Char) :=
  Shape.all.findSome? fun shape => shape.phrase? lead cs

/-- Recognises a phrase at the head of a text, and what follows it. A leading `and` is read as a
conjunction if a phrase follows it, and as a column otherwise. -/
def atHead? (cs : List Char) : Option (Phrase × List Char) :=
  ((conjunction? cs).bind fun (lead, rest) => afterLead? lead rest).or (afterLead? [] cs)

end Phrase

/-! ### Nothing is lost -/

private theorem run?_eq_some {p : Char → Bool} {cs front back : List Char}
    (h : run? p cs = some (front, back)) :
    cs = front ++ back ∧ front ≠ [] := by
  unfold run? at h
  split at h
  · cases h
  · next hne =>
    cases h
    exact ⟨List.takeWhile_append_dropWhile.symm, by simpa using hne⟩

/-- A text that is split is made up of the two parts. -/
theorem splitAfterLast_eq_some {x : Char} {cs front back : List Char}
    (h : splitAfterLast x cs = some (front, back)) : cs = front ++ back := by
  induction cs generalizing front back with
  | nil => cases h
  | cons c cs ih =>
    unfold splitAfterLast at h
    split at h
    · next f b hfb =>
      cases h
      simp [ih hfb]
    · split at h
      · cases h
        rfl
      · cases h

private theorem conjunction?_eq_some {cs lead rest : List Char}
    (h : conjunction? cs = some (lead, rest)) : cs = lead ++ rest := by
  unfold conjunction? at h
  split at h
  · split at h
    · cases h
      simp
    · cases h
  · cases h

/-- An operand and what follows it make up the text. -/
theorem Shape.operand?_eq_some {shape : Shape} {cs operand rest : List Char}
    (h : shape.operand? cs = some (operand, rest)) : cs = operand ++ rest := by
  unfold Shape.operand? at h
  split at h
  · next c tail =>
    split at h
    · split at h
      · next inside after hs =>
        cases h
        have := splitAfterLast_eq_some hs
        simp only [List.cons_append, ← List.append_assoc, ← this]
        simp
      · cases h
    · cases h
  · cases h
  · exact (run?_eq_some h).1
  · exact (run?_eq_some h).1

private theorem Shape.phrase?_eq_some {shape : Shape} {lead cs rest : List Char} {p : Phrase}
    (h : shape.phrase? lead cs = some (p, rest)) :
    lead ++ cs = p.text.toList ++ rest := by
  unfold Shape.phrase? at h
  split at h
  · next afterColumn hcol =>
    split at h
    · next afterKeyword hkey =>
      dsimp only at h
      split at h
      · split at h
        · next operand rest' hop =>
          cases h
          have hcs : cs = cs.takeWhile shape.isColumnChar ++ ' ' :: afterColumn := by
            rw [← hcol, List.takeWhile_append_dropWhile]
          have hword : afterColumn = afterColumn.takeWhile (· != ' ') ++ ' ' :: afterKeyword := by
            rw [← hkey, List.takeWhile_append_dropWhile]
          rw [Shape.operand?_eq_some hop] at hword
          simp only [Phrase.text, Phrase.withKeyword, String.toList_append, String.toList_ofList,
            List.append_assoc]
          congr 1
          exact hcs.trans ((congrArg (cs.takeWhile shape.isColumnChar ++ ' ' :: ·) hword).trans (by simp))
        · cases h
      · cases h
    · cases h
  · cases h

private theorem Phrase.afterLead?_eq_some {lead cs rest : List Char} {p : Phrase}
    (h : afterLead? lead cs = some (p, rest)) : lead ++ cs = p.text.toList ++ rest := by
  obtain ⟨shape, -, hs⟩ := List.exists_of_findSome?_eq_some h
  exact Shape.phrase?_eq_some hs

/-- A recognised phrase and what follows it make up the text. -/
theorem Phrase.atHead?_eq_some {cs rest : List Char} {p : Phrase}
    (h : atHead? cs = some (p, rest)) : cs = p.text.toList ++ rest := by
  rcases Option.or_eq_some_iff.1 h with h | ⟨-, h⟩
  · obtain ⟨⟨lead, tail⟩, hlead, h⟩ := Option.bind_eq_some_iff.1 h
    rw [conjunction?_eq_some hlead]
    exact afterLead?_eq_some h
  · simpa using afterLead?_eq_some h

/-- The text of a phrase is never empty: it holds the spaces between its parts. -/
theorem Phrase.length_text_pos (p : Phrase) : 0 < p.text.toList.length := by
  simp only [Phrase.text, Phrase.withKeyword, String.toList_append, List.length_append]
  have : " ".toList.length = 1 := by decide
  omega

/-- A recognised phrase shortens the text. -/
theorem Phrase.length_lt_of_atHead? {cs rest : List Char} {p : Phrase}
    (h : atHead? cs = some (p, rest)) : rest.length < cs.length := by
  have := p.length_text_pos
  rw [atHead?_eq_some h, List.length_append]
  omega

end LogFilter
