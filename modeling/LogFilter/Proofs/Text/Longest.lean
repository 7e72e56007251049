import LogFilter.Phrase

/-!
# Longest beginnings

A recogniser splits off the longest beginning of a text that lies in its language. So do the recogniser
of runs and the splitting after the last occurrence of a character, which the operands of clauses are
built from.
-/

namespace LogFilter

/-- `front` is the longest beginning of the text in the language, and `back` follows it. -/
structure Longest (language : List Char → Prop) (cs front back : List Char) : Prop where
  text : cs = front ++ back
  mem : language front
  length_le : ∀ other rest, cs = other ++ rest → language other → other.length ≤ front.length

namespace Longest

variable {language : List Char → Prop} {cs front back : List Char}

/-- A text has at most one longest beginning. -/
theorem unique {front' back' : List Char} (h : Longest language cs front back)
    (h' : Longest language cs front' back') : front = front' ∧ back = back' := by
  have hle := h.length_le front' back' h'.text h'.mem
  have hge := h'.length_le front back h.text h.mem
  exact List.append_inj (h.text.symm.trans h'.text) (by omega)

/-- A text of the language is its own longest beginning. -/
theorem whole (h : language cs) : Longest language cs cs [] := by
  refine ⟨by simp, h, ?_⟩
  intro other rest heq _
  rw [heq, List.length_append]
  omega

end Longest

/-- The recogniser gives the longest beginning in the language whenever there is one. -/
structure FindsLongest (language : List Char → Prop)
    (find? : List Char → Option (List Char × List Char)) : Prop where
  sound : ∀ {cs front back}, find? cs = some (front, back) → Longest language cs front back
  complete : ∀ {front back}, language front → (find? (front ++ back)).isSome = true

/-- The result of such a recogniser is determined by its language. -/
theorem FindsLongest.eq_some_iff {language : List Char → Prop}
    {find? : List Char → Option (List Char × List Char)} (h : FindsLongest language find?)
    {cs front back : List Char} :
    find? cs = some (front, back) ↔ Longest language cs front back := by
  constructor
  · exact h.sound
  · intro hl
    have hsome : (find? (front ++ back)).isSome = true := h.complete hl.mem
    rw [← hl.text] at hsome
    obtain ⟨⟨front', back'⟩, hf⟩ := Option.isSome_iff_exists.mp hsome
    obtain ⟨rfl, rfl⟩ := (h.sound hf).unique hl
    exact hf

/-! ### Runs of a class -/

/-- A non-empty text of characters of one class. -/
def IsRun (p : Char → Bool) (cs : List Char) : Prop := cs ≠ [] ∧ ∀ c ∈ cs, p c = true

-- The members are looked through, not all characters.
instance (p : Char → Bool) (cs : List Char) : Decidable (IsRun p cs) :=
  have : Decidable (∀ c ∈ cs, p c = true) := List.decidableBAll _ cs
  inferInstanceAs (Decidable (_ ∧ _))

/-- A run that ends the text, or that a character outside the class follows, is the longest. -/
theorem IsRun.longest {p : Char → Bool} {front back : List Char} (h : IsRun p front)
    (hstop : ∀ c ∈ back.head?, p c = false) : Longest (IsRun p) (front ++ back) front back := by
  refine ⟨rfl, h, ?_⟩
  intro other rest heq hother
  apply Nat.le_of_not_lt
  intro hlt
  obtain ⟨middle, rfl⟩ : front <+: other :=
    List.prefix_of_prefix_length_le (List.prefix_append front back) ⟨rest, heq.symm⟩ (by omega)
  rw [List.append_assoc, List.append_cancel_left_eq] at heq
  cases middle with
  | nil => simp at hlt
  | cons c middle =>
    have hc : p c = true := hother.2 c (by simp)
    have hn : p c = false := hstop c (by simp [heq])
    rw [hn] at hc
    cases hc

private theorem head_dropWhile {p : Char → Bool} (cs : List Char) :
    ∀ c ∈ (cs.dropWhile p).head?, p c = false := by
  intro c hc
  have h := List.head?_dropWhile_not p cs
  rw [hc] at h
  simpa using h

/-- The recogniser of runs finds the longest run. -/
theorem findsLongest_run? (p : Char → Bool) : FindsLongest (IsRun p) (run? p) where
  sound := by
    intro cs front back h
    unfold run? at h
    split at h
    · cases h
    · next hne =>
      cases h
      have hrun : IsRun p (cs.takeWhile p) := by
        refine ⟨by simpa using hne, ?_⟩
        intro c hc
        exact List.all_eq_true.mp List.all_takeWhile c hc
      have hlong := hrun.longest (head_dropWhile cs)
      rwa [List.takeWhile_append_dropWhile] at hlong
  complete := by
    intro front back h
    unfold run?
    rw [List.takeWhile_append_of_pos h.2]
    simp [h.1]

/-! ### The first occurrence of a character -/

/-- A text is cut at the first occurrence of a character in one way. -/
theorem cut_unique {x : Char} {front front' back back' : List Char} (h : x ∉ front)
    (h' : x ∉ front') (heq : front ++ x :: back = front' ++ x :: back') :
    front = front' ∧ back = back' := by
  rcases List.append_eq_append_iff.mp heq with ⟨middle, rfl, hm⟩ | ⟨middle, rfl, hm⟩
  · cases middle with
    | nil => simpa using hm
    | cons c middle =>
      obtain ⟨rfl, -⟩ := List.cons.inj hm
      simp at h'
  · cases middle with
    | nil => simpa using hm.symm
    | cons c middle =>
      obtain ⟨rfl, -⟩ := List.cons.inj hm
      simp at h

/-! ### The last occurrence of a character -/

/-- Exactly the texts without the character are not split. -/
theorem splitAfterLast_eq_none_iff {x : Char} {cs : List Char} :
    splitAfterLast x cs = none ↔ x ∉ cs := by
  induction cs with
  | nil => simp [splitAfterLast]
  | cons c cs ih =>
    unfold splitAfterLast
    split
    · next front back h =>
      have hmem : x ∈ cs := by
        apply Classical.byContradiction
        intro hn
        rw [ih.mpr hn] at h
        cases h
      simp [hmem]
    · next h =>
      have hn := ih.mp h
      by_cases hc : c = x
      · simp [hc]
      · simp [hc, Ne.symm hc, hn]

/-- The front part ends with the character, which does not occur again. -/
theorem splitAfterLast_last {x : Char} {cs front back : List Char}
    (h : splitAfterLast x cs = some (front, back)) : (∃ init, front = init ++ [x]) ∧ x ∉ back := by
  induction cs generalizing front back with
  | nil => cases h
  | cons c cs ih =>
    unfold splitAfterLast at h
    split at h
    · next f b hfb =>
      cases h
      obtain ⟨⟨init, rfl⟩, hb⟩ := ih hfb
      exact ⟨⟨c :: init, rfl⟩, hb⟩
    · next hn =>
      split at h
      · next hc =>
        cases h
        subst hc
        exact ⟨⟨[], rfl⟩, splitAfterLast_eq_none_iff.mp hn⟩
      · cases h

/-- An occurrence of a character that does not occur again after it is the last one. -/
theorem length_le_of_last {x : Char} {front back front' back' : List Char}
    (h : front' ++ x :: back' = front ++ x :: back) (hlast : x ∉ back) :
    front'.length ≤ front.length := by
  rcases List.append_eq_append_iff.mp h with ⟨middle, rfl, -⟩ | ⟨middle, rfl, hm⟩
  · simp
  · cases middle with
    | nil => simp
    | cons y middle =>
      obtain ⟨-, rfl⟩ := List.cons.inj hm
      simp at hlast

end LogFilter
