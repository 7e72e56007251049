import LogFilter.Text.Basic

/-!
# The first occurrence

Where the replacement of the first occurrence takes place: in the first part of a text if that part
holds an occurrence, and behind a separator if it does not.
-/

namespace LogFilter.Text

variable {old : List Char}

/-- The search goes on behind a character where no occurrence starts. -/
theorem replaceFirstChars_cons {c : Char} {cs : List Char} (h : ¬ old <+: c :: cs)
    (new : List Char) :
    replaceFirstChars old new (c :: cs) = c :: replaceFirstChars old new cs := by
  have hnot : ¬ old.isPrefixOf (c :: cs) = true := by rwa [List.isPrefixOf_iff_prefix]
  rw [replaceFirstChars, if_neg hnot]

/-- A text with an occurrence is changed there, and nowhere else. -/
theorem exists_replaceFirstChars_eq {text : List Char} (h : old <:+: text) (new : List Char) :
    ∃ init tail, text = init ++ old ++ tail ∧
      replaceFirstChars old new text = init ++ new ++ tail := by
  induction text with
  | nil =>
    obtain rfl := List.infix_nil.mp h
    exact ⟨[], [], rfl, by simp [replaceFirstChars]⟩
  | cons c text ih =>
    by_cases hpre : old <+: c :: text
    · obtain ⟨tail, htail⟩ := hpre
      refine ⟨[], tail, htail.symm, ?_⟩
      rw [← htail, replaceFirstChars_append]
      rfl
    · obtain ⟨init, tail, htext, hreplace⟩ := ih ((List.infix_cons_iff.mp h).resolve_left hpre)
      refine ⟨c :: init, tail, by simp [htext], ?_⟩
      rw [replaceFirstChars_cons hpre, hreplace]
      rfl

/-- A text without an occurrence stays. -/
theorem replaceFirstChars_eq_self {text : List Char} (h : ¬ old <:+: text) (new : List Char) :
    replaceFirstChars old new text = text := by
  induction text with
  | nil =>
    have hne : old ≠ [] := fun hnil => h (hnil ▸ List.nil_infix)
    simp [replaceFirstChars, hne]
  | cons c text ih =>
    have hpre : ¬ old <+: c :: text := fun hpre => h hpre.isInfix
    have hrest : ¬ old <:+: text := fun hin => h (List.infix_cons hin)
    rw [replaceFirstChars_cons hpre, ih hrest]

/-- Behind a first part with an occurrence nothing is changed. -/
theorem replaceFirstChars_append_front {front : List Char} (h : old <:+: front)
    (new back : List Char) :
    replaceFirstChars old new (front ++ back) = replaceFirstChars old new front ++ back := by
  induction front with
  | nil =>
    obtain rfl := List.infix_nil.mp h
    simpa [replaceFirstChars] using replaceFirstChars_append [] new back
  | cons c front ih =>
    by_cases hpre : old <+: c :: front
    · obtain ⟨tail, htail⟩ := hpre
      rw [← htail, List.append_assoc, replaceFirstChars_append, replaceFirstChars_append,
        List.append_assoc]
    · -- An occurrence at the head of the whole text would lie in the first part.
      have hnot : ¬ old <+: c :: (front ++ back) := by
        intro hwhole
        exact hpre (List.prefix_of_prefix_length_le hwhole (List.prefix_append (c :: front) back)
          h.length_le)
      rw [List.cons_append, replaceFirstChars_cons hnot, replaceFirstChars_cons hpre,
        ih ((List.infix_cons_iff.mp h).resolve_left hpre)]
      rfl

/-- A first part with an occurrence is changed there, and the rest stays. -/
theorem replaceFirstChars_of_infix {front : List Char} (h : old <:+: front) (new back : List Char) :
    ∃ init tail, front = init ++ old ++ tail ∧
      replaceFirstChars old new (front ++ back) = init ++ new ++ tail ++ back := by
  obtain ⟨init, tail, hfront, hreplace⟩ := exists_replaceFirstChars_eq h new
  exact ⟨init, tail, hfront, by rw [replaceFirstChars_append_front h, hreplace]⟩

/-- What stands at the head of a text lies before a separator that it lacks. -/
theorem prefix_of_prefix_append_cons (front : List Char) {back : List Char} {x : Char}
    (hx : x ∉ old) (h : old <+: front ++ x :: back) : old <+: front := by
  obtain ⟨tail, htail⟩ := h
  rcases List.append_eq_append_iff.mp htail with ⟨middle, rfl, -⟩ | ⟨middle, rfl, hback⟩
  · exact List.prefix_append old middle
  · cases middle with
    | nil => simp
    | cons y middle =>
      obtain ⟨rfl, -⟩ := List.cons.inj hback
      simp at hx

/-- What occurs in a text lies before or behind a separator that it lacks. -/
theorem infix_append_cons_iff {front back : List Char} {x : Char} (hx : x ∉ old) :
    old <:+: front ++ x :: back ↔ old <:+: front ∨ old <:+: back := by
  constructor
  · intro h
    induction front with
    | nil =>
      rcases List.infix_cons_iff.mp h with hpre | hin
      · exact .inl (prefix_of_prefix_append_cons [] hx hpre).isInfix
      · exact .inr hin
    | cons c front ih =>
      rcases List.infix_cons_iff.mp h with hpre | hin
      · exact .inl (prefix_of_prefix_append_cons (c :: front) hx hpre).isInfix
      · exact (ih hin).imp_left List.infix_cons
  · rintro (h | h)
    · exact h.trans (List.prefix_append front _).isInfix
    · exact h.trans ((List.suffix_cons x back).trans (List.suffix_append front _)).isInfix

/-- A first part without an occurrence, before a separator, stays. -/
theorem replaceFirstChars_of_not_infix {front : List Char} {x : Char} (hx : x ∉ old)
    (h : ¬ old <:+: front) (new back : List Char) :
    replaceFirstChars old new (front ++ x :: back) =
      front ++ x :: replaceFirstChars old new back := by
  induction front with
  | nil =>
    have hnot : ¬ old <+: x :: back := by
      intro hpre
      exact h (prefix_of_prefix_append_cons [] hx hpre).isInfix
    rw [List.nil_append, replaceFirstChars_cons hnot, List.nil_append]
  | cons c front ih =>
    have hnot : ¬ old <+: c :: (front ++ x :: back) := by
      intro hpre
      exact h (prefix_of_prefix_append_cons (c :: front) hx hpre).isInfix
    have hfront : ¬ old <:+: front := fun hin => h (List.infix_cons hin)
    rw [List.cons_append, replaceFirstChars_cons hnot, ih hfront]
    rfl

/-! ### Texts -/

section Texts

variable {text word : String}

/-- A text is changed in one place or not at all. -/
theorem replaceFirst_cases (text word new : String) :
    replaceFirst text word new = text ∨ ∃ before after,
      text = before ++ word ++ after ∧ replaceFirst text word new = before ++ new ++ after := by
  by_cases h : word.toList <:+: text.toList
  · obtain ⟨init, tail, htext, hreplace⟩ := exists_replaceFirstChars_eq h new.toList
    refine .inr ⟨String.ofList init, String.ofList tail, ?_, ?_⟩
    · rw [← String.toList_inj, htext]
      simp
    · rw [← String.toList_inj, replaceFirst, hreplace]
      simp
  · left
    rw [replaceFirst, replaceFirstChars_eq_self h, String.ofList_toList]

/-- A text that starts with the word is changed there. -/
theorem replaceFirst_append (word new rest : String) :
    replaceFirst (word ++ rest) word new = new ++ rest := by
  rw [replaceFirst, String.toList_append, replaceFirstChars_append]
  simp

/-- A text that holds the word is changed there, whatever follows it. -/
theorem replaceFirst_append_front (h : word.toList <:+: text.toList) (new rest : String) :
    replaceFirst (text ++ rest) word new = replaceFirst text word new ++ rest := by
  rw [replaceFirst, String.toList_append, replaceFirstChars_append_front h]
  simp [replaceFirst]

/-- The search for a word goes on behind a text that lacks it and ends with a space. -/
theorem replaceFirst_append_back (hspace : ' ' ∉ word.toList)
    (h : ¬ word.toList <:+: text.toList) (new rest : String) :
    replaceFirst (text ++ " " ++ rest) word new = text ++ " " ++ replaceFirst rest word new := by
  have htext : (text ++ " " ++ rest).toList = text.toList ++ ' ' :: rest.toList := by simp
  rw [replaceFirst, htext, replaceFirstChars_of_not_infix hspace h, ← String.toList_inj]
  simp [replaceFirst]

/-- A space at the end takes no part in the replacement of a word. -/
theorem replaceFirst_append_space (hspace : ' ' ∉ word.toList) (text new : String) :
    replaceFirst (text ++ " ") word new = replaceFirst text word new ++ " " := by
  by_cases h : word.toList <:+: text.toList
  · exact replaceFirst_append_front h new " "
  · have hne : word.toList ≠ [] := fun hnil => h (hnil ▸ List.nil_infix)
    have hempty : replaceFirst "" word new = "" := by simp [replaceFirst, replaceFirstChars, hne]
    have hrest := replaceFirst_append_back hspace h new ""
    rw [hempty, String.append_empty] at hrest
    rw [hrest, replaceFirst, replaceFirstChars_eq_self h, String.ofList_toList]

end Texts

end LogFilter.Text
