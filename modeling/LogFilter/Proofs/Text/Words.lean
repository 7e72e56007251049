import LogFilter.Text.Basic
import Mathlib.Data.List.TakeWhile

/-!
# Words and trimming

The first word of a text is the run of its first characters that are not blank, once the blanks before it
are passed over. A trimmed text has lost blanks at both ends and neither starts nor ends with one.
-/

namespace LogFilter.Text

private theorem leadingWord_append {word : List Char} {b : Char}
    (hword : ∀ c ∈ word, isBlank c = false) (hb : isBlank b = true) (cs : List Char) :
    leadingWord (word ++ b :: cs) = (word, wordChars cs) := by
  induction word with
  | nil => simp [leadingWord, wordChars, hb]
  | cons c word ih =>
    have hc := hword c List.mem_cons_self
    rw [List.cons_append, leadingWord, ih fun x hx => hword x (List.mem_cons_of_mem c hx)]
    simp [hc]

/-- A word at the head of a text, with a blank after it, is the first word. -/
theorem wordChars_append {word : List Char} {b : Char} (hne : word ≠ [])
    (hword : ∀ c ∈ word, isBlank c = false) (hb : isBlank b = true) (cs : List Char) :
    wordChars (word ++ b :: cs) = word :: wordChars cs := by
  rw [wordChars, leadingWord_append hword hb]
  simp [hne]

/-- Blanks in front change no word. -/
theorem wordChars_append_blanks {blanks : List Char} (h : ∀ c ∈ blanks, isBlank c = true)
    (cs : List Char) : wordChars (blanks ++ cs) = wordChars cs := by
  induction blanks with
  | nil => rfl
  | cons c blanks ih =>
    obtain ⟨hc, hblanks⟩ := List.forall_mem_cons.mp h
    rw [List.cons_append, wordChars_cons_blank hc, ih hblanks]

/-- A text with a character that is not blank has a word. -/
theorem wordChars_ne_nil {cs : List Char} {c : Char} (hmem : c ∈ cs) (hc : isBlank c = false) :
    wordChars cs ≠ [] := by
  induction cs with
  | nil => cases hmem
  | cons x cs ih =>
    cases hx : isBlank x with
    | true =>
      have hne : c ≠ x := by
        rintro rfl
        rw [hx] at hc
        cases hc
      rw [wordChars_cons_blank hx]
      exact ih (List.mem_of_ne_of_mem hne hmem)
    | false => simp [wordChars, leadingWord, hx]

private theorem isBlank_of_mem_leadingWord (cs : List Char) :
    ∀ word ∈ (leadingWord cs).1 :: (leadingWord cs).2, ∀ c ∈ word, isBlank c = false := by
  induction cs with
  | nil => simp [leadingWord]
  | cons x cs ih =>
    obtain ⟨hfirst, hlater⟩ := List.forall_mem_cons.mp ih
    simp only [leadingWord]
    cases hx : isBlank x with
    | false =>
      have hlonger : ∀ c ∈ x :: (leadingWord cs).1, isBlank c = false :=
        List.forall_mem_cons.mpr ⟨hx, hfirst⟩
      exact List.forall_mem_cons.mpr ⟨hlonger, hlater⟩
    | true =>
      refine List.forall_mem_cons.mpr ⟨by simp, ?_⟩
      simp only [if_pos]
      split
      · exact hlater
      · exact ih

/-- The words of a text have no blanks. -/
theorem isBlank_of_mem_words {text word : String} (h : word ∈ words text) :
    ∀ c ∈ word.toList, isBlank c = false := by
  obtain ⟨chars, hchars, rfl⟩ := List.mem_map.mp h
  rw [String.toList_ofList]
  apply isBlank_of_mem_leadingWord text.toList chars
  simp only [wordChars] at hchars
  split at hchars
  · exact List.mem_cons_of_mem _ hchars
  · exact hchars

/-! ### Trimming -/

/-- `core` is what is left of a text once the blanks at its two ends are cut off. -/
structure IsTrimmed (cs core : List Char) : Prop where
  cut : ∃ before after, cs = before ++ core ++ after ∧ ∀ c ∈ before ++ after, isBlank c = true
  first : ∀ c ∈ core.head?, isBlank c = false
  last : ∀ c ∈ core.getLast?, isBlank c = false

private theorem dropWhile_isBlank_eq_self {cs : List Char}
    (h : ∀ c ∈ cs.head?, isBlank c = false) : cs.dropWhile isBlank = cs := by
  cases cs with
  | nil => rfl
  | cons c cs => rw [List.dropWhile_cons_of_neg (by simp [h c rfl])]

private theorem head?_dropWhile_isBlank (cs : List Char) :
    ∀ c ∈ (cs.dropWhile isBlank).head?, isBlank c = false := by
  intro c hc
  have hnot := List.head?_dropWhile_not isBlank cs
  rw [hc] at hnot
  simpa using hnot

private theorem isTrimmed_trimChars (cs : List Char) : IsTrimmed cs (trimChars cs) := by
  let front := cs.dropWhile isBlank
  have hcs : cs = cs.takeWhile isBlank ++ front := List.takeWhile_append_dropWhile.symm
  have hfront : front = trimChars cs ++ (front.reverse.takeWhile isBlank).reverse := by
    rw [trimChars, ← List.reverse_append, List.takeWhile_append_dropWhile, List.reverse_reverse]
  have hlast := head?_dropWhile_isBlank front.reverse
  refine ⟨⟨cs.takeWhile isBlank, (front.reverse.takeWhile isBlank).reverse, ?_, ?_⟩, ?_, ?_⟩
  · rw [List.append_assoc, ← hfront, ← hcs]
  · intro c hc
    rw [List.mem_append, List.mem_reverse] at hc
    rcases hc with hc | hc <;> exact List.all_eq_true.mp List.all_takeWhile c hc
  · -- What is left starts where the text without its leading blanks starts.
    intro c hc
    apply head?_dropWhile_isBlank cs
    change c ∈ front.head?
    rw [hfront, List.head?_append, hc, Option.some_or, Option.mem_some]
  · intro c hc
    rw [trimChars, List.getLast?_reverse] at hc
    exact hlast c hc

private theorem IsTrimmed.trimChars_eq {cs core : List Char} (h : IsTrimmed cs core) :
    trimChars cs = core := by
  obtain ⟨⟨before, after, rfl, hblank⟩, hfirst, hlast⟩ := h
  obtain ⟨hbefore, hafter⟩ := List.forall_mem_append.mp hblank
  have hreverse : (after.reverse ++ core.reverse).dropWhile isBlank = core.reverse := by
    rw [List.dropWhile_append_of_pos fun c hc => hafter c (List.mem_reverse.mp hc)]
    apply dropWhile_isBlank_eq_self
    rwa [List.head?_reverse]
  rw [trimChars, List.append_assoc, List.dropWhile_append_of_pos hbefore]
  cases core with
  | nil =>
    rw [List.nil_append, List.dropWhile_eq_nil_iff.mpr hafter]
    rfl
  | cons c core =>
    have hstart : (c :: core ++ after).dropWhile isBlank = c :: core ++ after :=
      dropWhile_isBlank_eq_self hfirst
    rw [hstart, List.reverse_append, hreverse, List.reverse_reverse]

/-- Trimming is described by what it cuts off and what it leaves. -/
theorem trimChars_eq_iff {cs core : List Char} : trimChars cs = core ↔ IsTrimmed cs core := by
  constructor
  · rintro rfl
    exact isTrimmed_trimChars cs
  · exact IsTrimmed.trimChars_eq

/-- Exactly a blank text is trimmed away. -/
theorem trimChars_eq_nil_iff {cs : List Char} :
    trimChars cs = [] ↔ ∀ c ∈ cs, isBlank c = true := by
  rw [trimChars_eq_iff]
  constructor
  · rintro ⟨⟨before, after, rfl, hblank⟩, -, -⟩
    rwa [List.append_nil]
  · intro hblank
    refine ⟨⟨cs, [], by rw [List.append_nil, List.append_nil], ?_⟩, nofun, nofun⟩
    rwa [List.append_nil]

end LogFilter.Text
