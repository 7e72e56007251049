import LogFilter.Proofs.Text.Ascii
import LogFilter.Proofs.Text.Words

/-!
# Lowercasing, blanks and capitals

Lowercasing makes no blank out of another character, and no other character out of a blank, so a text has
as many words after lowercasing as before. It leaves no capital. Some words are the lower case of ASCII
texts only.
-/

namespace LogFilter.Text

/-- The code points of blanks. -/
def blankRanges : List (Nat × Nat) :=
  [(0x09, 0x0D), (0x20, 0x20), (0x85, 0x85), (0xA0, 0xA0), (0x1680, 0x1680), (0x2000, 0x200A),
    (0x2028, 0x2029), (0x202F, 0x202F), (0x205F, 0x205F), (0x3000, 0x3000)]

/-- No blank has a code point from the one number to the other. -/
def isClear (low high : Nat) : Bool :=
  blankRanges.all fun range => decide (high < range.1) || decide (range.2 < low)

private theorem isBlank_of_isClear {low high : Nat} (h : isClear low high = true) {c : Char}
    (hlow : low ≤ c.toNat) (hhigh : c.toNat ≤ high) : isBlank c = false := by
  simp only [isClear, blankRanges, List.all_cons, List.all_nil, Bool.and_true, Bool.and_eq_true,
    Bool.or_eq_true, decide_eq_true_eq] at h
  simp only [isBlank, Bool.or_eq_false_iff, Bool.and_eq_false_iff, decide_eq_false_iff_not,
    beq_eq_false_iff_ne]
  omega

/-- Neither a capital of the table nor its lowercase is blank. -/
theorem isClear_lowercaseRuns : ∀ run ∈ lowercaseRuns,
    isClear run.first run.last = true ∧ isClear run.target (run.map run.last) = true := by
  have h : lowercaseRuns.all (fun run => isClear run.first run.last &&
      isClear run.target (run.map run.last)) = true := by decide +kernel
  intro run hrun
  exact Bool.and_eq_true_iff.mp (List.all_eq_true.mp h run hrun)

/-- A number that is no code point stands for U+0000. -/
theorem toNat_ofNat_cases (n : Nat) : (Char.ofNat n).toNat = n ∨ (Char.ofNat n).toNat = 0 := by
  by_cases h : n.isValidChar
  · left
    rw [Char.ofNat, dif_pos h]
    rfl
  · right
    rw [Char.ofNat, dif_neg h]
    rfl

/-- Lowercasing a character moves it neither into nor out of the blanks. -/
theorem isBlank_of_mem_lowerChar {c d : Char} (h : d ∈ lowerChar c) : isBlank d = isBlank c := by
  unfold lowerChar at h
  split at h
  · next hdot =>
    subst hdot
    simp only [List.mem_cons, List.not_mem_nil, or_false] at h
    rcases h with rfl | rfl <;> decide
  · split at h
    · next run hrun =>
      have hcovers := List.find?_some hrun
      have ⟨hsource, htarget⟩ := isClear_lowercaseRuns run (List.mem_of_find?_eq_some hrun)
      simp only [CaseRun.covers, Bool.and_eq_true, decide_eq_true_eq] at hcovers
      obtain ⟨⟨hfirst, hlast⟩, -⟩ := hcovers
      rw [List.mem_singleton.mp h, isBlank_of_isClear hsource hfirst hlast]
      rcases toNat_ofNat_cases (run.map c.toNat) with hn | hn
      · apply isBlank_of_isClear htarget <;> rw [hn] <;> simp only [CaseRun.map] <;> omega
      · exact isBlank_of_isClear (by decide : isClear 0 0 = true) (Nat.zero_le _) (Nat.le_of_eq hn)
    · rw [List.mem_singleton.mp h]

private theorem lowerChar_ne_nil (c : Char) : lowerChar c ≠ [] := by
  unfold lowerChar
  split
  · simp
  · split <;> simp

/-- The lowercase of a text starts with that of its first character, which is as blank as it. -/
theorem lowerFrom_cons (before : List Char) (c : Char) (cs : List Char) :
    ∃ ds, lowerFrom before (c :: cs) = ds ++ lowerFrom (c :: before) cs ∧ ds ≠ [] ∧
      ∀ d ∈ ds, isBlank d = isBlank c := by
  refine ⟨_, rfl, ?_, ?_⟩
  · split
    · simp
    · exact lowerChar_ne_nil c
  · split
    · next hsigma =>
      subst hsigma
      intro d hd
      rw [List.mem_singleton.mp hd, lowerSigma]
      split <;> decide
    · exact fun d hd => isBlank_of_mem_lowerChar hd

/-! ### Capitals -/

/-- Lowercasing a character gives no capital. -/
theorem isUpper_of_mem_lowerChar {c d : Char} (h : d ∈ lowerChar c) : d.isUpper = false := by
  have htargets : lowercaseRuns.all (fun run => 0x5A < run.target) = true := by decide +kernel
  unfold lowerChar at h
  split at h
  · simp only [List.mem_cons, List.not_mem_nil, or_false] at h
    rcases h with rfl | rfl <;> decide
  · split at h
    · next run hrun =>
      have htarget := of_decide_eq_true
        (List.all_eq_true.mp htargets run (List.mem_of_find?_eq_some hrun))
      rw [List.mem_singleton.mp h, isUpper_eq_false_iff]
      rcases toNat_ofNat_cases (run.map c.toNat) with hn | hn
      · rw [hn, CaseRun.map]
        omega
      · omega
    · -- The first run of the table covers all capitals.
      next hrun =>
      have hmem : (⟨0x41, 0x5A, 1, 0x61⟩ : CaseRun) ∈ lowercaseRuns := by
        unfold lowercaseRuns
        exact List.mem_cons_self
      have hcovers := List.find?_eq_none.mp hrun _ hmem
      simp only [CaseRun.covers, Nat.mod_one, beq_self_eq_true, and_true, Bool.and_eq_true,
        decide_eq_true_eq] at hcovers
      rw [List.mem_singleton.mp h, isUpper_eq_false_iff]
      omega

private theorem isUpper_of_mem_lowerFrom {before cs : List Char} {d : Char}
    (h : d ∈ lowerFrom before cs) : d.isUpper = false := by
  induction cs generalizing before with
  | nil => cases h
  | cons c cs ih =>
    rw [lowerFrom] at h
    rcases List.mem_append.mp h with h | h
    · split at h
      · rw [List.mem_singleton.mp h, lowerSigma]
        split <;> decide
      · exact isUpper_of_mem_lowerChar h
    · exact ih h

/-- A lowercased text has no capital. -/
theorem isUpper_of_mem_lowercase {s : String} {d : Char} (h : d ∈ (lowercase s).toList) :
    d.isUpper = false := by
  rw [lowercase, String.toList_ofList] at h
  exact isUpper_of_mem_lowerFrom h

/-! ### ASCII letters -/

/-- A letter that only ASCII characters are lowercased to. The letters `i` and `k` are none: the one
is in the lowercase of U+0130, the other is the lowercase of the Kelvin sign. -/
def isAsciiOnly (c : Char) : Bool :=
  0x61 ≤ c.toNat && c.toNat ≤ 0x7A && c != 'i' && c != 'k'

/-- Beyond the ASCII capitals, the table leads to no ASCII letter but `k`. -/
theorem target_lowercaseRuns : ∀ run ∈ lowercaseRuns, run.last < 128 ∨ 0x7A < run.target ∨
    run.first = run.last ∧ run.target = 0x6B := by
  have h : lowercaseRuns.all (fun run => run.last < 128 || 0x7A < run.target ||
      run.first == run.last && run.target == 0x6B) = true := by decide +kernel
  intro run hrun
  simpa [or_assoc] using List.all_eq_true.mp h run hrun

private theorem ascii_of_mem_lowerChar {c d : Char} (h : d ∈ lowerChar c)
    (hd : isAsciiOnly d = true) :
    c.toNat < 128 := by
  have hk : d.toNat ≠ 0x6B := by
    intro heq
    obtain rfl : d = 'k' := Char.toNat_inj.mp heq
    exact absurd hd (by decide)
  have ⟨hlow, hhigh⟩ : 0x61 ≤ d.toNat ∧ d.toNat ≤ 0x7A := by
    simp only [isAsciiOnly, Bool.and_eq_true, decide_eq_true_eq] at hd
    exact hd.1.1
  unfold lowerChar at h
  split at h
  · simp only [List.mem_cons, List.not_mem_nil, or_false] at h
    rcases h with rfl | rfl <;> exact absurd hd (by decide)
  · split at h
    · next run hrun =>
      have hcovers := List.find?_some hrun
      have htarget := target_lowercaseRuns run (List.mem_of_find?_eq_some hrun)
      simp only [CaseRun.covers, Bool.and_eq_true, decide_eq_true_eq] at hcovers
      rw [List.mem_singleton.mp h] at hlow hhigh hk
      -- The target of a run beyond ASCII is too great, or is the letter `k`.
      rcases toNat_ofNat_cases (run.map c.toNat) with hn | hn
      · rw [hn, CaseRun.map] at hlow hhigh hk
        omega
      · omega
    · rw [List.mem_singleton.mp h] at hhigh
      omega

/-- A text with such letters only in its lowercase is ASCII. -/
theorem isAscii_of_lowerFrom {before cs : List Char}
    (h : ∀ d ∈ lowerFrom before cs, isAsciiOnly d = true) : IsAscii cs := by
  induction cs generalizing before with
  | nil => nofun
  | cons c cs ih =>
    rw [lowerFrom, List.forall_mem_append] at h
    obtain ⟨hc, hcs⟩ := h
    have hhead : c.toNat < 128 := by
      split at hc
      · have hsigma : isAsciiOnly (lowerSigma before cs) = false := by
          rw [lowerSigma]
          split <;> decide
        rw [hc _ List.mem_cons_self] at hsigma
        cases hsigma
      · obtain ⟨d, hd⟩ := List.exists_mem_of_ne_nil (lowerChar c) (lowerChar_ne_nil c)
        exact ascii_of_mem_lowerChar hd (hc d hd)
    exact List.forall_mem_cons.mpr ⟨hhead, ih hcs⟩

/-- A word of such letters is spelled by ASCII letters only. -/
theorem lowercase_eq_iff_toLower {s word : String}
    (h : ∀ d ∈ word.toList, isAsciiOnly d = true) : lowercase s = word ↔ s.toLower = word := by
  have hagree (hs : IsAscii s.toList) : lowercase s = s.toLower := by
    rw [lowercase_ascii hs, ← String.toList_inj, String.toList_ofList, toList_toLower]
  constructor
  · intro hword
    subst hword
    rw [lowercase, String.toList_ofList] at h
    exact (hagree (isAscii_of_lowerFrom h)).symm
  · intro hword
    subst hword
    apply hagree
    apply isAscii_of_map_toLower
    intro d hd
    rw [← toList_toLower] at hd
    have hletter := h d hd
    simp only [isAsciiOnly, Bool.and_eq_true, decide_eq_true_eq] at hletter
    omega

/-! ### Words -/

private theorem leadingWord_append_word {word : List Char}
    (h : ∀ c ∈ word, isBlank c = false) (cs : List Char) :
    leadingWord (word ++ cs) = (word ++ (leadingWord cs).1, (leadingWord cs).2) := by
  induction word with
  | nil => rfl
  | cons c word ih =>
    obtain ⟨hc, hword⟩ := List.forall_mem_cons.mp h
    rw [List.cons_append, leadingWord, ih hword]
    simp [hc]

private theorem leadingWord_append_blanks {blanks : List Char} (hne : blanks ≠ [])
    (h : ∀ c ∈ blanks, isBlank c = true) (cs : List Char) :
    leadingWord (blanks ++ cs) = ([], wordChars cs) := by
  obtain ⟨c, blanks, rfl⟩ := List.exists_cons_of_ne_nil hne
  obtain ⟨hc, hblanks⟩ := List.forall_mem_cons.mp h
  have hcons : leadingWord (c :: (blanks ++ cs)) = ([], wordChars (blanks ++ cs)) := by
    simp [leadingWord, wordChars, hc]
  rw [List.cons_append, hcons, wordChars_append_blanks hblanks]

/-- Lowercasing keeps a word at the head, and the number of words after it. -/
private theorem leadingWord_lowerFrom (before cs : List Char) :
    ((leadingWord (lowerFrom before cs)).1 = [] ↔ (leadingWord cs).1 = []) ∧
      (leadingWord (lowerFrom before cs)).2.length = (leadingWord cs).2.length := by
  induction cs generalizing before with
  | nil => exact ⟨Iff.rfl, rfl⟩
  | cons c cs ih =>
    obtain ⟨ds, hds, hne, hblank⟩ := lowerFrom_cons before c cs
    obtain ⟨hword, hrest⟩ := ih (c :: before)
    rw [hds, leadingWord]
    cases hc : isBlank c with
    | true =>
      rw [leadingWord_append_blanks hne fun d hd => (hblank d hd).trans hc]
      refine ⟨by simp, ?_⟩
      simp only [wordChars, List.isEmpty_iff, hword, if_pos]
      split <;> simp [hrest]
    | false =>
      rw [leadingWord_append_word fun d hd => (hblank d hd).trans hc]
      simp [hne, hrest]

/-- A text has as many words after lowercasing as before. -/
theorem length_words_lowercase (s : String) : (words (lowercase s)).length = (words s).length := by
  obtain ⟨hword, hrest⟩ := leadingWord_lowerFrom [] s.toList
  simp only [words, lowercase, String.toList_ofList, List.length_map, wordChars, List.isEmpty_iff,
    hword]
  split <;> simp [hrest]

end LogFilter.Text
