import LogFilter.Text.Basic
import LogFilter.Text.Lowercase

/-!
# Lowercasing of ASCII text

Column names and keywords are ASCII. On them full lowercasing is the lowercasing of letters one by
one, whatever stands around them.
-/

namespace LogFilter.Text

/-- All characters are ASCII. -/
def IsAscii (cs : List Char) : Prop := ∀ c ∈ cs, c.toNat < 128

instance (cs : List Char) : Decidable (IsAscii cs) := List.decidableBAll _ cs

/-- What holds of the first 128 characters holds of every ASCII character. -/
@[elab_as_elim]
theorem ascii_cases {motive : Char → Prop} (c : Char) (hc : c.toNat < 128)
    (h : ∀ n : Fin 128, motive (Char.ofNat n)) : motive c := by
  have hn := h ⟨c.toNat, hc⟩
  rwa [Char.ofNat_toNat] at hn

/-- A character beyond ASCII stays as it is. -/
theorem toLower_of_ge {c : Char} (h : 128 ≤ c.toNat) : c.toLower = c := by
  unfold Char.toLower
  split
  · next hc =>
    have hle : c.val.toNat ≤ 90 := UInt32.le_iff_toNat_le.mp hc.2
    rw [Char.toNat] at h
    omega
  · rfl

/-- Lowercase letters stay. -/
theorem toLower_toLower (c : Char) : c.toLower.toLower = c.toLower := by
  by_cases h : c.toNat < 128
  · exact ascii_cases c h (by decide +kernel)
  · have hge : c.toLower = c := toLower_of_ge (by omega)
    rw [hge, hge]

/-- The code points of the capitals. -/
theorem isUpper_eq_false_iff {c : Char} :
    c.isUpper = false ↔ c.toNat < 0x41 ∨ 0x5A < c.toNat := by
  have hrange : c.isUpper = true ↔ 0x41 ≤ c.toNat ∧ c.toNat ≤ 0x5A := by
    delta Char.isUpper
    rw [decide_eq_true_eq, ge_iff_le, UInt32.le_iff_toNat_le, UInt32.le_iff_toNat_le]
    rfl
  rw [← Bool.not_eq_true, hrange]
  omega

/-- The characters that lowercasing of letters changes are the capitals. -/
theorem toLower_eq_self_iff {c : Char} : c.toLower = c ↔ c.isUpper = false := by
  by_cases h : c.toNat < 128
  · exact ascii_cases c h (by decide +kernel)
  · exact iff_of_true (toLower_of_ge (by omega)) (isUpper_eq_false_iff.mpr (by omega))

/-- A text that is checked to have no capitals has none. -/
theorem forall_isUpper_eq_false {cs : List Char} (h : cs.all (!·.isUpper) = true) :
    ∀ c ∈ cs, c.isUpper = false := by
  simpa using h

/-- Exactly a text without capitals stays as it is when its letters are lowered. -/
theorem map_toLower_eq_self_iff {cs : List Char} :
    cs.map Char.toLower = cs ↔ ∀ c ∈ cs, c.isUpper = false := by
  have hid : cs.map Char.toLower = cs ↔ cs.map Char.toLower = cs.map id := by rw [List.map_id]
  rw [hid, List.map_inj_left]
  simp only [id_eq, toLower_eq_self_iff]

/-- Lowering the letters of a text lowers each of them. -/
theorem toList_toLower (s : String) : s.toLower.toList = s.toList.map Char.toLower :=
  String.toList_map

/-- A text whose lowercase is ASCII is ASCII. -/
theorem isAscii_of_map_toLower {cs : List Char} (h : IsAscii (cs.map Char.toLower)) :
    IsAscii cs := by
  intro c hc
  have hlt := h c.toLower (List.mem_map_of_mem hc)
  by_cases hge : 128 ≤ c.toNat
  · rwa [toLower_of_ge hge] at hlt
  · omega

private theorem find?_ascii {n : Nat} (h : n < 128) :
    lowercaseRuns.find? (·.covers n) =
      if 0x41 ≤ n ∧ n ≤ 0x5A then some ⟨0x41, 0x5A, 1, 0x61⟩ else none := by
  have hruns : lowercaseRuns = ⟨0x41, 0x5A, 1, 0x61⟩ :: lowercaseRuns.tail := rfl
  have hfirst : lowercaseRuns.tail.all (fun run => 128 ≤ run.first) = true := by decide +kernel
  have htail : lowercaseRuns.tail.find? (·.covers n) = none := by
    rw [List.find?_eq_none]
    intro run hrun
    have hge := of_decide_eq_true (List.all_eq_true.mp hfirst run hrun)
    simp only [CaseRun.covers, Bool.and_eq_true, decide_eq_true_eq]
    omega
  rw [hruns, List.find?_cons, htail]
  by_cases hupper : 0x41 ≤ n ∧ n ≤ 0x5A
  · simp [CaseRun.covers, hupper, Nat.mod_one]
  · have hcovers : CaseRun.covers ⟨0x41, 0x5A, 1, 0x61⟩ n = false := by
      simp only [CaseRun.covers, Bool.and_eq_false_iff, decide_eq_false_iff_not]
      omega
    rw [hcovers, if_neg hupper]

/-- An ASCII character is lowercased alone. -/
theorem lowerChar_of_ascii {c : Char} (h : c.toNat < 128) : lowerChar c = [c.toLower] := by
  have hdot : c ≠ 'İ' := by
    rintro rfl
    revert h
    decide
  have hletter : (if 0x41 ≤ c.toNat ∧ c.toNat ≤ 0x5A then
      Char.ofNat (0x61 + (c.toNat - 0x41)) else c) = c.toLower :=
    ascii_cases c h (by decide +kernel)
  rw [lowerChar, if_neg hdot, find?_ascii h, ← hletter]
  by_cases hupper : 0x41 ≤ c.toNat ∧ c.toNat ≤ 0x5A
  · rw [if_pos hupper, if_pos hupper]
    rfl
  · rw [if_neg hupper, if_neg hupper]

/-- An ASCII beginning of a text is lowercased letter by letter. -/
theorem lowerFrom_ascii {cs : List Char} (h : IsAscii cs) (before rest : List Char) :
    lowerFrom before (cs ++ rest) =
      cs.map Char.toLower ++ lowerFrom (cs.reverse ++ before) rest := by
  induction cs generalizing before with
  | nil => rfl
  | cons c cs ih =>
    have hc : c.toNat < 128 := h c List.mem_cons_self
    have hsigma : c ≠ 'Σ' := by
      rintro rfl
      revert hc
      decide
    have hcs := ih (fun x hx => h x (List.mem_cons_of_mem c hx)) (c :: before)
    rw [List.cons_append, lowerFrom, if_neg hsigma, lowerChar_of_ascii hc, hcs]
    simp

/-- An ASCII text is lowercased letter by letter. -/
theorem lowercase_ascii {s : String} (h : IsAscii s.toList) :
    lowercase s = String.ofList (s.toList.map Char.toLower) := by
  have hs := lowerFrom_ascii h [] []
  rw [lowercase, ← List.append_nil s.toList, hs]
  simp [lowerFrom]

/-- Lowercasing moves no character into or out of the blanks. -/
theorem isBlank_toLower (c : Char) : isBlank c.toLower = isBlank c := by
  by_cases h : c.toNat < 128
  · exact ascii_cases c h (by decide +kernel)
  · rw [toLower_of_ge (by omega)]

end LogFilter.Text
