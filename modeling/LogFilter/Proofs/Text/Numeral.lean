import LogFilter.Proofs.Text.Longest
import LogFilter.Text.Basic

/-!
# Numerals and their values

A numeral is a run of ASCII digits, perhaps after a plus sign, and means a number digit by digit. A word is
read from exactly the numerals of its value, so that nothing wraps.
-/

namespace LogFilter.Text

/-- The text is a numeral of this number. -/
def Denotes (text : String) (n : Nat) : Prop :=
  ∃ digits, (text.toList = digits ∨ text.toList = '+' :: digits) ∧ IsRun Char.isDigit digits ∧
    Nat.ofDigitChars 10 digits 0 = n

private theorem digits?_eq_some_iff {cs : List Char} {n : Nat} :
    digits? cs = some n ↔ IsRun Char.isDigit cs ∧ Nat.ofDigitChars 10 cs 0 = n := by
  simp [digits?, IsRun]

/-- The plus sign is no digit, so that it can only come first. -/
theorem not_isRun_plus (cs : List Char) : ¬ IsRun Char.isDigit ('+' :: cs) := by
  intro h
  have hplus := h.2 '+' List.mem_cons_self
  revert hplus
  decide

/-- Exactly the numerals of a number are read as it. -/
theorem numeral?_eq_some_iff {text : String} {n : Nat} :
    numeral? text = some n ↔ Denotes text n := by
  unfold numeral? Denotes
  split
  · next cs hcs =>
    rw [digits?_eq_some_iff]
    constructor
    · exact fun h => ⟨cs, .inr hcs, h⟩
    · rintro ⟨digits, hdigits | hdigits, hrun, hvalue⟩
      · rw [← hdigits, hcs] at hrun
        exact absurd hrun (not_isRun_plus cs)
      · obtain ⟨-, rfl⟩ := List.cons.inj (hcs.symm.trans hdigits)
        exact ⟨hrun, hvalue⟩
  · next hplus =>
    rw [digits?_eq_some_iff]
    constructor
    · exact fun h => ⟨text.toList, .inl rfl, h⟩
    · rintro ⟨digits, hdigits | hdigits, hrun, hvalue⟩
      · rw [hdigits]
        exact ⟨hrun, hvalue⟩
      · exact absurd hdigits (hplus digits)

/-! ### Words of a fixed width -/

section

variable {W : Type} {size : Nat} {toNat : W → Nat}

/-- Words that stand for the numbers below a bound: a number gives exactly the word that stands for it. -/
private theorem word?_eq_some_iff (ofNatLT : (n : Nat) → n < size → W)
    (hto : ∀ n h, toNat (ofNatLT n h) = n) (hof : ∀ w h, ofNatLT (toNat w) h = w)
    (hlt : ∀ w, toNat w < size) {n : Nat} {w : W} :
    (if h : n < size then some (ofNatLT n h) else none) = some w ↔ toNat w = n := by
  split
  · next hn =>
    rw [Option.some.injEq]
    constructor
    · rintro rfl
      exact hto n hn
    · rintro rfl
      exact hof w hn
  · next hn =>
    constructor
    · intro h
      cases h
    · rintro rfl
      exact absurd (hlt w) hn

/-- A number gives the word of 16 bits that stands for it, and no other. -/
theorem uint16?_eq_some_iff {n : Nat} {w : UInt16} : uint16? n = some w ↔ w.toNat = n :=
  word?_eq_some_iff UInt16.ofNatLT (fun _ _ => UInt16.toNat_ofNatLT)
    (fun w _ => w.ofNatLT_toNat) UInt16.toNat_lt_size

private theorem uint32?_eq_some_iff {n : Nat} {w : UInt32} : uint32? n = some w ↔ w.toNat = n :=
  word?_eq_some_iff UInt32.ofNatLT (fun _ _ => UInt32.toNat_ofNatLT)
    (fun w _ => w.ofNatLT_toNat) UInt32.toNat_lt_size

/-- A number gives the word of 64 bits that stands for it, and no other. -/
theorem uint64?_eq_some_iff {n : Nat} {w : UInt64} : uint64? n = some w ↔ w.toNat = n :=
  word?_eq_some_iff UInt64.ofNatLT (fun _ _ => UInt64.toNat_ofNatLT)
    (fun w _ => w.ofNatLT_toNat) UInt64.toNat_lt_size

private theorem numeral?_bind_eq_some_iff {word? : Nat → Option W}
    (hword : ∀ {n w}, word? n = some w ↔ toNat w = n) {text : String} {w : W} :
    (numeral? text).bind word? = some w ↔ Denotes text (toNat w) := by
  simp only [Option.bind_eq_some_iff, numeral?_eq_some_iff, hword]
  constructor
  · rintro ⟨n, hn, rfl⟩
    exact hn
  · exact fun h => ⟨_, h, rfl⟩

/-- A word of 32 bits is read from exactly the numerals of its value. -/
theorem readUInt32?_eq_some_iff {text : String} {w : UInt32} :
    readUInt32? text = some w ↔ Denotes text w.toNat :=
  numeral?_bind_eq_some_iff uint32?_eq_some_iff

/-- A word of 64 bits is read from exactly the numerals of its value. -/
theorem readUInt64?_eq_some_iff {text : String} {w : UInt64} :
    readUInt64? text = some w ↔ Denotes text w.toNat :=
  numeral?_bind_eq_some_iff uint64?_eq_some_iff

end

/-! ### Digit by digit -/

/-- The digits have this value: with one more of them it is ten times as much and that digit. -/
inductive HasValue : List Char → Nat → Prop
  | one {c : Char} (digit : c.isDigit = true) : HasValue [c] (c.toNat - '0'.toNat)
  | next {cs : List Char} {n : Nat} (front : HasValue cs n) {c : Char} (digit : c.isDigit = true) :
    HasValue (cs ++ [c]) (10 * n + (c.toNat - '0'.toNat))

/-- The text is a numeral of this number: digits of that value, perhaps after a plus sign. -/
def IsNumeral (text : String) (n : Nat) : Prop :=
  ∃ digits, (text.toList = digits ∨ text.toList = '+' :: digits) ∧ HasValue digits n

/-- The value of digits after which more of them follow. -/
theorem HasValue.append {front : List Char} {n : Nat} (h : HasValue front n) {cs : List Char}
    (hcs : ∀ c ∈ cs, c.isDigit = true) : HasValue (front ++ cs) (Nat.ofDigitChars 10 cs n) := by
  induction cs generalizing front n with
  | nil => simpa using h
  | cons c cs ih =>
    obtain ⟨hc, hcs⟩ := List.forall_mem_cons.mp hcs
    have hmore := ih (h.next hc) hcs
    rwa [List.append_assoc, List.singleton_append, ← Nat.ofDigitChars_cons] at hmore

private theorem hasValue_iff {cs : List Char} {n : Nat} :
    HasValue cs n ↔ IsRun Char.isDigit cs ∧ Nat.ofDigitChars 10 cs 0 = n := by
  constructor
  · intro h
    induction h with
    | one digit => exact ⟨⟨by simp, by simpa using digit⟩, by simp [Nat.ofDigitChars_cons]⟩
    | next front digit ih =>
      obtain ⟨hrun, rfl⟩ := ih
      refine ⟨⟨by simp, ?_⟩, ?_⟩
      · intro c hc
        rcases List.mem_append.mp hc with hc | hc
        · exact hrun.2 c hc
        · rwa [List.mem_singleton.mp hc]
      · rw [Nat.ofDigitChars_append, Nat.ofDigitChars_cons, Nat.ofDigitChars_nil]
  · rintro ⟨⟨hne, hdigits⟩, rfl⟩
    obtain ⟨c, cs, rfl⟩ := List.exists_cons_of_ne_nil hne
    obtain ⟨hc, hcs⟩ := List.forall_mem_cons.mp hdigits
    have hvalue := (HasValue.one hc).append hcs
    rwa [List.singleton_append, ← Nat.zero_add (c.toNat - '0'.toNat)] at hvalue

/-- Numerals mean what they say digit by digit. -/
theorem denotes_iff_isNumeral {text : String} {n : Nat} : Denotes text n ↔ IsNumeral text n := by
  simp only [Denotes, IsNumeral, hasValue_iff]

/-- A text is a numeral of at most one number. -/
theorem IsNumeral.unique {text : String} {n m : Nat} (hn : IsNumeral text n)
    (hm : IsNumeral text m) : n = m := by
  rw [← denotes_iff_isNumeral, ← numeral?_eq_some_iff] at hn hm
  exact Option.some.inj (hn.symm.trans hm)

/-! ### Readers -/

/-- The text is a numeral of a number below the bound. -/
def IsNumeralBelow (bound : Nat) (text : String) : Prop := ∃ n < bound, IsNumeral text n

/-- The reader gives words, which stand for the numbers below a bound, from exactly the numerals of their
values. -/
structure ReadsNumerals {W : Type} (read? : String → Option W) (toNat : W → Nat) (bound : Nat) :
    Prop where
  eq_some_iff : ∀ {text w}, read? text = some w ↔ IsNumeral text (toNat w)
  exists_iff : ∀ {n}, (∃ w, toNat w = n) ↔ n < bound

/-- Exactly the texts that are no numeral of a number below the bound are not read. -/
theorem ReadsNumerals.eq_none_iff {W : Type} {read? : String → Option W} {toNat : W → Nat}
    {bound : Nat} (h : ReadsNumerals read? toNat bound) {text : String} :
    read? text = none ↔ ¬ IsNumeralBelow bound text := by
  rw [Option.eq_none_iff_forall_ne_some]
  constructor
  · rintro hnone ⟨n, hn, hnumeral⟩
    obtain ⟨w, rfl⟩ := h.exists_iff.mpr hn
    exact hnone w (h.eq_some_iff.mpr hnumeral)
  · intro hno w hw
    exact hno ⟨toNat w, h.exists_iff.mp ⟨w, rfl⟩, h.eq_some_iff.mp hw⟩

/-- Words of 32 bits are read from the numerals of their values. -/
theorem readsNumerals_readUInt32? : ReadsNumerals readUInt32? UInt32.toNat UInt32.size where
  eq_some_iff := readUInt32?_eq_some_iff.trans denotes_iff_isNumeral
  exists_iff := ⟨fun ⟨w, hw⟩ => hw ▸ w.toNat_lt_size,
    fun hn => ⟨UInt32.ofNatLT _ hn, UInt32.toNat_ofNatLT⟩⟩

/-- Words of 64 bits are read from the numerals of their values. -/
theorem readsNumerals_readUInt64? : ReadsNumerals readUInt64? UInt64.toNat UInt64.size where
  eq_some_iff := readUInt64?_eq_some_iff.trans denotes_iff_isNumeral
  exists_iff := ⟨fun ⟨w, hw⟩ => hw ▸ w.toNat_lt_size,
    fun hn => ⟨UInt64.ofNatLT _ hn, UInt64.toNat_ofNatLT⟩⟩

/-! ### Writing -/

/-- The decimal digits of a number are a numeral of it. -/
theorem denotes_decimal (n : Nat) : Denotes (decimal n) n := by
  refine ⟨Nat.toDigits 10 n, .inl String.toList_ofList, ⟨Nat.toDigits_ne_nil, ?_⟩, ?_⟩
  · exact fun c hc => Nat.isDigit_of_mem_toDigits (by omega) (by omega) hc
  · exact Nat.ofDigitChars_toDigits (by omega) (by omega)

/-- A numeral has no minus sign, so that it is read alike where one is allowed. -/
theorem signedNumeral?_of_denotes {text : String} {n : Nat} (h : Denotes text n) :
    signedNumeral? text = some n := by
  unfold signedNumeral?
  split
  · next cs hcs =>
    obtain ⟨digits, hdigits | hdigits, hrun, -⟩ := h
    · have hminus := hrun.2 '-' (by simp [← hdigits, hcs])
      exact absurd hminus (by decide)
    · rw [hcs] at hdigits
      exact absurd (List.cons.inj hdigits).1 (by decide)
  · exact numeral?_eq_some_iff.mpr h

/-- A word of 64 bits is read back from its digits. -/
theorem readUInt64?_decimal (w : UInt64) : readUInt64? (decimal w.toNat) = some w :=
  readUInt64?_eq_some_iff.mpr (denotes_decimal w.toNat)

end LogFilter.Text
