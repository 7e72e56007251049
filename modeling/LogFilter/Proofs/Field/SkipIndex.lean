import LogFilter.Field
import LogFilter.Proofs.Text.Longest

/-!
# The language of skip indexes

Which texts define a skip index, said without the recogniser: five forms, with numbers of any length in
three of them. What passes goes into the definition of a table as it stands, so the recogniser must accept
these texts only, and each as a whole.
-/

namespace LogFilter

/-! ### Splitting at a character -/

namespace Text

private theorem splitAt_eq_splitOn (x : Char) (cs : List Char) : splitAt x cs = cs.splitOn x := by
  induction cs with
  | nil => rfl
  | cons c cs ih =>
    rw [List.splitOn_cons_eq_if_modifyHead, splitAt, ← ih]
    by_cases hc : c = x
    · simp [hc]
    · obtain ⟨part, parts, hparts⟩ := List.exists_cons_of_ne_nil (splitAt_ne_nil x cs)
      simp [hc, hparts]

/-- Parts without the character are the parts of their text. -/
theorem splitAt_intercalate {x : Char} {parts : List (List Char)} (hne : parts ≠ [])
    (h : ∀ part ∈ parts, x ∉ part) : splitAt x ([x].intercalate parts) = parts := by
  rw [splitAt_eq_splitOn, List.splitOn_intercalate x h hne]

end Text

namespace SkipIndex

/-- A number: one or more ASCII digits. -/
def IsNumber (text : String) : Prop := IsRun Char.isDigit text.toList

/-- A probability: `1`, or a point and digits with or without a zero before the point. -/
inductive IsProbability : String → Prop
  | one : IsProbability "1"
  | fraction {zero digits : String} (hzero : zero = "" ∨ zero = "0") (hdigits : IsNumber digits) :
    IsProbability (zero ++ "." ++ digits)

/-- The given number of numbers, with commas between them. -/
def AreNumbers (count : Nat) (text : String) : Prop :=
  ∃ numbers : List String, numbers.length = count ∧ (∀ number ∈ numbers, IsNumber number) ∧
    text = ",".intercalate numbers

/-- The definitions of skip indexes. -/
inductive IsDefinition : String → Prop
  | minmax : IsDefinition "minmax"
  | set {digit : Char} (h : digit.isDigit = true) :
    IsDefinition ("set(" ++ String.singleton digit ++ ")")
  | bloomFilter {p : String} (h : IsProbability p) : IsDefinition ("bloom_filter(" ++ p ++ ")")
  | tokens {numbers : String} (h : AreNumbers 3 numbers) :
    IsDefinition ("tokenbf_v1(" ++ numbers ++ ")")
  | ngrams {numbers : String} (h : AreNumbers 4 numbers) :
    IsDefinition ("ngrambf_v1(" ++ numbers ++ ")")

/-! ### Arguments -/

/-- A text is cut into a name and its arguments where it is put together from them. -/
theorem arguments?_eq_some_iff {name : String} {cs arg : List Char} :
    arguments? name cs = some arg ↔ cs = name.toList ++ '(' :: (arg ++ [')']) := by
  have hafter (rest : List Char) : Text.after? (name.toList ++ ['(']) cs = some rest ↔
      cs = name.toList ++ '(' :: rest := by
    rw [Text.after?_eq_some_iff, List.append_assoc, List.singleton_append]
  unfold arguments?
  constructor
  · intro h
    split at h
    · next rest hrest =>
      split at h
      · next hlast =>
        obtain ⟨front, rfl⟩ := List.getLast?_eq_some_iff.mp hlast
        rw [List.dropLast_concat, Option.some.injEq] at h
        rw [← h]
        exact (hafter _).mp hrest
      · cases h
    · cases h
  · intro h
    rw [(hafter (arg ++ [')'])).mpr h]
    simp

/-- The recogniser of a form accepts the name with arguments in parentheses. -/
theorem any_arguments?_iff {name text : String} {accepts : List Char → Bool} :
    (arguments? name text.toList).any accepts = true ↔
      ∃ arg : String, accepts arg.toList = true ∧ text = name ++ "(" ++ arg ++ ")" := by
  have htext (arg : String) : text = name ++ "(" ++ arg ++ ")" ↔
      text.toList = name.toList ++ '(' :: (arg.toList ++ [')']) := by
    rw [← String.toList_inj]
    simp
  simp only [Option.any_eq_true, htext]
  constructor
  · rintro ⟨arg, harg, haccepts⟩
    refine ⟨String.ofList arg, ?_, ?_⟩
    · rwa [String.toList_ofList]
    · rw [String.toList_ofList]
      exact arguments?_eq_some_iff.mp harg
  · rintro ⟨arg, haccepts, htext⟩
    exact ⟨arg.toList, arguments?_eq_some_iff.mpr htext, haccepts⟩

/-! ### Numbers -/

private theorem isNatural_iff {cs : List Char} : isNatural cs = true ↔ IsRun Char.isDigit cs := by
  simp [isNatural, IsRun]

private theorem IsNumber.comma_not_mem {text : String} (h : IsNumber text) : ',' ∉ text.toList := by
  intro hmem
  have hdigit := h.2 ',' hmem
  revert hdigit
  decide

/-- The recogniser of several numbers splits them at the commas, which no number has. -/
theorem areNaturals_iff {count : Nat} (hcount : count ≠ 0) {text : String} :
    areNaturals count text.toList = true ↔ AreNumbers count text := by
  simp only [areNaturals, Bool.and_eq_true, beq_iff_eq, List.all_eq_true, isNatural_iff]
  constructor
  · rintro ⟨hlength, hruns⟩
    refine ⟨(Text.splitAt ',' text.toList).map String.ofList, ?_, ?_, ?_⟩
    · rw [List.length_map, hlength]
    · rw [List.forall_mem_map]
      intro part hpart
      rw [IsNumber, String.toList_ofList]
      exact hruns part hpart
    · rw [← String.toList_inj, String.toList_intercalate, List.map_map]
      simp only [Function.comp_def, String.toList_ofList, List.map_id']
      exact (Text.intercalate_splitAt ',' text.toList).symm
  · rintro ⟨numbers, rfl, hnumbers, rfl⟩
    have hne : numbers.map String.toList ≠ [] := by
      intro hnil
      rw [List.map_eq_nil_iff.mp hnil] at hcount
      exact hcount rfl
    have hsplit : Text.splitAt ',' (",".intercalate numbers).toList = numbers.map String.toList := by
      rw [String.toList_intercalate]
      exact Text.splitAt_intercalate hne
        (List.forall_mem_map.mpr fun number hnumber => (hnumbers number hnumber).comma_not_mem)
    rw [hsplit, List.length_map]
    exact ⟨rfl, List.forall_mem_map.mpr hnumbers⟩

/-- Exactly the probabilities are recognised. -/
theorem isProbability_iff {text : String} :
    isProbability text.toList = true ↔ IsProbability text := by
  constructor
  · intro h
    unfold isProbability at h
    split at h
    · next htext =>
      obtain rfl : text = "1" := String.toList_inj.mp htext
      exact .one
    · next digits htext =>
      have heq : text = "0" ++ "." ++ String.ofList digits := by
        rw [← String.toList_inj, htext]
        simp
      rw [heq]
      exact .fraction (.inr rfl) (by simpa [IsNumber] using isNatural_iff.mp h)
    · next digits htext =>
      have heq : text = "" ++ "." ++ String.ofList digits := by
        rw [← String.toList_inj, htext]
        simp
      rw [heq]
      exact .fraction (.inl rfl) (by simpa [IsNumber] using isNatural_iff.mp h)
    · cases h
  · rintro (_ | ⟨rfl | rfl, hdigits⟩)
    · decide
    · simpa [isProbability] using isNatural_iff.mpr hdigits
    · simpa [isProbability] using isNatural_iff.mpr hdigits

/-- The recogniser of a set accepts one digit. -/
theorem one_digit_iff {text : String} :
    (text.toList.length == 1 && isNatural text.toList) = true ↔
      ∃ digit : Char, digit.isDigit = true ∧ text = String.singleton digit := by
  rw [Bool.and_eq_true, beq_iff_eq, isNatural_iff, List.length_eq_one_iff]
  constructor
  · rintro ⟨⟨digit, htext⟩, hrun⟩
    refine ⟨digit, hrun.2 digit ?_, ?_⟩
    · rw [htext, List.mem_singleton]
    · rw [← String.toList_inj, htext, String.toList_singleton]
  · rintro ⟨digit, hdigit, rfl⟩
    rw [String.toList_singleton]
    exact ⟨⟨digit, rfl⟩, by simp, by simpa using hdigit⟩

/-- The text is the definition of a skip index exactly when it is, as a whole, `minmax`, `set(d)` with one
digit, `bloom_filter(p)` with a probability, `tokenbf_v1` of three numbers or `ngrambf_v1` of four. -/
theorem isSupported_iff_isDefinition (text : String) :
    isSupported text = true ↔ IsDefinition text := by
  simp only [isSupported, Bool.or_eq_true, beq_iff_eq, any_arguments?_iff, isProbability_iff,
    one_digit_iff, areNaturals_iff (by decide : 3 ≠ 0), areNaturals_iff (by decide : 4 ≠ 0)]
  constructor
  · rintro ((((rfl | ⟨_, ⟨digit, hdigit, rfl⟩, rfl⟩) | ⟨p, hp, rfl⟩) | ⟨numbers, h, rfl⟩) |
      ⟨numbers, h, rfl⟩)
    · exact .minmax
    · exact .set hdigit
    · exact .bloomFilter hp
    · exact .tokens h
    · exact .ngrams h
  · rintro (_ | h | h | h | h)
    · exact .inl (.inl (.inl (.inl rfl)))
    · exact .inl (.inl (.inl (.inr ⟨_, ⟨_, h, rfl⟩, rfl⟩)))
    · exact .inl (.inl (.inr ⟨_, h, rfl⟩))
    · exact .inl (.inr ⟨_, h, rfl⟩)
    · exact .inr ⟨_, h, rfl⟩

/-- A line break at the end is not passed over, and a digit of another script is none. -/
example : isSupported "minmax\n" = false ∧ isSupported "set(٣)" = false ∧
    isSupported "tokenbf_v1(10240,3,0)" = true := by decide

end SkipIndex

end LogFilter
