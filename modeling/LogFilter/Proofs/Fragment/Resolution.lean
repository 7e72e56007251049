import LogFilter.Proofs.Fragment.Column
import LogFilter.Proofs.Text.Replacement
import LogFilter.Fragment

/-!
# Resolution and conjunctions

A fragment joins to those before it when it starts with `and`. Resolution of the column gives no fragment
a conjunction that it did not have, and takes one away only where the name of the column occurs in it and
is replaced there.
-/

namespace LogFilter

open Text

/-- The column is stored as such: the body, or a selected field. -/
def Catalog.IsPhysical (catalog : Catalog) (column : String) : Prop :=
  column = bodyColumn ∨ catalog.isSelected column = true

/-- Inversion: a resolved fragment is unchanged, or its column is replaced by a look-up. -/
theorem Catalog.resolveFragment_inv {catalog : Catalog} {fragment resolved : String}
    (h : catalog.resolveFragment fragment = .ok resolved) :
    ∃ column, Fragment.column fragment = .ok column ∧
      ((catalog.IsPhysical column ∧ resolved = fragment) ∨
        (¬ catalog.IsPhysical column ∧ ∃ field, catalog.interestingField? column = some field ∧
          resolved = replaceFirst fragment column (field.lookup column))) := by
  unfold resolveFragment at h
  split at h
  · cases h
  · next column hcol =>
    refine ⟨column, hcol, ?_⟩
    split at h
    · next hphys =>
      rw [Bool.or_eq_true, decide_eq_true_eq] at hphys
      exact .inl ⟨hphys, (Except.ok.inj h).symm⟩
    · next hphys =>
      rw [Bool.or_eq_true, decide_eq_true_eq] at hphys
      split at h
      · next field hfield => exact .inr ⟨hphys, field, hfield, (Except.ok.inj h).symm⟩
      · cases h

/-- The column of an interesting field is replaced by a look-up. -/
theorem Catalog.resolveFragment_of_interesting {catalog : Catalog} {fragment column : String}
    {field : Field} (hcolumn : Fragment.column fragment = .ok column)
    (hphysical : ¬ catalog.IsPhysical column)
    (hfield : catalog.interestingField? column = some field) :
    catalog.resolveFragment fragment =
      .ok (replaceFirst fragment column (field.lookup column)) := by
  have hnot : ¬ (decide (column = bodyColumn) || catalog.isSelected column) = true := by
    rwa [Bool.or_eq_true, decide_eq_true_eq]
  unfold resolveFragment
  simp only [hcolumn, if_neg hnot, hfield]

namespace Fragment

/-- The fragment starts with `and`, in any case, and a space. -/
def Joins (fragment : String) : Prop :=
  IsAndWord (fragment.toList.take 3) ∧ fragment.toList[3]? = some ' '

instance : DecidablePred Joins := fun _ => inferInstanceAs (Decidable (_ ∧ _))

/-- The first word decides whether a fragment joins. -/
theorem joins_iff {fragment : String} {word rest : List Char} (hword : ' ' ∉ word)
    (htext : fragment.toList = word ++ ' ' :: rest) : Joins fragment ↔ IsAndWord word := by
  constructor
  · rintro ⟨hand, hfourth⟩
    obtain ⟨hlt, hspace⟩ := List.getElem?_eq_some_iff.mp hfourth
    have hcut := List.take_append_drop 3 fragment.toList
    rw [List.drop_eq_getElem_cons hlt, hspace, htext] at hcut
    rw [htext] at hand
    rwa [← (cut_unique hand.space_not_mem hword hcut).1]
  · intro hand
    obtain ⟨a, n, d, rfl⟩ := hand.eq_letters
    rw [Joins, htext]
    exact ⟨hand, rfl⟩

end Fragment

/-! ### Look-ups -/

/-- The name of a kind has no space, and more than three letters. -/
theorem FieldKind.name_word (kind : FieldKind) :
    ' ' ∉ kind.name.toList ∧ 3 < kind.name.toList.length := by
  cases kind <;> decide

/-- A look-up starts with the name of the kind of the field. -/
theorem Field.name_prefix_lookup (field : Field) (column : String) :
    ∃ rest, (field.lookup column).toList = field.kind.name.toList ++ rest := by
  simp only [lookup, bucket, String.toList_append, List.append_assoc]
  exact ⟨_, rfl⟩

/-- A fragment with a look-up among its first three characters does not join. -/
theorem Fragment.not_joins_of_lookup {fragment column : String} {field : Field}
    (init : List Char) {rest : List Char} (hinit : init.length ≤ 3)
    (htext : fragment.toList = init ++ (field.lookup column).toList ++ rest) :
    ¬ Joins fragment := by
  rintro ⟨-, hjoin⟩
  obtain ⟨more, hmore⟩ := field.name_prefix_lookup column
  obtain ⟨hspace, hlen⟩ := field.kind.name_word
  -- The fourth character lies in the name of the kind, and is no space.
  have hfourth : fragment.toList[3]? = field.kind.name.toList[3 - init.length]? := by
    rw [htext, hmore, List.append_assoc, List.append_assoc, List.getElem?_append_right hinit,
      List.getElem?_append_left (by omega)]
  rw [hjoin] at hfourth
  exact hspace (List.mem_of_getElem? hfourth.symm)

/-! ### Resolution -/

/-- A text does not occur in one that lacks some character of it. -/
theorem not_infix_of_not_mem {old text : List Char} {c : Char} (hold : c ∈ old)
    (htext : c ∉ text) : ¬ old <:+: text :=
  fun h => htext (h.subset hold)

namespace IsRun

variable {word : List Char}

/-- A plain word in lower case is not empty. -/
theorem lower_ne_nil (h : IsRun isPlain word) : word.map Char.toLower ≠ [] := by
  simpa using h.1

/-- A plain word in lower case has no spaces. -/
theorem space_not_mem_lower (h : IsRun isPlain word) : ' ' ∉ word.map Char.toLower := by
  intro hmem
  obtain ⟨c, hc, hlower⟩ := List.mem_map.mp hmem
  have hblank := isBlank_toLower c
  rw [hlower, isBlank_space, h.isBlank_eq_false c hc] at hblank
  cases hblank

end IsRun

/-- Where the first occurrence of a word in a conjunction starts: within its three letters. -/
theorem IsConjunction.length_init_le {lead init old tail : List Char} (hlead : IsConjunction lead)
    (hne : old ≠ []) (hspace : ' ' ∉ old) (heq : lead = init ++ old ++ tail) : init.length ≤ 3 := by
  obtain ⟨word, spaces, hand, rfl⟩ := hlead
  obtain ⟨a, n, d, rfl⟩ := hand.eq_letters
  obtain ⟨c, old, rfl⟩ := List.exists_cons_of_ne_nil hne
  apply Nat.le_of_not_lt
  intro hlt
  have hdrop : List.replicate (spaces + 1) ' ' = init.drop 3 ++ (c :: old ++ tail) := by
    rw [← List.drop_append_of_le_length (by omega), ← List.append_assoc, ← heq]
    rfl
  have hmem : c ∈ List.replicate (spaces + 1) ' ' := by
    rw [hdrop]
    simp
  rw [List.eq_of_mem_replicate hmem] at hspace
  simp at hspace

namespace Fragment

variable {catalog : Catalog} {fragment resolved : String} {word rest : List Char}

/-- A look-up that replaces a name within the first three characters leaves nothing that joins. -/
theorem not_joins_replaceFirst {front column : List Char} (field : Field) (hin : column <:+: front)
    (hinit : ∀ init tail, front = init ++ column ++ tail → init.length ≤ 3)
    (htext : fragment.toList = front ++ rest) :
    ¬ Joins (replaceFirst fragment (String.ofList column)
      (field.lookup (String.ofList column))) := by
  obtain ⟨init, tail, hfront, hreplace⟩ := replaceFirstChars_of_infix hin
    (field.lookup (String.ofList column)).toList rest
  apply not_joins_of_lookup init (hinit init tail hfront)
  rw [replaceFirst, String.toList_ofList, String.toList_ofList, htext, hreplace, List.append_assoc]

/-- A replacement of a name that does not occur in the first word leaves that word. -/
theorem joins_replaceFirst_iff {column : List Char} (new : String) (hspace : ' ' ∉ column)
    (hnot : ¬ column <:+: word) (hword : ' ' ∉ word)
    (htext : fragment.toList = word ++ ' ' :: rest) :
    Joins (replaceFirst fragment (String.ofList column) new) ↔ IsAndWord word := by
  have hreplace := replaceFirstChars_of_not_infix hspace hnot new.toList rest
  apply joins_iff hword
  rw [replaceFirst, String.toList_ofList, String.toList_ofList, htext, hreplace]

/-- A fragment that starts with another word than `and` does not join once it is resolved. -/
theorem not_joins_resolved (hword : IsRun isPlain word) (hand : ¬ IsAndWord word)
    (htext : fragment.toList = word ++ ' ' :: rest)
    (h : catalog.resolveFragment fragment = .ok resolved) : ¬ Joins resolved := by
  obtain ⟨column, hcol, ⟨-, rfl⟩ | ⟨-, field, -, rfl⟩⟩ := Catalog.resolveFragment_inv h
  · rwa [joins_iff hword.plain_space_not_mem htext]
  · obtain rfl := column_of_first_word hword hand htext hcol
    by_cases hin : word.map Char.toLower <:+: word
    · apply not_joins_replaceFirst field hin _ htext
      -- The word is as long as its lowercase, so the look-up stands at the head.
      intro init tail hfront
      have hlen := congrArg List.length hfront
      rw [List.length_append, List.length_append, List.length_map] at hlen
      omega
    · rwa [joins_replaceFirst_iff _ hword.space_not_mem_lower hin hword.plain_space_not_mem htext]

/-- A fragment that starts with a conjunction joins once it is resolved, unless the column is
replaced and its name occurs in the conjunction. -/
theorem joins_resolved_iff {lead : List Char} (hlead : IsConjunction lead)
    (hword : IsRun isPlain word) (htext : fragment.toList = lead ++ (word ++ ' ' :: rest))
    (h : catalog.resolveFragment fragment = .ok resolved) :
    Joins resolved ↔ ¬ (¬ catalog.IsPhysical (String.ofList (word.map Char.toLower)) ∧
      word.map Char.toLower <:+: lead) := by
  have ⟨conj, spaces, hconj, hsplit⟩ := hlead
  have hafter : fragment.toList =
      conj ++ ' ' :: (List.replicate spaces ' ' ++ (word ++ ' ' :: rest)) := by
    rw [htext, hsplit, List.replicate_succ, List.append_assoc, List.cons_append]
  obtain ⟨column, hcol, hcases⟩ := Catalog.resolveFragment_inv h
  obtain rfl := column_after_conjunction hlead hword htext hcol
  rcases hcases with ⟨hphys, rfl⟩ | ⟨hphys, field, -, rfl⟩
  · rw [joins_iff hconj.space_not_mem hafter]
    exact ⟨fun _ hlost => hlost.1 hphys, fun _ => hconj⟩
  · by_cases hin : word.map Char.toLower <:+: lead
    · have hnot := not_joins_replaceFirst field hin (fun init tail hfront =>
        hlead.length_init_le hword.lower_ne_nil hword.space_not_mem_lower hfront) htext
      exact iff_of_false hnot (not_not_intro ⟨hphys, hin⟩)
    · have hnot : ¬ word.map Char.toLower <:+: conj := by
        intro hin'
        apply hin
        rw [hsplit]
        exact hin'.trans (List.prefix_append conj _).isInfix
      rw [joins_replaceFirst_iff _ hword.space_not_mem_lower hnot hconj.space_not_mem hafter]
      exact ⟨fun _ hlost => hin hlost.2, fun _ => hconj⟩

end Fragment

end LogFilter
