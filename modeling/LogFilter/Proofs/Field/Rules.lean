import LogFilter.Field

/-!
# The rules for proposals

A proposal is refused for the first rule that it breaks, and otherwise becomes a field that says what the
proposal does. The rules in their order: the name, the kind and the data type are given, the kind is known,
and a skip index is supported.
-/

namespace LogFilter

/-! ### Kinds -/

namespace FieldKind

private theorem ofName?_eq_some_iff {name : String} {kind : FieldKind} :
    ofName? name = some kind ↔ kind.name = name := by
  constructor
  · intro h
    unfold ofName? at h
    split at h <;> cases h <;> rfl
  · rintro rfl
    exact kind.ofName?_name

/-- The names of the kinds. -/
def names : List String := ["static", "attributes", "resources"]

/-- These are the names of the kinds, and no others. -/
theorem mem_names_iff {name : String} : name ∈ names ↔ ∃ kind : FieldKind, kind.name = name := by
  constructor
  · intro h
    simp only [names, List.mem_cons, List.not_mem_nil, or_false] at h
    rcases h with rfl | rfl | rfl
    · exact ⟨.static, rfl⟩
    · exact ⟨.attributes, rfl⟩
    · exact ⟨.resources, rfl⟩
  · rintro ⟨kind, rfl⟩
    cases kind <;> decide

private theorem parse_of_mem {name : String} (h : name ∈ names) :
    ∃ kind, parse name = .ok kind := by
  obtain ⟨kind, hkind⟩ := mem_names_iff.mp h
  exact ⟨kind, by rw [parse, ofName?_eq_some_iff.mpr hkind]⟩

private theorem parse_of_not_mem {name : String} (h : name ∉ names) :
    parse name = .error (.unsupportedFieldKind name) := by
  cases hname : ofName? name with
  | none => rw [parse, hname]
  | some kind => exact absurd (mem_names_iff.mpr ⟨kind, ofName?_eq_some_iff.mp hname⟩) h

end FieldKind

/-! ### Checking -/

namespace Proposal

/-- The proposal keeps all rules. -/
structure IsValid (p : Proposal) : Prop where
  name : p.name ≠ ""
  kind : p.kind ≠ ""
  dataType : p.dataType ≠ ""
  knownKind : p.kind ∈ FieldKind.names
  skipIndex : ∀ index, p.skipIndex = some index → SkipIndex.isSupported index = true

/-- The proposal breaks the rule with this error and keeps those before it. -/
inductive Breaks (p : Proposal) : QueryError → Prop
  | name (hname : p.name = "") : Breaks p (.missingAttribute "name")
  | kind (hname : p.name ≠ "") (hkind : p.kind = "") : Breaks p (.missingAttribute "type")
  | dataType (hname : p.name ≠ "") (hkind : p.kind ≠ "") (hdataType : p.dataType = "") :
    Breaks p (.missingAttribute "dataType")
  | unknownKind (hname : p.name ≠ "") (hkind : p.kind ≠ "") (hdataType : p.dataType ≠ "")
    (hunknown : p.kind ∉ FieldKind.names) : Breaks p (.unsupportedFieldKind p.kind)
  | skipIndex (hname : p.name ≠ "") (hkind : p.kind ≠ "") (hdataType : p.dataType ≠ "")
    (hknown : p.kind ∈ FieldKind.names) {index : String} (hindex : p.skipIndex = some index)
    (hunsupported : SkipIndex.isSupported index = false) : Breaks p (.unsupportedSkipIndex index)

variable {p : Proposal}

/-- A proposal that keeps all rules passes the check. -/
theorem check_of_isValid (h : p.IsValid) : p.check = .ok () := by
  obtain ⟨kind, hkind⟩ := FieldKind.parse_of_mem h.knownKind
  simp only [check, if_neg h.name, if_neg h.kind, if_neg h.dataType, hkind]
  cases hindex : p.skipIndex with
  | none => rfl
  | some index => simp [h.skipIndex index hindex]

/-- A proposal that breaks a rule is refused for it. -/
theorem check_of_breaks {e : QueryError} (h : p.Breaks e) : p.check = .error e := by
  cases h with
  | name hname => simp [check, hname]
  | kind hname hkind => simp [check, hname, hkind]
  | dataType hname hkind hdataType => simp [check, hname, hkind, hdataType]
  | unknownKind hname hkind hdataType hunknown =>
    simp [check, hname, hkind, hdataType, FieldKind.parse_of_not_mem hunknown]
  | skipIndex hname hkind hdataType hknown hindex hunsupported =>
    obtain ⟨kind, hparse⟩ := FieldKind.parse_of_mem hknown
    simp [check, hname, hkind, hdataType, hparse, hindex, hunsupported]

/-- A proposal that does not keep all rules breaks one first. -/
theorem isValid_or_breaks (p : Proposal) : p.IsValid ∨ ∃ e, p.Breaks e := by
  by_cases hname : p.name = ""
  · exact .inr ⟨_, .name hname⟩
  by_cases hkind : p.kind = ""
  · exact .inr ⟨_, .kind hname hkind⟩
  by_cases hdataType : p.dataType = ""
  · exact .inr ⟨_, .dataType hname hkind hdataType⟩
  by_cases hknown : p.kind ∈ FieldKind.names
  · cases hindex : p.skipIndex with
    | none => exact .inl ⟨hname, hkind, hdataType, hknown, by simp [hindex]⟩
    | some index =>
      cases hsupported : SkipIndex.isSupported index with
      | true => exact .inl ⟨hname, hkind, hdataType, hknown, by simp [hindex, hsupported]⟩
      | false => exact .inr ⟨_, .skipIndex hname hkind hdataType hknown hindex hsupported⟩
  · exact .inr ⟨_, .unknownKind hname hkind hdataType hknown⟩

/-- What holds of the proposals that keep all rules, and of none that breaks one, tells them apart. -/
theorem iff_isValid {Passes : Prop} (hvalid : p.IsValid → Passes)
    (hbreaks : ∀ e, p.Breaks e → ¬ Passes) : Passes ↔ p.IsValid := by
  refine ⟨fun h => p.isValid_or_breaks.resolve_right ?_, hvalid⟩
  rintro ⟨e, he⟩
  exact hbreaks e he h

/-- Exactly the proposals that keep all rules pass the check. -/
theorem check_eq_ok_iff : p.check = .ok () ↔ p.IsValid := by
  refine iff_isValid check_of_isValid fun e he => ?_
  rw [check_of_breaks he]
  nofun

/-- The check fails for the first rule that is broken. -/
theorem check_eq_error_iff {e : QueryError} : p.check = .error e ↔ p.Breaks e := by
  refine ⟨fun h => ?_, check_of_breaks⟩
  rcases p.isValid_or_breaks with hvalid | ⟨e', he'⟩
  · rw [check_of_isValid hvalid] at h
    cases h
  · rw [check_of_breaks he'] at h
    cases h
    exact he'

/-- A proposal breaks a rule. -/
def Rejected (p : Proposal) : Prop := ∃ e, p.check = .error e

end Proposal

/-! ### Accepting -/

/-- The proposal that names a field as it is. -/
def Field.proposal (field : Field) : Proposal :=
  ⟨field.name, field.kind.name, field.dataType, field.skipIndex⟩

namespace Proposal

variable {p : Proposal}

/-- A proposal that passes the check names a kind. -/
theorem exists_kind_of_check (h : p.check = .ok ()) : ∃ kind : FieldKind, kind.name = p.kind :=
  FieldKind.mem_names_iff.mp (check_eq_ok_iff.mp h).knownKind

/-- A proposal that passes the check is accepted as the field that it names, and as no other. -/
theorem accept_eq_ok_iff {field : Field} :
    p.accept = .ok field ↔ p.check = .ok () ∧ field.proposal = p := by
  unfold accept
  cases hcheck : p.check with
  | error e => simp
  | ok _ =>
    obtain ⟨kind, hkind⟩ := exists_kind_of_check hcheck
    simp only [FieldKind.parse, FieldKind.ofName?_eq_some_iff.mpr hkind, Except.ok.injEq, true_and]
    constructor
    · rintro rfl
      simp [Field.proposal, hkind]
    · rintro rfl
      have hsame : FieldKind.ofName? field.kind.name = some kind :=
        FieldKind.ofName?_eq_some_iff.mpr hkind
      rw [field.kind.ofName?_name, Option.some.injEq] at hsame
      subst hsame
      rfl

/-- A proposal is rejected exactly as its check fails. -/
theorem accept_eq_error_iff {e : QueryError} : p.accept = .error e ↔ p.check = .error e := by
  unfold accept
  cases hcheck : p.check with
  | error e' => simp
  | ok _ =>
    obtain ⟨kind, hkind⟩ := exists_kind_of_check hcheck
    simp [FieldKind.parse, FieldKind.ofName?_eq_some_iff.mpr hkind]

end Proposal

end LogFilter
