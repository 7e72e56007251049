import LogFilter.Config.Settings

/-!
# Tables of last given fields

A table that is extended holds under each name the last field given for it, or else what it held before; no
name is lost. Tables are equal when their look-ups are, so fields may be given in portions, and in any order
that keeps those of one name in theirs.
-/

namespace LogFilter

/-! ### Extension -/

namespace FieldTable

private theorem contains_insert (table : FieldTable) (field : Field) (name : String) :
    (table.insert field).contains name = (decide (field.name = name) || table.contains name) := by
  rw [contains, contains, get?_insert]
  by_cases h : field.name = name <;> simp [h]

/-- No name is lost when fields are added. -/
theorem contains_extend {table : FieldTable} {name : String} (h : table.contains name = true)
    (fields : List Field) : (table.extend fields).contains name = true := by
  induction fields generalizing table with
  | nil => exact h
  | cons field fields ih =>
    apply ih
    rw [contains_insert, h, Bool.or_true]

end FieldTable

/-- A selected field stays selected when fields are added. -/
theorem Catalog.isSelected_extend {catalog : Catalog} {name : String}
    (h : catalog.isSelected name = true) (selected interesting : List Field) :
    (catalog.extend selected interesting).isSelected name = true :=
  FieldTable.contains_extend h selected

/-- The built-in columns are selected under all settings. -/
theorem Settings.isSelected_of_builtIn (settings : Settings) {name : String}
    (h : Catalog.builtIn.isSelected name = true) : settings.catalog.isSelected name = true :=
  Catalog.isSelected_extend h settings.selected settings.interesting

/-! ### Last given fields -/

namespace Field

/-- The last field of this name in a list. -/
def last? (name : String) (fields : List Field) : Option Field :=
  fields.reverse.find? (·.name = name)

private theorem last?_eq_none_iff {name : String} {fields : List Field} :
    last? name fields = none ↔ ∀ field ∈ fields, field.name ≠ name := by
  simp [last?]

private theorem last?_eq_getLast? (name : String) (fields : List Field) :
    last? name fields = (fields.filter (·.name = name)).getLast? := by
  rw [last?, ← List.head?_filter, List.filter_reverse, List.head?_reverse]

/-- The fields stand in another order, in which those of one name keep theirs. -/
def Reordered (fields fields' : List Field) : Prop :=
  ∀ name, fields.filter (·.name = name) = fields'.filter (·.name = name)

/-- Fields of which no two have the same name may stand in any order. -/
theorem Reordered.of_perm {fields fields' : List Field} (h : fields.Perm fields')
    (hnames : (fields.map name).Nodup) : Reordered fields fields' := by
  intro name
  have hperm := h.filter (·.name = name)
  have hnodup : ((fields.filter (·.name = name)).map Field.name).Nodup :=
    hnames.sublist (List.filter_sublist.map Field.name)
  have hsame : ∀ field ∈ fields.filter (·.name = name), field.name = name := by
    intro field hfield
    exact of_decide_eq_true (List.mem_filter.mp hfield).2
  rcases hfields : fields.filter (·.name = name) with _ | ⟨field, _ | ⟨second, rest⟩⟩
  · rw [hfields] at hperm ⊢
    exact hperm.nil_eq
  · rw [hfields] at hperm ⊢
    exact List.singleton_perm.mp hperm
  · -- Two fields of the name would repeat it.
    rw [hfields] at hnodup hsame
    have hfirst := hsame field List.mem_cons_self
    have hsecond := hsame second (List.mem_cons_of_mem _ List.mem_cons_self)
    simp [hfirst, hsecond] at hnodup

end Field

namespace FieldTable

variable {table other : FieldTable}

/-- Under a name stands the field of that name. -/
theorem get?_eq_some_iff {name : String} {field : Field} :
    table.get? name = some field ↔ field ∈ table.fields ∧ field.name = name := by
  constructor
  · intro h
    have hname := List.find?_some h
    exact ⟨List.mem_of_find?_eq_some h, of_decide_eq_true hname⟩
  · rintro ⟨hmem, hname⟩
    obtain ⟨front, back, hfields⟩ := List.append_of_mem hmem
    have hincreasing := table.increasing
    rw [hfields, List.pairwise_append] at hincreasing
    refine List.find?_eq_some_iff_append.mpr ⟨decide_eq_true hname, front, back, hfields, ?_⟩
    intro earlier hearlier
    have hlt := hincreasing.2.2 earlier hearlier field List.mem_cons_self
    rw [hname] at hlt
    simp [(String.ne_of_lt hlt)]

/-- Tables with the same look-ups are equal. -/
theorem ext_get? (h : ∀ name, table.get? name = other.get? name) : table = other := by
  have hmem (field : Field) : field ∈ table.fields ↔ field ∈ other.fields := by
    have hfound (t : FieldTable) : field ∈ t.fields ↔ t.get? field.name = some field := by
      rw [get?_eq_some_iff, and_iff_left rfl]
    rw [hfound, hfound, h]
  have hnodup (t : FieldTable) : t.fields.Nodup := by
    apply t.increasing.imp
    rintro f g hlt rfl
    exact String.lt_irrefl _ hlt
  have hperm := (List.perm_ext_iff_of_nodup (hnodup table) (hnodup other)).mpr hmem
  have hfields : table.fields = other.fields :=
    hperm.eq_of_pairwise (fun f g _ _ hlt hgt => absurd hgt (String.lt_asymm hlt))
      table.increasing other.increasing
  cases table
  cases other
  cases hfields
  rfl

/-- After fields are added, a name is looked up among them first, and the last one counts. -/
theorem get?_extend (table : FieldTable) (fields : List Field) (name : String) :
    (table.extend fields).get? name = (Field.last? name fields).or (table.get? name) := by
  induction fields generalizing table with
  | nil => rfl
  | cons field fields ih =>
    have hcons : table.extend (field :: fields) = (table.insert field).extend fields := rfl
    have hlast : Field.last? name (field :: fields) =
        (Field.last? name fields).or (if field.name = name then some field else none) := by
      simp [Field.last?]
    rw [hcons, ih, get?_insert, hlast, Option.or_assoc]
    split <;> simp

/-- Fields of other names do not change what is looked up. -/
theorem get?_extend_of_forall_ne {fields : List Field} {name : String}
    (h : ∀ field ∈ fields, field.name ≠ name) (table : FieldTable) :
    (table.extend fields).get? name = table.get? name := by
  rw [get?_extend, Field.last?_eq_none_iff.mpr h, Option.none_or]

/-- The names after fields are added are those before and those of the fields. -/
theorem contains_extend_iff {table : FieldTable} {fields : List Field} {name : String} :
    (table.extend fields).contains name = true ↔
      table.contains name = true ∨ name ∈ fields.map Field.name := by
  by_cases h : name ∈ fields.map Field.name
  · refine iff_of_true ?_ (.inr h)
    obtain ⟨field, hfield, hname⟩ := List.mem_map.mp h
    cases hlast : Field.last? name fields with
    | none => exact absurd hname (Field.last?_eq_none_iff.mp hlast field hfield)
    | some last => simp [contains, get?_extend, hlast]
  · have hne : ∀ field ∈ fields, field.name ≠ name := by
      rintro field hfield rfl
      exact h (List.mem_map_of_mem hfield)
    rw [contains, get?_extend_of_forall_ne hne, ← contains, or_iff_left h]

/-- The last field of a name in a table is the one that is looked up. -/
theorem last?_fields (table : FieldTable) (name : String) :
    Field.last? name table.fields = table.get? name := by
  symm
  cases hlast : Field.last? name table.fields with
  | none =>
    rw [get?, List.find?_eq_none]
    intro field hfield
    simpa using Field.last?_eq_none_iff.mp hlast field hfield
  | some field =>
    have hname := List.find?_some hlast
    exact get?_eq_some_iff.mpr
      ⟨List.mem_reverse.mp (List.mem_of_find?_eq_some hlast), of_decide_eq_true hname⟩

/-- The fields of a table that was extended are new or were there before. -/
theorem mem_or_mem_of_mem_extend {fields : List Field} {field : Field}
    (h : field ∈ (table.extend fields).fields) : field ∈ fields ∨ field ∈ table.fields := by
  have hfound := get?_eq_some_iff.mpr ⟨h, rfl⟩
  rw [get?_extend, Option.or_eq_some_iff] at hfound
  rcases hfound with hlast | ⟨-, hfound⟩
  · exact .inl (List.mem_reverse.mp (List.mem_of_find?_eq_some hlast))
  · exact .inr (get?_eq_some_iff.mp hfound).1

/-- A table that is extended by what it was extended to becomes that. -/
theorem extend_fields_extend (table : FieldTable) (fields : List Field) :
    table.extend (table.extend fields).fields = table.extend fields := by
  apply ext_get?
  intro name
  rw [get?_extend, last?_fields]
  cases hfound : (table.extend fields).get? name with
  | some field => rfl
  | none =>
    rw [get?_extend, Option.or_eq_none_iff] at hfound
    rw [hfound.2, Option.none_or]

/-- Adding fields in two portions is adding them at once. -/
theorem extend_extend (table : FieldTable) (fields more : List Field) :
    (table.extend fields).extend more = table.extend (fields ++ more) := by
  rw [extend, extend, extend, List.foldl_append]

/-- The order of fields with different names makes no difference. -/
theorem extend_of_reordered {fields fields' : List Field} (h : Field.Reordered fields fields')
    (table : FieldTable) : table.extend fields = table.extend fields' := by
  apply ext_get?
  intro name
  rw [get?_extend, get?_extend, Field.last?_eq_getLast?, Field.last?_eq_getLast?, h name]

end FieldTable

end LogFilter
