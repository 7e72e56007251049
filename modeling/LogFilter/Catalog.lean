import LogFilter.Field

/-!
# Catalogs

A field table holds at most one field of each name, in increasing order of names. Inserting a field
replaces the one of the same name and changes no other look-up. The catalog of a log store has two such
groups of fields: selected fields are physical columns, and interesting fields live in arrays of keys and
values.
-/

namespace LogFilter

/-! ### Field tables -/

namespace Field

/-- Puts a field in its place in a list ordered by name, and replaces the one of the same name. -/
def insertInto (field : Field) : List Field → List Field
  | [] => [field]
  | other :: rest =>
    if field.name < other.name then field :: other :: rest
    else if field.name = other.name then field :: rest
    else other :: insertInto field rest

private theorem mem_insertInto {field other : Field} {fields : List Field}
    (h : other ∈ insertInto field fields) : other = field ∨ other ∈ fields := by
  induction fields with
  | nil => simpa [insertInto] using h
  | cons head rest ih =>
    unfold insertInto at h
    split at h
    · simpa using h
    · split at h
      · simp only [List.mem_cons] at h ⊢
        exact h.imp_right .inr
      · rcases List.mem_cons.1 h with rfl | h
        · simp
        · exact (ih h).imp_right (List.mem_cons_of_mem _)

/-- Insertion keeps the order of names. -/
theorem increasing_insertInto (field : Field) {fields : List Field}
    (h : fields.Pairwise fun f g => f.name < g.name) :
    (insertInto field fields).Pairwise fun f g => f.name < g.name := by
  induction fields with
  | nil => simp [insertInto]
  | cons head rest ih =>
    have hrest := List.pairwise_cons.1 h
    unfold insertInto
    split
    · next hlt =>
      refine List.pairwise_cons.2 ⟨fun g hg => ?_, h⟩
      rcases List.mem_cons.1 hg with rfl | hg
      · exact hlt
      · exact String.lt_trans hlt (hrest.1 g hg)
    · next hlt =>
      split
      · next heq => exact List.pairwise_cons.2 ⟨fun g hg => heq ▸ hrest.1 g hg, hrest.2⟩
      · next hne =>
        refine List.pairwise_cons.2 ⟨fun g hg => ?_, ih hrest.2⟩
        rcases mem_insertInto hg with rfl | hg
        · exact Classical.byContradiction fun hnot =>
            hne (String.le_antisymm (String.not_lt.1 hnot) (String.not_lt.1 hlt))
        · exact hrest.1 g hg

end Field

/-- Fields in increasing order of names, at most one of each name. -/
structure FieldTable where
  fields : List Field
  increasing : fields.Pairwise fun f g => f.name < g.name
  deriving DecidableEq

namespace FieldTable

/-- The table without fields. -/
def empty : FieldTable := ⟨[], .nil⟩

/-- Adds a field, replacing the one of the same name. -/
def insert (table : FieldTable) (field : Field) : FieldTable :=
  ⟨field.insertInto table.fields, Field.increasing_insertInto field table.increasing⟩

/-- Adds fields in order, so that the last one of a name stays. -/
def extend (table : FieldTable) (fields : List Field) : FieldTable := fields.foldl insert table

/-- The field of this name. -/
def get? (table : FieldTable) (name : String) : Option Field :=
  table.fields.find? (·.name = name)

/-- A field of this name exists. -/
def contains (table : FieldTable) (name : String) : Bool := (table.get? name).isSome

/-- An inserted field is found, and every other name is looked up as before. -/
theorem get?_insert (table : FieldTable) (field : Field) (name : String) :
    (table.insert field).get? name = if field.name = name then some field else table.get? name := by
  obtain ⟨fields, increasing⟩ := table
  simp only [insert, get?]
  clear increasing
  induction fields with
  | nil => by_cases h : field.name = name <;> simp [Field.insertInto, h]
  | cons head rest ih =>
    unfold Field.insertInto
    split
    · by_cases h : field.name = name <;> simp [h]
    · split
      · next heq => by_cases h : field.name = name <;> simp [h, ← heq]
      · next hne =>
        by_cases h : head.name = name
        · have hf : field.name ≠ name := h ▸ hne
          simp [h, hf]
        · simp [h, ih]

end FieldTable

/-! ### Catalogs -/

/-- The two groups of fields of a catalog. -/
inductive FieldGroup where
  | selected
  | interesting
  deriving DecidableEq, Repr

/-- The name of the group. -/
def FieldGroup.name : FieldGroup → String
  | selected => "selected"
  | interesting => "interesting"

/-- The one of two values that is meant for the group. -/
def FieldGroup.pick {α : Type} (selected interesting : α) : FieldGroup → α
  | .selected => selected
  | .interesting => interesting

/-- The fields of a log store. -/
structure Catalog where
  selected : FieldTable
  interesting : FieldTable
  deriving DecidableEq

namespace Catalog

/-- The catalog without fields. -/
def empty : Catalog := ⟨.empty, .empty⟩

/-- Adds fields to both groups; a field replaces the one of the same name in its group. -/
def extend (catalog : Catalog) (selected interesting : List Field) : Catalog :=
  ⟨catalog.selected.extend selected, catalog.interesting.extend interesting⟩

/-- The catalog with exactly these fields; of several with one name the last. -/
def ofFields (selected interesting : List Field) : Catalog := empty.extend selected interesting

/-- The catalog that every log store has. -/
def builtIn : Catalog := ofFields Field.builtInSelected Field.builtInInteresting

/-- Adds a field to one group. -/
def add (catalog : Catalog) (group : FieldGroup) (field : Field) : Catalog :=
  match group with
  | .selected => catalog.extend [field] []
  | .interesting => catalog.extend [] [field]

/-- Adds a proposed field to one group, if it passes the check. -/
def register (catalog : Catalog) (group : FieldGroup) (p : Proposal) : Except QueryError Catalog :=
  p.accept.map (catalog.add group)

/-- The name is that of a physical column. -/
def isSelected (catalog : Catalog) (name : String) : Bool := catalog.selected.contains name

/-- The field of this name that is kept in arrays. -/
def interestingField? (catalog : Catalog) (name : String) : Option Field :=
  catalog.interesting.get? name

end Catalog

end LogFilter
