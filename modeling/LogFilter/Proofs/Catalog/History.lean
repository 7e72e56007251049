import LogFilter.Proofs.Catalog.LastGiven
import LogFilter.Proofs.Config.Layering
import LogFilter.Proofs.Text.ByteOrder
import Mathlib.Data.List.Induction

/-!
# Histories of catalogs

A catalog changes step by step: it is made anew, set to the built-in fields, extended, or given a
proposed field, which may be rejected. After every run of such steps each group lists its fields in
increasing order of names, and holds under a name the last field of that name that was given to the
group since the catalog was last made anew.
-/

namespace LogFilter

namespace Catalog

/-- The fields of a group. -/
def table (catalog : Catalog) (group : FieldGroup) : FieldTable :=
  group.pick catalog.selected catalog.interesting

private theorem interestingField?_eq (catalog : Catalog) (name : String) :
    catalog.interestingField? name = (catalog.table .interesting).get? name := rfl

private theorem isSelected_eq (catalog : Catalog) (name : String) :
    catalog.isSelected name = ((catalog.table .selected).get? name).isSome := rfl

private theorem table_extend (catalog : Catalog) (selected interesting : List Field)
    (group : FieldGroup) :
    (catalog.extend selected interesting).table group =
      (catalog.table group).extend (group.pick selected interesting) := by
  cases group <;> rfl

private theorem table_ofFields (selected interesting : List Field) (group : FieldGroup) :
    (ofFields selected interesting).table group =
      FieldTable.empty.extend (group.pick selected interesting) := by
  cases group <;> rfl

/-- Adding fields in two portions is adding them at once. -/
theorem extend_extend (catalog : Catalog)
    (selected interesting selected' interesting' : List Field) :
    (catalog.extend selected interesting).extend selected' interesting' =
      catalog.extend (selected ++ selected') (interesting ++ interesting') := by
  simp only [extend, FieldTable.extend_extend]

/-! ### Steps and runs -/

/-- A step that changes a catalog. -/
inductive Step where
  /-- The catalog is made anew, of these fields. -/
  | renew (selected interesting : List Field)
  /-- The catalog is made anew, of the built-in fields. -/
  | reset
  /-- Fields are added. -/
  | extend (selected interesting : List Field)
  /-- A field is proposed for a group, and added if it passes the check. -/
  | propose (group : FieldGroup) (p : Proposal)

/-- What becomes of the catalog in a step, or why the step is rejected. -/
def attempt (catalog : Catalog) : Step → Except QueryError Catalog
  | .renew selected interesting => .ok (.ofFields selected interesting)
  | .reset => .ok .builtIn
  | .extend selected interesting => .ok (catalog.extend selected interesting)
  | .propose group p => catalog.register group p

/-- The catalog after a step; a rejected step changes nothing. -/
def after (catalog : Catalog) (step : Step) : Catalog :=
  match catalog.attempt step with
  | .ok next => next
  | .error _ => catalog

/-- The catalog after a run of steps from the empty one. -/
def run (steps : List Step) : Catalog := steps.foldl after .empty

private theorem run_append (steps : List Step) (step : Step) :
    run (steps ++ [step]) = (run steps).after step := by
  rw [run, List.foldl_append]
  rfl

namespace Step

/-- The step makes the catalog anew. -/
def startsOver : Step → Bool
  | renew _ _ => true
  | reset => true
  | extend _ _ => false
  | propose _ _ => false

/-- The fields that a step gives to a group, in order. -/
def given (group : FieldGroup) : Step → List Field
  | renew selected interesting => group.pick selected interesting
  | reset => group.pick Field.builtInSelected Field.builtInInteresting
  | extend selected interesting => group.pick selected interesting
  | propose target p =>
    match p.accept with
    | .ok field => if target = group then [field] else []
    | .error _ => []

/-- The steps from the last one that makes the catalog anew; all steps if none does. -/
def recent : List Step → List Step
  | [] => []
  | step :: steps => if steps.any startsOver then recent steps else step :: steps

private theorem recent_append (steps : List Step) (step : Step) :
    recent (steps ++ [step]) = if step.startsOver then [step] else recent steps ++ [step] := by
  induction steps with
  | nil => cases step.startsOver <;> rfl
  | cons first steps ih =>
    rw [List.cons_append, recent, recent, List.any_append]
    cases hstep : step.startsOver with
    | true => simpa [hstep] using ih
    | false =>
      by_cases hany : steps.any startsOver
      · simpa [hstep, hany] using ih
      · simp [hstep, hany]

end Step

/-- The fields given to a group since the catalog was last made anew, in order. -/
def givenSince (group : FieldGroup) (steps : List Step) : List Field :=
  (Step.recent steps).flatMap (Step.given group)

private theorem givenSince_append (group : FieldGroup) (steps : List Step) (step : Step) :
    givenSince group (steps ++ [step]) =
      (if step.startsOver then [] else givenSince group steps) ++ step.given group := by
  rw [givenSince, Step.recent_append]
  cases step.startsOver <;> simp [givenSince]

/-! ### What a step does -/

/-- A group after a step: the table before it, or an empty one if the step starts over, with the
given fields added. -/
theorem table_after (catalog : Catalog) (step : Step) (group : FieldGroup) :
    (catalog.after step).table group =
      (if step.startsOver then .empty else catalog.table group).extend (step.given group) := by
  cases step with
  | renew selected interesting => exact table_ofFields selected interesting group
  | reset => exact table_ofFields Field.builtInSelected Field.builtInInteresting group
  | extend selected interesting => exact table_extend catalog selected interesting group
  | propose target p =>
    simp only [after, attempt, register, Step.given, Step.startsOver]
    cases p.accept with
    | error e => rfl
    | ok field => cases target <;> cases group <;> rfl

/-- A proposal that fails the check is rejected with its error, and changes nothing. -/
theorem after_of_check_eq_error {p : Proposal} {e : QueryError} (h : p.check = .error e)
    (catalog : Catalog) (group : FieldGroup) :
    catalog.attempt (.propose group p) = .error e ∧ catalog.after (.propose group p) = catalog := by
  have hattempt : catalog.attempt (.propose group p) = .error e := by
    rw [attempt, register, Proposal.accept_eq_error_iff.mpr h]
    rfl
  rw [after, hattempt]
  exact ⟨rfl, rfl⟩

/-- A step that does not start over takes no name away. -/
theorem contains_after {catalog : Catalog} {step : Step} (hstep : step.startsOver = false)
    {group : FieldGroup} {name : String} (h : (catalog.table group).contains name = true) :
    ((catalog.after step).table group).contains name = true := by
  rw [table_after, hstep]
  exact FieldTable.contains_extend h (step.given group)

/-! ### What a run keeps -/

/-- A group after a run holds what was given to it since the catalog was last made anew. -/
theorem table_run (steps : List Step) (group : FieldGroup) :
    (run steps).table group = FieldTable.empty.extend (givenSince group steps) := by
  induction steps using List.reverseRecOn with
  | nil => cases group <;> rfl
  | append_singleton steps step ih =>
    rw [run_append, table_after, ih, givenSince_append]
    cases step.startsOver with
    | true => rfl
    | false => exact FieldTable.extend_extend .empty (givenSince group steps) (step.given group)

/-- After a run, a name is looked up among the fields given since the catalog was last made anew, and the
last one counts. -/
theorem get?_run (steps : List Step) (group : FieldGroup) (name : String) :
    ((run steps).table group).get? name = Field.last? name (givenSince group steps) := by
  rw [table_run, FieldTable.get?_extend]
  exact Option.or_none

/-- The catalog holds what was given to its groups: the last field of each name, listed by name in
the order of bytes. -/
structure Holds (catalog : Catalog) (given : FieldGroup → List Field) : Prop where
  /-- Under a name stands the field of that name in the listing. -/
  own : ∀ group name field, (catalog.table group).get? name = some field ↔
    field ∈ (catalog.table group).fields ∧ field.name = name
  increasing : ∀ group, (catalog.table group).fields.Pairwise
    fun f g => Text.utf8 f.name.toList < Text.utf8 g.name.toList
  last : ∀ group name, (catalog.table group).get? name = Field.last? name (given group)
  interesting : ∀ name, catalog.interestingField? name = Field.last? name (given .interesting)
  selected : ∀ name, catalog.isSelected name = (Field.last? name (given .selected)).isSome

/-- After a run, the catalog holds what was given since it was last made anew. -/
theorem holds_run (steps : List Step) : (run steps).Holds (givenSince · steps) where
  own _ _ _ := FieldTable.get?_eq_some_iff
  increasing group := by
    apply ((run steps).table group).increasing.imp
    intro f g hlt
    exact Text.utf8_lt_iff.mpr hlt
  last := get?_run steps
  interesting name := by rw [interestingField?_eq, get?_run]
  selected name := by rw [isSelected_eq, get?_run]

/-- After every run each group holds the last field of each name given to it since the catalog was
last made anew, under its own name and listed in increasing order of names. Extending the catalog or
proposing a field takes no name away, and a rejected proposal changes nothing. Fields can be added
in portions or at once, and those of different names in any order. -/
theorem run_holds_last_given (steps : List Step) :
    (run steps).Holds (givenSince · steps) ∧
    (∀ step group name, step.startsOver = false → ((run steps).table group).contains name = true →
      ((run (steps ++ [step])).table group).contains name = true) ∧
    (∀ group p e, p.check = .error e →
      (run steps).attempt (Step.propose group p) = .error e ∧
        run (steps ++ [Step.propose group p]) = run steps) ∧
    (∀ selected interesting selected' interesting' : List Field,
      run (steps ++ [Step.extend selected interesting] ++ [Step.extend selected' interesting']) =
        run (steps ++ [Step.extend (selected ++ selected') (interesting ++ interesting')])) ∧
    (∀ selected interesting selected' interesting' : List Field,
      Field.Reordered selected selected' → Field.Reordered interesting interesting' →
        run (steps ++ [Step.extend selected interesting]) =
          run (steps ++ [Step.extend selected' interesting'])) ∧
    ∀ selected interesting selected' interesting' : List Field,
      selected.Perm selected' → (selected.map Field.name).Nodup →
      interesting.Perm interesting' → (interesting.map Field.name).Nodup →
        run (steps ++ [Step.extend selected interesting]) =
          run (steps ++ [Step.extend selected' interesting']) := by
  have hreorder (selected interesting selected' interesting' : List Field)
      (hselected : Field.Reordered selected selected')
      (hinteresting : Field.Reordered interesting interesting') :
      run (steps ++ [Step.extend selected interesting]) =
        run (steps ++ [Step.extend selected' interesting']) := by
    rw [run_append, run_append]
    simp only [after, attempt, extend, FieldTable.extend_of_reordered hselected,
      FieldTable.extend_of_reordered hinteresting]
  refine ⟨holds_run steps, ?_, ?_, ?_, hreorder, ?_⟩
  · intro step group name hstep h
    rw [run_append]
    exact contains_after hstep h
  · intro group p e h
    rw [run_append]
    exact after_of_check_eq_error h (run steps) group
  · intro selected interesting selected' interesting'
    rw [run_append, run_append, run_append]
    simp only [after, attempt, extend_extend]
  · intro selected interesting selected' interesting' hselected hnames hinteresting hnames'
    exact hreorder _ _ _ _ (.of_perm hselected hnames) (.of_perm hinteresting hnames')

end Catalog

end LogFilter
