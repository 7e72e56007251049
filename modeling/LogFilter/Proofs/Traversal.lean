/-!
# Traversals that may fail

A list is traversed from left to right by a function that may fail. It gives a list exactly if the function
succeeds everywhere, and otherwise fails as the first failing element does. Two steps in a row behave alike.
-/

namespace LogFilter

variable {ε α β : Type} {f : α → Except ε β}

/-- A step that may fail and then another one give a result exactly when both do. -/
theorem bind_eq_ok_iff {x : Except ε α} {b : β} :
    (x >>= f) = .ok b ↔ ∃ a, x = .ok a ∧ f a = .ok b := by
  cases x <;> simp [bind, Except.bind]

/-- A step that may fail and then another one fail exactly when the first does, or gives what the second
fails on. -/
theorem bind_eq_error_iff {x : Except ε α} {e : ε} :
    (x >>= f) = .error e ↔ x = .error e ∨ ∃ a, x = .ok a ∧ f a = .error e := by
  cases x <;> simp [bind, Except.bind]

/-- A traversal of a list with a head looks at the head first. -/
theorem mapM_cons_eq (a : α) (as : List α) :
    (a :: as).mapM f =
      match f a with
      | .error e => .error e
      | .ok b => (as.mapM f).map (b :: ·) := by
  rw [List.mapM_cons]
  cases f a with
  | error e => rfl
  | ok b => cases as.mapM f <;> rfl

/-- A traversal of a list with a head succeeds when the head and the traversal of the tail do. -/
theorem mapM_cons_eq_ok_iff {a : α} {as : List α} {bs : List β} :
    (a :: as).mapM f = .ok bs ↔ ∃ b bs', f a = .ok b ∧ as.mapM f = .ok bs' ∧ bs = b :: bs' := by
  rw [mapM_cons_eq]
  cases ha : f a with
  | error e => simp
  | ok b => cases has : as.mapM f <;> simp [Except.map, eq_comm]

/-- A traversal of one element. -/
theorem mapM_singleton (a : α) : [a].mapM f = (f a).map fun b => [b] := by
  rw [mapM_cons_eq]
  cases f a <;> rfl

/-- A traversal gives a list exactly when every element gives its member of it. -/
theorem mapM_eq_ok_iff {as : List α} {bs : List β} :
    as.mapM f = .ok bs ↔ as.map f = bs.map .ok := by
  induction as generalizing bs with
  | nil => cases bs <;> simp [pure, Except.pure]
  | cons a as ih =>
    rw [mapM_cons_eq_ok_iff]
    constructor
    · rintro ⟨b, bs', ha, has, rfl⟩
      rw [List.map_cons, List.map_cons, ha, ih.mp has]
    · intro h
      cases bs with
      | nil => cases h
      | cons b bs' =>
        obtain ⟨ha, has⟩ := List.cons.inj h
        exact ⟨b, bs', ha, ih.mpr has, rfl⟩

/-- What a traversal gives comes from its elements. -/
theorem exists_of_mem_mapM {as : List α} {bs : List β} (h : as.mapM f = .ok bs) {b : β}
    (hb : b ∈ bs) : ∃ a ∈ as, f a = .ok b := by
  have hmem : Except.ok b ∈ as.map f := by
    rw [mapM_eq_ok_iff.mp h]
    exact List.mem_map_of_mem hb
  exact List.mem_map.mp hmem

/-- A traversal fails exactly with the error of the first element that fails. -/
theorem mapM_eq_error_iff {as : List α} {e : ε} :
    as.mapM f = .error e ↔ ∃ front a back, ∃ bs : List β, as = front ++ a :: back ∧
      front.map f = bs.map .ok ∧ f a = .error e := by
  induction as with
  | nil => simp [pure, Except.pure]
  | cons a as ih =>
    rw [mapM_cons_eq]
    constructor
    · intro h
      cases ha : f a with
      | error e' =>
        rw [ha] at h
        cases h
        exact ⟨[], a, as, [], rfl, rfl, ha⟩
      | ok b =>
        rw [ha] at h
        have has : as.mapM f = .error e := by
          cases has : as.mapM f with
          | error e' => simpa [has, Except.map] using h
          | ok bs => simp [has, Except.map] at h
        obtain ⟨front, x, back, bs, rfl, hfront, hx⟩ := ih.mp has
        exact ⟨a :: front, x, back, b :: bs, rfl, by simp [ha, hfront], hx⟩
    · rintro ⟨front, x, back, bs, heq, hfront, hx⟩
      cases front with
      | nil =>
        obtain ⟨rfl, -⟩ := List.cons.inj heq
        rw [hx]
      | cons a' front =>
        obtain ⟨rfl, rfl⟩ := List.cons.inj heq
        cases bs with
        | nil => cases hfront
        | cons b bs =>
          obtain ⟨ha, hfront⟩ := List.cons.inj hfront
          rw [ha, ih.mpr ⟨front, x, back, bs, rfl, hfront, hx⟩]
          rfl

/-- A traversal gives a list if every element gives something. -/
theorem exists_mapM {as : List α} (h : ∀ a ∈ as, ∃ b, f a = .ok b) :
    ∃ bs, as.mapM f = .ok bs := by
  induction as with
  | nil => exact ⟨[], rfl⟩
  | cons a as ih =>
    obtain ⟨⟨b, ha⟩, has⟩ := List.forall_mem_cons.mp h
    obtain ⟨bs, hbs⟩ := ih has
    exact ⟨b :: bs, mapM_cons_eq_ok_iff.mpr ⟨b, bs, ha, hbs, rfl⟩⟩

/-- Another function gives the same traversal if it agrees wherever the first does not fail for a reason
of some kind, and the first traversal does not fail for such a reason. -/
theorem mapM_congr_of_not_error {g : α → Except ε β} {P : ε → Prop}
    (hagree : ∀ a, (∀ e, f a = .error e → ¬ P e) → g a = f a) {as : List α}
    (h : ∀ e, as.mapM f = .error e → ¬ P e) : as.mapM g = as.mapM f := by
  induction as with
  | nil => rfl
  | cons a as ih =>
    rw [mapM_cons_eq] at h
    have hhead : g a = f a := by
      apply hagree
      intro e ha
      rw [ha] at h
      exact h e rfl
    rw [mapM_cons_eq, mapM_cons_eq, hhead]
    cases ha : f a with
    | error e => rfl
    | ok b =>
      rw [ha] at h
      have htail : as.mapM g = as.mapM f := by
        apply ih
        intro e has
        rw [has] at h
        exact h e rfl
      rw [htail]

/-! ### First elements -/

/-- The element is the first of the list that has the property. -/
def IsFirst (P : α → Prop) (as : List α) (a : α) : Prop :=
  P a ∧ ∃ front back, as = front ++ a :: back ∧ ∀ b ∈ front, ¬ P b

/-- There is a first element with a property, or no element has it. -/
theorem exists_isFirst_or_forall (P : α → Prop) (as : List α) :
    (∃ a, IsFirst P as a) ∨ ∀ a ∈ as, ¬ P a := by
  induction as with
  | nil => exact .inr (by simp)
  | cons x as ih =>
    by_cases hx : P x
    · exact .inl ⟨x, hx, [], as, rfl, by simp⟩
    · rcases ih with ⟨a, ha, front, back, rfl, hfront⟩ | hnone
      · exact .inl ⟨a, ha, x :: front, back, rfl, List.forall_mem_cons.mpr ⟨hx, hfront⟩⟩
      · exact .inr (List.forall_mem_cons.mpr ⟨hx, hnone⟩)

/-- The first element with a property is the head if that has it, or else is found in the tail. -/
theorem isFirst_cons {P : α → Prop} {x : α} {as : List α} {a : α} :
    IsFirst P (x :: as) a ↔ P x ∧ x = a ∨ ¬ P x ∧ IsFirst P as a := by
  constructor
  · rintro ⟨ha, front, back, heq, hfront⟩
    cases front with
    | nil =>
      obtain ⟨rfl, rfl⟩ := List.cons.inj heq
      exact .inl ⟨ha, rfl⟩
    | cons y front =>
      obtain ⟨rfl, rfl⟩ := List.cons.inj heq
      obtain ⟨hx, hfront⟩ := List.forall_mem_cons.mp hfront
      exact .inr ⟨hx, ha, front, back, rfl, hfront⟩
  · rintro (⟨hx, rfl⟩ | ⟨hx, ha, front, back, rfl, hfront⟩)
    · exact ⟨hx, [], as, rfl, by simp⟩
    · exact ⟨ha, x :: front, back, rfl, List.forall_mem_cons.mpr ⟨hx, hfront⟩⟩

namespace IsFirst

variable {P : α → Prop} {as : List α} {a : α}

/-- The first element with a property is an element. -/
theorem mem (h : IsFirst P as a) : a ∈ as := by
  obtain ⟨-, front, back, rfl, -⟩ := h
  simp

/-- The first image with a property is the image of the first element whose image has it. -/
theorem of_map {g : β → α} {bs : List β} (h : IsFirst P (bs.map g) a) :
    ∃ b, IsFirst (fun b => P (g b)) bs b ∧ g b = a := by
  obtain ⟨ha, front, back, heq, hfront⟩ := h
  obtain ⟨front', rest, rfl, rfl, hrest⟩ := List.map_eq_append_iff.mp heq
  obtain ⟨b, back', rfl, rfl, rfl⟩ := List.map_eq_cons_iff.mp hrest
  exact ⟨b, ⟨ha, front', back', rfl, fun x hx => hfront (g x) (List.mem_map_of_mem hx)⟩, rfl⟩

/-- If only elements with the property can fail, a traversal fails at the first that does. -/
theorem mapM_eq_error (h : IsFirst P as a) (hok : ∀ b ∈ as, ¬ P b → ∃ c, f b = .ok c) {e : ε}
    (ha : f a = .error e) : as.mapM f = .error e := by
  obtain ⟨-, front, back, rfl, hfront⟩ := h
  obtain ⟨bs, hbs⟩ := exists_mapM fun b hb =>
    hok b (List.mem_append_left _ hb) (hfront b hb)
  exact mapM_eq_error_iff.mpr ⟨front, a, back, bs, rfl, mapM_eq_ok_iff.mp hbs, ha⟩

end IsFirst

/-- A traversal fails exactly with the error of the first element that fails. -/
theorem mapM_eq_error_iff_isFirst {as : List α} {e : ε} :
    as.mapM f = .error e ↔ ∃ a, IsFirst (fun a => ∃ e, f a = .error e) as a ∧ f a = .error e := by
  constructor
  · intro h
    obtain ⟨front, a, back, bs, rfl, hfront, ha⟩ := mapM_eq_error_iff.mp h
    refine ⟨a, ⟨⟨e, ha⟩, front, back, rfl, ?_⟩, ha⟩
    rintro x hx ⟨e', hx'⟩
    have hmem : f x ∈ bs.map .ok := hfront ▸ List.mem_map_of_mem hx
    rw [hx'] at hmem
    simp at hmem
  · rintro ⟨a, hfirst, ha⟩
    refine hfirst.mapM_eq_error (fun b _ hb => ?_) ha
    cases hfb : f b with
    | error e' => exact absurd ⟨e', hfb⟩ hb
    | ok c => exact ⟨c, rfl⟩

end LogFilter
