import LogFilter.CommandLine
import Mathlib.Data.List.Perm.Basic

/-!
# Options with their values in one argument

An option and its value are written in one argument, with an equals sign between them. The value may be
any text that can be read: it is never taken for another option or for a command. A level reads such
arguments to the options they give, in their order; to what is looked up the order makes no difference.
-/

namespace LogFilter.CommandLine

open Text

/-- An option with its value, in one argument. -/
def render (option : Setting × String) : String := "--" ++ option.1.long ++ "=" ++ option.2

/-! ### The form of the argument -/

/-- The long name of an option is not empty and has no equals sign. -/
theorem Setting.long_word (setting : Setting) :
    setting.long.toList ≠ [] ∧ '=' ∉ setting.long.toList := by
  cases setting <;> decide

private theorem toList_render (option : Setting × String) :
    (render option).toList = '-' :: '-' :: (option.1.long.toList ++ '=' :: option.2.toList) := by
  simp [render]

private theorem cutAt_append_cons {x : Char} {front : List Char} (h : x ∉ front)
    (back : List Char) :
    cutAt x (front ++ x :: back) = (front, some back) := by
  have hfront : ∀ c ∈ front, (c != x) = true := by
    intro c hc
    rw [bne_iff_ne]
    rintro rfl
    exact h hc
  rw [cutAt, List.takeWhile_append_of_pos hfront, List.dropWhile_append_of_pos hfront]
  simp

/-- The argument gives the name and the value, whatever characters the value has. -/
theorem Argument.ofString_render (option : Setting × String) :
    Argument.ofString (render option) = .long option.1.long (some option.2) := by
  obtain ⟨hne, hequals⟩ := option.1.long_word
  obtain ⟨c, cs, hlong⟩ := List.exists_cons_of_ne_nil hne
  have hcut := cutAt_append_cons hequals option.2.toList
  unfold Argument.ofString
  rw [toList_render]
  rw [hlong] at hcut ⊢
  simp only [List.cons_append] at hcut ⊢
  simp only [hcut, Option.map_some, String.ofList_toList]
  rw [← hlong, String.ofList_toList]

/-- The argument is no word that starts without a dash. -/
theorem render_ne {word : String} (h : word.toList.head? ≠ some '-') (option : Setting × String) :
    render option ≠ word := by
  rintro rfl
  rw [toList_render] at h
  exact h rfl

private theorem ofCommand?_render (option : Setting × String) :
    Level.ofCommand? (render option) = none := by
  unfold Level.ofCommand?
  split
  · next h => exact absurd h (render_ne (by decide) option)
  · next h => exact absurd h (render_ne (by decide) option)
  · next h => exact absurd h (render_ne (by decide) option)
  · rfl

/-! ### Reading options -/

/-- The options can be given at a level, in any order. -/
structure Fits (level : Level) (options : List (Setting × String)) : Prop where
  known : ∀ option ∈ options, option.1 ∈ level.settings
  readable : ∀ option ∈ options, option.1.check option.2 = .ok ()
  distinct : (options.map Prod.fst).Nodup

namespace Fits

variable {level : Level} {options options' : List (Setting × String)}

/-- The order of options makes no difference to whether they fit. -/
theorem of_perm (h : Fits level options) (hperm : options'.Perm options) : Fits level options' where
  known option hoption := h.known option (hperm.mem_iff.mp hoption)
  readable option hoption := h.readable option (hperm.mem_iff.mp hoption)
  distinct := (hperm.map Prod.fst).nodup_iff.mpr h.distinct

/-- Fewer options still fit. -/
theorem of_sublist (h : Fits level options) (hsub : options'.Sublist options) :
    Fits level options' where
  known option hoption := h.known option (hsub.mem hoption)
  readable option hoption := h.readable option (hsub.mem hoption)
  distinct := h.distinct.sublist (hsub.map Prod.fst)

/-- Options that have no setting in common fit together. -/
theorem append (h : Fits level options) (h' : Fits level options')
    (hdisjoint : ∀ option ∈ options, ∀ other ∈ options', option.1 ≠ other.1) :
    Fits level (options ++ options') where
  known option hoption := (List.mem_append.mp hoption).elim (h.known option) (h'.known option)
  readable option hoption :=
    (List.mem_append.mp hoption).elim (h.readable option) (h'.readable option)
  distinct := by
    rw [List.map_append, List.nodup_append]
    refine ⟨h.distinct, h'.distinct, ?_⟩
    intro setting hsetting setting' hsetting'
    obtain ⟨option, hoption, rfl⟩ := List.mem_map.mp hsetting
    obtain ⟨other, hother, rfl⟩ := List.mem_map.mp hsetting'
    exact hdisjoint option hoption other hother

end Fits

/-- The options of a level are known by their long names. -/
theorem Level.ofLong?_long {level : Level} {setting : Setting} :
    setting ∈ level.settings → level.ofLong? setting.long = some (.setting setting) := by
  cases level <;> cases setting <;> decide

variable {level : Level} {given options : List (Setting × String)} {option : Setting × String}

/-- An option that is not given yet is accepted. -/
theorem take_render (h : Fits level (given ++ [option])) :
    State.take level { given } (render option) = .ok { given := given ++ [option] } := by
  have hmem : option ∈ given ++ [option] := by simp
  -- An option that is given twice at one level is refused.
  have hnew : given.lookup option.1 = none := by
    rw [List.lookup_eq_none_iff]
    intro other hother
    have hdistinct := h.distinct
    rw [List.map_append, List.nodup_append] at hdistinct
    rw [bne_iff_ne]
    exact (hdistinct.2.2 _ (List.mem_map_of_mem hother) _ (by simp)).symm
  simp only [State.take, Argument.ofString_render, Level.ofLong?_long (h.known option hmem),
    State.takeSetting, State.settle, State.give, hnew, h.readable option hmem]
  rfl

/-- A level reads options in their order. -/
theorem foldlM_take_render (h : Fits level (given ++ options)) :
    (options.map render).foldlM (State.take level) { given } =
      .ok { given := given ++ options } := by
  induction options generalizing given with
  | nil => simp [pure, Except.pure]
  | cons option options ih =>
    rw [List.append_cons] at h ⊢
    rw [List.map_cons, List.foldlM_cons, take_render (h.of_sublist (List.sublist_append_left _ _))]
    exact ih h

/-- The program reads options before the command in their order. -/
theorem readProgram_render (h : Fits .program (given ++ options)) (rest : List String) :
    readProgram { given } (options.map render ++ rest) =
      readProgram { given := given ++ options } rest := by
  induction options generalizing given with
  | nil => simp
  | cons option options ih =>
    rw [List.append_cons] at h ⊢
    rw [List.map_cons, List.cons_append, readProgram]
    have hhelp : render option ≠ helpName := render_ne (by decide) option
    simp only [State.isAwaiting, Bool.or_false, Bool.false_eq_true, if_false, ofCommand?_render,
      hhelp, decide_false, Bool.false_and,
      take_render (h.of_sublist (List.sublist_append_left _ _))]
    exact ih h

/-! ### Looking options up -/

/-- Options that set nothing twice are looked up as they are listed. -/
theorem lookup_eq_some_iff_mem {options : List (Setting × String)}
    (h : (options.map Prod.fst).Nodup) {setting : Setting} {value : String} :
    options.lookup setting = some value ↔ (setting, value) ∈ options := by
  induction options with
  | nil => simp
  | cons option options ih =>
    obtain ⟨key, text⟩ := option
    obtain ⟨hfirst, hrest⟩ := List.nodup_cons.mp h
    rw [List.lookup_cons, List.mem_cons, Prod.mk.injEq]
    by_cases hkey : setting = key
    · subst hkey
      have hnot : (setting, value) ∉ options := fun hmem => hfirst (List.mem_map.mpr ⟨_, hmem, rfl⟩)
      simp [hnot, eq_comm]
    · have hbeq : (setting == key) = false := by simpa using hkey
      simp [hbeq, hkey, ih hrest]

/-- Options that are given once are found in any order. -/
theorem lookup_of_perm {options options' : List (Setting × String)} (hperm : options.Perm options')
    (h : (options.map Prod.fst).Nodup) (setting : Setting) :
    options.lookup setting = options'.lookup setting := by
  have h' : (options'.map Prod.fst).Nodup := (hperm.map Prod.fst).nodup_iff.mp h
  ext value
  rw [lookup_eq_some_iff_mem h, lookup_eq_some_iff_mem h', hperm.mem_iff]

end LogFilter.CommandLine
