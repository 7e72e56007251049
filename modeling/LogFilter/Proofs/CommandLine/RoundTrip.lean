import LogFilter.Proofs.CommandLine.Options
import LogFilter.Proofs.Text.Numeral
import LogFilter.Proofs.Traversal

/-!
# Arguments that are read back

What a user wants of the program, overrides of its settings and a command, is written as arguments: every
option with its value in one of them, those that every level accepts before or after the command, and a
query last, behind the separator. Such arguments are read as what was wanted, in whatever order the options
stand and whatever texts the values are.
-/

namespace LogFilter

open Text

/-! ### Options and their texts -/

namespace CommandLine

/-- The options of a list that have a value, with its text. -/
def assigned (settings : List Setting) (text? : Setting → Option String) :
    List (Setting × String) :=
  settings.filterMap fun setting => (text? setting).map (setting, ·)

/-- The options of a level that the program does not have. -/
def Level.own : Level → List Setting
  | .program | .serve => []
  | .translate => [.timestampStart, .timestampEnd, .idStart, .idEnd]
  | .validateField => [.name, .kind, .dataType, .skipIndex]

namespace Command

/-- The word that stands for the command. -/
def name : Command → String
  | serve => "serve"
  | translate _ => "translate"
  | validateField _ => "validate-field"

/-- The level at which the arguments of the command are read. -/
def level : Command → Level
  | serve => .serve
  | translate _ => .translate
  | validateField _ => .validateField

/-- The text of the value that an option of the command has. -/
def text? : Command → Setting → Option String
  | translate filter, .timestampStart => filter.timestampStart.map fun time => decimal time.toNat
  | translate filter, .timestampEnd => filter.timestampEnd.map fun time => decimal time.toNat
  | translate filter, .idStart => filter.idStart
  | translate filter, .idEnd => filter.idEnd
  | validateField proposal, .name => some proposal.name
  | validateField proposal, .kind => some proposal.kind
  | validateField proposal, .dataType => some proposal.dataType
  | validateField proposal, .skipIndex => proposal.skipIndex
  | _, _ => none

/-- The options that give what the command is given, but for its operands. -/
def options (command : Command) : List (Setting × String) :=
  assigned command.level.own command.text?

/-- The arguments behind the options: a query, which may look like an option, behind the separator. -/
def operands : Command → List String
  | translate filter => ["--", filter.query]
  | _ => []

end Command

end CommandLine

open CommandLine

namespace Overrides

/-- The text of the value that an option overrides a setting with. -/
def text? (overrides : Overrides) : Setting → Option String
  | .host => overrides.host
  | .port => overrides.port.map fun port => decimal port.toNat
  | .config => overrides.config
  | .logsTable => overrides.logsTable
  | .maxQueryLength => overrides.maxQueryLength.map fun length => decimal length.toNat
  | _ => none

/-- The options that give the overrides. -/
def options (overrides : Overrides) : List (Setting × String) :=
  assigned Setting.globals overrides.text?

end Overrides

namespace CommandLine

/-- The arguments give the overrides and the command. Each override stands before or after the name of
the command, and the options on either side stand in any order. -/
inductive Renders (overrides : Overrides) (command : Command) : List String → Prop
  | intro (early : Setting → Bool) (before after : List (Setting × String))
      (hbefore : before.Perm (overrides.options.filter fun option => early option.1))
      (hafter : after.Perm
        ((overrides.options.filter fun option => !early option.1) ++ command.options)) :
      Renders overrides command
        (before.map render ++ command.name :: (after.map render ++ command.operands))

/-- No option is given by the environment. -/
def IsSilent (env : Environment) : Prop :=
  ∀ (setting : Setting) (name : String), setting.envName? = some name → env.get? name = none

section

variable {settings : List Setting} {text? : Setting → Option String}

private theorem mem_assigned {option : Setting × String} : option ∈ assigned settings text? ↔
    option.1 ∈ settings ∧ text? option.1 = some option.2 := by
  obtain ⟨setting, value⟩ := option
  simp only [assigned, List.mem_filterMap, Option.map_eq_some_iff, Prod.mk.injEq]
  constructor
  · rintro ⟨other, hmem, text, htext, rfl, rfl⟩
    exact ⟨hmem, htext⟩
  · rintro ⟨hmem, htext⟩
    exact ⟨setting, hmem, value, htext, rfl, rfl⟩

private theorem map_fst_assigned : (assigned settings text?).map Prod.fst =
    settings.filter fun setting => (text? setting).isSome := by
  induction settings with
  | nil => rfl
  | cons setting settings ih =>
    rw [assigned] at ih ⊢
    cases h : text? setting <;> simp [h, ih]

private theorem fits_assigned {level : Level}
    (hknown : ∀ setting ∈ settings, setting ∈ level.settings)
    (hreadable : ∀ setting value, text? setting = some value → setting.check value = .ok ())
    (hdistinct : settings.Nodup) : Fits level (assigned settings text?) where
  known option hoption := hknown option.1 (mem_assigned.mp hoption).1
  readable option hoption := hreadable option.1 option.2 (mem_assigned.mp hoption).2
  distinct := map_fst_assigned ▸ hdistinct.filter _

private theorem lookup_assigned (hdistinct : settings.Nodup)
    (hnone : ∀ setting ∉ settings, text? setting = none) (setting : Setting) :
    (assigned settings text?).lookup setting = text? setting := by
  ext value
  rw [lookup_eq_some_iff_mem (map_fst_assigned ▸ hdistinct.filter _), mem_assigned]
  constructor
  · exact And.right
  · intro hvalue
    refine ⟨?_, hvalue⟩
    apply Classical.byContradiction
    intro hnot
    rw [hnone setting hnot] at hvalue
    cases hvalue

end

/-! ### Options that can be given -/

private theorem Level.settings_eq (level : Level) :
    level.settings = level.own ++ Setting.globals := by
  cases level <;> rfl

private theorem Level.distinct_settings (level : Level) : (Setting.globals ++ level.own).Nodup := by
  cases level <;> decide

/-- A port is read back from its digits. -/
theorem readPort?_decimal (port : UInt16) : readPort? (decimal port.toNat) = some port := by
  rw [readPort?, signedNumeral?_of_denotes (denotes_decimal port.toNat), Option.bind_some,
    uint16?_eq_some_iff]

/-- Numbers of 64 bits can be read from their digits. -/
private theorem isSome_readUInt64? {number : Option UInt64} {value : String}
    (h : number.map (fun w => decimal w.toNat) = some value) :
    (readUInt64? value).isSome = true := by
  obtain ⟨w, -, rfl⟩ := Option.map_eq_some_iff.mp h
  rw [readUInt64?_decimal, Option.isSome_some]

namespace Command

variable {command : Command} {setting : Setting}

/-- The name of a command leads to its level. -/
theorem ofCommand?_name (command : Command) :
    Level.ofCommand? command.name = some command.level := by
  cases command <;> rfl

/-- A command is given by its own options only. -/
theorem text?_eq_none (h : setting ∉ command.level.own) : command.text? setting = none := by
  cases command <;> cases setting <;> simp_all [level, Level.own, text?]

/-- The values of a command are written in a form that can be read. -/
theorem check_text? {value : String} (h : command.text? setting = some value) :
    setting.check value = .ok () := by
  cases setting with
  | timestampStart | timestampEnd =>
    cases command with
    | translate filter => exact if_pos (isSome_readUInt64? h)
    | serve | validateField => cases h
  | port | config | maxQueryLength => cases command <;> cases h
  | _ => rfl

/-- The options that a command requires are always among those that give it. -/
theorem exists_mem_options (h : setting ∈ command.level.required) :
    ∃ value, (setting, value) ∈ command.options := by
  simp only [options, mem_assigned]
  cases command with
  | serve | translate => cases h
  | validateField proposal =>
    cases setting <;> simp_all [level, Level.required, Level.own, text?]

end Command

end CommandLine

namespace Overrides

variable {overrides : Overrides} {setting : Setting}

/-- Only the options of the program override settings. -/
theorem text?_eq_none (h : setting ∉ Setting.globals) : overrides.text? setting = none := by
  cases setting <;> simp_all [Setting.globals, text?]

/-- Overrides are written in a form that can be read, unless an empty path is among them. -/
theorem check_text? (hconfig : overrides.config ≠ some "") {value : String}
    (h : overrides.text? setting = some value) : setting.check value = .ok () := by
  cases setting with
  | port =>
    obtain ⟨port, -, rfl⟩ := Option.map_eq_some_iff.mp h
    rw [Setting.check, readPort?_decimal]
    rfl
  | config =>
    refine if_neg ?_
    rintro rfl
    exact hconfig h
  | maxQueryLength => exact if_pos (isSome_readUInt64? h)
  | timestampStart | timestampEnd => cases h
  | _ => rfl

end Overrides

namespace CommandLine

variable {overrides : Overrides} {command : Command}

/-- Overrides can be given at every level. -/
theorem fits_overrides (hconfig : overrides.config ≠ some "") (level : Level) :
    Fits level overrides.options := by
  apply fits_assigned
  · intro setting hsetting
    rw [level.settings_eq]
    exact List.mem_append_right _ hsetting
  · exact fun setting value h => Overrides.check_text? hconfig h
  · decide

/-- All options that give the overrides and the command can be given together. -/
theorem fits_options (hconfig : overrides.config ≠ some "") (command : Command) :
    Fits command.level (overrides.options ++ command.options) := by
  obtain ⟨-, hown, hdisjoint⟩ := List.nodup_append.mp command.level.distinct_settings
  apply (fits_overrides hconfig command.level).append
  · apply fits_assigned
    · intro setting hsetting
      rw [command.level.settings_eq]
      exact List.mem_append_left _ hsetting
    · exact fun setting value h => Command.check_text? h
    · exact hown
  · intro option hoption other hother
    exact hdisjoint _ (mem_assigned.mp hoption).1 _ (mem_assigned.mp hother).1

/-! ### The ends of the levels -/

private theorem IsSilent.bind_eq_none {env : Environment} (h : IsSilent env) (setting : Setting) :
    setting.envName?.bind env.get? = none := by
  cases hname : setting.envName? with
  | none => rfl
  | some name => exact h setting name hname

namespace State

variable {level : Level} {env : Environment} {state : State}

private theorem checkEnvironment_of_isSilent (henv : IsSilent env) (settings : List Setting) :
    state.checkEnvironment env settings = .ok () := by
  induction settings with
  | nil => rfl
  | cons setting settings ih =>
    rw [checkEnvironment, henv.bind_eq_none]
    cases state.given.lookup setting <;> exact ih

/-- A level ends with what it has read if nothing is pending or missing. -/
theorem finish_of_isSilent (henv : IsSilent env) (hpending : state.pending = none)
    (hsufficient : state.isSufficient level = true) : state.finish level env = .ok state := by
  simp only [finish, settle, hpending, checkEnvironment_of_isSilent henv, hsufficient, if_true]

end State

/-- What the level of a command has read in the end. -/
def Command.finalState (command : Command) (given : List (Setting × String)) : State :=
  match command with
  | translate filter => { given, query := some filter.query, literal := true }
  | _ => { given }

@[simp]
private theorem Command.given_finalState (command : Command) (given : List (Setting × String)) :
    (command.finalState given).given = given := by
  cases command <;> rfl

@[simp]
private theorem Command.pending_finalState (command : Command) (given : List (Setting × String)) :
    (command.finalState given).pending = none := by
  cases command <;> rfl

/-- What both levels have read in the end. -/
def Command.finalValues (command : Command) (env : Environment)
    (before after : List (Setting × String)) : Values :=
  ⟨{ given := before }, command.finalState after, env⟩

/-- Behind the separator any text is taken for the query. -/
theorem foldlM_operands (command : Command) (given : List (Setting × String)) :
    command.operands.foldlM (State.take command.level) { given } =
      .ok (command.finalState given) := by
  cases command <;> rfl

/-- With all its options given, a command lacks nothing. -/
theorem Command.isSufficient_finalState {given : List (Setting × String)}
    (hsub : ∀ option ∈ command.options, option ∈ given)
    (hdistinct : (given.map Prod.fst).Nodup) :
    (command.finalState given).isSufficient command.level = true := by
  have hquery :
      (command.level != .translate || (command.finalState given).query.isSome) = true := by
    cases command <;> rfl
  rw [State.isSufficient, hquery, Bool.and_true, List.all_eq_true, given_finalState]
  intro setting hsetting
  obtain ⟨value, hvalue⟩ := exists_mem_options hsetting
  rw [(lookup_eq_some_iff_mem hdistinct).mpr (hsub _ hvalue), Option.isSome_some]

/-! ### Reading back -/

section

variable {env : Environment} {early : Setting → Bool} {before after : List (Setting × String)}
  (hbefore : before.Perm (overrides.options.filter fun option => early option.1))
  (hafter : after.Perm
    ((overrides.options.filter fun option => !early option.1) ++ command.options))

include hbefore in
private theorem fits_before (hconfig : overrides.config ≠ some "") : Fits .program before :=
  ((fits_overrides hconfig .program).of_sublist List.filter_sublist).of_perm hbefore

include hafter in
private theorem fits_after (hconfig : overrides.config ≠ some "") : Fits command.level after := by
  have hsub : ((overrides.options.filter fun option => !early option.1) ++ command.options).Sublist
      (overrides.options ++ command.options) := List.filter_sublist.append_right command.options
  exact ((fits_options hconfig command).of_sublist hsub).of_perm hafter

include hbefore hafter

/-- The options on both sides of the command are those that give the overrides and the command. -/
theorem perm_options : (after ++ before).Perm (overrides.options ++ command.options) := by
  have hsplit := List.filter_append_perm (fun option => early option.1) overrides.options
  have hcomm : (after ++ before).Perm (before ++ after) := List.perm_append_comm
  have hboth := hcomm.trans (hbefore.append hafter)
  rw [← List.append_assoc] at hboth
  exact hboth.trans (hsplit.append_right command.options)

/-- An option is found on whichever side of the command it stands. -/
theorem lookup_both_sides (hconfig : overrides.config ≠ some "") (setting : Setting) :
    (after.lookup setting).or (before.lookup setting) =
      (overrides.text? setting).or (command.text? setting) := by
  -- No option is given twice, so neither its side nor its place there matters.
  have hperm := perm_options hbefore hafter
  have hdistinct := ((fits_options hconfig command).of_perm hperm).distinct
  obtain ⟨hglobals, hown, -⟩ := List.nodup_append.mp command.level.distinct_settings
  rw [← List.lookup_append, lookup_of_perm hperm hdistinct, List.lookup_append, Overrides.options,
    lookup_assigned hglobals fun _ => Overrides.text?_eq_none, Command.options,
    lookup_assigned hown fun _ => Command.text?_eq_none]

end

/-- The program reads its options up to the command. -/
theorem readProgram_command {before : List (Setting × String)} (h : Fits .program before)
    (command : Command) (rest : List String) :
    readProgram {} (before.map render ++ command.name :: rest) =
      .ok ({ given := before }, some (command.level, rest)) := by
  have hfits : Fits .program ([] ++ before) := h
  rw [readProgram_render hfits, List.nil_append]
  simp [readProgram, State.isAwaiting, command.ofCommand?_name]

/-- The command reads its options and operands, and both levels end. -/
theorem readCommand_render {env : Environment} (henv : IsSilent env)
    (before : List (Setting × String)) {after : List (Setting × String)}
    (hafter : Fits command.level after) (hown : ∀ option ∈ command.options, option ∈ after) :
    readCommand env { given := before } command.level (after.map render ++ command.operands) =
      .ok ⟨(command.finalValues env before after).overrides,
        (command.finalValues env before after).commandAt command.level⟩ := by
  have hoptions : (after.map render).foldlM (State.take command.level) {} =
      .ok { given := after } := foldlM_take_render hafter
  have hcommand : (command.finalState after).finish command.level env =
      .ok (command.finalState after) := by
    apply State.finish_of_isSilent henv (command.pending_finalState after)
    exact Command.isSufficient_finalState hown hafter.distinct
  have hprogram : State.finish .program env { given := before } = .ok { given := before } :=
    State.finish_of_isSilent henv rfl rfl
  simp only [readCommand, List.foldlM_append, hoptions, bind, Except.bind, foldlM_operands,
    hcommand, hprogram]
  rfl

/-- Numbers are read back from their digits, where they are given. -/
private theorem bind_map_decimal {W : Type} {read? : String → Option W} {toNat : W → Nat}
    (hread : ∀ w, read? (decimal (toNat w)) = some w) (value : Option W) :
    (value.map fun w => decimal (toNat w)).bind read? = value := by
  cases value with
  | none => rfl
  | some w => exact hread w

namespace Values

/-- Without variables an option has the value that it is given after the command, or before it. -/
theorem get?_of_isSilent {values : Values} (henv : IsSilent values.env) (setting : Setting) :
    values.get? setting =
      (values.command.given.lookup setting).or (values.program.given.lookup setting) := by
  rw [get?, henv.bind_eq_none, Option.or_none]

variable {values : Values} (h : ∀ setting, values.get? setting =
  (overrides.text? setting).or (command.text? setting))
include h

/-- The overrides are read back. -/
theorem overrides_eq : values.overrides = overrides := by
  have hget {setting : Setting} (hglobal : setting ∈ Setting.globals) :
      values.get? setting = overrides.text? setting := by
    obtain ⟨-, -, hdisjoint⟩ := List.nodup_append.mp command.level.distinct_settings
    have hown : setting ∉ command.level.own := fun hmem => hdisjoint _ hglobal _ hmem rfl
    rw [h, Command.text?_eq_none hown, Option.or_none]
  rw [Values.overrides, hget (by decide : Setting.host ∈ _), hget (by decide : Setting.port ∈ _),
    hget (by decide : Setting.config ∈ _), hget (by decide : Setting.logsTable ∈ _),
    hget (by decide : Setting.maxQueryLength ∈ _)]
  simp only [Overrides.text?, bind_map_decimal readPort?_decimal,
    bind_map_decimal readUInt64?_decimal]

/-- The command is read back. -/
theorem commandAt_eq (hquery : ∀ filter, command = .translate filter →
    values.command.query = some filter.query) :
    values.commandAt command.level = some command := by
  have hget {setting : Setting} (hown : setting ∉ Setting.globals) :
      values.get? setting = command.text? setting := by
    rw [h, Overrides.text?_eq_none hown, Option.none_or]
  cases command with
  | serve => rfl
  | translate filter =>
    rw [Command.level, commandAt, hquery filter rfl,
      hget (by decide : Setting.timestampStart ∉ _), hget (by decide : Setting.timestampEnd ∉ _),
      hget (by decide : Setting.idStart ∉ _), hget (by decide : Setting.idEnd ∉ _)]
    simp only [Command.text?, bind_map_decimal readUInt64?_decimal, Option.getD_some]
  | validateField proposal =>
    rw [Command.level, commandAt, Values.text, Values.text, Values.text,
      hget (by decide : Setting.name ∉ _), hget (by decide : Setting.kind ∉ _),
      hget (by decide : Setting.dataType ∉ _), hget (by decide : Setting.skipIndex ∉ _)]
    rfl

end Values

/-- Arguments are read as what they were written for. The overrides and the command are any, but for an
empty path of a configuration file; every override stands on either side of the command, the options on
each side stand in any order, and values may have any characters, also those that have a meaning on the
command line. -/
theorem parse_of_renders {env : Environment} (henv : IsSilent env) {overrides : Overrides}
    (hconfig : overrides.config ≠ some "") {command : Command} {args : List String}
    (hargs : Renders overrides command args) :
    parse env args = .ok ⟨overrides, some command⟩ := by
  obtain ⟨early, before, after, hbefore, hafter⟩ := hargs
  -- What the command requires stands after it.
  have hown : ∀ option ∈ command.options, option ∈ after := fun option hoption =>
    hafter.mem_iff.mpr (List.mem_append_right _ hoption)
  have hvalues (setting : Setting) : (command.finalValues env before after).get? setting =
      (overrides.text? setting).or (command.text? setting) := by
    rw [Values.get?_of_isSilent henv, ← lookup_both_sides hbefore hafter hconfig]
    simp only [Command.finalValues, Command.given_finalState]
  have hquery : ∀ filter, command = .translate filter →
      (command.finalValues env before after).command.query = some filter.query := by
    rintro filter rfl
    rfl
  have hcommand := readCommand_render henv before (fits_after hafter hconfig) hown
  rw [Values.overrides_eq hvalues, Values.commandAt_eq hvalues hquery] at hcommand
  simp only [parse, readProgram_command (fits_before hbefore hconfig), bind, Except.bind, hcommand]

/-- Values that look like options, commands and the separator, and an empty one. -/
theorem parse_of_renders_look_alikes :
    let overrides : Overrides :=
      { host := some "--port=1", port := some 65535, config := some "--", logsTable := some "" }
    let command : Command := .translate
      { query := "--help", timestampEnd := some 18446744073709551615, idStart := some "serve" }
    parse ⟨[("PORT", "80")]⟩ ["--port=65535", "--host=--port=1", "translate", "--id-start=serve",
      "--logs-table=", "--timestamp-end=18446744073709551615", "--config=--", "--", "--help"] =
        .ok ⟨overrides, some command⟩ := by
  intro overrides command
  have henv : IsSilent ⟨[("PORT", "80")]⟩ := by
    intro setting name hname
    cases setting <;> cases hname <;> rfl
  have hargs : Renders overrides command ["--port=65535", "--host=--port=1", "translate",
      "--id-start=serve", "--logs-table=", "--timestamp-end=18446744073709551615", "--config=--",
      "--", "--help"] :=
    .intro (fun setting => setting == .host || setting == .port)
      [(.port, "65535"), (.host, "--port=1")]
      [(.idStart, "serve"), (.logsTable, ""), (.timestampEnd, "18446744073709551615"),
        (.config, "--")]
      (by decide) (by decide)
  exact parse_of_renders henv (by decide) hargs

end CommandLine

end LogFilter
