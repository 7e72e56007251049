import LogFilter.Config.Settings
import LogFilter.Proofs.Field.Rules
import LogFilter.Proofs.Traversal

/-!
# Layers of configuration

The settings come from the command line, the local file or a named one, the profile file and the
defaults. Presence has two levels in a file: a section may be left out, and a setting of a section that is
there. Each setting is settled by itself, by the highest layer that gives it. Of several faults the first
is reported, in the order in which the files are read and the proposals checked.
-/

namespace LogFilter

/-! ### The highest layer -/

/-- The value is that of the highest layer that gives one; layers are listed from the highest down. -/
def Highest {α : Type} (layers : List (Option α)) (value : α) : Prop :=
  IsFirst (· ≠ none) layers (some value)

section

variable {α : Type} {layers : List (Option α)} {value : α}

private theorem highest_cons {layer : Option α} :
    Highest (layer :: layers) value ↔
      layer = some value ∨ layer = none ∧ Highest layers value := by
  rw [Highest, isFirst_cons]
  cases layer <;> simp [Highest]

/-- Two neighbouring layers decide as one, where the upper is completed from the lower. -/
theorem highest_or {upper lower : Option α} :
    Highest (upper :: lower :: layers) value ↔ Highest (upper.or lower :: layers) value := by
  cases upper <;> simp [highest_cons]

/-- Over a default, a value is always given. -/
theorem highest_default {layer : Option α} {default : α} :
    Highest [layer, some default] value ↔ layer.getD default = value := by
  cases layer <;> simp [highest_cons]

end

/-! ### Fields -/

namespace Settings

section

variable {group : FieldGroup} {proposals : List Proposal}

/-- The fields of a group are accepted if all pass the check, and are then those that are proposed. -/
theorem acceptFields_eq_ok_iff {fields : List Field} :
    acceptFields group proposals = .ok fields ↔
      (∀ p ∈ proposals, p.check = .ok ()) ∧ fields.map Field.proposal = proposals := by
  have haccept (p : Proposal) (field : Field) :
      p.accept.mapError (ConfigError.invalidField group p.name) = .ok field ↔
        p.check = .ok () ∧ field.proposal = p := by
    rw [← Proposal.accept_eq_ok_iff]
    cases p.accept with
    | error cause => exact iff_of_false nofun nofun
    | ok accepted =>
      constructor <;>
      · rintro ⟨⟩
        rfl
  rw [acceptFields, mapM_eq_ok_iff]
  induction proposals generalizing fields with
  | nil => cases fields <;> simp
  | cons p ps ih =>
    cases fields with
    | nil => simp
    | cons field fields =>
      simp only [List.map_cons, List.cons.injEq, haccept, ih, List.forall_mem_cons]
      exact and_and_and_comm

/-- The first field of a group that is rejected is reported with its error. -/
theorem acceptFields_eq_error_iff {e : ConfigError} :
    acceptFields group proposals = .error e ↔
      ∃ p cause, IsFirst Proposal.Rejected proposals p ∧ p.check = .error cause ∧
        e = .invalidField group p.name cause := by
  have haccept (p : Proposal) (e : ConfigError) :
      p.accept.mapError (ConfigError.invalidField group p.name) = .error e ↔
        ∃ cause, p.check = .error cause ∧ e = .invalidField group p.name cause := by
    simp only [← Proposal.accept_eq_error_iff]
    cases p.accept with
    | error cause =>
      constructor
      · rintro ⟨⟩
        exact ⟨cause, rfl, rfl⟩
      · rintro ⟨_, ⟨⟩, rfl⟩
        rfl
    | ok accepted =>
      constructor
      · nofun
      · rintro ⟨_, ⟨⟩, _⟩
  have hrejected (p : Proposal) :
      (∃ e, p.accept.mapError (ConfigError.invalidField group p.name) = .error e) ↔ p.Rejected := by
    simp only [haccept, Proposal.Rejected]
    constructor
    · rintro ⟨_, cause, hcause, -⟩
      exact ⟨cause, hcause⟩
    · rintro ⟨cause, hcause⟩
      exact ⟨_, cause, hcause, rfl⟩
  rw [acceptFields, mapM_eq_error_iff_isFirst]
  simp only [hrejected]
  constructor
  · rintro ⟨p, hfirst, he⟩
    obtain ⟨cause, hcause⟩ := (haccept p e).mp he
    exact ⟨p, cause, hfirst, hcause⟩
  · rintro ⟨p, cause, hfirst, hcause⟩
    exact ⟨p, hfirst, (haccept p e).mpr ⟨cause, hcause⟩⟩

/-- Proposals that all pass the check name fields. -/
theorem exists_fields (h : ∀ p ∈ proposals, p.check = .ok ()) :
    ∃ fields : List Field, fields.map Field.proposal = proposals := by
  cases haccept : acceptFields .selected proposals with
  | error e =>
    obtain ⟨p, cause, hfirst, hcause, -⟩ := acceptFields_eq_error_iff.mp haccept
    rw [h p hfirst.mem] at hcause
    cases hcause
  | ok fields => exact ⟨fields, (acceptFields_eq_ok_iff.mp haccept).2⟩

end

end Settings

/-! ### Files -/

/-- What a file says: nothing if it is absent, or else what its text is parsed as. -/
inductive FileState.Holds : FileState → ConfigFile → Prop
  | absent : Holds .absent {}
  | text {content : String} {file : ConfigFile} (h : ConfigFile.parse content = .ok file) :
    Holds (.text content) file

/-- What is wrong with the file at a path. -/
inductive FileState.Bad (path : String) : FileState → ConfigError → Prop
  | unreadable : Bad path .unreadable (.unreadable path)
  | unparsable {content : String} {fault : Json.Fault}
    (h : ConfigFile.parse content = .error fault) : Bad path (.text content) (.unparsable path)

/-- The path of the file over the profile: the one that is named, or that of the local file. -/
def Overrides.overlayPath (overrides : Overrides) : String :=
  overrides.config.getD configFileName

/-- A file is named on the command line, and there is none at its path. -/
def MissingFile (files : ConfigFiles) (overrides : Overrides) (path : String) : Prop :=
  overrides.config = some path ∧ files.find path = .absent

/-- What the file over the profile says. One that is named has to be there. -/
structure OverlayHolds (files : ConfigFiles) (overrides : Overrides) (overlay : ConfigFile) :
    Prop where
  named : ¬ ∃ path, MissingFile files overrides path
  holds : (files.find overrides.overlayPath).Holds overlay

namespace Settings

/-- A file is read as what it says. -/
theorem readLayer_eq_ok_iff {path : String} {state : FileState} {file : ConfigFile} :
    readLayer path state = .ok file ↔ state.Holds file := by
  constructor
  · intro h
    cases state with
    | absent => cases h; exact .absent
    | unreadable => cases h
    | text content =>
      cases hparse : ConfigFile.parse content with
      | error fault => simp [readLayer, hparse] at h
      | ok other =>
        simp only [readLayer, hparse, Except.ok.injEq] at h
        exact .text (h ▸ hparse)
  · rintro (_ | hparse)
    · rfl
    · simp [readLayer, hparse]

/-- A file that cannot be read is reported for what is wrong with it. -/
theorem readLayer_eq_error_iff {path : String} {state : FileState} {e : ConfigError} :
    readLayer path state = .error e ↔ state.Bad path e := by
  constructor
  · intro h
    cases state with
    | absent => cases h
    | unreadable => cases h; exact .unreadable
    | text content =>
      cases hparse : ConfigFile.parse content with
      | error fault =>
        simp only [readLayer, hparse, Except.error.injEq] at h
        exact h ▸ .unparsable hparse
      | ok other => simp [readLayer, hparse] at h
  · rintro (_ | hparse)
    · rfl
    · simp [readLayer, hparse]

section

variable {files : ConfigFiles} {overrides : Overrides}

/-- Unless a named file is missing, the file over the profile is read like any other. -/
theorem readOverlay_eq (h : ¬ ∃ path, MissingFile files overrides path) :
    readOverlay files overrides =
      readLayer overrides.overlayPath (files.find overrides.overlayPath) := by
  unfold readOverlay Overrides.overlayPath
  cases hconfig : overrides.config with
  | none => rfl
  | some path =>
    cases hfind : files.find path with
    | absent => exact absurd ⟨path, hconfig, hfind⟩ h
    | unreadable => simp [hfind]
    | text content => simp [hfind]

private theorem readOverlay_of_missing {path : String} (h : MissingFile files overrides path) :
    readOverlay files overrides = .error (.notFound path) := by
  simp [readOverlay, h.1, h.2]

/-- The file over the profile is read as what it says. -/
theorem readOverlay_eq_ok_iff {overlay : ConfigFile} :
    readOverlay files overrides = .ok overlay ↔ OverlayHolds files overrides overlay := by
  by_cases hmissing : ∃ path, MissingFile files overrides path
  · refine iff_of_false (fun h => ?_) fun h => h.named hmissing
    obtain ⟨path, hpath⟩ := hmissing
    rw [readOverlay_of_missing hpath] at h
    cases h
  · rw [readOverlay_eq hmissing, readLayer_eq_ok_iff]
    exact ⟨fun h => ⟨hmissing, h⟩, fun h => h.holds⟩

/-- The file over the profile is reported if it is named and missing, or for what is wrong with it. -/
theorem readOverlay_eq_error_iff {e : ConfigError} :
    readOverlay files overrides = .error e ↔
      (∃ path, MissingFile files overrides path ∧ e = .notFound path) ∨
        (files.find overrides.overlayPath).Bad overrides.overlayPath e := by
  by_cases hmissing : ∃ path, MissingFile files overrides path
  · obtain ⟨path, hpath⟩ := hmissing
    have hoverlay : overrides.overlayPath = path := by simp [Overrides.overlayPath, hpath.1]
    rw [readOverlay_of_missing hpath, hoverlay, hpath.2]
    constructor
    · rintro ⟨⟩
      exact .inl ⟨path, hpath, rfl⟩
    · rintro (⟨other, hother, rfl⟩ | ⟨⟨⟩⟩)
      rw [Option.some.inj (hpath.1.symm.trans hother.1)]
  · rw [readOverlay_eq hmissing, readLayer_eq_error_iff]
    refine ⟨.inr, fun h => h.resolve_left ?_⟩
    rintro ⟨path, hpath, -⟩
    exact hmissing ⟨path, hpath⟩

end

end Settings

/-! ### Layers -/

/-- The fields of a group as the highest file proposes them that has a list of them; none if no file
has. -/
def Proposes (profile overlay : ConfigFile) (list : LogsSection → Option (List Proposal))
    (proposals : List Proposal) : Prop :=
  Highest [overlay.logs.bind list, profile.logs.bind list, some []] proposals

/-- The settings are those of the layers, each from the highest that gives it. -/
structure Layered (profile overlay : ConfigFile) (overrides : Overrides) (settings : Settings) :
    Prop where
  host : Highest [overrides.host, overlay.server.bind ServerSection.host,
    profile.server.bind ServerSection.host, some "127.0.0.1"] settings.host
  port : Highest [overrides.port, overlay.server.bind ServerSection.port,
    profile.server.bind ServerSection.port, some 5390] settings.port
  table : Highest [overrides.logsTable, overlay.logs.bind LogsSection.table,
    profile.logs.bind LogsSection.table, some "logs"] settings.table
  maxQueryLength : Highest [overrides.maxQueryLength, overlay.logs.bind LogsSection.maxQueryLength,
    profile.logs.bind LogsSection.maxQueryLength, some 4096] settings.maxQueryLength
  selected : Proposes profile overlay LogsSection.selected (settings.selected.map Field.proposal)
  interesting :
    Proposes profile overlay LogsSection.interesting (settings.interesting.map Field.proposal)
  checked : ∀ field ∈ settings.selected ++ settings.interesting, field.proposal.check = .ok ()

/-- A field is reported: the first of its list that is rejected. The selected fields come first, and a
list that is not the highest plays no part. -/
inductive FieldFailure (profile overlay : ConfigFile) : ConfigError → Prop
  | selected {proposals : List Proposal} {p : Proposal} {cause : QueryError}
    (hproposes : Proposes profile overlay LogsSection.selected proposals)
    (hfirst : IsFirst Proposal.Rejected proposals p) (hcause : p.check = .error cause) :
    FieldFailure profile overlay (.invalidField .selected p.name cause)
  | interesting {selected proposals : List Proposal} {p : Proposal} {cause : QueryError}
    (hselected : Proposes profile overlay LogsSection.selected selected)
    (hchecked : ∀ p ∈ selected, p.check = .ok ())
    (hproposes : Proposes profile overlay LogsSection.interesting proposals)
    (hfirst : IsFirst Proposal.Rejected proposals p) (hcause : p.check = .error cause) :
    FieldFailure profile overlay (.invalidField .interesting p.name cause)

/-- A setting of two optional sections, one over the other, is that of the merged sections, where a
section that is left out counts as one that is silent. -/
theorem bind_or_bind {σ α : Type} {upper lower : Option σ} {silent : σ} {setting : σ → Option α}
    {merge : σ → σ → σ} (hsilent : setting silent = none)
    (hmerge : ∀ a b, setting (merge a b) = (setting a).or (setting b)) :
    (upper.bind setting).or (lower.bind setting) =
      setting (merge (upper.getD silent) (lower.getD silent)) := by
  rw [hmerge]
  cases upper <;> cases lower <;> simp [hsilent]

section

variable {profile overlay : ConfigFile} {α : Type} {override : Option α} {default value : α}

private theorem highest_server {setting : ServerSection → Option α} (hsilent : setting {} = none)
    (hmerge : ∀ a b : ServerSection, setting (a.withDefaults b) = (setting a).or (setting b)) :
    Highest [override, overlay.server.bind setting, profile.server.bind setting, some default]
        value ↔
      (override.or (setting (overlay.withDefaults profile).serverSection)).getD default = value := by
  rw [highest_or, highest_or, highest_default, Option.or_assoc, bind_or_bind hsilent hmerge]
  rfl

private theorem highest_logs {setting : LogsSection → Option α} (hsilent : setting {} = none)
    (hmerge : ∀ a b : LogsSection, setting (a.withDefaults b) = (setting a).or (setting b)) :
    Highest [override, overlay.logs.bind setting, profile.logs.bind setting, some default] value ↔
      (override.or (setting (overlay.withDefaults profile).logsSection)).getD default = value := by
  rw [highest_or, highest_or, highest_default, Option.or_assoc, bind_or_bind hsilent hmerge]
  rfl

private theorem proposes_iff {list : LogsSection → Option (List Proposal)}
    {proposals : List Proposal}
    (hsilent : list {} = none)
    (hmerge : ∀ a b : LogsSection, list (a.withDefaults b) = (list a).or (list b)) :
    Proposes profile overlay list proposals ↔
      (list (overlay.withDefaults profile).logsSection).getD [] = proposals := by
  rw [Proposes, highest_or, highest_default, bind_or_bind hsilent hmerge]
  rfl

end

namespace Settings

variable {profile overlay : ConfigFile} {overrides : Overrides}

/-- The selected fields that the two files propose are those of the merged file. -/
theorem proposes_selected_iff {proposals : List Proposal} :
    Proposes profile overlay LogsSection.selected proposals ↔
      (overlay.withDefaults profile).logsSection.selected.getD [] = proposals :=
  proposes_iff rfl fun _ _ => rfl

/-- The interesting fields that the two files propose are those of the merged file. -/
theorem proposes_interesting_iff {proposals : List Proposal} :
    Proposes profile overlay LogsSection.interesting proposals ↔
      (overlay.withDefaults profile).logsSection.interesting.getD [] = proposals :=
  proposes_iff rfl fun _ _ => rfl

/-- Layering gives exactly the settings of the layers. -/
theorem ofLayers_eq_ok_iff {settings : Settings} :
    ofLayers (overlay.withDefaults profile) overrides = .ok settings ↔
      Layered profile overlay overrides settings := by
  simp only [ofLayers, bind_eq_ok_iff, acceptFields_eq_ok_iff, pure, Except.pure, Except.ok.injEq]
  constructor
  · rintro ⟨selected, ⟨hselected, hsel⟩, interesting, ⟨hinteresting, hint⟩, rfl⟩
    refine ⟨?_, ?_, ?_, ?_, proposes_selected_iff.mpr hsel.symm,
      proposes_interesting_iff.mpr hint.symm, ?_⟩
    · exact (highest_server rfl fun _ _ => rfl).mpr rfl
    · exact (highest_server rfl fun _ _ => rfl).mpr rfl
    · exact (highest_logs rfl fun _ _ => rfl).mpr rfl
    · exact (highest_logs rfl fun _ _ => rfl).mpr rfl
    · intro field hfield
      rcases List.mem_append.mp hfield with h | h
      · exact hselected _ (hsel ▸ List.mem_map_of_mem h)
      · exact hinteresting _ (hint ▸ List.mem_map_of_mem h)
  · intro h
    have hsel := proposes_selected_iff.mp h.selected
    have hint := proposes_interesting_iff.mp h.interesting
    obtain ⟨hcheckedSel, hcheckedInt⟩ := List.forall_mem_append.mp h.checked
    refine ⟨settings.selected, ⟨?_, hsel.symm⟩, settings.interesting, ⟨?_, hint.symm⟩, ?_⟩
    · rw [hsel]
      exact List.forall_mem_map.mpr hcheckedSel
    · rw [hint]
      exact List.forall_mem_map.mpr hcheckedInt
    · have hhost := (highest_server rfl fun _ _ => rfl).mp h.host
      have hport := (highest_server rfl fun _ _ => rfl).mp h.port
      have htable := (highest_logs rfl fun _ _ => rfl).mp h.table
      have hlength := (highest_logs rfl fun _ _ => rfl).mp h.maxQueryLength
      cases settings
      exact mk.injEq .. ▸ ⟨hhost, hport, htable, hlength, rfl, rfl⟩

/-- Layering fails exactly at a field that is rejected. -/
theorem ofLayers_eq_error_iff {e : ConfigError} :
    ofLayers (overlay.withDefaults profile) overrides = .error e ↔
      FieldFailure profile overlay e := by
  simp only [ofLayers, bind_eq_error_iff, acceptFields_eq_error_iff, acceptFields_eq_ok_iff]
  constructor
  · rintro (⟨p, cause, hfirst, hcause, rfl⟩ | ⟨selected, ⟨hchecked, hsel⟩, h⟩)
    · exact .selected (proposes_selected_iff.mpr rfl) hfirst hcause
    · rcases h with ⟨p, cause, hfirst, hcause, rfl⟩ | ⟨_, _, h⟩
      · exact .interesting (proposes_selected_iff.mpr rfl) hchecked
          (proposes_interesting_iff.mpr rfl) hfirst hcause
      · cases h
  · rintro (⟨hproposes, hfirst, hcause⟩ | ⟨hselected, hchecked, hproposes, hfirst, hcause⟩)
    · rw [← proposes_selected_iff.mp hproposes] at hfirst
      exact .inl ⟨_, _, hfirst, hcause, rfl⟩
    · obtain rfl := proposes_selected_iff.mp hselected
      obtain rfl := proposes_interesting_iff.mp hproposes
      obtain ⟨fields, hfields⟩ := exists_fields hchecked
      exact .inr ⟨fields, ⟨hchecked, hfields⟩, .inl ⟨_, _, hfirst, hcause, rfl⟩⟩

end Settings

/-! ### Loading -/

/-- Why loading fails: the first that applies of a profile that cannot be read, a named file that is
missing, a file over the profile that cannot be read, and a field that is rejected. -/
inductive LoadFailure (files : ConfigFiles) (overrides : Overrides) : ConfigError → Prop
  | profile {e : ConfigError} (h : files.profile.Bad files.profilePath e) :
    LoadFailure files overrides e
  | missing {profile : ConfigFile} {path : String} (hprofile : files.profile.Holds profile)
    (h : MissingFile files overrides path) : LoadFailure files overrides (.notFound path)
  | overlay {profile : ConfigFile} {e : ConfigError} (hprofile : files.profile.Holds profile)
    (h : (files.find overrides.overlayPath).Bad overrides.overlayPath e) :
    LoadFailure files overrides e
  | field {profile overlay : ConfigFile} {e : ConfigError} (hprofile : files.profile.Holds profile)
    (hoverlay : OverlayHolds files overrides overlay) (h : FieldFailure profile overlay e) :
    LoadFailure files overrides e

namespace Settings

variable {files : ConfigFiles} {overrides : Overrides}

/-- Loading gives exactly the settings of the layers, once both files can be read. -/
theorem load_eq_ok_iff {settings : Settings} :
    load files overrides = .ok settings ↔ ∃ profile overlay, files.profile.Holds profile ∧
      OverlayHolds files overrides overlay ∧ Layered profile overlay overrides settings := by
  simp only [load, bind_eq_ok_iff, readLayer_eq_ok_iff, readOverlay_eq_ok_iff, ofLayers_eq_ok_iff,
    exists_and_left]

/-- Loading fails exactly at the first thing that is wrong. -/
theorem load_eq_error_iff {e : ConfigError} :
    load files overrides = .error e ↔ LoadFailure files overrides e := by
  simp only [load, bind_eq_error_iff, readLayer_eq_ok_iff, readLayer_eq_error_iff,
    readOverlay_eq_ok_iff, readOverlay_eq_error_iff, ofLayers_eq_error_iff]
  constructor
  · rintro (h | ⟨profile, hprofile, (⟨path, h, rfl⟩ | h) | ⟨overlay, hoverlay, h⟩⟩)
    · exact .profile h
    · exact .missing hprofile h
    · exact .overlay hprofile h
    · exact .field hprofile hoverlay h
  · rintro (h | ⟨hprofile, h⟩ | ⟨hprofile, h⟩ | ⟨hprofile, hoverlay, h⟩)
    · exact .inl h
    · exact .inr ⟨_, hprofile, .inl (.inl ⟨_, h, rfl⟩)⟩
    · exact .inr ⟨_, hprofile, .inl (.inr h)⟩
    · exact .inr ⟨_, hprofile, .inr ⟨_, hoverlay, h⟩⟩

/-- With files that can be read, loading layers them. -/
theorem load_eq_ofLayers {profile overlay : ConfigFile} (hprofile : files.profile.Holds profile)
    (hoverlay : OverlayHolds files overrides overlay) :
    load files overrides = ofLayers (overlay.withDefaults profile) overrides := by
  rw [load, readLayer_eq_ok_iff.mpr hprofile, readOverlay_eq_ok_iff.mpr hoverlay]
  rfl

/-- With files that can be read, loading fails exactly when a field of the two lists is rejected. -/
theorem load_fails_iff {profile overlay : ConfigFile} {selected interesting : List Proposal}
    (hprofile : files.profile.Holds profile) (hoverlay : OverlayHolds files overrides overlay)
    (hselected : Proposes profile overlay LogsSection.selected selected)
    (hinteresting : Proposes profile overlay LogsSection.interesting interesting) :
    (∃ e, load files overrides = .error e) ↔ ∃ p ∈ selected ++ interesting, p.Rejected := by
  obtain rfl := proposes_selected_iff.mp hselected
  obtain rfl := proposes_interesting_iff.mp hinteresting
  rw [load_eq_ofLayers hprofile hoverlay]
  constructor
  · rintro ⟨e, he⟩
    rcases ofLayers_eq_error_iff.mp he with ⟨hproposes, hfirst, hcause⟩ |
      ⟨-, -, hproposes, hfirst, hcause⟩
    · obtain rfl := proposes_selected_iff.mp hproposes
      exact ⟨_, List.mem_append_left _ hfirst.mem, _, hcause⟩
    · obtain rfl := proposes_interesting_iff.mp hproposes
      exact ⟨_, List.mem_append_right _ hfirst.mem, _, hcause⟩
  · rintro ⟨p, hp, cause, hcause⟩
    cases hsettings : ofLayers (overlay.withDefaults profile) overrides with
    | error e => exact ⟨e, rfl⟩
    | ok settings =>
      have hlayered := ofLayers_eq_ok_iff.mp hsettings
      rw [proposes_selected_iff.mp hlayered.selected,
        proposes_interesting_iff.mp hlayered.interesting, ← List.map_append] at hp
      obtain ⟨field, hfield, rfl⟩ := List.mem_map.mp hp
      rw [hlayered.checked field hfield] at hcause
      cases hcause

/-- Every setting is loaded from the highest layer that gives it, whatever the layers say otherwise.
Loading fails exactly at the first thing that is wrong with a file, or else at the first field that is
rejected. With files that can be read, it fails exactly when a field of the two highest lists is
rejected, and no other list matters. -/
theorem load_layer_by_layer (files : ConfigFiles) (overrides : Overrides) :
    (∀ settings, load files overrides = .ok settings ↔ ∃ profile overlay,
      files.profile.Holds profile ∧ OverlayHolds files overrides overlay ∧
        Layered profile overlay overrides settings) ∧
    (∀ e, load files overrides = .error e ↔ LoadFailure files overrides e) ∧
    (∀ profile overlay selected interesting, files.profile.Holds profile →
      OverlayHolds files overrides overlay →
      Proposes profile overlay LogsSection.selected selected →
      Proposes profile overlay LogsSection.interesting interesting →
      ((∃ e, load files overrides = .error e) ↔ ∃ p ∈ selected ++ interesting, p.Rejected)) :=
  ⟨fun _ => load_eq_ok_iff, fun _ => load_eq_error_iff,
    fun _ _ _ _ hprofile hoverlay hselected hinteresting =>
      load_fails_iff hprofile hoverlay hselected hinteresting⟩

/-- An empty list hides the fields below it, which are not checked. -/
example : ofLayers (ConfigFile.withDefaults { logs := some { selected := some [] } }
    { logs := some { table := some "events", selected := some [{ name := "user_id" }] } }) {} =
      .ok { table := "events" } := rfl

end Settings

end LogFilter
