import LogFilter.Http.Service
import LogFilter.Proofs.Config.Layering
import LogFilter.Proofs.Config.RoundTrip

/-!
# Verdicts on proposals

A proposal is judged in three places: by the command that checks it, by the service, and when a
configuration is loaded, where it stands in a list and becomes a field. All three judge by the same rules
and report the same error.
-/

namespace LogFilter

open Json

/-! ### The command -/

namespace Program

variable {p : Proposal}

private theorem validateField_of_isValid (h : p.IsValid) : validateField p = .printed "ok" := by
  rw [validateField, Proposal.check_of_isValid h]

/-- The command reports the rule that is broken. -/
theorem validateField_of_breaks {e : QueryError} (h : p.Breaks e) :
    validateField p = .failed (validateFailure p.name e) := by
  rw [validateField, Proposal.check_of_breaks h]

/-- The command lets pass exactly the proposals that keep all rules. -/
theorem validateField_eq_printed_iff : validateField p = .printed "ok" ↔ p.IsValid := by
  refine Proposal.iff_isValid validateField_of_isValid fun e he => ?_
  rw [validateField_of_breaks he]
  nofun

end Program

/-! ### The service -/

namespace Http

/-- The request submits a proposal to be checked. -/
structure Request.Submits (request : Request) (p : Proposal) : Prop where
  method : request.method = Endpoint.validateField.method
  path : request.path = Endpoint.validateField.path
  contentType : declaresJson request = true
  size : request.body.utf8ByteSize ≤ maxBodySize
  body : Proposal.parse request.body = .ok p

variable {p : Proposal}

/-- A proposal that is submitted is checked, whatever the settings are. -/
theorem respond_of_submits {request : Request} (h : request.Submits p) (settings : Settings) :
    respond settings request = checkProposal p := by
  rw [respond_of_endpoint .validateField settings h.method h.path]
  simp [Endpoint.respond, validateField, h.contentType, Nat.not_lt.mpr h.size, h.body]

private theorem checkProposal_of_isValid (h : p.IsValid) :
    checkProposal p = .ok (.object [("valid", .bool true)]) := by
  rw [checkProposal, Proposal.check_of_isValid h, answer]

/-- The service reports the rule that is broken. -/
theorem checkProposal_of_breaks {e : QueryError} (h : p.Breaks e) : checkProposal p = refuse e := by
  rw [checkProposal, Proposal.check_of_breaks h, answer]

/-- The service lets pass exactly the proposals that keep all rules. -/
theorem checkProposal_eq_ok_iff :
    checkProposal p = .ok (.object [("valid", .bool true)]) ↔ p.IsValid := by
  refine Proposal.iff_isValid checkProposal_of_isValid fun e he h => ?_
  rw [checkProposal_of_breaks he] at h
  have hstatus : (refuse e).status = 200 := congrArg Response.status h
  cases hstatus

end Http

/-! ### Configurations -/

/-- The fields of a group as a file proposes them. -/
def LogsSection.fields (group : FieldGroup) (logs : LogsSection) : Option (List Proposal) :=
  group.pick logs.selected logs.interesting

/-- The fields of a group. -/
def Settings.fields (settings : Settings) (group : FieldGroup) : List Field :=
  group.pick settings.selected settings.interesting

/-- The proposal stands in the list of a group between two others, and all other proposals of both groups
keep the rules. -/
structure ValidAround (profile overlay : ConfigFile) (group : FieldGroup) (front : List Proposal)
    (p : Proposal) (back : List Proposal) : Prop where
  proposes : Proposes profile overlay (LogsSection.fields group) (front ++ p :: back)
  around : ∀ q ∈ front ++ back, q.IsValid
  apart : ∀ other proposals, other ≠ group →
    Proposes profile overlay (LogsSection.fields other) proposals → ∀ q ∈ proposals, q.IsValid

section

variable {files : ConfigFiles} {overrides : Overrides} {profile overlay : ConfigFile}
  {group : FieldGroup} {front back : List Proposal} {p : Proposal}

private theorem proposes_fields_iff {proposals : List Proposal} :
    Proposes profile overlay (LogsSection.fields group) proposals ↔
      ((overlay.withDefaults profile).logsSection.fields group).getD [] = proposals := by
  cases group
  · exact Settings.proposes_selected_iff
  · exact Settings.proposes_interesting_iff

variable (profile overlay) in
private theorem exists_proposes (group : FieldGroup) :
    ∃ proposals, Proposes profile overlay (LogsSection.fields group) proposals :=
  ⟨_, proposes_fields_iff.mpr rfl⟩

namespace ValidAround

variable (h : ValidAround profile overlay group front p back)
include h

/-- With the proposal, all that is proposed keeps the rules. -/
theorem isValid_of_proposes (hp : p.IsValid) (other : FieldGroup) {proposals : List Proposal}
    (hproposes : Proposes profile overlay (LogsSection.fields other) proposals) :
    ∀ q ∈ proposals, q.IsValid := by
  by_cases hother : other = group
  · subst hother
    obtain rfl := (proposes_fields_iff.mp hproposes).symm.trans (proposes_fields_iff.mp h.proposes)
    obtain ⟨hfront, hback⟩ := List.forall_mem_append.mp h.around
    exact List.forall_mem_append.mpr ⟨hfront, List.forall_mem_cons.mpr ⟨hp, hback⟩⟩
  · exact h.apart other proposals hother hproposes

/-- A proposal that breaks a rule is the first of its list to do so. -/
theorem isFirst {e : QueryError} (he : p.Breaks e) :
    IsFirst Proposal.Rejected (front ++ p :: back) p := by
  refine ⟨⟨e, Proposal.check_of_breaks he⟩, front, back, rfl, ?_⟩
  rintro q hq ⟨cause, hcause⟩
  rw [Proposal.check_of_isValid (h.around q (List.mem_append_left _ hq))] at hcause
  cases hcause

private theorem fieldFailure {e : QueryError} (he : p.Breaks e) :
    FieldFailure profile overlay (.invalidField group p.name e) := by
  have hcause := Proposal.check_of_breaks he
  cases group with
  | selected => exact .selected h.proposes (h.isFirst he) hcause
  | interesting =>
    -- The selected fields are accepted first, so they must not fail either.
    obtain ⟨selected, hselected⟩ := exists_proposes profile overlay .selected
    refine .interesting hselected ?_ h.proposes (h.isFirst he) hcause
    intro q hq
    exact Proposal.check_of_isValid (h.apart .selected selected nofun hselected q hq)

end ValidAround

namespace Settings

variable (hprofile : files.profile.Holds profile) (hoverlay : OverlayHolds files overrides overlay)
  (h : ValidAround profile overlay group front p back)
include hprofile hoverlay h

private theorem load_of_isValid (hp : p.IsValid) :
    ∃ settings, load files overrides = .ok settings := by
  obtain ⟨selected, hselected⟩ := exists_proposes profile overlay .selected
  obtain ⟨interesting, hinteresting⟩ := exists_proposes profile overlay .interesting
  cases hload : load files overrides with
  | ok settings => exact ⟨settings, rfl⟩
  | error e =>
    obtain ⟨q, hq, cause, hcause⟩ :=
      (load_fails_iff hprofile hoverlay hselected hinteresting).mp ⟨e, hload⟩
    have hvalid : q.IsValid := by
      rcases List.mem_append.mp hq with hq | hq
      · exact h.isValid_of_proposes hp .selected hselected q hq
      · exact h.isValid_of_proposes hp .interesting hinteresting q hq
    rw [Proposal.check_of_isValid hvalid] at hcause
    cases hcause

/-- Loading reports the rule that is broken, with the group and the name. -/
theorem load_of_breaks {e : QueryError} (he : p.Breaks e) :
    load files overrides = .error (.invalidField group p.name e) :=
  load_eq_error_iff.mpr (.field hprofile hoverlay (h.fieldFailure he))

/-- With nothing else wrong, loading lets pass exactly the proposals that keep all rules. -/
theorem exists_load_iff : (∃ settings, load files overrides = .ok settings) ↔ p.IsValid := by
  refine Proposal.iff_isValid (load_of_isValid hprofile hoverlay h) ?_
  rintro e he ⟨settings, hsettings⟩
  rw [load_of_breaks hprofile hoverlay h he] at hsettings
  cases hsettings

/-- The fields of a group are those that are proposed, in their order. -/
theorem map_proposal_fields {settings : Settings} (hload : load files overrides = .ok settings) :
    (settings.fields group).map Field.proposal = front ++ p :: back := by
  rw [load_eq_ofLayers hprofile hoverlay] at hload
  have hlayered := ofLayers_eq_ok_iff.mp hload
  have hfields : Proposes profile overlay (LogsSection.fields group)
      ((settings.fields group).map Field.proposal) := by
    cases group
    · exact hlayered.selected
    · exact hlayered.interesting
  exact (proposes_fields_iff.mp hfields).symm.trans (proposes_fields_iff.mp h.proposes)

/-- The proposal becomes the field at its place. -/
theorem exists_field {settings : Settings} (hload : load files overrides = .ok settings) :
    ∃ field, (settings.fields group)[front.length]? = some field ∧ field.proposal = p := by
  have hplace : ((settings.fields group).map Field.proposal)[front.length]? = some p := by
    rw [map_proposal_fields hprofile hoverlay h hload]
    simp
  rw [List.getElem?_map] at hplace
  exact Option.map_eq_some_iff.mp hplace

end Settings

end

/-! ### Agreement -/

namespace Proposal

/-- All who judge a proposal judge alike. The check lets pass exactly the proposals that keep all rules,
and reports the first rule that is broken. So do the command, without looking at any file, the service,
to which every proposal can be submitted, and loading, wherever the proposal stands in a list of either
group and whichever file the list is from, when nothing else is wrong. What is loaded has in its place a
field that says what the proposal does. -/
theorem verdicts_agree (p : Proposal) :
    (p.check = .ok () ↔ p.IsValid) ∧
    (∀ e, p.check = .error e ↔ p.Breaks e) ∧
    (∀ files overrides,
      (Program.invoke files ⟨overrides, some (.validateField p)⟩ = .printed "ok" ↔ p.IsValid) ∧
      ∀ e, p.Breaks e → Program.invoke files ⟨overrides, some (.validateField p)⟩ =
        .failed (validateFailure p.name e)) ∧
    (Http.checkProposal p = .ok (.object [("valid", .bool true)]) ↔ p.IsValid) ∧
    (∀ e, p.Breaks e → Http.checkProposal p = Http.refuse e) ∧
    (∀ settings (request : Http.Request), request.Submits p →
      Http.respond settings request = Http.checkProposal p) ∧
    parse p.toJson.render = .ok p ∧
    ∀ (files : ConfigFiles) overrides profile overlay group front back,
      files.profile.Holds profile → OverlayHolds files overrides overlay →
      ValidAround profile overlay group front p back →
      ((∃ settings, Settings.load files overrides = .ok settings) ↔ p.IsValid) ∧
      (∀ e, p.Breaks e →
        Settings.load files overrides = .error (.invalidField group p.name e)) ∧
      ∀ settings, Settings.load files overrides = .ok settings →
        ∃ field, (settings.fields group)[front.length]? = some field ∧ p.accept = .ok field ∧
          field.name = p.name ∧ field.dataType = p.dataType ∧ field.skipIndex = p.skipIndex ∧
          field.kind.name = p.kind := by
  refine ⟨check_eq_ok_iff, fun e => check_eq_error_iff, ?_, Http.checkProposal_eq_ok_iff,
    fun e => Http.checkProposal_of_breaks,
    fun settings request hsubmits => Http.respond_of_submits hsubmits settings, p.parse_toJson, ?_⟩
  · intro files overrides
    exact ⟨Program.validateField_eq_printed_iff, fun e => Program.validateField_of_breaks⟩
  · intro files overrides profile overlay group front back hprofile hoverlay h
    refine ⟨Settings.exists_load_iff hprofile hoverlay h,
      fun e => Settings.load_of_breaks hprofile hoverlay h, ?_⟩
    intro settings hload
    have hvalid : p.IsValid := (Settings.exists_load_iff hprofile hoverlay h).mp ⟨settings, hload⟩
    obtain ⟨field, hplace, rfl⟩ := Settings.exists_field hprofile hoverlay h hload
    exact ⟨field, hplace, accept_eq_ok_iff.mpr ⟨check_of_isValid hvalid, rfl⟩, rfl, rfl, rfl, rfl⟩

/-- An index that is not supported, in the middle of a list of the local file. -/
theorem verdicts_agree_bloom_filter :
    let user : Proposal := { name := "user_id", kind := "attributes", dataType := "String" }
    let zone : Proposal := { user with name := "zone", skipIndex := some "bloom_filter(2)" }
    let span : Proposal := { user with name := "span", skipIndex := some "minmax" }
    let content := (Json.object [("logs", .object
      [("interesting", .array ([user, zone, span].map toJson))])]).render
    let files : ConfigFiles :=
      { profilePath := "", profile := .absent, find := fun _ => .text content }
    let cause : QueryError := .unsupportedSkipIndex "bloom_filter(2)"
    Program.invoke files ⟨{}, some (.validateField zone)⟩ =
        .failed (validateFailure "zone" cause) ∧
      Http.checkProposal zone = Http.refuse cause ∧
      Settings.load files {} = .error (.invalidField .interesting "zone" cause) := by
  intro user zone span content files cause
  let file : ConfigFile := { logs := some { interesting := some [user, zone, span] } }
  have htext : content = file.toJson.render := congrArg Json.render rfl
  have hparse : ConfigFile.parse content = .ok file := by
    rw [htext]
    exact ConfigFile.parse_toJson rfl
  have hoverlay : OverlayHolds files {} file := ⟨by rintro ⟨path, ⟨⟩, -⟩, .text hparse⟩
  have haround : ValidAround {} file .interesting [user] zone [span] := by
    refine ⟨proposes_fields_iff.mpr rfl, ?_, ?_⟩
    · exact List.forall_mem_cons.mpr ⟨check_eq_ok_iff.mp rfl,
        List.forall_mem_singleton.mpr (check_eq_ok_iff.mp rfl)⟩
    · intro other proposals hother hproposes
      cases other with
      | selected =>
        obtain rfl := proposes_fields_iff.mp hproposes
        nofun
      | interesting => exact absurd rfl hother
  have hbreaks : zone.Breaks cause := check_eq_error_iff.mp rfl
  obtain ⟨-, -, hcommand, -, hservice, -, -, hload⟩ := verdicts_agree zone
  exact ⟨(hcommand files {}).2 cause hbreaks, hservice cause hbreaks,
    (hload files {} {} file .interesting [user] [span] .absent hoverlay haround).2.1 cause hbreaks⟩

end Proposal

end LogFilter
