import LogFilter.Http.Service
import LogFilter.Proofs.Catalog.LastGiven
import LogFilter.Proofs.Config.Layering
import LogFilter.Proofs.Config.RoundTrip

/-!
# Field listings as configuration

The service lists the fields of its catalog in JSON, and a configuration file proposes fields in
JSON. A file with the listed fields is accepted and gives the same catalog.
-/

namespace LogFilter

open Json

/-! ### Valid fields -/

/-- The field has a name and a data type, and no skip index that the store refuses. -/
structure Field.IsValid (field : Field) : Prop where
  name : field.name ≠ ""
  dataType : field.dataType ≠ ""
  skipIndex : ∀ index ∈ field.skipIndex, SkipIndex.isSupported index = true

instance : DecidablePred Field.IsValid := fun field =>
  decidable_of_iff (field.name ≠ "" ∧ field.dataType ≠ "" ∧
      ∀ index ∈ field.skipIndex, SkipIndex.isSupported index = true)
    ⟨fun ⟨hname, hdataType, hindex⟩ => ⟨hname, hdataType, hindex⟩,
      fun h => ⟨h.name, h.dataType, h.skipIndex⟩⟩

/-- A field is valid exactly when it passes the check as a proposal. -/
theorem Field.check_proposal_iff {field : Field} :
    field.proposal.check = .ok () ↔ field.IsValid := by
  have hkind : field.kind.name ≠ "" := by cases field.kind <;> decide
  have hknown : field.kind.name ∈ FieldKind.names := FieldKind.mem_names_iff.mpr ⟨field.kind, rfl⟩
  rw [Proposal.check_eq_ok_iff]
  constructor
  · exact fun h => ⟨h.name, h.dataType, h.skipIndex⟩
  · exact fun h => ⟨h.name, hkind, h.dataType, hknown, h.skipIndex⟩

/-- Valid fields are accepted as they are. -/
theorem Settings.acceptFields_proposals {fields : List Field} (h : ∀ field ∈ fields, field.IsValid)
    (group : FieldGroup) : acceptFields group (fields.map Field.proposal) = .ok fields := by
  rw [acceptFields_eq_ok_iff]
  refine ⟨?_, rfl⟩
  rw [List.forall_mem_map]
  exact fun field hfield => Field.check_proposal_iff.mpr (h field hfield)

/-- A field is written as the proposal of it. -/
theorem Proposal.ofReading_field (field : Field) :
    ofReading field.toJson.reading = .ok field.proposal := by
  obtain ⟨name, kind, dataType, skipIndex⟩ := field
  cases skipIndex <;> rfl

/-- The fields of a catalog, as a configuration file proposes them. -/
def Catalog.listing (catalog : Catalog) : LogsSection :=
  { selected := some (catalog.selected.fields.map Field.proposal)
    interesting := some (catalog.interesting.fields.map Field.proposal) }

private theorem LogsSection.ofReading_fieldsJson (catalog : Catalog) :
    ofReading (Http.fieldsJson catalog).reading = .ok catalog.listing := by
  have hproposals (fields : List Field) : (itemReadings (fields.map Field.toJson)).all
      Proposal.ofReading = .ok (fields.map Field.proposal) :=
    all_itemReadings Proposal.ofReading_field fields
  simp only [Http.fieldsJson, reading, memberReadings, ofReading, Members.decode, Draft.known, fill,
    Reading.nullable, proposals, Reading.list, hproposals]
  rfl

/-- A file whose only section lists the fields of a catalog proposes them. -/
theorem ConfigFile.parse_listing (catalog : Catalog) :
    parse (Json.object [("logs", Http.fieldsJson catalog)]).render =
      .ok { logs := some catalog.listing } := by
  rw [parse, decodeText_render]
  have hsection : Reading.nullable LogsSection.ofReading (Http.fieldsJson catalog).reading =
      .ok (some catalog.listing) := by
    have hmap : Reading.nullable LogsSection.ofReading (Http.fieldsJson catalog).reading =
        (LogsSection.ofReading (Http.fieldsJson catalog).reading).map some := rfl
    rw [hmap, LogsSection.ofReading_fieldsJson]
    rfl
  simp only [reading, memberReadings, ofReading, Members.decode, Draft.known, fill, hsection]
  rfl

namespace Settings

variable {file : ConfigFile} {overrides : Overrides}

/-- Layering accepts a file when it accepts the fields of both groups, and takes them over. -/
theorem exists_ofLayers_iff {selected interesting : List Field} :
    (∃ settings, ofLayers file overrides = .ok settings ∧ settings.selected = selected ∧
        settings.interesting = interesting) ↔
      acceptFields .selected (file.logsSection.selected.getD []) = .ok selected ∧
        acceptFields .interesting (file.logsSection.interesting.getD []) = .ok interesting := by
  simp only [ofLayers, bind_eq_ok_iff, pure, Except.pure, Except.ok.injEq]
  constructor
  · rintro ⟨settings, ⟨selected, hselected, interesting, hinteresting, rfl⟩, rfl, rfl⟩
    exact ⟨hselected, hinteresting⟩
  · rintro ⟨hselected, hinteresting⟩
    exact ⟨_, ⟨selected, hselected, interesting, hinteresting, rfl⟩, rfl, rfl⟩

/-- The fields that layering takes over are valid. -/
theorem isValid_of_ofLayers {settings : Settings} (h : ofLayers file overrides = .ok settings) :
    ∀ field ∈ settings.selected ++ settings.interesting, field.IsValid := by
  obtain ⟨hselected, hinteresting⟩ := exists_ofLayers_iff.mp ⟨settings, h, rfl, rfl⟩
  have hvalid {group : FieldGroup} {proposals : List Proposal} {fields : List Field}
      (haccept : acceptFields group proposals = .ok fields) : ∀ field ∈ fields, field.IsValid := by
    obtain ⟨hcheck, hfields⟩ := acceptFields_eq_ok_iff.mp haccept
    intro field hfield
    apply Field.check_proposal_iff.mp
    apply hcheck
    rw [← hfields]
    exact List.mem_map_of_mem hfield
  exact List.forall_mem_append.mpr ⟨hvalid hselected, hvalid hinteresting⟩

/-- All fields of the catalog are valid, built-in or not. -/
theorem isValid_catalog {settings : Settings} (h : ofLayers file overrides = .ok settings) :
    ∀ field ∈ settings.catalog.selected.fields ++ settings.catalog.interesting.fields,
      field.IsValid := by
  have hcolumns : Catalog.builtIn.selected.fields.all (decide <| Field.IsValid ·) = true := by
    decide +kernel
  have harrays : Catalog.builtIn.interesting.fields.all (decide <| Field.IsValid ·) = true := by
    decide +kernel
  obtain ⟨hselected, hinteresting⟩ := List.forall_mem_append.mp (isValid_of_ofLayers h)
  rw [List.forall_mem_append]
  constructor
  · intro field hfield
    rcases FieldTable.mem_or_mem_of_mem_extend hfield with hnew | hold
    · exact hselected field hnew
    · exact of_decide_eq_true (List.all_eq_true.mp hcolumns field hold)
  · intro field hfield
    rcases FieldTable.mem_or_mem_of_mem_extend hfield with hnew | hold
    · exact hinteresting field hnew
    · exact of_decide_eq_true (List.all_eq_true.mp harrays field hold)

/-- The service answers with the fields of the catalog. -/
theorem respond_fields (settings : Settings) {request : Http.Request}
    (hmethod : request.method = "GET") (hpath : request.path = Http.Endpoint.fields.path) :
    Http.respond settings request = .ok (Http.fieldsJson settings.catalog) :=
  Http.respond_of_endpoint .fields settings hmethod hpath

/-- A file that proposes the fields of a catalog, all of them valid, gives that catalog again. -/
theorem exists_ofLayers_listing {settings : Settings}
    (hvalid : ∀ field ∈ settings.catalog.selected.fields ++ settings.catalog.interesting.fields,
      field.IsValid)
    (hselected : file.logsSection.selected = settings.catalog.listing.selected)
    (hinteresting : file.logsSection.interesting = settings.catalog.listing.interesting) :
    ∃ again, ofLayers file overrides = .ok again ∧ again.catalog = settings.catalog := by
  obtain ⟨hcolumns, harrays⟩ := List.forall_mem_append.mp hvalid
  obtain ⟨again, hagain, hsel, hint⟩ :
      ∃ again, ofLayers file overrides = .ok again ∧
        again.selected = settings.catalog.selected.fields ∧
        again.interesting = settings.catalog.interesting.fields := by
    rw [exists_ofLayers_iff, hselected, hinteresting]
    exact ⟨acceptFields_proposals hcolumns .selected, acceptFields_proposals harrays .interesting⟩
  refine ⟨again, hagain, ?_⟩
  rw [catalog, hsel, hint]
  simp only [catalog, Catalog.extend, FieldTable.extend_fields_extend]

/-- The field listing and the configuration file are inverse. Under settings that layering gives,
all fields are valid and all built-in names are there. The service lists the fields; each is read
back from its text, and the listing from a whole file. Every file that proposes the listed fields is
accepted, and gives the same catalog. -/
theorem listing_restores_catalog {settings : Settings}
    (h : ofLayers file overrides = .ok settings) :
    (∀ field ∈ settings.catalog.selected.fields ++ settings.catalog.interesting.fields,
      field.IsValid) ∧
    (∀ field ∈ Field.builtInSelected, settings.catalog.selected.contains field.name = true) ∧
    (∀ field ∈ Field.builtInInteresting,
      settings.catalog.interesting.contains field.name = true) ∧
    (∀ request : Http.Request, request.method = "GET" →
      request.path = Http.Endpoint.fields.path →
      Http.respond settings request = .ok (Http.fieldsJson settings.catalog)) ∧
    (∀ field : Field, Proposal.parse field.toJson.render = .ok field.proposal) ∧
    ConfigFile.parse (Json.object [("logs", Http.fieldsJson settings.catalog)]).render =
      .ok { logs := some settings.catalog.listing } ∧
    ∀ (listed : ConfigFile) (others : Overrides),
      listed.logsSection.selected = some (settings.catalog.selected.fields.map Field.proposal) →
      listed.logsSection.interesting =
        some (settings.catalog.interesting.fields.map Field.proposal) →
      ∃ again, ofLayers listed others = .ok again ∧ again.catalog = settings.catalog := by
  have hkept {fields more : List Field} {field : Field} (hfield : field ∈ fields) :
      ((FieldTable.empty.extend fields).extend more).contains field.name = true := by
    apply FieldTable.contains_extend
    rw [FieldTable.contains_extend_iff]
    exact .inr (List.mem_map_of_mem hfield)
  refine ⟨isValid_catalog h, fun field hfield => hkept hfield, fun field hfield => hkept hfield,
    fun request hmethod hpath => respond_fields settings hmethod hpath, ?_,
    ConfigFile.parse_listing settings.catalog,
    fun listed others => exists_ofLayers_listing (isValid_catalog h)⟩
  intro field
  rw [Proposal.parse, decodeText_render, Proposal.ofReading_field]

/-- A field that is proposed twice, and one in the place of a built-in field. -/
theorem listing_restores_replaced_fields :
    let zone : Field := { name := "zone", kind := .resources, dataType := "String" }
    let span : Field := { name := "span_id", kind := .attributes, dataType := "Int64" }
    let indexed : Field := { zone with skipIndex := some "minmax" }
    let file : ConfigFile :=
      { logs := some { interesting := some ([zone, span, indexed].map Field.proposal) } }
    ∃ settings, ofLayers file {} = .ok settings ∧
      settings.catalog.interesting.get? "zone" = some indexed ∧
      settings.catalog.interesting.get? "span_id" = some span ∧
      ConfigFile.parse (Json.object [("logs", Http.fieldsJson settings.catalog)]).render =
        .ok { logs := some settings.catalog.listing } ∧
      ∃ again, ofLayers { logs := some settings.catalog.listing } {} = .ok again ∧
        again.catalog = settings.catalog := by
  intro zone span indexed file
  have hvalid : [zone, span, indexed].all (decide <| Field.IsValid ·) = true := by decide +kernel
  have harrays : acceptFields .interesting ([zone, span, indexed].map Field.proposal) =
      .ok [zone, span, indexed] :=
    acceptFields_proposals
      (fun field hfield => of_decide_eq_true (List.all_eq_true.mp hvalid field hfield)) _
  obtain ⟨settings, h, hselected, hinteresting⟩ :
      ∃ settings, ofLayers file {} = .ok settings ∧ settings.selected = [] ∧
        settings.interesting = [zone, span, indexed] := exists_ofLayers_iff.mpr ⟨rfl, harrays⟩
  obtain ⟨-, -, -, -, -, hparse, hagain⟩ := listing_restores_catalog h
  refine ⟨settings, h, ?_, ?_, hparse, hagain _ {} rfl rfl⟩
  · rw [catalog, hselected, hinteresting]
    decide +kernel
  · rw [catalog, hselected, hinteresting]
    decide +kernel

end Settings

end LogFilter
