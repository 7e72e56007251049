import LogFilter.Config.File
import LogFilter.Proofs.Json.RoundTrip
import LogFilter.Proofs.Text.Numeral

/-!
# Configuration files read back

A configuration file as JSON text: the members `server` and `logs`, with the members `host` and `port`
of the one and `table`, `max_query_length`, `selected` and `interesting` of the other. What a file does
not say is left out. Every file without unknown sections is read back from its text.
-/

namespace LogFilter

open Json

/-! ### Records -/

namespace Json

/-- A member of a record, left out if there is no value. -/
def setting (key : String) (value : Option Json) : List (String × Json) :=
  (value.map (key, ·)).toList

/-- A natural number is read from its literal. -/
theorem Number.natural?_ofNat (n : Nat) : (ofNat n).natural? = some n := by
  have hvalue : Nat.ofDigitChars 10 (Nat.toDigits 10 n) 0 = n :=
    Nat.ofDigitChars_toDigits (by decide) (by decide)
  simp [natural?, ofNat, hvalue]

/-- A word is decoded from the number that it stands for. -/
theorem Reading.word_number {α : Type} {convert? : Nat → Option α} {n : Nat} {a : α}
    (h : convert? n = some a) : word convert? (Json.number n).reading = .ok a := by
  simp only [reading, word, Number.natural?_ofNat, Option.bind_some, h]

private theorem nullable_reading {α : Type} {decode : Reading → Except Fault α} {document : Json}
    {a : α} (h : decode document.reading = .ok a) (hne : document.reading ≠ .null) :
    Reading.nullable decode document.reading = .ok (some a) := by
  unfold Reading.nullable
  split
  · next hnull => exact absurd hnull hne
  · rw [h]
    rfl

/-- A setting that is left out changes nothing, and one that is there is put into its free place. -/
theorem decode_setting {σ α : Type} {known : σ → String → Option (Reading → Except Fault σ)}
    {state : σ} (next : σ) {key : String} {decode : Reading → Except Fault α} {put : Option α → σ}
    {toJson : α → Json} {value : Option α}
    (hknown : known state key = some (fill none (Reading.nullable decode) put))
    (hdecode : ∀ a, decode (toJson a).reading = .ok a) (hvalue : ∀ a, (toJson a).reading ≠ .null)
    (hnext : next = value.elim state fun a => put (some a)) (members : List (String × Json)) :
    (memberReadings (setting key (value.map toJson) ++ members)).decode known state =
      (memberReadings members).decode known next := by
  subst hnext
  cases value with
  | none => rfl
  | some a =>
    simp only [setting, Option.map_some, Option.toList_some, List.cons_append, List.nil_append,
      memberReadings, Members.decode, hknown, fill, nullable_reading (hdecode a) (hvalue a)]
    rfl

end Json

private theorem getD_map_some {α : Type} (value : Option α) :
    (value.map some).getD none = value := by
  cases value <;> rfl

/-! ### Sections -/

/-- The proposal in JSON. -/
def Proposal.toJson (p : Proposal) : Json := .object
  [("name", .string p.name), ("type", .string p.kind), ("dataType", .string p.dataType),
    ("indexType", Json.ofOption p.skipIndex)]

/-- A proposal is read back. -/
theorem Proposal.ofReading_toJson (p : Proposal) : ofReading p.toJson.reading = .ok p := by
  obtain ⟨name, kind, dataType, skipIndex⟩ := p
  cases skipIndex <;> rfl

/-- Every proposal can be written and read back. -/
theorem Proposal.parse_toJson (p : Proposal) : parse p.toJson.render = .ok p := by
  rw [parse, decodeText_render, ofReading_toJson]

namespace ServerSection

/-- The section in JSON. -/
def toJson (server : ServerSection) : Json := .object <|
  setting "host" (server.host.map .string) ++
    (setting "port" (server.port.map fun port => .number port.toNat) ++ [])

/-- The server settings are read back. -/
theorem ofReading_toJson (server : ServerSection) :
    ofReading server.toJson.reading = .ok server := by
  obtain ⟨host, port⟩ := server
  have hport (port : UInt16) :
      Reading.word Text.uint16? (Json.number port.toNat).reading = .ok port :=
    Reading.word_number (Text.uint16?_eq_some_iff.mpr rfl)
  simp only [toJson, reading, ofReading]
  rw [decode_setting ⟨host.map some, none⟩ rfl (fun _ => rfl) (by rintro _ ⟨⟩)
      (by cases host <;> rfl),
    decode_setting ⟨host.map some, port.map some⟩ rfl hport (by rintro _ ⟨⟩)
      (by cases port <;> rfl)]
  simp only [memberReadings, Members.decode, bind, Except.bind, pure, Except.pure, getD_map_some]

end ServerSection

namespace LogsSection

/-- The section in JSON. -/
def toJson (logs : LogsSection) : Json := .object <|
  setting "table" (logs.table.map .string) ++
    (setting "max_query_length" (logs.maxQueryLength.map fun limit => .number limit.toNat) ++
      (setting "selected" (logs.selected.map fun fields => .array (fields.map Proposal.toJson)) ++
        (setting "interesting"
          (logs.interesting.map fun fields => .array (fields.map Proposal.toJson)) ++ [])))

/-- The settings of the log store are read back. -/
theorem ofReading_toJson (logs : LogsSection) : ofReading logs.toJson.reading = .ok logs := by
  obtain ⟨table, limit, selected, interesting⟩ := logs
  have hlimit (limit : UInt64) :
      Reading.word Text.uint64? (Json.number limit.toNat).reading = .ok limit :=
    Reading.word_number (Text.uint64?_eq_some_iff.mpr rfl)
  have hfields (fields : List Proposal) :
      proposals (Json.array (fields.map Proposal.toJson)).reading = .ok fields := by
    simp only [proposals, reading, Reading.list, all_itemReadings Proposal.ofReading_toJson,
      List.map_id']
  simp only [toJson, reading, ofReading]
  rw [decode_setting ⟨table.map some, none, none, none⟩ rfl (fun _ => rfl) (by rintro _ ⟨⟩)
      (by cases table <;> rfl),
    decode_setting ⟨table.map some, limit.map some, none, none⟩ rfl hlimit (by rintro _ ⟨⟩)
      (by cases limit <;> rfl),
    decode_setting ⟨table.map some, limit.map some, selected.map some, none⟩ rfl hfields
      (by rintro _ ⟨⟩) (by cases selected <;> rfl),
    decode_setting ⟨table.map some, limit.map some, selected.map some, interesting.map some⟩ rfl
      hfields (by rintro _ ⟨⟩) (by cases interesting <;> rfl)]
  simp only [memberReadings, Members.decode, bind, Except.bind, pure, Except.pure, getD_map_some]

end LogsSection

/-! ### Files -/

namespace ConfigFile

/-- The file in JSON. -/
def toJson (file : ConfigFile) : Json := .object <|
  setting "server" (file.server.map ServerSection.toJson) ++
    (setting "logs" (file.logs.map LogsSection.toJson) ++ [])

/-- Every file without unknown sections is read back from its text. -/
theorem parse_toJson {file : ConfigFile} (h : file.unknown = []) :
    parse file.toJson.render = .ok file := by
  obtain ⟨server, logs, unknown⟩ := file
  obtain rfl : unknown = [] := h
  rw [parse, decodeText_render]
  simp only [toJson, reading, ofReading]
  rw [decode_setting ⟨server.map some, none, []⟩ rfl ServerSection.ofReading_toJson (by rintro _ ⟨⟩)
      (by cases server <;> rfl),
    decode_setting ⟨server.map some, logs.map some, []⟩ rfl LogsSection.ofReading_toJson
      (by rintro _ ⟨⟩) (by cases logs <;> rfl)]
  simp only [memberReadings, Members.decode, bind, Except.bind, pure, Except.pure, getD_map_some]

end ConfigFile

end LogFilter
