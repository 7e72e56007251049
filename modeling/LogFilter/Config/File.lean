import LogFilter.Field.Json

/-!
# Configuration files

A configuration file is a JSON object with the sections `server` and `logs`; every setting may be left out.
Two files are layered setting by setting: the upper one decides wherever it says something.
-/

namespace LogFilter

open Json

/-- Settings of the server. -/
structure ServerSection where
  host : Option String := none
  port : Option UInt16 := none
  deriving DecidableEq, Repr

/-- Settings of the log store. -/
structure LogsSection where
  table : Option String := none
  maxQueryLength : Option UInt64 := none
  selected : Option (List Proposal) := none
  interesting : Option (List Proposal) := none
  deriving DecidableEq, Repr

/-- What a configuration file says, and the names of its unknown sections. -/
structure ConfigFile where
  server : Option ServerSection := none
  logs : Option LogsSection := none
  unknown : List String := []
  deriving DecidableEq, Repr

/-- A setting that is not there yet, or is there and perhaps null. -/
abbrev Slot (α : Type) := Option (Option α)

namespace ServerSection

/-- The members that have been read so far. -/
structure Draft where
  host : Slot String := none
  port : Slot UInt16 := none

/-- How the member with this key is decoded. -/
def Draft.known (draft : Draft) (key : String) : Option (Reading → Except Fault Draft) :=
  match key with
  | "host" =>
    some (fill draft.host (Reading.nullable Reading.text) fun host => { draft with host := some host })
  | "port" =>
    some (fill draft.port (Reading.nullable (Reading.word Text.uint16?)) fun port =>
      { draft with port := some port })
  | _ => none

/-- Decodes the section; as an array it has exactly two items. -/
def ofReading : Reading → Except Fault ServerSection
  | .object members => do
    let draft ← members.decode Draft.known {}
    return ⟨draft.host.getD none, draft.port.getD none⟩
  | .array items => do
    let (host, items) ← items.require (Reading.nullable Reading.text)
    let (port, items) ← items.require (Reading.nullable (Reading.word Text.uint16?))
    items.finish
    return ⟨host, port⟩
  | value => .error value.unwanted

/-- The section, where it is silent completed from another one. -/
def withDefaults (upper lower : ServerSection) : ServerSection :=
  ⟨upper.host.or lower.host, upper.port.or lower.port⟩

end ServerSection

namespace LogsSection

/-- The members that have been read so far. -/
structure Draft where
  table : Slot String := none
  maxQueryLength : Slot UInt64 := none
  selected : Slot (List Proposal) := none
  interesting : Slot (List Proposal) := none

/-- Decodes a list of proposals. -/
def proposals : Reading → Except Fault (List Proposal) := Reading.list Proposal.ofReading

/-- How the member with this key is decoded. -/
def Draft.known (draft : Draft) (key : String) : Option (Reading → Except Fault Draft) :=
  match key with
  | "table" =>
    some (fill draft.table (Reading.nullable Reading.text) fun table =>
      { draft with table := some table })
  | "max_query_length" =>
    some (fill draft.maxQueryLength (Reading.nullable (Reading.word Text.uint64?)) fun limit =>
      { draft with maxQueryLength := some limit })
  | "selected" =>
    some (fill draft.selected (Reading.nullable proposals) fun fields =>
      { draft with selected := some fields })
  | "interesting" =>
    some (fill draft.interesting (Reading.nullable proposals) fun fields =>
      { draft with interesting := some fields })
  | _ => none

/-- Decodes the section; as an array it has exactly four items. -/
def ofReading : Reading → Except Fault LogsSection
  | .object members => do
    let draft ← members.decode Draft.known {}
    return ⟨draft.table.getD none, draft.maxQueryLength.getD none, draft.selected.getD none,
      draft.interesting.getD none⟩
  | .array items => do
    let (table, items) ← items.require (Reading.nullable Reading.text)
    let (maxQueryLength, items) ← items.require (Reading.nullable (Reading.word Text.uint64?))
    let (selected, items) ← items.require (Reading.nullable proposals)
    let (interesting, items) ← items.require (Reading.nullable proposals)
    items.finish
    return ⟨table, maxQueryLength, selected, interesting⟩
  | value => .error value.unwanted

/-- The section, where it is silent completed from another one. A field list is taken whole. -/
def withDefaults (upper lower : LogsSection) : LogsSection :=
  ⟨upper.table.or lower.table, upper.maxQueryLength.or lower.maxQueryLength,
    upper.selected.or lower.selected, upper.interesting.or lower.interesting⟩

end LogsSection

namespace ConfigFile

/-- The sections that have been read so far. -/
structure Draft where
  server : Slot ServerSection := none
  logs : Slot LogsSection := none
  unknown : List String := []

/-- The levels that the value of an unknown section may nest. -/
def unknownDepth : Nat := 126

/-- Notes the name of an unknown section; its value must be readable in full. -/
def Draft.note (draft : Draft) (key : String) (value : Reading) : Except Fault Draft :=
  if value.isReadable unknownDepth then
    .ok (if draft.unknown.contains key then draft
      else { draft with unknown := draft.unknown ++ [key] })
  else .error .malformed

/-- How the section with this name is decoded. -/
def Draft.known (draft : Draft) (key : String) : Option (Reading → Except Fault Draft) :=
  match key with
  | "server" =>
    some (fill draft.server (Reading.nullable ServerSection.ofReading) fun server =>
      { draft with server := some server })
  | "logs" =>
    some (fill draft.logs (Reading.nullable LogsSection.ofReading) fun logs =>
      { draft with logs := some logs })
  | _ => some (draft.note key)

/-- Decodes a configuration file, which must be an object. -/
def ofReading : Reading → Except Fault ConfigFile
  | .object members => do
    let draft ← members.decode Draft.known {}
    return ⟨draft.server.getD none, draft.logs.getD none, draft.unknown⟩
  | value => .error value.unwanted

/-- Reads a configuration file from its text. -/
def parse (text : String) : Except Fault ConfigFile := decodeText ofReading text

/-- The server settings, all left out if the section is. -/
def serverSection (file : ConfigFile) : ServerSection := file.server.getD {}

/-- The log store settings, all left out if the section is. -/
def logsSection (file : ConfigFile) : LogsSection := file.logs.getD {}

/-- The file, where it is silent completed from another one, setting by setting. -/
def withDefaults (upper lower : ConfigFile) : ConfigFile :=
  { server := some (upper.serverSection.withDefaults lower.serverSection)
    logs := some (upper.logsSection.withDefaults lower.logsSection) }

end ConfigFile

end LogFilter
