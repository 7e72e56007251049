import LogFilter.Field
import LogFilter.Json
import LogFilter.Json.Decode

/-!
# Fields in JSON

Fields and proposals as JSON records with the members `name`, `type`, `dataType` and `indexType`. A
proposal may leave out any of them; a field must have the first three.
-/

namespace LogFilter

open Json

/-- The members of a record that have been read so far. -/
structure FieldDraft (κ : Type) where
  name : Option String := none
  kind : Option κ := none
  dataType : Option String := none
  skipIndex : Option (Option String) := none

namespace FieldDraft

/-- How the member with this key is decoded, given how a kind is. -/
def known {κ : Type} (kind : Reading → Except Fault κ) (draft : FieldDraft κ) (key : String) :
    Option (Reading → Except Fault (FieldDraft κ)) :=
  match key with
  | "name" => some (fill draft.name Reading.text fun name => { draft with name := some name })
  | "type" => some (fill draft.kind kind fun kind => { draft with kind := some kind })
  | "dataType" =>
    some (fill draft.dataType Reading.text fun dataType => { draft with dataType := some dataType })
  | "indexType" =>
    some (fill draft.skipIndex (Reading.nullable Reading.text) fun index =>
      { draft with skipIndex := some index })
  | _ => none

end FieldDraft

namespace Proposal

/-- Decodes a proposal; what is left out is empty. -/
def ofReading : Reading → Except Fault Proposal
  | .object members => do
    let draft ← members.decode (FieldDraft.known Reading.text) {}
    return ⟨draft.name.getD "", draft.kind.getD "", draft.dataType.getD "", draft.skipIndex.getD none⟩
  | .array items => do
    let (name, items) ← items.next Reading.text
    let (kind, items) ← items.next Reading.text
    let (dataType, items) ← items.next Reading.text
    let (skipIndex, items) ← items.next (Reading.nullable Reading.text)
    items.finish
    return ⟨name.getD "", kind.getD "", dataType.getD "", skipIndex.getD none⟩
  | value => .error value.unwanted

/-- Reads a proposal from JSON text. -/
def parse (text : String) : Except Fault Proposal := decodeText ofReading text

end Proposal

namespace Field

/-- The kind of this name. -/
def kindOfName (name : String) : Except Fault FieldKind := present (FieldKind.ofName? name)

/-- Decodes a kind: its name, or an object whose only member has that name and is null. -/
def kindOfReading : Reading → Except Fault FieldKind
  | .string (some name) => kindOfName name
  | .object (.member (some name) .null .closed) => kindOfName name
  | value => .error value.unwanted

/-- Decodes a field; only the skip index may be left out. -/
def ofReading : Reading → Except Fault Field
  | .object members => do
    let draft ← members.decode (FieldDraft.known kindOfReading) {}
    return ⟨← present draft.name, ← present draft.kind, ← present draft.dataType,
      draft.skipIndex.getD none⟩
  | .array items => do
    let (name, items) ← items.require Reading.text
    let (kind, items) ← items.require kindOfReading
    let (dataType, items) ← items.require Reading.text
    let (skipIndex, items) ← items.next (Reading.nullable Reading.text)
    items.finish
    return ⟨name, kind, dataType, skipIndex.getD none⟩
  | value => .error value.unwanted

/-- Reads a field from JSON text. -/
def parse (text : String) : Except Fault Field := decodeText ofReading text

/-- The field as a record; a skip index that is not there is left out. -/
def toJson (field : Field) : Json :=
  .object <|
    [("name", .string field.name), ("type", .string field.kind.name),
      ("dataType", .string field.dataType)] ++
    match field.skipIndex with
    | some index => [("indexType", .string index)]
    | none => []

end Field

end LogFilter
