import LogFilter.Error
import LogFilter.Text.Basic
import LogFilter.Text.Lowercase

/-!
# Fields

A field of a log record is stored either as a physical column or in a pair of parallel arrays of keys
and values. The array pair, or bucket, is named for the kind of the field and its data type. A client
submits a field as a proposal. Its kind, its skip index and the presence of its attributes are checked
before it becomes a field of a catalog; its name is not checked, so a field in the catalog may have a name
that no query finds.
-/

namespace LogFilter

/-- The storage group that a field belongs to. -/
inductive FieldKind where
  | static
  | attributes
  | resources
  deriving DecidableEq, Repr

namespace FieldKind

/-- The name of the kind. -/
def name : FieldKind → String
  | static => "static"
  | attributes => "attributes"
  | resources => "resources"

/-- The kind with this name, in exactly this spelling. -/
def ofName? : String → Option FieldKind
  | "static" => some static
  | "attributes" => some attributes
  | "resources" => some resources
  | _ => none

/-- The name of a kind is read back as the kind. -/
theorem ofName?_name (kind : FieldKind) : ofName? kind.name = some kind := by
  cases kind <;> rfl

end FieldKind

/-- A field of the catalog. -/
structure Field where
  name : String
  kind : FieldKind
  dataType : String
  skipIndex : Option String := none
  deriving DecidableEq, Repr

namespace Field

/-- The common part of the names of the two arrays that hold the field. -/
def bucket (field : Field) : String := field.kind.name ++ "_" ++ Text.lowercase field.dataType

/-- The expression that reads a column out of the arrays of the field. -/
def lookup (field : Field) (column : String) : String :=
  field.bucket ++ "_value[indexOf(" ++ field.bucket ++ "_key, '" ++ column ++ "')]"

/-- The fields that every log table has as physical columns. -/
def builtInSelected : List Field :=
  [{ name := "timestamp", kind := .static, dataType := "UInt32" },
    { name := "id", kind := .static, dataType := "String" }]

/-- The fields that every log table offers for filtering besides. -/
def builtInInteresting : List Field :=
  [{ name := "trace_id", kind := .static, dataType := "String" },
    { name := "span_id", kind := .static, dataType := "String" },
    { name := "trace_flags", kind := .static, dataType := "UInt32" },
    { name := "severity_text", kind := .static, dataType := "LowCardinality(String)" },
    { name := "severity_number", kind := .static, dataType := "Int32" }]

end Field

/-! ### Skip indexes -/

namespace SkipIndex

/-- The index that a newly promoted field gets. -/
def default : String := "bloom_filter(0.01)"

/-- The granularity of the index that a newly promoted field gets. -/
def defaultGranularity : Nat := 64

/-- One or more ASCII digits. -/
def isNatural (cs : List Char) : Bool := !cs.isEmpty && cs.all Char.isDigit

/-- A probability: `1`, or a point and digits with or without a zero before the point. -/
def isProbability : List Char → Bool
  | ['1'] => true
  | '0' :: '.' :: digits => isNatural digits
  | '.' :: digits => isNatural digits
  | _ => false

/-- The given number of naturals, with commas between them. -/
def areNaturals (count : Nat) (cs : List Char) : Bool :=
  let parts := Text.splitAt ',' cs
  parts.length == count && parts.all isNatural

/-- What stands between the parentheses of `name(...)`, if the text has this form. -/
def arguments? (name : String) (cs : List Char) : Option (List Char) :=
  match Text.after? (name.toList ++ ['(']) cs with
  | some rest => if rest.getLast? = some ')' then some rest.dropLast else none
  | none => none

/-- The text defines a skip index that the store accepts. -/
def isSupported (text : String) : Bool :=
  let cs := text.toList
  text == "minmax" ||
    (arguments? "set" cs).any (fun arg => arg.length == 1 && isNatural arg) ||
    (arguments? "bloom_filter" cs).any isProbability ||
    (arguments? "tokenbf_v1" cs).any (areNaturals 3) ||
    (arguments? "ngrambf_v1" cs).any (areNaturals 4)

end SkipIndex

/-! ### Proposals -/

/-- A field as submitted, with nothing checked. -/
structure Proposal where
  name : String := ""
  kind : String := ""
  dataType : String := ""
  skipIndex : Option String := none
  deriving DecidableEq, Repr

/-- The kind with this name. -/
def FieldKind.parse (name : String) : Except QueryError FieldKind :=
  match FieldKind.ofName? name with
  | some kind => .ok kind
  | none => .error (.unsupportedFieldKind name)

namespace Proposal

/-- Checks a proposal; the first violated rule is reported. -/
def check (p : Proposal) : Except QueryError Unit :=
  if p.name = "" then .error (.missingAttribute "name")
  else if p.kind = "" then .error (.missingAttribute "type")
  else if p.dataType = "" then .error (.missingAttribute "dataType")
  else
    match FieldKind.parse p.kind with
    | .error e => .error e
    | .ok _ =>
      match p.skipIndex with
      | none => .ok ()
      | some index =>
        if SkipIndex.isSupported index then .ok () else .error (.unsupportedSkipIndex index)

/-- The field that a proposal becomes once it is checked. -/
def accept (p : Proposal) : Except QueryError Field :=
  match p.check with
  | .error e => .error e
  | .ok () =>
    match FieldKind.parse p.kind with
    | .error e => .error e
    | .ok kind => .ok ⟨p.name, kind, p.dataType, p.skipIndex⟩

end Proposal

end LogFilter
