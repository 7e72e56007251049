import LogFilter.Text.Basic

/-!
# Media types

A media type is written `type/subtype`, perhaps with a suffix after the last plus sign of the subtype, and
with parameters after semicolons. Case does not matter.
-/

namespace LogFilter.Http

/-- A media type without its parameters, in lower case. -/
structure MediaType where
  type : String
  subtype : String
  suffix : Option String
  deriving DecidableEq, Repr

namespace MediaType

/-- A character of a name. -/
def isNameChar (c : Char) : Bool := c.isAlphanum || "!#$%&'*+-.^_`|~".toList.contains c

/-- A character inside quotes: printable ASCII. -/
def isQuotedChar (c : Char) : Bool := 31 < c.toNat && c.toNat < 127

/-- A place inside the parameters. -/
inductive Place where
  /-- Before a parameter. -/
  | start
  | name
  /-- After the equals sign. -/
  | equals
  | value
  /-- After the opening quote. -/
  | quote
  | quoted
  /-- After the closing quote. -/
  | unquoted
  deriving DecidableEq, Repr

/-- The place after the next character, if it may stand there. -/
def Place.next? (place : Place) (c : Char) : Option Place :=
  match place with
  | .start => if c = ' ' then some .start else if isNameChar c then some .name else none
  | .name => if isNameChar c then some .name else if c = '=' then some .equals else none
  | .equals => if c = '"' then some .quote else if isNameChar c then some .value else none
  | .value => if isNameChar c then some .value else if c = ';' then some .start else none
  | .quote => if isQuotedChar c then some .quoted else none
  | .quoted =>
    if c = '"' then some .unquoted else if isQuotedChar c then some .quoted else none
  | .unquoted => if c = ';' then some .start else if c = ' ' then some .unquoted else none

/-- The parameters may end here. -/
def Place.isEnd : Place → Bool
  | .start | .equals | .value | .unquoted => true
  | .name | .quote | .quoted => false

/-- The text after the first semicolon is a sequence of parameters. -/
def areParameters (cs : List Char) : Bool := (cs.foldlM Place.next? .start).any Place.isEnd

/-- Splits the subtype at its last plus sign, unless that is its first character. -/
def splitSuffix (cs : List Char) : List Char × Option (List Char) :=
  let reversed := cs.reverse
  match reversed.dropWhile (· != '+') with
  | _ :: [] | [] => (cs, none)
  | _ :: front => (front.reverse, some (reversed.takeWhile (· != '+')).reverse)

/-- A name in lower case. -/
def nameOf (cs : List Char) : String := String.ofList (cs.map Char.toLower)

/-- Reads a media type with well-formed parameters. -/
def parse? (text : String) : Option MediaType :=
  let (essence, params) := Text.cutAt ';' text.toList
  match Text.cutAt '/' essence with
  | (type, some subtype) =>
    if !type.isEmpty && type.all isNameChar && !subtype.isEmpty && subtype.all isNameChar &&
        areParameters (params.getD []) then
      let (subtype, suffix) := splitSuffix subtype
      some ⟨nameOf type, nameOf subtype, suffix.map nameOf⟩
    else none
  | _ => none

/-- The media type is one of JSON: `application/json`, or with the suffix `json`. -/
def isJson (media : MediaType) : Bool :=
  media.type == "application" && (media.subtype == "json" || media.suffix == some "json")

end MediaType

end LogFilter.Http
