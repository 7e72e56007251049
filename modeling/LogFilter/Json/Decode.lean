import LogFilter.Json.Reading

/-!
# Decoding JSON

Records are decoded from readings. The first fault in the order of the text is reported: a break of the
rules of JSON, or a value of the wrong shape. A record is written as an object, whose unknown members are
passed over, or as an array of its fields in order.
-/

namespace LogFilter.Json

/-- Why a text does not give the wanted value. -/
inductive Fault where
  /-- The text is not JSON. -/
  | malformed
  /-- The text is JSON of another shape, as far as it was read. -/
  | mismatch
  deriving DecidableEq, Repr

/-- The fault of a value that is not of the wanted kind. Text and numbers are read in full before
their kind is looked at, so a fault inside them comes first. -/
def Reading.unwanted : Reading → Fault
  | .malformed | .string none => .malformed
  | .number n => if n.isFinite then .mismatch else .malformed
  | _ => .mismatch

namespace Reading

/-- Decodes a text. -/
def text : Reading → Except Fault String
  | .string (some content) => .ok content
  | value => .error value.unwanted

/-- Decodes a natural number that `convert?` accepts, written as an integer. -/
def word {α : Type} (convert? : Nat → Option α) : Reading → Except Fault α
  | .number n =>
    match n.natural?.bind convert? with
    | some value => .ok value
    | none => .error (Reading.number n).unwanted
  | value => .error value.unwanted

/-- Decodes a value that may be null. -/
def nullable {α : Type} (decode : Reading → Except Fault α) : Reading → Except Fault (Option α)
  | .null => .ok none
  | value => (decode value).map some

end Reading

namespace Items

/-- Decodes the next item, if there is one. -/
def next {α : Type} (decode : Reading → Except Fault α) : Items → Except Fault (Option α × Items)
  | .closed => .ok (none, .closed)
  | .broken => .error .malformed
  | .item value rest => (decode value).map fun a => (some a, rest)

/-- Decodes the next item, which must be there. -/
def require {α : Type} (decode : Reading → Except Fault α) (items : Items) :
    Except Fault (α × Items) :=
  match items.next decode with
  | .error fault => .error fault
  | .ok (some a, rest) => .ok (a, rest)
  | .ok (none, _) => .error .mismatch

/-- Accepts only the end of the array. -/
def finish : Items → Except Fault Unit
  | .closed => .ok ()
  | _ => .error .malformed

/-- Decodes all items. -/
def all {α : Type} (decode : Reading → Except Fault α) : Items → Except Fault (List α)
  | .closed => .ok []
  | .broken => .error .malformed
  | .item value rest =>
    match decode value with
    | .error fault => .error fault
    | .ok a => (rest.all decode).map (a :: ·)

end Items

/-- Decodes a list. -/
def Reading.list {α : Type} (decode : Reading → Except Fault α) : Reading → Except Fault (List α)
  | .array items => items.all decode
  | value => .error value.unwanted

/-- Decodes the members of an object one after the other into a state. For each key `known` says how its
value is decoded; the values of unknown keys only have to be well-formed. -/
def Members.decode {σ : Type} (known : σ → String → Option (Reading → Except Fault σ)) (state : σ) :
    Members → Except Fault σ
  | .closed => .ok state
  | .broken => .error .malformed
  | .member none _ _ => .error .malformed
  | .member (some key) value rest =>
    match known state key with
    | some decode =>
      match decode value with
      | .error fault => .error fault
      | .ok next => rest.decode known next
    | none => if value.isComplete then rest.decode known state else .error .malformed

/-- Decodes a field of a record into its place. A field that is already there is not read again: a
second one is a fault. -/
def fill {α σ : Type} (place : Option α) (decode : Reading → Except Fault α) (put : α → σ)
    (value : Reading) : Except Fault σ :=
  match place with
  | some _ => .error .mismatch
  | none => (decode value).map put

/-- A field that a record must have. -/
def present {α : Type} : Option α → Except Fault α
  | some a => .ok a
  | none => .error .mismatch

/-- Decodes a whole text; only blanks may follow the value. -/
def decodeText {α : Type} (decode : Reading → Except Fault α) (text : String) : Except Fault α :=
  let (reading, isWhole) := Reading.ofText text
  match decode reading with
  | .error fault => .error fault
  | .ok a => if isWhole then .ok a else .error .malformed

end LogFilter.Json
