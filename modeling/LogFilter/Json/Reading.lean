import LogFilter.Json.Number
import LogFilter.Text.Basic

/-!
# Reading JSON text

A reading is what a JSON text says as far as it is well-formed. Where the text breaks the rules the reading
has a mark and nothing after it, so that a consumer that walks it in order meets the contents and the
break in the order of the text.
-/

namespace LogFilter.Json

mutual

/-- A value as far as it is well-formed. -/
inductive Reading where
  /-- No value could be read here. -/
  | malformed
  | null
  | bool (value : Bool)
  | number (value : Number)
  /-- A string; it has no content if one half of a surrogate pair stands alone in it. -/
  | string (content : Option String)
  | array (items : Items)
  | object (members : Members)

/-- The items of an array. -/
inductive Items where
  /-- The closing bracket. -/
  | closed
  /-- The text breaks off or goes on in a way that no array does. -/
  | broken
  | item (value : Reading) (rest : Items)

/-- The members of an object. -/
inductive Members where
  /-- The closing brace. -/
  | closed
  /-- The text breaks off or goes on in a way that no object does. -/
  | broken
  | member (key : Option String) (value : Reading) (rest : Members)

end

/-- A blank between the parts of a JSON text. -/
def isSpacing (c : Char) : Bool := c == ' ' || c == '\n' || c == '\t' || c == '\r'

/-- The text after its leading blanks. -/
def skipSpacing (cs : List Char) : List Char := cs.dropWhile isSpacing

/-- The value of a hexadecimal digit. -/
def hexValue? (c : Char) : Option Nat :=
  if '0' ≤ c && c ≤ '9' then some (c.toNat - 0x30)
  else if 'a' ≤ c && c ≤ 'f' then some (c.toNat - 0x57)
  else if 'A' ≤ c && c ≤ 'F' then some (c.toNat - 0x37)
  else none

/-- The value of four hexadecimal digits. -/
def hexUnit? (a b c d : Char) : Option Nat := do
  return (((← hexValue? a) * 16 + (← hexValue? b)) * 16 + (← hexValue? c)) * 16 + (← hexValue? d)

/-- The first unit of a surrogate pair. -/
def isLeading (n : Nat) : Bool := 0xD800 ≤ n && n ≤ 0xDBFF

/-- The second unit of a surrogate pair. -/
def isTrailing (n : Nat) : Bool := 0xDC00 ≤ n && n ≤ 0xDFFF

/-- The code point of a surrogate pair. -/
def joinPair (leading trailing : Nat) : Nat :=
  0x10000 + (leading - 0xD800) * 0x400 + (trailing - 0xDC00)

/-- The character that a backslash and one letter stand for. -/
def shortEscape? : Char → Option Char
  | '"' => some '"'
  | '\\' => some '\\'
  | '/' => some '/'
  | 'b' => some (Char.ofNat 0x08)
  | 'f' => some (Char.ofNat 0x0C)
  | 'n' => some '\n'
  | 'r' => some '\r'
  | 't' => some '\t'
  | _ => none

/-- Reads a string from after its opening quote. The characters read so far come in reverse, or not at all
once one half of a surrogate pair stood alone. The outer `none` means that the string is malformed. -/
def readString (done : Option (List Char)) : List Char → Option (Option String × List Char)
  | [] => none
  | '"' :: cs => some (done.map fun chars => String.ofList chars.reverse, cs)
  | '\\' :: 'u' :: a :: b :: c :: d :: '\\' :: 'u' :: e :: f :: g :: h :: cs =>
    match hexUnit? a b c d, hexUnit? e f g h with
    | some m, some n =>
      if isLeading m && isTrailing n then
        readString (done.map (Char.ofNat (joinPair m n) :: ·)) cs
      else if isLeading m || isTrailing m then
        readString none ('\\' :: 'u' :: e :: f :: g :: h :: cs)
      else
        readString (done.map (Char.ofNat m :: ·)) ('\\' :: 'u' :: e :: f :: g :: h :: cs)
    | _, _ => none
  | '\\' :: 'u' :: a :: b :: c :: d :: cs =>
    match hexUnit? a b c d with
    | some n =>
      if isLeading n || isTrailing n then readString none cs
      else readString (done.map (Char.ofNat n :: ·)) cs
    | none => none
  | '\\' :: c :: cs =>
    match shortEscape? c with
    | some char => readString (done.map (char :: ·)) cs
    | none => none
  | c :: cs => if c.toNat < 0x20 then none else readString (done.map (c :: ·)) cs

/-- Reads a value that is neither a string nor has parts. -/
def readScalar (cs : List Char) : Reading × Option (List Char) :=
  match Text.after? "null".toList cs with
  | some rest => (.null, some rest)
  | none =>
    match Text.after? "true".toList cs with
    | some rest => (.bool true, some rest)
    | none =>
      match Text.after? "false".toList cs with
      | some rest => (.bool false, some rest)
      | none =>
        match Number.read? cs with
        | some (literal, rest) => (.number literal, some rest)
        | none => (.malformed, none)

mutual

/-- Reads a value; what follows it is given only if the value is complete. The depth of the recursion is
bounded by `fuel`. -/
def readValue : Nat → List Char → Reading × Option (List Char)
  | 0, _ => (.malformed, none)
  | fuel + 1, cs =>
    match skipSpacing cs with
    | '\x7b' :: inside =>
      match skipSpacing inside with
      | '\x7d' :: rest => (.object .closed, some rest)
      | inside =>
        let (members, rest) := readMembers fuel inside
        (.object members, rest)
    | '[' :: inside =>
      match skipSpacing inside with
      | ']' :: rest => (.array .closed, some rest)
      | inside =>
        let (items, rest) := readItems fuel inside
        (.array items, rest)
    | '"' :: inside =>
      match readString (some []) inside with
      | some (content, rest) => (.string content, some rest)
      | none => (.malformed, none)
    | cs => readScalar cs

/-- Reads the items of an array, of which at least one is still to come. -/
def readItems : Nat → List Char → Items × Option (List Char)
  | 0, _ => (.broken, none)
  | fuel + 1, cs =>
    match readValue fuel cs with
    | (value, none) => (.item value .broken, none)
    | (value, some rest) =>
      match skipSpacing rest with
      | ',' :: rest =>
        let (items, rest) := readItems fuel rest
        (.item value items, rest)
      | ']' :: rest => (.item value .closed, some rest)
      | _ => (.item value .broken, none)

/-- Reads the members of an object, of which at least one is still to come. -/
def readMembers : Nat → List Char → Members × Option (List Char)
  | 0, _ => (.broken, none)
  | fuel + 1, cs =>
    match skipSpacing cs with
    | '"' :: inside =>
      match readString (some []) inside with
      | none => (.broken, none)
      | some (key, rest) =>
        match skipSpacing rest with
        | ':' :: rest =>
          match readValue fuel rest with
          | (value, none) => (.member key value .broken, none)
          | (value, some rest) =>
            match skipSpacing rest with
            | ',' :: rest =>
              let (members, rest) := readMembers fuel rest
              (.member key value members, rest)
            | '\x7d' :: rest => (.member key value .closed, some rest)
            | _ => (.member key value .broken, none)
        | _ => (.member key .malformed .broken, none)
    | _ => (.broken, none)

end

/-- The reading of a text, and whether nothing but blanks follows the value. Every step of the recursion
takes a character, so the length of the text bounds its depth. -/
def Reading.ofText (text : String) : Reading × Bool :=
  let cs := text.toList
  match readValue (cs.length + 1) cs with
  | (value, some rest) => (value, (skipSpacing rest).isEmpty)
  | (value, none) => (value, false)

mutual

/-- The value is well-formed throughout. -/
def Reading.isComplete : Reading → Bool
  | .malformed => false
  | .array items => items.isComplete
  | .object members => members.isComplete
  | _ => true

/-- The items are well-formed throughout. -/
def Items.isComplete : Items → Bool
  | .closed => true
  | .broken => false
  | .item value rest => value.isComplete && rest.isComplete

/-- The members are well-formed throughout. -/
def Members.isComplete : Members → Bool
  | .closed => true
  | .broken => false
  | .member _ value rest => value.isComplete && rest.isComplete

end

mutual

/-- The value is well-formed, has only texts and finite numbers, and nests at most `depth` levels. -/
def Reading.isReadable (depth : Nat) : Reading → Bool
  | .malformed => false
  | .string content => content.isSome
  | .number n => n.isFinite
  | .array items => 0 < depth && items.areReadable (depth - 1)
  | .object members => 0 < depth && members.areReadable (depth - 1)
  | _ => true

/-- The items are readable at this depth. -/
def Items.areReadable (depth : Nat) : Items → Bool
  | .closed => true
  | .broken => false
  | .item value rest => value.isReadable depth && rest.areReadable depth

/-- The members are readable at this depth. -/
def Members.areReadable (depth : Nat) : Members → Bool
  | .closed => true
  | .broken => false
  | .member key value rest => key.isSome && value.isReadable depth && rest.areReadable depth

end

end LogFilter.Json
