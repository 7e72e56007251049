import LogFilter.Text.Basic

/-!
# Internet addresses

The texts that denote an address of version 4 (four decimal octets) or of version 6 (eight groups of
hexadecimal digits, of which the last two may be written as an address of version 4, and a run of zero
groups as two colons). Neither brackets nor ports belong to an address.
-/

namespace LogFilter.Net

/-- Splits off a decimal octet: at most three digits, without leading zeros. -/
def octet? (cs : List Char) : Option (List Char) :=
  let digits := cs.takeWhile Char.isDigit
  if digits.length ≤ 3 && !(digits.head? = some '0' && 1 < digits.length) then
    (Text.digits? digits).bind fun n => if n < 256 then some (cs.dropWhile Char.isDigit) else none
  else none

/-- Splits off a character. -/
def char? (x : Char) : List Char → Option (List Char)
  | c :: cs => if c = x then some cs else none
  | [] => none

/-- Splits off an address of version 4. -/
def version4? (cs : List Char) : Option (List Char) := do
  let cs ← octet? cs
  let cs ← octet? (← char? '.' cs)
  let cs ← octet? (← char? '.' cs)
  octet? (← char? '.' cs)

/-- A hexadecimal digit. -/
def isHexDigit (c : Char) : Bool := c.isDigit || ('a' ≤ c && c ≤ 'f') || ('A' ≤ c && c ≤ 'F')

/-- Splits off a group of one to four hexadecimal digits. -/
def group? (cs : List Char) : Option (List Char) :=
  let digits := cs.takeWhile isHexDigit
  if digits.isEmpty || 4 < digits.length then none else some (cs.dropWhile isHexDigit)

/-- Splits off groups with colons between them, as many as there are up to a limit. An address of version 4
counts as two groups and is the last. Gives the number of groups, whether it ended so, and the rest. -/
def groups (first : Bool) : Nat → List Char → Nat × Bool × List Char
  | 0, cs => (0, false, cs)
  | limit + 1, cs =>
    match if first then some cs else char? ':' cs with
    | none => (0, false, cs)
    | some inside =>
      match if 0 < limit then version4? inside else none with
      | some rest => (2, true, rest)
      | none =>
        match group? inside with
        | none => (0, false, cs)
        | some rest =>
          let (count, ended, rest) := groups false limit rest
          (count + 1, ended, rest)

/-- The text is an address of version 6. -/
def isVersion6 (cs : List Char) : Bool :=
  match groups true 8 cs with
  | (8, _, rest) => rest.isEmpty
  | (_, true, _) => false
  | (count, false, ':' :: ':' :: tail) => (groups true (7 - count) tail).2.2.isEmpty
  | _ => false

/-- The text is an address. -/
def isAddress (text : String) : Bool :=
  version4? text.toList = some [] || isVersion6 text.toList

end LogFilter.Net
