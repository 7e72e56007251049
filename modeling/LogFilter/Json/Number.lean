import LogFilter.Text.Basic

/-!
# JSON numbers

Number literals of JSON text. A literal without fraction and exponent is an integer; any other literal
stands for a double, and is out of range if that double is infinite.
-/

namespace LogFilter.Json

/-- A number literal: sign, whole digits, digits of the fraction, and the exponent. -/
structure Number where
  negative : Bool
  whole : List Char
  fraction : List Char
  exponent : Option Int
  deriving DecidableEq, Repr

namespace Number

/-- Splits off the exponent of a literal, if there is one; a sign or digits may be missing. -/
def readExponent (cs : List Char) : Option (Option Int × List Char) :=
  match cs with
  | 'e' :: rest | 'E' :: rest =>
    let (sign, rest) := match rest with
      | '+' :: rest => ((1 : Int), rest)
      | '-' :: rest => (-1, rest)
      | _ => (1, rest)
    match Text.digits? (rest.takeWhile Char.isDigit) with
    | some n => some (some (sign * n), rest.dropWhile Char.isDigit)
    | none => none
  | _ => some (none, cs)

/-- Splits off the fraction of a literal, if there is one; a point needs a digit after it. -/
def readFraction (cs : List Char) : Option (List Char × List Char) :=
  match cs with
  | '.' :: rest =>
    let digits := rest.takeWhile Char.isDigit
    if digits.isEmpty then none else some (digits, rest.dropWhile Char.isDigit)
  | _ => some ([], cs)

/-- Splits off the whole digits of a literal: a single zero, or digits that do not start with zero. -/
def readWhole (cs : List Char) : Option (List Char × List Char) :=
  match cs.takeWhile Char.isDigit with
  | [] => none
  | '0' :: _ :: _ => none
  | digits => some (digits, cs.dropWhile Char.isDigit)

/-- Splits off a number literal. -/
def read? (cs : List Char) : Option (Number × List Char) :=
  let (negative, cs) := match cs with
    | '-' :: rest => (true, rest)
    | _ => (false, cs)
  match readWhole cs with
  | none => none
  | some (whole, cs) =>
    match readFraction cs with
    | none => none
    | some (fraction, cs) =>
      match readExponent cs with
      | none => none
      | some (exponent, cs) => some (⟨negative, whole, fraction, exponent⟩, cs)

/-- The value of an integer literal without sign. -/
def natural? (n : Number) : Option Nat :=
  if n.negative || !n.fraction.isEmpty || n.exponent.isSome then none
  else some (Nat.ofDigitChars 10 n.whole 0)

/-- Appends digits to a significand as long as it fits a word of 64 bits, and counts them. -/
def appendDigits (significand count : Nat) : List Char → Nat × Nat
  | [] => (significand, count)
  | c :: cs =>
    let next := significand * 10 + (c.toNat - '0'.toNat)
    if next < 2 ^ 64 then appendDigits next (count + 1) cs else (significand, count)

/-- The number rounded to 53 significant bits, a half going to the even neighbour. -/
def roundToDouble (n : Nat) : Nat :=
  if n < Nat.pow 2 53 then n
  else
    let shift := n.log2 - 52
    let quotient := n / Nat.pow 2 shift
    let remainder := n % Nat.pow 2 shift
    let half := Nat.pow 2 (shift - 1)
    let up := half < remainder || (remainder = half && quotient % 2 = 1)
    (if up then quotient + 1 else quotient) * Nat.pow 2 shift

/-- The literal stands for a finite double: the double nearest to its leading digits, times the double
nearest to the power of ten that remains, does not round to infinity. -/
def isFinite (n : Number) : Bool :=
  let (leading, used) := appendDigits 0 0 n.whole
  let (significand, more) := appendDigits leading 0 n.fraction
  let exponent : Int := (n.whole.length - used : Nat) - (more : Int) + n.exponent.getD 0
  significand = 0 || exponent < 0 ||
    (exponent ≤ 308 &&
      roundToDouble significand * roundToDouble (Nat.pow 10 exponent.toNat) <
        Nat.pow 2 1024 - Nat.pow 2 970)

end Number

end LogFilter.Json
