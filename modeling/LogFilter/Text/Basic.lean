/-!
# Texts

Texts are lists of characters here. A character is blank when it has the Unicode property White_Space;
trimming, words and the recogniser of filter clauses use this class. A text is cut at every
occurrence of a character into one part more than there are occurrences. Numerals of a fixed width have
an optional plus sign and at least one ASCII digit; a value beyond the width is refused, so nothing wraps.
Bytes that are not UTF-8 are read with the replacement character in the place of each maximal part that
begins a character and does not end it, and of each byte that begins none.
-/

namespace LogFilter.Text

/-! ### Blanks and words -/

/-- A character with the Unicode property White_Space. -/
def isBlank (c : Char) : Bool :=
  let n := c.toNat
  (0x09 ≤ n && n ≤ 0x0D) || n == 0x20 || n == 0x85 || n == 0xA0 || n == 0x1680 ||
    (0x2000 ≤ n && n ≤ 0x200A) || n == 0x2028 || n == 0x2029 || n == 0x202F || n == 0x205F ||
    n == 0x3000

/-- A character that does not end a line of a query: the space, or any character that is not blank. -/
def isInline (c : Char) : Bool := c == ' ' || !isBlank c

/-- The text without the blanks at its two ends. -/
def trimChars (cs : List Char) : List Char :=
  ((cs.dropWhile isBlank).reverse.dropWhile isBlank).reverse

/-- The word that the text starts with (empty before a blank), and the words after it. -/
def leadingWord : List Char → List Char × List (List Char)
  | [] => ([], [])
  | c :: cs =>
    let (word, rest) := leadingWord cs
    if isBlank c then ([], if word.isEmpty then rest else word :: rest) else (c :: word, rest)

/-- The maximal runs of characters that are not blank, in order. -/
def wordChars (cs : List Char) : List (List Char) :=
  let (word, rest) := leadingWord cs
  if word.isEmpty then rest else word :: rest

/-- The words of a text: its maximal runs of characters that are not blank, in order. -/
def words (s : String) : List String := (wordChars s.toList).map String.ofList

/-- A blank in front changes no word. -/
theorem wordChars_cons_blank {c : Char} (h : isBlank c = true) (cs : List Char) :
    wordChars (c :: cs) = wordChars cs := by
  simp [wordChars, leadingWord, h]

/-! ### Parts -/

/-- The parts of a text between the occurrences of a character. -/
def splitAt (x : Char) : List Char → List (List Char)
  | [] => [[]]
  | c :: cs =>
    if c = x then [] :: splitAt x cs
    else
      match splitAt x cs with
      | [] => [[c]]
      | part :: parts => (c :: part) :: parts

/-- The text before the first occurrence of a character, and the text after it if there is one. -/
def cutAt (x : Char) (cs : List Char) : List Char × Option (List Char) :=
  (cs.takeWhile (· != x), (cs.dropWhile (· != x)).tail?)

/-- What follows a given beginning of a text. -/
def after? : List Char → List Char → Option (List Char)
  | [], cs => some cs
  | _ :: _, [] => none
  | x :: front, c :: cs => if x = c then after? front cs else none

/-- Exactly the texts with this beginning are split. -/
theorem after?_eq_some_iff {front cs rest : List Char} :
    after? front cs = some rest ↔ cs = front ++ rest := by
  induction front generalizing cs with
  | nil => simp [after?]
  | cons x front ih =>
    cases cs with
    | nil => simp [after?]
    | cons c cs =>
      by_cases h : x = c
      · simp [after?, h, ih]
      · simp [after?, h, eq_comm]

/-- There is at least one part. -/
theorem splitAt_ne_nil (x : Char) (cs : List Char) : splitAt x cs ≠ [] := by
  cases cs with
  | nil => simp [splitAt]
  | cons c cs =>
    unfold splitAt
    split
    · simp
    · split <;> simp

/-- The parts, joined by the character again, are the text. -/
theorem intercalate_splitAt (x : Char) (cs : List Char) : [x].intercalate (splitAt x cs) = cs := by
  induction cs with
  | nil => rfl
  | cons c cs ih =>
    obtain ⟨part, parts, hs⟩ := List.exists_cons_of_ne_nil (splitAt_ne_nil x cs)
    unfold splitAt
    rw [hs] at ih ⊢
    split
    · next h => simpa [h, List.intercalate, List.intersperse] using ih
    · cases parts <;> simpa [List.intercalate, List.intersperse] using ih

/-! ### Replacing -/

/-- The text with the first occurrence of `old` replaced by `new`. -/
def replaceFirstChars (old new : List Char) : List Char → List Char
  | [] => if old.isEmpty then new else []
  | c :: cs =>
    if old.isPrefixOf (c :: cs) then new ++ (c :: cs).drop old.length
    else c :: replaceFirstChars old new cs

/-- The text with the first occurrence of `old` replaced by `new`. -/
def replaceFirst (text old new : String) : String :=
  String.ofList (replaceFirstChars old.toList new.toList text.toList)

/-- A text that starts with `old` is changed there. -/
theorem replaceFirstChars_append (old new rest : List Char) :
    replaceFirstChars old new (old ++ rest) = new ++ rest := by
  cases h : old ++ rest with
  | nil =>
    obtain ⟨rfl, rfl⟩ := List.append_eq_nil_iff.1 h
    simp [replaceFirstChars]
  | cons c cs => simp [replaceFirstChars, ← h]

/-! ### Numerals -/

/-- The value of a non-empty sequence of ASCII digits. -/
def digits? (cs : List Char) : Option Nat :=
  if cs.isEmpty || !cs.all Char.isDigit then none else some (Nat.ofDigitChars 10 cs 0)

/-- The value of a numeral, of any size. -/
def numeral? (s : String) : Option Nat :=
  match s.toList with
  | '+' :: cs => digits? cs
  | cs => digits? cs

/-- The value of a numeral that may also have a minus sign; a negative value is refused. -/
def signedNumeral? (s : String) : Option Nat :=
  match s.toList with
  | '-' :: cs => (digits? cs).filter (· == 0)
  | _ => numeral? s

/-- The word of 16 bits with this value. -/
def uint16? (n : Nat) : Option UInt16 :=
  if h : n < UInt16.size then some (UInt16.ofNatLT n h) else none

/-- The word of 32 bits with this value. -/
def uint32? (n : Nat) : Option UInt32 :=
  if h : n < UInt32.size then some (UInt32.ofNatLT n h) else none

/-- The word of 64 bits with this value. -/
def uint64? (n : Nat) : Option UInt64 :=
  if h : n < UInt64.size then some (UInt64.ofNatLT n h) else none

/-- Reads a word of 32 bits. -/
def readUInt32? (s : String) : Option UInt32 := (numeral? s).bind uint32?

/-- Reads a word of 64 bits. -/
def readUInt64? (s : String) : Option UInt64 := (numeral? s).bind uint64?

/-- The decimal digits of a number, without leading zeros. -/
def decimal (n : Nat) : String := String.ofList (Nat.toDigits 10 n)

/-! ### Bytes -/

/-- The UTF-8 bytes of a text. -/
def utf8 (cs : List Char) : List UInt8 := cs.flatMap String.utf8EncodeChar

/-- A character of which some bytes are read: the bits so far, the number of bytes still owed, and the
least and greatest byte that may come next. -/
structure OpenChar where
  bits : Nat
  owed : Nat
  least : Nat
  greatest : Nat
  deriving DecidableEq, Repr

/-- The character of a byte that stands alone or begins nothing, or what the byte begins. -/
def beginChar (b : Nat) : Char ⊕ OpenChar :=
  if b < 0x80 then .inl (Char.ofNat b)
  else if b < 0xC2 then .inl (Char.ofNat 0xFFFD)
  else if b < 0xE0 then .inr ⟨b % 0x20, 1, 0x80, 0xBF⟩
  else if b = 0xE0 then .inr ⟨0, 2, 0xA0, 0xBF⟩
  else if b = 0xED then .inr ⟨0xD, 2, 0x80, 0x9F⟩
  else if b < 0xF0 then .inr ⟨b % 0x10, 2, 0x80, 0xBF⟩
  else if b = 0xF0 then .inr ⟨0, 3, 0x90, 0xBF⟩
  else if b < 0xF4 then .inr ⟨b % 0x08, 3, 0x80, 0xBF⟩
  else if b = 0xF4 then .inr ⟨4, 3, 0x80, 0x8F⟩
  else .inl (Char.ofNat 0xFFFD)

/-- Reads bytes as text, after a character of which some bytes are read. -/
def decodeFrom (state : Option OpenChar) : List UInt8 → List Char
  | [] => if state.isSome then [Char.ofNat 0xFFFD] else []
  | byte :: bytes =>
    let b := byte.toNat
    let begin (_ : Unit) :=
      match beginChar b with
      | .inl c => c :: decodeFrom none bytes
      | .inr openChar => decodeFrom (some openChar) bytes
    match state with
    | none => begin ()
    | some openChar =>
      if openChar.least ≤ b && b ≤ openChar.greatest then
        let bits := openChar.bits * 0x40 + b % 0x40
        if openChar.owed ≤ 1 then Char.ofNat bits :: decodeFrom none bytes
        else decodeFrom (some ⟨bits, openChar.owed - 1, 0x80, 0xBF⟩) bytes
      else Char.ofNat 0xFFFD :: begin ()

/-- Reads bytes as text. -/
def decodeUtf8 (bytes : List UInt8) : String := String.ofList (decodeFrom none bytes)

end LogFilter.Text
