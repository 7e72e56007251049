import LogFilter.Json
import LogFilter.Json.Decode

/-!
# Reading what was written

The text of a document is read back as the document. Texts, numbers, arrays and objects are each
read up to their end and no further, so that the reader goes on with what follows. To decode the text
of a document is to decode the document itself.
-/

namespace LogFilter.Json

/-! ### Strings -/

private theorem hexValue?_hexDigit : ∀ n : Fin 16, hexValue? (hexDigit n) = some n.val := by decide

/-- Two zeros and two hexadecimal digits are read as the number that they write. -/
theorem hexUnit?_hexDigit {n : Nat} (h : n < 256) :
    hexUnit? '0' '0' (hexDigit (n / 16)) (hexDigit (n % 16)) = some n := by
  have hzero : hexValue? '0' = some 0 := by decide
  have hhigh : hexValue? (hexDigit (n / 16)) = some (n / 16) :=
    hexValue?_hexDigit ⟨n / 16, by omega⟩
  have hlow : hexValue? (hexDigit (n % 16)) = some (n % 16) :=
    hexValue?_hexDigit ⟨n % 16, by omega⟩
  simp only [hexUnit?, hzero, hhigh, hlow, Option.bind_eq_bind, Option.bind_some, Option.pure_def,
    Option.some.injEq]
  omega

/-- A second unit follows, as in a surrogate pair. -/
private def StartsUnit (cs : List Char) : Prop :=
  ∃ e f g h rest, cs = '\\' :: 'u' :: e :: f :: g :: h :: rest

private theorem readString_bad_unit {a b c d : Char} (hunit : hexUnit? a b c d = none)
    (done : Option (List Char)) (cs : List Char) :
    readString done ('\\' :: 'u' :: a :: b :: c :: d :: cs) = none := by
  by_cases hnext : StartsUnit cs
  · obtain ⟨e, f, g, h, rest, rfl⟩ := hnext
    rw [readString, hunit]
  · rw [readString, hunit]
    exact fun e f g h rest heq => hnext ⟨e, f, g, h, rest, heq⟩

/-- A unit outside the surrogates is read by itself, whatever follows. -/
theorem readString_unit {a b c d : Char} {n : Nat} (hunit : hexUnit? a b c d = some n)
    (hlow : n < 0xD800) (done : Option (List Char)) (cs : List Char) :
    readString done ('\\' :: 'u' :: a :: b :: c :: d :: cs) =
      readString (done.map (Char.ofNat n :: ·)) cs := by
  have hleading : isLeading n = false := by
    simp only [isLeading, Bool.and_eq_false_iff, decide_eq_false_iff_not]
    omega
  have htrailing : isTrailing n = false := by
    simp only [isTrailing, Bool.and_eq_false_iff, decide_eq_false_iff_not]
    omega
  by_cases hnext : StartsUnit cs
  · obtain ⟨e, f, g, h, rest, rfl⟩ := hnext
    rw [readString, hunit]
    cases hsecond : hexUnit? e f g h with
    | none => exact (readString_bad_unit hsecond _ rest).symm
    | some m => simp [hleading, htrailing]
  · rw [readString, hunit]
    · simp [hleading, htrailing]
    · exact fun e f g h rest heq => hnext ⟨e, f, g, h, rest, heq⟩

/-- A backslash and a letter other than `u` are read as the character that they stand for. -/
theorem readString_short {letter c : Char} (hletter : shortEscape? letter = some c)
    (done : Option (List Char)) (cs : List Char) :
    readString done ('\\' :: letter :: cs) = readString (done.map (c :: ·)) cs := by
  have hu : letter ≠ 'u' := by
    rintro rfl
    cases hletter
  rw [readString, hletter]
  · exact fun _ _ _ _ _ _ _ _ _ heq => absurd heq hu
  · exact fun _ _ _ _ _ heq => absurd heq hu

/-- A character that needs no escape is read as it is. -/
theorem readString_plain {c : Char} (hquote : c ≠ '"') (hslash : c ≠ '\\') (hc : 0x20 ≤ c.toNat)
    (done : Option (List Char)) (cs : List Char) :
    readString done (c :: cs) = readString (done.map (c :: ·)) cs := by
  rw [readString, if_neg (by omega)]
  · exact hquote
  · exact fun _ _ _ _ _ _ _ _ _ heq => absurd heq hslash
  · exact fun _ _ _ _ _ heq => absurd heq hslash
  · exact fun _ _ heq => absurd heq hslash

/-- A character is escaped by a letter or by its code point, or stands for itself. -/
theorem escape_cases (c : Char) :
    (∃ letter, shortEscape? letter = some c ∧ escape c = ['\\', letter]) ∨
    (c.toNat < 0x20 ∧ escape c =
      ['\\', 'u', '0', '0', hexDigit (c.toNat / 16), hexDigit (c.toNat % 16)]) ∨
    (c ≠ '"' ∧ c ≠ '\\' ∧ 0x20 ≤ c.toNat ∧ escape c = [c]) := by
  have hcode {n : Nat} (h : c.toNat = n) : Char.ofNat n = c := by rw [← h, Char.ofNat_toNat]
  fun_cases escape c with
  | case1 h => exact .inl ⟨'"', by rw [h]; rfl, rfl⟩
  | case2 _ h => exact .inl ⟨'\\', by rw [h]; rfl, rfl⟩
  | case3 _ _ h => exact .inl ⟨'n', by rw [h]; rfl, rfl⟩
  | case4 _ _ _ h => exact .inl ⟨'r', by rw [h]; rfl, rfl⟩
  | case5 _ _ _ _ h => exact .inl ⟨'t', by rw [h]; rfl, rfl⟩
  | case6 _ _ _ _ _ h => exact .inl ⟨'b', by rw [← hcode h]; rfl, rfl⟩
  | case7 _ _ _ _ _ _ h => exact .inl ⟨'f', by rw [← hcode h]; rfl, rfl⟩
  | case8 _ _ _ _ _ _ _ h => exact .inr (.inl ⟨h, rfl⟩)
  | case9 hquote hslash _ _ _ _ _ hcontrol =>
    exact .inr (.inr ⟨hquote, hslash, Nat.le_of_not_lt hcontrol, rfl⟩)

/-- An escaped character is read back. -/
theorem readString_escape (c : Char) (done : Option (List Char)) (cs : List Char) :
    readString done (escape c ++ cs) = readString (done.map (c :: ·)) cs := by
  rcases escape_cases c with ⟨letter, hletter, hc⟩ | ⟨hcontrol, hc⟩ | ⟨hquote, hslash, hplain, hc⟩
  · rw [hc]
    exact readString_short hletter done cs
  · have hunit := hexUnit?_hexDigit (by omega : c.toNat < 256)
    have hread := readString_unit hunit (by omega) done cs
    rw [Char.ofNat_toNat] at hread
    rw [hc]
    exact hread
  · rw [hc]
    exact readString_plain hquote hslash hplain done cs

/-- The characters of a text, escaped one by one, are read back up to the closing quote. -/
theorem readString_flatMap_escape (text done cs : List Char) :
    readString (some done) (text.flatMap escape ++ '"' :: cs) =
      some (some (String.ofList (done.reverse ++ text)), cs) := by
  induction text generalizing done with
  | nil =>
    rw [List.flatMap_nil, List.nil_append, readString, Option.map_some, List.append_nil]
  | cons c text ih =>
    rw [List.flatMap_cons, List.append_assoc, readString_escape, Option.map_some, ih]
    simp

/-- A quoted text is read back from after its opening quote. -/
theorem readString_quote (s : String) (cs : List Char) :
    readString (some []) (s.toList.flatMap escape ++ '"' :: cs) = some (some s, cs) := by
  rw [readString_flatMap_escape, List.reverse_nil, List.nil_append, String.ofList_toList]

/-! ### Numbers -/

/-- A number that ends before this text does not go on in it. -/
def EndsNumber (cs : List Char) : Prop :=
  ∀ c ∈ cs.head?, c.isDigit = false ∧ c ≠ '.' ∧ c ≠ 'e' ∧ c ≠ 'E'

private theorem endsNumber_nil : EndsNumber [] := nofun

private theorem endsNumber_cons {c : Char} (h : c ∈ [',', ']', '\x7d']) (cs : List Char) :
    EndsNumber (c :: cs) := by
  intro d hd
  rw [← Option.some.inj hd]
  simp only [List.mem_cons, List.not_mem_nil, or_false] at h
  rcases h with rfl | rfl | rfl <;> decide

private theorem ne_of_isDigit {c d : Char} (hc : c.isDigit = true) (hd : d.isDigit = false) :
    c ≠ d := by
  rintro rfl
  rw [hc] at hd
  cases hd

/-- A number is written with a digit first. -/
theorem exists_toDigits_eq_cons (n : Nat) :
    ∃ c cs, Nat.toDigits 10 n = c :: cs ∧ c.isDigit = true := by
  have hne : Nat.toDigits 10 n ≠ [] := Nat.toDigits_ne_nil
  obtain ⟨c, cs, hdigits⟩ := List.exists_cons_of_ne_nil hne
  have hmem : c ∈ Nat.toDigits 10 n := hdigits ▸ List.mem_cons_self
  exact ⟨c, cs, hdigits, Nat.isDigit_of_mem_toDigits (by decide) (by decide) hmem⟩

/-- Only the number zero is written with a leading zero. -/
theorem head?_toDigits_ne {n : Nat} (h : 0 < n) : (Nat.toDigits 10 n).head? ≠ some '0' := by
  induction n using Nat.strongRecOn with
  | ind n ih =>
    by_cases hlt : n < 10
    · have hdigit : ∀ d : Fin 10, 0 < d.val → d.val.digitChar ≠ '0' := by decide
      rw [Nat.toDigits_of_lt_base hlt, List.head?_singleton, ne_eq, Option.some.injEq]
      exact hdigit ⟨n, hlt⟩ h
    · have hrest := ih (n / 10) (by omega) (by omega)
      rwa [Nat.toDigits_of_base_le (by decide) (by omega), List.head?_append,
        Option.or_of_isSome (List.isSome_head?.mpr Nat.toDigits_ne_nil)]

namespace Number

variable {cs : List Char}

private theorem readWhole_toDigits (n : Nat) (h : EndsNumber cs) :
    readWhole (Nat.toDigits 10 n ++ cs) = some (Nat.toDigits 10 n, cs) := by
  have hdigits : ∀ c ∈ Nat.toDigits 10 n, c.isDigit = true :=
    fun c hc => Nat.isDigit_of_mem_toDigits (by decide) (by decide) hc
  have hend : cs.takeWhile Char.isDigit = [] ∧ cs.dropWhile Char.isDigit = cs := by
    cases cs with
    | nil => exact ⟨rfl, rfl⟩
    | cons c cs => simp [(h c rfl).1]
  have htake : (Nat.toDigits 10 n ++ cs).takeWhile Char.isDigit = Nat.toDigits 10 n := by
    rw [List.takeWhile_append_of_pos hdigits, hend.1, List.append_nil]
  have hdrop : (Nat.toDigits 10 n ++ cs).dropWhile Char.isDigit = cs := by
    rw [List.dropWhile_append_of_pos hdigits, hend.2]
  unfold readWhole
  rw [htake, hdrop]
  split
  · next hnil => exact absurd hnil Nat.toDigits_ne_nil
  · next c rest hzero =>
    by_cases hn : 0 < n
    · exact absurd (by rw [hzero]; rfl) (head?_toDigits_ne hn)
    · obtain rfl : n = 0 := by omega
      cases hzero
  · rfl

private theorem readFraction_eq (h : EndsNumber cs) : readFraction cs = some ([], cs) := by
  unfold readFraction
  split
  · exact absurd rfl (h '.' rfl).2.1
  · rfl

private theorem readExponent_eq (h : EndsNumber cs) : readExponent cs = some (none, cs) := by
  unfold readExponent
  split
  · exact absurd rfl (h 'e' rfl).2.2.1
  · exact absurd rfl (h 'E' rfl).2.2.2
  · rfl

/-- The literal of a natural number. -/
def ofNat (n : Nat) : Number := ⟨false, Nat.toDigits 10 n, [], none⟩

/-- A natural number is read back. -/
theorem read?_toDigits (n : Nat) (h : EndsNumber cs) :
    read? (Nat.toDigits 10 n ++ cs) = some (ofNat n, cs) := by
  have hsign : ∀ rest, Nat.toDigits 10 n ++ cs ≠ '-' :: rest := by
    intro rest heq
    obtain ⟨c, digits, hdigits, hdigit⟩ := exists_toDigits_eq_cons n
    rw [hdigits] at heq
    exact ne_of_isDigit hdigit (by decide : '-'.isDigit = false) (List.cons.inj heq).1
  unfold read?
  split
  next negative unsigned hunsigned =>
  split at hunsigned
  · next rest hminus => exact absurd hminus (hsign rest)
  · cases hunsigned
    simp only [readWhole_toDigits n h, readFraction_eq h, readExponent_eq h, ofNat]

end Number

/-! ### Documents -/

private theorem chars_number (n : Nat) : (Json.number n).chars = Nat.toDigits 10 n := rfl

private theorem chars_string (s : String) : (Json.string s).chars = quote s := rfl

private theorem chars_array_cons (item : Json) (items : List Json) :
    (Json.array (item :: items)).chars = '[' :: (item.chars ++ itemChars items) := rfl

private theorem itemChars_nil : itemChars [] = [']'] := rfl

private theorem itemChars_cons (item : Json) (items : List Json) :
    itemChars (item :: items) = ',' :: (item.chars ++ itemChars items) := rfl

private theorem chars_object_cons (key : String) (value : Json) (members : List (String × Json)) :
    (Json.object ((key, value) :: members)).chars =
      '\x7b' :: (quote key ++ ':' :: (value.chars ++ memberChars members)) := by
  show '\x7b' :: quote key ++ ':' :: value.chars ++ memberChars members = _
  simp

private theorem memberChars_nil : memberChars [] = ['\x7d'] := rfl

private theorem memberChars_cons (key : String) (value : Json) (members : List (String × Json)) :
    memberChars ((key, value) :: members) =
      ',' :: (quote key ++ ':' :: (value.chars ++ memberChars members)) := by
  show ',' :: quote key ++ ':' :: value.chars ++ memberChars members = _
  simp

mutual

/-- What the text of a document says. -/
def reading : Json → Reading
  | .null => .null
  | .bool value => .bool value
  | .number n => .number (Number.ofNat n)
  | .string s => .string (some s)
  | .array items => .array (itemReadings items)
  | .object members => .object (memberReadings members)

/-- What the text of the items of an array says. -/
def itemReadings : List Json → Items
  | [] => .closed
  | item :: items => .item (reading item) (itemReadings items)

/-- What the text of the members of an object says. -/
def memberReadings : List (String × Json) → Members
  | [] => .closed
  | (key, value) :: members => .member (some key) (reading value) (memberReadings members)

end

/-- Blanks are skipped only at the head of a text. -/
theorem skipSpacing_cons {c : Char} (h : isSpacing c = false) (cs : List Char) :
    skipSpacing (c :: cs) = c :: cs := by
  simp [skipSpacing, h]

private theorem quote_append (s : String) (cs : List Char) :
    quote s ++ cs = '"' :: (s.toList.flatMap escape ++ '"' :: cs) := by
  simp [quote]

private theorem skipSpacing_quote (s : String) (cs : List Char) :
    skipSpacing (quote s ++ cs) = '"' :: (s.toList.flatMap escape ++ '"' :: cs) := by
  rw [quote_append, skipSpacing_cons (by decide)]

/-- A document starts neither with a blank nor with a closing bracket. -/
theorem exists_chars_eq_cons (document : Json) :
    ∃ c cs, document.chars = c :: cs ∧ isSpacing c = false ∧ c ≠ ']' := by
  cases document with
  | null => exact ⟨_, _, rfl, by decide⟩
  | bool value => cases value <;> exact ⟨_, _, rfl, by decide⟩
  | number n =>
    obtain ⟨c, cs, hdigits, hdigit⟩ := exists_toDigits_eq_cons n
    have hne {d : Char} (hd : d.isDigit = false) : c ≠ d := ne_of_isDigit hdigit hd
    refine ⟨c, cs, by rw [chars_number, hdigits], ?_, hne (by decide)⟩
    simp [isSpacing, hne (by decide : ' '.isDigit = false), hne (by decide : '\n'.isDigit = false),
      hne (by decide : '\t'.isDigit = false), hne (by decide : '\r'.isDigit = false)]
  | string s => exact ⟨_, _, rfl, by decide⟩
  | array items => cases items <;> exact ⟨_, _, rfl, by decide⟩
  | object members =>
    rcases members with _ | ⟨⟨key, value⟩, members⟩ <;> exact ⟨_, _, rfl, by decide⟩

/-- The text of the document is read back up to its end, if what follows does not continue it. -/
def ReadsBack (document : Json) : Prop :=
  ∀ fuel rest, document.chars.length ≤ fuel → EndsNumber rest →
    readValue fuel (document.chars ++ rest) = (document.reading, some rest)

/-! ### Arrays -/

private theorem endsNumber_itemChars (items : List Json) (rest : List Char) :
    EndsNumber (itemChars items ++ rest) := by
  cases items <;> exact endsNumber_cons (by decide) _

/-- The items of an array are read back up to the closing bracket. -/
theorem readItems_itemChars {item : Json} {items : List Json} (hitem : item.ReadsBack)
    (hitems : ∀ item ∈ items, item.ReadsBack) {fuel : Nat}
    (hfuel : item.chars.length + (itemChars items).length ≤ fuel) (rest : List Char) :
    readItems fuel (item.chars ++ (itemChars items ++ rest)) =
      (.item item.reading (itemReadings items), some rest) := by
  -- By induction on the items that follow; what is left of the text bounds the fuel they need.
  induction items generalizing item fuel with
  | nil =>
    cases fuel with
    | zero => simp [itemChars_nil] at hfuel
    | succ fuel =>
      simp only [itemChars_nil, List.length_cons, List.length_nil] at hfuel
      have hvalue := hitem fuel (itemChars [] ++ rest) (by omega) (endsNumber_itemChars [] rest)
      rw [readItems, hvalue]
      rfl
  | cons next items ih =>
    cases fuel with
    | zero => simp [itemChars_cons] at hfuel
    | succ fuel =>
      simp only [itemChars_cons, List.length_cons, List.length_append] at hfuel
      obtain ⟨hnext, hitems⟩ := List.forall_mem_cons.mp hitems
      have hvalue := hitem fuel (itemChars (next :: items) ++ rest) (by omega)
        (endsNumber_itemChars (next :: items) rest)
      have hafter : next.chars.length + (itemChars items).length ≤ fuel := by omega
      have hrest := ih hnext hitems hafter
      rw [readItems, hvalue]
      simp only [itemChars_cons, List.cons_append, List.append_assoc]
      rw [skipSpacing_cons (by decide)]
      simp only [hrest, itemReadings]

/-! ### Objects -/

private theorem endsNumber_memberChars (members : List (String × Json)) (rest : List Char) :
    EndsNumber (memberChars members ++ rest) := by
  cases members <;> exact endsNumber_cons (by decide) _

/-- The members of an object are read back up to the closing brace. -/
theorem readMembers_memberChars (key : String) {value : Json} {members : List (String × Json)}
    (hvalue : value.ReadsBack) (hmembers : ∀ member ∈ members, member.2.ReadsBack) {fuel : Nat}
    (hfuel : value.chars.length + (memberChars members).length ≤ fuel) (rest : List Char) :
    readMembers fuel (quote key ++ ':' :: (value.chars ++ (memberChars members ++ rest))) =
      (.member (some key) value.reading (memberReadings members), some rest) := by
  induction members generalizing key value fuel with
  | nil =>
    cases fuel with
    | zero => simp [memberChars_nil] at hfuel
    | succ fuel =>
      simp only [memberChars_nil, List.length_cons, List.length_nil] at hfuel
      have hread := hvalue fuel (memberChars [] ++ rest) (by omega) (endsNumber_memberChars [] rest)
      rw [readMembers, skipSpacing_quote]
      simp only [readString_quote]
      rw [skipSpacing_cons (by decide)]
      simp only [hread]
      rfl
  | cons member members ih =>
    obtain ⟨nextKey, next⟩ := member
    cases fuel with
    | zero => simp [memberChars_cons] at hfuel
    | succ fuel =>
      simp only [memberChars_cons, List.length_cons, List.length_append] at hfuel
      have hnext : next.ReadsBack := hmembers (nextKey, next) List.mem_cons_self
      have hmembers := fun member hmember => hmembers member (List.mem_cons_of_mem _ hmember)
      have hread := hvalue fuel (memberChars ((nextKey, next) :: members) ++ rest) (by omega)
        (endsNumber_memberChars ((nextKey, next) :: members) rest)
      have hafter : next.chars.length + (memberChars members).length ≤ fuel := by omega
      have hrest := ih nextKey hnext hmembers hafter
      rw [readMembers, skipSpacing_quote]
      simp only [readString_quote]
      rw [skipSpacing_cons (by decide)]
      simp only [hread]
      simp only [memberChars_cons, List.cons_append, List.append_assoc]
      rw [skipSpacing_cons (by decide)]
      simp only [hrest, memberReadings]

/-! ### Reading back -/

/-- A text that starts like neither an object, an array nor a string is read as a scalar. -/
theorem readValue_scalar {c : Char} (hspacing : isSpacing c = false) (hbrace : c ≠ '\x7b')
    (hbracket : c ≠ '[') (hquote : c ≠ '"') (fuel : Nat) (cs : List Char) :
    readValue (fuel + 1) (c :: cs) = readScalar (c :: cs) := by
  rw [readValue, skipSpacing_cons hspacing]
  split
  · next heq => exact absurd (List.cons.inj heq).1 hbrace
  · next heq => exact absurd (List.cons.inj heq).1 hbracket
  · next heq => exact absurd (List.cons.inj heq).1 hquote
  · rfl

/-- A number is no literal word, and is read back. -/
theorem readScalar_toDigits (n : Nat) {rest : List Char} (h : EndsNumber rest) :
    readScalar (Nat.toDigits 10 n ++ rest) = (.number (Number.ofNat n), some rest) := by
  obtain ⟨c, cs, hdigits, hdigit⟩ := exists_toDigits_eq_cons n
  have hword {d : Char} (hd : d.isDigit = false) (word : List Char) :
      Text.after? (d :: word) (Nat.toDigits 10 n ++ rest) = none := by
    rw [hdigits, List.cons_append, Text.after?, if_neg (ne_of_isDigit hdigit hd).symm]
  have hnull : Text.after? "null".toList (Nat.toDigits 10 n ++ rest) = none :=
    hword (by decide) _
  have htrue : Text.after? "true".toList (Nat.toDigits 10 n ++ rest) = none :=
    hword (by decide) _
  have hfalse : Text.after? "false".toList (Nat.toDigits 10 n ++ rest) = none :=
    hword (by decide) _
  simp only [readScalar, hnull, htrue, hfalse, Number.read?_toDigits n h]

/-- No document has an empty text, so that some fuel is left for its first character. -/
theorem readsBack_of_succ {document : Json}
    (h : ∀ fuel rest, document.chars.length ≤ fuel + 1 → EndsNumber rest →
      readValue (fuel + 1) (document.chars ++ rest) = (document.reading, some rest)) :
    document.ReadsBack := by
  intro fuel rest hfuel hrest
  obtain ⟨c, cs, hchars, -⟩ := document.exists_chars_eq_cons
  cases fuel with
  | zero => simp [hchars] at hfuel
  | succ fuel => exact h fuel rest hfuel hrest

private theorem readsBack_null : Json.null.ReadsBack :=
  readsBack_of_succ fun fuel _ _ _ =>
    readValue_scalar (by decide) (by decide) (by decide) (by decide) fuel _

private theorem readsBack_bool (value : Bool) : (Json.bool value).ReadsBack := by
  apply readsBack_of_succ
  intro fuel rest _ _
  cases value <;> exact readValue_scalar (by decide) (by decide) (by decide) (by decide) fuel _

private theorem readsBack_number (n : Nat) : (Json.number n).ReadsBack := by
  apply readsBack_of_succ
  intro fuel rest _ hrest
  obtain ⟨c, cs, hchars, hspacing, -⟩ := (Json.number n).exists_chars_eq_cons
  obtain ⟨d, ds, hdigits, hdigit⟩ := exists_toDigits_eq_cons n
  rw [chars_number] at hchars ⊢
  obtain ⟨rfl, rfl⟩ := List.cons.inj (hchars.symm.trans hdigits)
  rw [hdigits, List.cons_append, readValue_scalar hspacing (ne_of_isDigit hdigit (by decide))
    (ne_of_isDigit hdigit (by decide)) (ne_of_isDigit hdigit (by decide)), ← List.cons_append,
    ← hdigits, readScalar_toDigits n hrest, reading]

private theorem readsBack_string (s : String) : (Json.string s).ReadsBack := by
  apply readsBack_of_succ
  intro fuel rest _ _
  rw [chars_string, readValue, skipSpacing_quote]
  simp only [readString_quote, reading]

/-- An array is read back if its items are. -/
theorem readsBack_array {items : List Json} (h : ∀ item ∈ items, item.ReadsBack) :
    (Json.array items).ReadsBack := by
  apply readsBack_of_succ
  intro fuel rest hfuel _
  cases items with
  | nil => rfl
  | cons item items =>
    obtain ⟨hitem, hitems⟩ := List.forall_mem_cons.mp h
    simp only [chars_array_cons, List.length_cons, List.length_append] at hfuel
    have hread := readItems_itemChars hitem hitems (by omega : _ ≤ fuel) rest
    obtain ⟨c, cs, hchars, hspacing, hbracket⟩ := item.exists_chars_eq_cons
    have hinside : skipSpacing (item.chars ++ (itemChars items ++ rest)) =
        item.chars ++ (itemChars items ++ rest) := by
      rw [hchars, List.cons_append, skipSpacing_cons hspacing]
    simp only [chars_array_cons, List.cons_append, List.append_assoc]
    rw [readValue, skipSpacing_cons (by decide)]
    simp only [hinside]
    split
    · next heq =>
      rw [hchars] at heq
      exact absurd (List.cons.inj heq).1 hbracket
    · simp only [hread, reading, itemReadings]

/-- An object is read back if the values of its members are. -/
theorem readsBack_object {members : List (String × Json)}
    (h : ∀ member ∈ members, member.2.ReadsBack) : (Json.object members).ReadsBack := by
  apply readsBack_of_succ
  intro fuel rest hfuel _
  cases members with
  | nil => rfl
  | cons member members =>
    obtain ⟨key, value⟩ := member
    have hvalue : value.ReadsBack := h (key, value) List.mem_cons_self
    have hmembers := fun member hmember => h member (List.mem_cons_of_mem _ hmember)
    simp only [chars_object_cons, List.length_cons, List.length_append] at hfuel
    have hlength : value.chars.length + (memberChars members).length ≤ fuel := by omega
    have hread := readMembers_memberChars key hvalue hmembers hlength rest
    rw [quote_append] at hread
    simp only [chars_object_cons, List.cons_append, List.append_assoc]
    rw [readValue, skipSpacing_cons (by decide)]
    simp only [skipSpacing_quote]
    split
    · next heq => exact absurd (List.cons.inj heq).1 (by decide)
    · simp only [hread, reading, memberReadings]

/-- Every document is read back. -/
theorem readsBack : (document : Json) → document.ReadsBack
  | .null => readsBack_null
  | .bool value => readsBack_bool value
  | .number n => readsBack_number n
  | .string s => readsBack_string s
  | .array items => readsBack_array fun item _ => readsBack item
  | .object members => readsBack_object fun member _ => readsBack member.2
termination_by document => sizeOf document
decreasing_by
  · have hlt := List.sizeOf_lt_of_mem ‹item ∈ items›
    simp only [Json.array.sizeOf_spec]
    omega
  · have hlt := List.sizeOf_lt_of_mem ‹member ∈ members›
    obtain ⟨key, value⟩ := member
    simp only [Json.object.sizeOf_spec, Prod.mk.sizeOf_spec] at hlt ⊢
    omega

/-- The text of a document is read as the document, with nothing left over. -/
theorem Reading.ofText_render (document : Json) :
    Reading.ofText document.render = (document.reading, true) := by
  have hread := document.readsBack (document.chars.length + 1) [] (by omega) endsNumber_nil
  rw [List.append_nil] at hread
  simp only [Reading.ofText, render, String.toList_ofList, hread, skipSpacing, List.dropWhile_nil,
    List.isEmpty_nil]

/-- Decoding the text of a document is decoding the document. -/
theorem decodeText_render {α : Type} (decode : Reading → Except Fault α) (document : Json) :
    decodeText decode document.render = decode document.reading := by
  simp only [decodeText, Reading.ofText_render]
  cases decode document.reading <;> rfl

/-- A list that was written item by item is decoded item by item. -/
theorem all_itemReadings {α β : Type} {decode : Reading → Except Fault β} {toJson : α → Json}
    {result : α → β} (h : ∀ a, decode (toJson a).reading = .ok (result a)) (items : List α) :
    (itemReadings (items.map toJson)).all decode = .ok (items.map result) := by
  induction items with
  | nil => rfl
  | cons item items ih =>
    rw [List.map_cons, itemReadings, Items.all, h, ih]
    rfl

end LogFilter.Json
