import LogFilter.Text.Basic

/-!
# Environment variables

Of several values of one name the first counts, so variables that are appended do not replace those that
are there. A text of variables is cut into entries. An entry is a line, or several if a quote stays open
at the end of a line. A comment starts with a number sign at the head of a line or after a blank. An entry
that is not over where the text ends is dropped: a quote is open, a backslash has nothing after it, or a
comment could still start.
-/

namespace LogFilter

/-- Named values; of several with one name the first counts. -/
structure Environment where
  bindings : List (String × String) := []
  deriving DecidableEq, Repr

namespace Environment

/-- The value of a variable. -/
def get? (env : Environment) (name : String) : Option String := env.bindings.lookup name

/-- The environment with a further variable, which does not replace one that is there. -/
def append (env : Environment) (binding : String × String) : Environment :=
  ⟨env.bindings ++ [binding]⟩

/-- A variable that is there keeps its value. -/
theorem get?_append_of_some {env : Environment} {name value : String} (binding : String × String)
    (h : env.get? name = some value) : (env.append binding).get? name = some value := by
  simp only [get?] at h
  simp [get?, append, List.lookup_append, h]

/-! ### Entries -/

/-- What has been read of an entry, as far as its end depends on it. -/
inductive Reach where
  /-- The entry may end here. -/
  | plain
  /-- After a blank, where a comment may start. -/
  | blank
  | escape
  | single
  | singleEscape
  | double
  | doubleEscape
  deriving DecidableEq, Repr

namespace Reach

/-- After a character outside quotes that is no blank. -/
def outside (c : Char) : Reach :=
  if c = '\\' then escape else if c = '"' then double else if c = '\'' then single else plain

/-- After the next character. A blank that follows a blank is like any other character. -/
def next (reach : Reach) (c : Char) : Reach :=
  match reach with
  | plain => if Text.isBlank c && c != '\n' && c != '\r' then blank else outside c
  | blank => outside c
  | escape => plain
  | single => if c = '\\' then singleEscape else if c = '\'' then plain else single
  | singleEscape => single
  | double => if c = '\\' then doubleEscape else if c = '"' then plain else double
  | doubleEscape => double

end Reach

/-- The outcome of a line. -/
inductive LineEnd where
  /-- A comment starts after this part of the line. -/
  | comment (front : List Char)
  | reached (reach : Reach)
  deriving DecidableEq, Repr

/-- Reads a line. -/
def scanLine (reach : Reach) : List Char → LineEnd
  | [] => .reached reach
  | c :: cs =>
    if reach = .blank && c = '#' then .comment []
    else
      match scanLine (reach.next c) cs with
      | .comment front => .comment (c :: front)
      | .reached reach => .reached reach

/-- The lines of a text, each with its line break. -/
def lines : List Char → List (List Char)
  | [] => []
  | c :: cs =>
    if c = '\n' then [c] :: lines cs
    else
      match lines cs with
      | [] => [[c]]
      | line :: rest => (c :: line) :: rest

/-- The text starts with a comment. -/
def startsComment (cs : List Char) : Bool := (cs.dropWhile Text.isBlank).head? = some '#'

/-- The entries of lines, where `held` is the entry so far. A comment ends its entry. -/
def entriesFrom (held : List Char) (reach : Reach) : List (List Char) → List (List Char)
  | [] => []
  | line :: rest =>
    if startsComment (held ++ line) then entriesFrom [] .plain rest
    else
      match scanLine reach line with
      | .comment front => (held ++ front) :: entriesFrom [] .plain rest
      | .reached .plain => (held ++ line) :: entriesFrom [] .plain rest
      | .reached reach => entriesFrom (held ++ line) reach rest

/-- The entries of a text. -/
def entries (cs : List Char) : List (List Char) := entriesFrom [] .plain (lines cs)

/-- The lines make up the text. -/
theorem flatten_lines (cs : List Char) : (lines cs).flatten = cs := by
  induction cs with
  | nil => rfl
  | cons c cs ih =>
    unfold lines
    split
    · simp [ih]
    · split
      · next h => simp [h] at ih; simp [← ih]
      · next h => simp [h] at ih; simp [ih]

end Environment

end LogFilter
