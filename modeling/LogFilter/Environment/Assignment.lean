import LogFilter.Environment
import LogFilter.Text.Alphanumeric

/-!
# Assignments

An entry assigns a value to a name, as in `NAME=value`, perhaps after the word `export`. In the value quotes
are taken away, a backslash outside single quotes makes the next character literal, and `$NAME` or `$` with a
name in braces stands for the value of another variable. A blank outside quotes ends the value, and only a
comment may follow it. Loading entries keeps the variables that are there.
-/

namespace LogFilter.Environment

/-- A character that a name may start with. -/
def isNameStart (c : Char) : Bool := c.isAlpha || c == '_'

/-- A character of a name. -/
def isNameChar (c : Char) : Bool := c.isAlphanum || c == '_' || c == '.'

/-- The quotes that a part of a value stands in. -/
inductive Quoting where
  | bare
  | single
  | double
  deriving DecidableEq, Repr

/-- What the next character of a value belongs to. -/
inductive Phase where
  | text
  | escape
  /-- A reference; its name so far, last character first. -/
  | reference (name : List Char)
  /-- A reference in braces; its name so far, last character first. -/
  | braced (name : List Char)
  /-- After the value. -/
  | ended
  | comment
  deriving DecidableEq, Repr

/-- What has been read of a value. -/
structure ValueState where
  quoting : Quoting := .bare
  phase : Phase := .text
  /-- The value so far, last character first. -/
  done : List Char := []
  deriving DecidableEq, Repr

namespace ValueState

/-- Adds a character to the value. -/
def push (state : ValueState) (c : Char) : ValueState :=
  { state with phase := .text, done := c :: state.done }

/-- Adds the value of a variable, which is empty if it is not there. -/
def refer (env : Environment) (state : ValueState) (name : List Char) : ValueState :=
  let value := (env.get? (String.ofList name.reverse)).getD ""
  { state with phase := .text, done := value.toList.reverse ++ state.done }

/-- Takes a character after a backslash. -/
def takeEscaped (state : ValueState) (c : Char) : Option ValueState :=
  if c = 'n' then some (state.push '\n')
  else if ['\\', '\'', '"', '$', ' '].contains c then some (state.push c)
  else none

/-- Takes a character after a dollar sign and a name. One that ends the reference is literal, but for another
dollar sign. -/
def takeReference (env : Environment) (state : ValueState) (name : List Char) (c : Char) : ValueState :=
  if Text.isAlphanumeric c then { state with phase := .reference (c :: name) }
  else if c = '{' && name.isEmpty then { state with phase := .braced [] }
  else if c = '$' then { state.refer env name with phase := .reference [] }
  else (state.refer env name).push c

/-- Takes a character of the text of the value. -/
def takeText (state : ValueState) (c : Char) : ValueState :=
  match state.quoting with
  | .single => if c = '\'' then { state with quoting := .bare } else state.push c
  | .double =>
    if c = '$' then { state with phase := .reference [] }
    else if c = '"' then { state with quoting := .bare }
    else if c = '\\' then { state with phase := .escape }
    else state.push c
  | .bare =>
    if c = '$' then { state with phase := .reference [] }
    else if c = '\'' then { state with quoting := .single }
    else if c = '"' then { state with quoting := .double }
    else if c = '\\' then { state with phase := .escape }
    else if c = ' ' || c = '\t' then { state with phase := .ended }
    else state.push c

/-- Takes the next character. -/
def next? (env : Environment) (state : ValueState) (c : Char) : Option ValueState :=
  match state.phase with
  | .text => some (state.takeText c)
  | .escape => state.takeEscaped c
  | .reference name => some (state.takeReference env name c)
  | .braced name =>
    some (if c = '}' then state.refer env name else { state with phase := .braced (c :: name) })
  | .ended =>
    if c = ' ' || c = '\t' then some state
    else if c = '#' then some { state with phase := .comment }
    else none
  | .comment => some state

/-- The value, if no quote and no brace is open. -/
def finish? (env : Environment) (state : ValueState) : Option String :=
  match state.quoting, state.phase with
  | .bare, .braced _ => none
  | .bare, .reference name => some (String.ofList (state.refer env name).done.reverse)
  | .bare, _ => some (String.ofList state.done.reverse)
  | _, _ => none

end ValueState

/-- Reads a value. -/
def readValue? (env : Environment) (cs : List Char) : Option String :=
  (cs.foldlM (ValueState.next? env) {}).bind (ValueState.finish? env)

/-- Splits off a name and the blanks after it. -/
def readName? (cs : List Char) : Option (String × List Char) :=
  if cs.head?.any isNameStart then
    some (String.ofList (cs.takeWhile isNameChar),
      (cs.dropWhile isNameChar).dropWhile Text.isBlank)
  else none

/-- Splits off a name and the equals sign after it. -/
def readLeft? (cs : List Char) : Option (String × List Char) :=
  match readName? cs with
  | some (name, '=' :: rest) => some (name, rest)
  | _ => none

/-- Splits off a name and the equals sign after it, perhaps after the word `export`, which may itself be the
name. -/
def readExported? (cs : List Char) : Option (String × List Char) :=
  match readName? cs with
  | some ("export", rest) => (readLeft? cs).or (readLeft? rest)
  | _ => readLeft? cs

/-- Reads an assignment. -/
def readAssignment? (env : Environment) (cs : List Char) : Option (String × String) :=
  match readExported? cs with
  | none => none
  | some (name, rest) =>
    match rest.dropWhile Text.isBlank with
    | [] | '#' :: _ => some (name, "")
    | value => (readValue? env value).map (name, ·)

/-- Reads entries until one is malformed. Empty entries and comments are passed over. -/
def loadEntries (env : Environment) : List (List Char) → Environment
  | [] => env
  | entry :: rest =>
    match Text.trimChars entry with
    | [] | '#' :: _ => env.loadEntries rest
    | content =>
      match env.readAssignment? content with
      | some binding => (env.append binding).loadEntries rest
      | none => env

/-- The text without a byte order mark at its start. -/
def dropMark : List Char → List Char
  | '\uFEFF' :: cs => cs
  | cs => cs

/-- The environment with the variables that a text gives. -/
def load (env : Environment) (text : String) : Environment :=
  env.loadEntries (entries (dropMark text.toList))

/-- Loading entries keeps the variables that are there. -/
theorem get?_loadEntries_of_some {env : Environment} {name value : String}
    (h : env.get? name = some value) (rest : List (List Char)) :
    (env.loadEntries rest).get? name = some value := by
  induction rest generalizing env with
  | nil => exact h
  | cons entry rest ih =>
    unfold loadEntries
    split
    · exact ih h
    · exact ih h
    · split
      · exact ih (get?_append_of_some _ h)
      · exact h

end LogFilter.Environment
