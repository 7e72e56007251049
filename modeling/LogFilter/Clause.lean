import LogFilter.Error
import LogFilter.Phrase

/-!
# Clauses

A query is cut from left to right into phrases and the characters between them; the pieces, put together
in order, are the query. A clause is a phrase whose keyword names an operator. A query without any phrase
has no clauses, and beside phrases only blanks may stand.
-/

namespace LogFilter

/-! ### Pieces -/

/-- A piece of a query: a recognised phrase, or a character outside all phrases. -/
inductive Piece where
  | gap (c : Char)
  | phrase (p : Phrase)
  deriving DecidableEq, Repr

namespace Piece

/-- The characters of the piece. -/
def chars : Piece → List Char
  | gap c => [c]
  | phrase p => p.text.toList

/-- The phrase, if the piece is one. -/
def phrase? : Piece → Option Phrase
  | gap _ => none
  | phrase p => some p

/-- The character, if the piece lies outside all phrases. -/
def gap? : Piece → Option Char
  | gap c => some c
  | phrase _ => none

/-- Cuts a text into pieces. Each phrase starts as early as possible after the one before it. -/
def split : List Char → List Piece
  | [] => []
  | c :: cs =>
    match _ : Phrase.atHead? (c :: cs) with
    | some (p, rest) => phrase p :: split rest
    | none => gap c :: split cs
termination_by cs => cs.length
decreasing_by
  · exact Phrase.length_lt_of_atHead? ‹_›
  · exact Nat.lt_succ_self cs.length

/-- A phrase at the head is the first piece. -/
theorem split_of_some {c : Char} {cs rest : List Char} {p : Phrase}
    (h : Phrase.atHead? (c :: cs) = some (p, rest)) :
    split (c :: cs) = phrase p :: split rest := by
  rw [split]
  split <;> simp_all

/-- Without a phrase at the head, the first character is a gap. -/
theorem split_of_none {c : Char} {cs : List Char} (h : Phrase.atHead? (c :: cs) = none) :
    split (c :: cs) = gap c :: split cs := by
  rw [split]
  split <;> simp_all

/-- The pieces make up the text. -/
theorem flatMap_chars_split (cs : List Char) : (split cs).flatMap chars = cs := by
  induction cs using split.induct with
  | case1 => simp [split]
  | case2 c cs p rest h ih => simp [split_of_some h, chars, ih, ← Phrase.atHead?_eq_some h]
  | case3 c cs h ih => simp [split_of_none h, chars, ih]

end Piece

/-! ### Clauses -/

/-- A phrase together with the operator that its keyword names. -/
structure Clause extends Phrase where
  operator : Operator
  deriving DecidableEq, Repr

namespace Clause

/-- The clause that a phrase denotes. A keyword with a letter outside ASCII names no operator. -/
def ofPhrase (p : Phrase) : Except QueryError Clause :=
  match Operator.ofKeyword? p.keyword with
  | some op => .ok ⟨p, op⟩
  | none => .error (.malformedClause p.text)

/-- The clauses of a query, given its pieces. -/
def ofPieces (pieces : List Piece) : Except QueryError (List Clause) :=
  match (pieces.filterMap Piece.phrase?).mapM ofPhrase with
  | .error e => .error e
  | .ok clauses =>
    if clauses.isEmpty || (pieces.filterMap Piece.gap?).all Text.isBlank then .ok clauses
    else .error .unknownTokens

/-- The clauses of a query, in order. -/
def scan (query : String) : Except QueryError (List Clause) :=
  ofPieces (Piece.split query.toList)

end Clause

end LogFilter
