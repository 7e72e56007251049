import LogFilter.Catalog
import LogFilter.Clause
import LogFilter.Text.Basic
import LogFilter.Text.Lowercase

/-!
# Predicate fragments

A fragment is a piece of a predicate: its own conjunction if it has one, a column, an operator symbol
and an operand, and one space at the end, so that fragments join by concatenation. A query gives one
fragment for each clause, or a search in the body if it has no clause. The column of a fragment is then
looked up in the catalog. The body and physical columns stay as they are; the first occurrence of an
interesting field's name gives way to the expression that reads the field out of its arrays.
-/

namespace LogFilter

open Text

/-- The physical column that holds the log message. -/
def bodyColumn : String := "body"

/-- The column name that stands for the body in text searches. -/
def fulltextAlias : String := "fulltext"

/-- The word that joins clauses. -/
def conjunctionWord : String := "and"

namespace Fragment

/-- The text without one quote at its start and one quote at its end. -/
def unquote (cs : List Char) : List Char :=
  let front := match cs with
    | '\'' :: rest => rest
    | _ => cs
  if front.getLast? = some '\'' then front.dropLast else front

/-- The column that a text search looks in. -/
def searchColumn (column : String) : String :=
  if lowercase column = fulltextAlias then bodyColumn else lowercase column

/-- The fragment of a text search for what the operand holds between its quotes. -/
def ofTextSearch (clause : Clause) : Except QueryError String :=
  let operand := trimChars clause.operand.toList
  if operand.isEmpty then .error (.malformedClause clause.text)
  else
    .ok ((if clause.conjunction then "AND " else "") ++ searchColumn clause.column ++ " " ++
      clause.operator.symbol ++ " '%" ++ String.ofList (unquote operand) ++ "%' ")

/-- The fragment of a clause. Only the keyword of a comparison or a membership is replaced. -/
def ofClause (clause : Clause) : Except QueryError String :=
  if clause.operator.isTextSearch then ofTextSearch clause
  else .ok (clause.withKeyword clause.operator.symbol ++ " ")

/-- The fragment of a query without clauses: a search for its whole text in the body. -/
def ofText (query : String) : String := bodyColumn ++ " ILIKE '%" ++ query ++ "%' "

/-- The fragments of a query. -/
def ofQuery (query : String) : Except QueryError (List String) :=
  match Clause.scan query with
  | .error e => .error e
  | .ok [] => .ok [ofText query]
  | .ok clauses => clauses.mapM ofClause

/-- A query with clauses gives their fragments. -/
theorem ofQuery_of_clauses {query : String} {clauses : List Clause}
    (h : Clause.scan query = .ok clauses) (hne : clauses ≠ []) :
    ofQuery query = clauses.mapM ofClause := by
  rw [ofQuery, h]
  cases clauses with
  | nil => exact absurd rfl hne
  | cons c clauses => rfl

/-- The column that a fragment is about, in lower case: its first word, or its second if the first is the
conjunction. A fragment has at least three words. -/
def column (fragment : String) : Except QueryError String :=
  match words (lowercase fragment) with
  | first :: second :: _ :: _ => .ok (if first = conjunctionWord then second else first)
  | _ => .error (.malformedClause fragment)

end Fragment

/-! ### Resolution -/

namespace Catalog

/-- The fragment with its column resolved. -/
def resolveFragment (catalog : Catalog) (fragment : String) : Except QueryError String :=
  match Fragment.column fragment with
  | .error e => .error e
  | .ok column =>
    if column = bodyColumn || catalog.isSelected column then .ok fragment
    else
      match catalog.interestingField? column with
      | some field => .ok (Text.replaceFirst fragment column (field.lookup column))
      | none => .error (.unresolvableColumn column)

/-- The fragments with their columns resolved; the first failure is reported. -/
def resolve (catalog : Catalog) (fragments : List String) : Except QueryError (List String) :=
  fragments.mapM catalog.resolveFragment

end Catalog

end LogFilter
