/-!
# Query errors

The reasons for which a filter query, a field proposal or a request is refused. Each has a stable
code for programs and a message for people.
-/

namespace LogFilter

/-- Why a query, a field proposal or a request is refused. -/
inductive QueryError where
  /-- Text is left over beside the recognised clauses. -/
  | unknownTokens
  /-- The column is neither selected, nor interesting, nor the body. -/
  | unresolvableColumn (column : String)
  /-- The text does not split into column, operator and operand. -/
  | malformedClause (clause : String)
  /-- A required attribute of a field is empty. -/
  | missingAttribute (name : String)
  | unsupportedFieldKind (kind : String)
  | unsupportedSkipIndex (index : String)
  /-- A parameter that this kind of request requires is absent. -/
  | missingParameter (name : String)
  | invalidParameter (name : String) (value : String)
  /-- The sort column is not a selected field. -/
  | unsortableColumn (column : String)
  /-- The query has more bytes than allowed. -/
  | queryTooLong (length : Nat) (limit : Nat)
  deriving DecidableEq, Repr

namespace QueryError

/-- The stable code of the kind of error. -/
def code : QueryError → String
  | unknownTokens => "UNKNOWN_TOKENS"
  | unresolvableColumn _ => "UNRESOLVABLE_COLUMN"
  | malformedClause _ => "MALFORMED_CLAUSE"
  | missingAttribute _ => "MISSING_FIELD_ATTRIBUTE"
  | unsupportedFieldKind _ => "UNSUPPORTED_FIELD_TYPE"
  | unsupportedSkipIndex _ => "UNSUPPORTED_INDEX_TYPE"
  | missingParameter _ => "MISSING_PARAM"
  | invalidParameter _ _ => "INVALID_PARAM"
  | unsortableColumn _ => "INVALID_SORT_COLUMN"
  | queryTooLong _ _ => "QUERY_TOO_LONG"

/-- The message shown to the user. -/
def message : QueryError → String
  | unknownTokens => "failed to parse query, contains unknown tokens"
  | unresolvableColumn _ => "field not found for filtering"
  | malformedClause _ => "incorrect filter"
  | missingAttribute name => name ++ " cannot be empty"
  | unsupportedFieldKind kind => "type " ++ kind ++ " not supported"
  | unsupportedSkipIndex index => "index type " ++ index ++ " not supported"
  | missingParameter name => name ++ " is required"
  | invalidParameter name value => "invalid value for " ++ name ++ ": " ++ value
  | unsortableColumn column => "cannot order by column: " ++ column
  | queryTooLong length limit =>
    "query is " ++ length.repr ++ " bytes, maximum is " ++ limit.repr

end QueryError

end LogFilter
