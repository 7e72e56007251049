/-!
# Operators

The eight operators of the filter language. Each is written with a keyword in a query and with a
symbol in a predicate, and belongs to one of three shapes of clause.
-/

namespace LogFilter

/-- The shapes of clause: `column in (values)`, `column gt value`, `column contains text`. -/
inductive Shape where
  | membership
  | comparison
  | textSearch
  deriving DecidableEq, Repr

/-- All shapes, in the order in which they are tried. -/
def Shape.all : List Shape := [.membership, .comparison, .textSearch]

/-- The operators of the filter language. -/
inductive Operator where
  | lt
  | gt
  | lte
  | gte
  | isIn
  | notIn
  | contains
  | lacks
  deriving DecidableEq, Repr

namespace Operator

/-- All operators, in the order in which they are listed. -/
def all : List Operator := [lt, gt, lte, gte, isIn, notIn, contains, lacks]

/-- The keyword in a query, in lower case. -/
def keyword : Operator → String
  | lt => "lt"
  | gt => "gt"
  | lte => "lte"
  | gte => "gte"
  | isIn => "in"
  | notIn => "nin"
  | contains => "contains"
  | lacks => "ncontains"

/-- The operator in a predicate. -/
def symbol : Operator → String
  | lt => "<"
  | gt => ">"
  | lte => "<="
  | gte => ">="
  | isIn => "IN"
  | notIn => "NOT IN"
  | contains => "ILIKE"
  | lacks => "NOT ILIKE"

/-- The shape of the clauses that the operator forms. -/
def shape : Operator → Shape
  | lt | gt | lte | gte => .comparison
  | isIn | notIn => .membership
  | contains | lacks => .textSearch

/-- The operator searches in text. -/
def isTextSearch (op : Operator) : Bool := op.shape == .textSearch

/-- The operator with this keyword; the case of ASCII letters does not matter. -/
def ofKeyword? (text : String) : Option Operator :=
  all.find? fun op => op.keyword.toList == text.toList.map Char.toLower

/-- Every operator is listed. -/
theorem mem_all (op : Operator) : op ∈ all := by
  cases op <;> simp [all]

/-- A keyword is read back as its operator. -/
theorem ofKeyword?_keyword (op : Operator) : ofKeyword? op.keyword = some op := by
  cases op <;> decide

end Operator

end LogFilter
