import DocQuery.Expression.Basic
import DocQuery.Plan.Kind

/-!
What can go wrong with a query, and the message for each cause.
-/

namespace DocQuery

inductive QueryErrorKind where
  | unsupportedOperation | invalidQuery | invalidArgument
deriving DecidableEq, Repr

def QueryErrorKind.label : QueryErrorKind → String
  | .unsupportedOperation => "unsupported operation"
  | .invalidQuery => "invalid query"
  | .invalidArgument => "invalid argument"

/-- Why a query has no request or an expression no value. -/
inductive QueryError where
  /-- The operation is not listed, or nothing can carry it out where it stands. -/
  | unsupported (kind : OperationKind)
  | noInMemoryForm (kind : OperationKind)
  | incomparable (left right : Expression)
  | comparesLiterals
  | notField (found : Expression)
  | arithmetic (fault : ArithmeticError)
  | fieldInConstant (path : FieldPath)
  | elementOutsideQuantifier
  | afterPagination (operation : String)
  | thenByWithoutOrderBy
  | mixedDirections
  | arithmeticPredicate (op : BinaryOp)
  | valueFieldPredicate (path : FieldPath)
  | notPredicate (found : Expression)
  | remainderComparison
  | sizeComparison
  | notLiteralItem (found : Expression)
  | notLiteralList (found : Expression)
  | notLast (kind : OperationKind)
  | thenByApartFromOrderBy (kind : OperationKind)
  | afterResult (kind : OperationKind) (shape : String)
  | indexArity (count : Nat)
  | moduloDivisor
  | moduloRemainder
  | sizeNotInteger
  | invalidPattern
deriving Repr

namespace QueryError

def kind : QueryError → QueryErrorKind
  | .unsupported _ | .noInMemoryForm _ | .incomparable _ _ | .comparesLiterals | .notField _ =>
    .unsupportedOperation
  | .indexArity _ | .moduloDivisor | .moduloRemainder | .sizeNotInteger | .invalidPattern =>
    .invalidArgument
  | _ => .invalidQuery

def detail : QueryError → String
  | .unsupported kind => s!"operation `{kind.name}` is not supported"
  | .noInMemoryForm kind => s!"operation `{kind.name} (no in-memory form)` is not supported"
  | .incomparable left right =>
    s!"comparison between {left.describe} and {right.describe} is not supported"
  | .comparesLiterals => "comparison between two literals should have been folded"
  | .notField found => s!"expected a field reference, found {found.describe}"
  | .arithmetic fault => fault.message
  | .fieldInConstant path => s!"field `{path.render}` referenced in a constant expression"
  | .elementOutsideQuantifier => "element reference outside a quantifier"
  | .afterPagination operation =>
    s!"{operation} after Skip or Take cannot be expressed in a single find request"
  | .thenByWithoutOrderBy => "ThenBy requires a preceding OrderBy"
  | .mixedDirections => "sort fields must all use the same direction"
  | .arithmeticPredicate op => s!"arithmetic `{op.title}` cannot be used as a predicate"
  | .valueFieldPredicate path =>
    s!"field `{path.render}` is not boolean and cannot be used as a predicate"
  | .notPredicate found => s!"expression is not a predicate: {found.describe}"
  | .remainderComparison => "a remainder can only be compared for equality"
  | .sizeComparison => "a collection size can only be compared for equality"
  | .notLiteralItem found => s!"list element must be a literal, found {found.describe}"
  | .notLiteralList found => s!"expected a list of literals, found {found.describe}"
  | .notLast kind => s!"{kind.name} must be the last operation of a query"
  | .thenByApartFromOrderBy kind =>
    s!"{kind.name} evaluated on the client needs its OrderBy evaluated there too"
  | .afterResult kind shape => s!"{kind.name} cannot follow an operation that returns a {shape}"
  | .indexArity count =>
    s!"UseIndex takes a design document and an optional index name, got {count} values"
  | .moduloDivisor => "modulo divisor must be a non-zero integer literal"
  | .moduloRemainder => "modulo remainder must be an integer"
  | .sizeNotInteger => "collection size must be an integer"
  | .invalidPattern => "invalid regex"

def message (error : QueryError) : String := s!"{error.kind.label}: {error.detail}"

end QueryError

inductive DatabaseErrorKind where
  | conflict | notFound | noUsableIndex | generic
deriving DecidableEq, Repr

def DatabaseErrorKind.label : DatabaseErrorKind → String
  | .conflict => "conflict"
  | .notFound => "not found"
  | .noUsableIndex => "no usable index"
  | .generic => "database error"

/-- A failure that the database reports. -/
structure DatabaseError where
  kind : DatabaseErrorKind
  reason : String
  status : Option Nat
deriving DecidableEq, Repr

namespace DatabaseError

/-- The failure in a response: the status and the code decide its kind, and an empty reason is
replaced by the code. -/
def ofResponse (status : Nat) (code reason : String) : DatabaseError where
  kind :=
    if status = 409 then .conflict
    else if status = 404 then .notFound
    else if status = 400 ∧ code = "no_usable_index" then .noUsableIndex
    else .generic
  reason := if reason.isEmpty then code else reason
  status := some status

def message (error : DatabaseError) : String := s!"{error.kind.label}: {error.reason}"

end DatabaseError

/-- A broken promise between two parts of the library. -/
inductive InternalError where
  | compositeLeft (kind : OperationKind)
  | noInput (kind : OperationKind)
  | notComparison (op : BinaryOp)
  | notArithmetic (op : BinaryOp)
  | sumNotNumeric
  | unexpectedShape (expected found : String)
  | noDocument (kind : OperationKind)
  | nominationShape
deriving DecidableEq, Repr

def InternalError.message : InternalError → String
  | .compositeLeft kind => s!"composite operation {kind.name} survived optimization"
  | .noInput kind => s!"{kind.name} has no input"
  | .notComparison op => s!"`{op.title}` is not a comparison"
  | .notArithmetic op => s!"{op.title} is not arithmetic"
  | .sumNotNumeric => "sum is not numeric"
  | .unexpectedShape expected found => s!"expected a {expected} result, got a {found}"
  | .noDocument kind => s!"{kind.name} returned no document"
  | .nominationShape => "nomination tree out of shape"

inductive Error where
  | query (error : QueryError)
  | moreThanOneElement
  | noElements
  | database (error : DatabaseError)
  | cannotSum (typeName : String)
  /-- A result is not of the type that was asked for. -/
  | undecodable
  | internal (error : InternalError)
  /-- The remainder of the least integer and minus one, which 64 bits do not hold midway. -/
  | remainderOverflow
deriving Repr

def Error.message : Error → String
  | .query error => error.message
  | .moreThanOneElement => "sequence contains more than one element"
  | .noElements => "sequence contains no elements"
  | .database error => error.message
  | .cannotSum typeName => s!"serialization error: cannot sum a {typeName} value"
  | .undecodable => "serialization error"
  | .internal error => s!"internal error: {error.message}"
  | .remainderOverflow => "attempt to calculate the remainder with overflow"

end DocQuery
