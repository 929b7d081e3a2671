import DocQuery.Value.Basic

/-!
Arithmetic on values. Two integers give an integer or an overflow; an integer and a float give a
float; strings add by concatenation; nothing else has arithmetic. An integer quotient truncates
towards zero, and the remainder has the sign of the dividend.
-/

namespace DocQuery

inductive ArithmeticOp where
  | add | sub | mul | div | mod
deriving DecidableEq, Repr

def ArithmeticOp.symbol : ArithmeticOp → String
  | .add => "+"
  | .sub => "-"
  | .mul => "*"
  | .div => "/"
  | .mod => "%"

/-- Why values have no result under an operation. -/
inductive ArithmeticError where
  | overflow (op : ArithmeticOp)
  | divisionByZero
  | mismatch (op : ArithmeticOp) (left right : String)
deriving DecidableEq, Repr

def ArithmeticError.message : ArithmeticError → String
  | .overflow op => s!"integer overflow in `{op.symbol}`"
  | .divisionByZero => "division by zero"
  | .mismatch op left right => s!"cannot apply `{op.symbol}` to {left} and {right}"

namespace Value

/-- An integer, if it fits in 64 bits. -/
def checked (op : ArithmeticOp) (result : Int) : Except ArithmeticError Value :=
  if fitsInt64 result then .ok (.int (Int64.ofInt result)) else .error (.overflow op)

/-- An operation on two numbers of which at least one is a float. -/
def onFloats (op : ArithmeticOp) (apply : Binary64 → Binary64 → Binary64) (a b : Value) :
    Except ArithmeticError Value :=
  match a.asFloat?, b.asFloat? with
  | some x, some y => .ok (.float (apply x y))
  | _, _ => .error (.mismatch op a.typeName b.typeName)

def add : Value → Value → Except ArithmeticError Value
  | .string a, .string b => .ok (.string (a ++ b))
  | .int a, .int b => checked .add (a.toInt + b.toInt)
  | a, b => onFloats .add .add a b

def sub : Value → Value → Except ArithmeticError Value
  | .int a, .int b => checked .sub (a.toInt - b.toInt)
  | a, b => onFloats .sub .sub a b

def mul : Value → Value → Except ArithmeticError Value
  | .int a, .int b => checked .mul (a.toInt * b.toInt)
  | a, b => onFloats .mul .mul a b

/-- The quotient of the least integer and minus one wraps around to the least integer. -/
def div : Value → Value → Except ArithmeticError Value
  | .int a, .int b => if b = 0 then .error .divisionByZero else .ok (.int (a / b))
  | a, b => onFloats .div .div a b

def rem : Value → Value → Except ArithmeticError Value
  | .int a, .int b => if b = 0 then .error .divisionByZero else .ok (.int (a % b))
  | a, b => onFloats .mod .rem a b

def neg : Value → Except ArithmeticError Value
  | .int a => checked .sub (-a.toInt)
  | .float x => .ok (.float x.neg)
  | a => .error (.mismatch .sub a.typeName a.typeName)

def arithmetic : ArithmeticOp → Value → Value → Except ArithmeticError Value
  | .add => add
  | .sub => sub
  | .mul => mul
  | .div => div
  | .mod => rem

end Value
end DocQuery
