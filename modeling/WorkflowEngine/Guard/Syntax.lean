import WorkflowEngine.Number.Binary64

/-!
# Syntax of guard expressions

* `UnaryOperator`, `Arithmetic`, `Relation`: the operators;
* `Literal`: the values that can be written down;
* `Expr`: expressions.
-/

namespace WorkflowEngine.Guard

/-- Operators before one operand. The doubled ones are operators of their own. -/
inductive UnaryOperator where
  | negation
  | doubleNegation
  | minus
  | doubleMinus
  deriving DecidableEq, Repr

/-- Arithmetic operators. -/
inductive Arithmetic where
  | add
  | subtract
  | multiply
  | divide
  | remainder
  deriving DecidableEq, Repr

/-- Relations between two operands. -/
inductive Relation where
  | less
  | lessEqual
  | greater
  | greaterEqual
  | equal
  | notEqual
  | member
  deriving DecidableEq, Repr

/-- Values that can be written down. -/
inductive Literal where
  | null
  | bool (value : Bool)
  | int (value : Int)
  | float (value : Binary64)
  | string (value : String)
  | bytes (value : List UInt8)
  deriving DecidableEq, Repr

/-- **Guard expressions.** -/
inductive Expr where
  | literal (value : Literal)
  | ident (name : String)
  | unary (operator : UnaryOperator) (operand : Expr)
  | arithmetic (operator : Arithmetic) (left right : Expr)
  | relation (relation : Relation) (left right : Expr)
  | and (left right : Expr)
  | or (left right : Expr)
  | conditional (condition yes no : Expr)
  | select (subject : Expr) (name : String)
  | index (subject position : Expr)
  | record (subject : Expr) (fields : List (String × Expr))
  | list (items : List Expr)
  | map (entries : List (Expr × Expr))
  | call (name : String) (subject : Option Expr) (arguments : List Expr)
  deriving Inhabited

/-- The name of a variable that stands alone. -/
def Expr.ident? : Expr → Option String
  | .ident name => some name
  | _ => none

end WorkflowEngine.Guard
