import WorkflowEngine.Guard.Eval
import WorkflowEngine.Guard.Grammar
import WorkflowEngine.Workflow.Marking

/-!
# Guards

A guard is an expression over a subject's attributes and its marking. A blank guard always passes.
Which texts are expressions, and what their values are, is left to a language.

* `GuardError`: why a guard gives no answer;
* `guardVariables`: what a guard can name;
* `verdict`: the answer of a value;
* `Language`, `expressions`: a language for guards, and the one that is used;
* `Evaluator`, `Language.evaluate`: the answer of a guard's text.
-/

namespace WorkflowEngine.Guard

/-- **Why a guard gives no answer.** -/
inductive GuardError where
  | unreadable
  | failed (cause : EvalError)
  | notTruth
  deriving DecidableEq, Repr

/-- The attributes that a guard can name by themselves: fields of the subject that are not null and
do not hide the subject or its marking. -/
def attributeVariables : Json → Env
  | .object fields =>
    (fields.filter fun (key, v) => key ≠ "subject" && key ≠ "marking" && v ≠ .null).map
      fun (key, v) => (key, .ofJson v)
  | _ => []

/-- **What a guard can name**: the subject with all its attributes, its marking, and the attributes. -/
def guardVariables (attributes : Json) (marking : Marking) : Env :=
  let subject := if attributes = .null then .object [] else attributes
  ("subject", .ofJson subject) :: ("marking", .list (marking.places.map .string)) ::
    attributeVariables attributes

/-- **The answer of a value**: truth values, and whole numbers by being other than zero. -/
def verdict : Value → Except GuardError Bool
  | .bool b => .ok b
  | .int n => .ok (n ≠ 0)
  | .uint n => .ok (n ≠ 0)
  | .null => .ok false
  | _ => .error .notTruth

/-- **A language for guards**: what a text compiles to, and the value of that among some variables. -/
structure Language (P : Type) where
  compile? : String → Option P
  run : P → Env → Except EvalError Value

/-- **The language of expressions.** -/
def expressions : Language Expr where
  compile? := Expr.parse?
  run := Expr.eval

/-- An evaluator of guards: the answer of a text, for some attributes and a marking. -/
abbrev Evaluator := String → Json → Marking → Except GuardError Bool

namespace Language

variable {P : Type} (l : Language P)

/-- What a guard's text compiles to. -/
def compile (text : String) : Except GuardError P :=
  match l.compile? text with
  | some program => .ok program
  | none => .error .unreadable

/-- The answer of what a guard compiled to. -/
def answer (program : P) (attributes : Json) (marking : Marking) : Except GuardError Bool := do
  verdict (← (l.run program (guardVariables attributes marking)).mapError .failed)

/-- **The answer of a guard.** -/
def evaluate : Evaluator := fun text attributes marking => do
  let text := Text.trim text
  if text = "" then return true
  l.answer (← l.compile text) attributes marking

end Language

end WorkflowEngine.Guard
