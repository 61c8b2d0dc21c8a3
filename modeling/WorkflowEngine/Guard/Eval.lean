import WorkflowEngine.Guard.Functions

/-!
# Evaluation of guard expressions

* `Literal.value`: the value of a literal;
* `Expr.eval`: the value of an expression in an environment.
-/

namespace WorkflowEngine.Guard

/-- The value of a literal. -/
def Literal.value : Literal → Value
  | .null => .null
  | .bool b => .bool b
  | .int n => .int n
  | .float x => .float x
  | .string s => .string s
  | .bytes b => .bytes b

mutual

/-- **The value of an expression.** Both sides of a conjunction are always evaluated; a disjunction
has the value of its left side when that is true, and of its right side otherwise. -/
def Expr.eval : Expr → Env → Result
  | .literal value, _ => .ok value.value
  | .ident name, env =>
    match env.get? name with
    | some v => .ok v
    | none => .error (.undeclared name)
  | .unary op operand, env => do (← operand.eval env).unary op
  | .arithmetic op left right, env => do
    let a ← left.eval env
    Value.arithmetic op a (← right.eval env)
  | .relation relation left right, env => do
    let a ← left.eval env
    Value.relate relation a (← right.eval env)
  | .and left right, env => do
    let a ← left.eval env
    let b ← right.eval env
    return .bool (a.truthy && b.truthy)
  | .or left right, env => do
    let a ← left.eval env
    if a.truthy then return a else right.eval env
  | .conditional condition yes no, env => do
    if (← condition.eval env).truthy then yes.eval env else no.eval env
  | .select subject name, env => do
    (← subject.eval env).select (function? name).isSome name
  | .index subject position, env => do
    let v ← subject.eval env
    v.item (← position.eval env)
  | .record subject _, env => do
    let _ ← subject.eval env
    throw .unsupportedRecord
  | .list items, env => return .list (← evalItems items env)
  | .map entries, env =>
    return .map ((← evalEntries entries env).foldl (fun m (k, v) => put k v m) [])
  | .call name none arguments, env =>
    match function? name with
    | some run => run ⟨env, none, argumentsOf arguments⟩
    | none => .error (.undeclared name)
  | .call name (some subject) arguments, env =>
    match function? name with
    | some run => do run ⟨env, some (← subject.eval env), argumentsOf arguments⟩
    | none => .error (.undeclared name)

/-- The values of a list of expressions. -/
def evalItems : List Expr → Env → Except EvalError (List Value)
  | [], _ => .ok []
  | item :: rest, env => do
    let v ← item.eval env
    return v :: (← evalItems rest env)

/-- The keys and values of the entries of a map. -/
def evalEntries : List (Expr × Expr) → Env → Except EvalError (List (Key × Value))
  | [], _ => .ok []
  | (key, value) :: rest, env => do
    match (← key.eval env).toKey? with
    | none => throw .unsupportedKey
    | some k =>
      let v ← value.eval env
      return (k, v) :: (← evalEntries rest env)

/-- Expressions as arguments that are evaluated when they are needed. -/
def argumentsOf : List Expr → List Argument
  | [] => []
  | item :: rest => ⟨item.ident?, fun env => item.eval env⟩ :: argumentsOf rest

end

end WorkflowEngine.Guard
