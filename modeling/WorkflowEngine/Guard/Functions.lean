import WorkflowEngine.Guard.Operators
import WorkflowEngine.Guard.Pattern
import WorkflowEngine.Time.Span

/-!
# Functions of guard expressions

A function is called with arguments that have not been evaluated, perhaps on a subject that has.
Most functions work on the subject, or on their first argument when there is none; some take their
arguments only. Surplus arguments are ignored.

* `Env`, `Argument`, `Call`: variables, arguments, and a call in progress;
* `Call.subject`, `Call.value`: the next operand taken from a call;
* `functions`, `function?`: the functions by name.
-/

namespace WorkflowEngine.Guard

/-- **The variables in scope**; the first of a name counts. -/
abbrev Env := List (String × Value)

/-- The value of a variable. -/
def Env.get? (env : Env) (name : String) : Option Value := (env.find? (·.1 = name)).map (·.2)

/-- **An argument**: its value in an environment, and its name when it is a variable. -/
structure Argument where
  name? : Option String
  eval : Env → Result

/-- **A call in progress**: the subject, if it was called on one, and the arguments not yet taken. -/
structure Call where
  env : Env
  subject? : Option Value
  arguments : List Argument

namespace Call

/-- The next argument. -/
def next (call : Call) : Except EvalError (Argument × Call) :=
  match call.arguments with
  | argument :: rest => .ok (argument, { call with arguments := rest })
  | [] => .error .missingArgument

/-- The value of the next argument. -/
def value (call : Call) : Except EvalError (Value × Call) := do
  let (argument, call) ← call.next
  return (← argument.eval call.env, call)

/-- The subject, or the value of the next argument when there is none. -/
def subject (call : Call) : Except EvalError (Value × Call) :=
  match call.subject? with
  | some v => .ok (v, call)
  | none => call.value.mapError fun _ => .missingArgument

/-- The next argument's name, which has to be a variable. -/
def loopName (call : Call) : Except EvalError (String × Call) := do
  let (argument, call) ← call.next
  match argument.name? with
  | some name => return (name, call)
  | none => throw .wrongArgument

/-- A value that has to be text. -/
def text : Value → Except EvalError String
  | .string s => .ok s
  | _ => .error .wrongArgument

/-! ## Text and containers -/

/-- The number of bytes, items or entries of the argument. -/
def size (call : Call) : Result := do
  let (v, _) ← call.value
  match v with
  | .list items => return .int items.length
  | .map entries => return .int entries.length
  | .string s => return .int s.utf8ByteSize
  | .bytes b => return .int b.length
  | _ => throw .wrongArgument

/-- True when a row of bytes occurs in another. -/
def bytesOccurIn (part : List UInt8) : List UInt8 → Bool
  | [] => part.isEmpty
  | b :: bs => part.isPrefixOf (b :: bs) || bytesOccurIn part bs

/-- True when the subject contains the argument. -/
def contains (call : Call) : Result := do
  let (subject, call) ← call.subject
  let (v, _) ← call.value
  match subject, v with
  | .list items, v => return .bool (items.any (Value.same · v))
  | .map entries, v =>
    match v.toKey? with
    | some key => return .bool (lookup key entries).isSome
    | none => throw .unsupportedKey
  | .string s, .string part => return .bool (Value.occursIn part.toList s.toList)
  | .bytes b, .bytes part => return .bool (bytesOccurIn part b)
  | _, _ => return .bool false

/-- A test of the subject's text against the argument's. -/
def textTest (test : String → String → Result) (call : Call) : Result := do
  let (subject, call) ← call.subject
  let subject ← text subject
  let (v, _) ← call.value
  test subject (← text v)

/-- A search of the subject for a pattern. -/
def search (subject pattern : String) : Result :=
  match Pattern.parse? pattern with
  | some p => .ok (.bool (p.isFoundIn subject))
  | none => .error .wrongArgument

/-- True unless the argument asks for a missing attribute. -/
def has (call : Call) : Result := do
  let (argument, call) ← call.next
  match argument.eval call.env with
  | .ok _ => return .bool true
  | .error (.missingAttribute _) => return .bool false
  | .error e => throw e

/-! ## Items one by one -/

/-- The items of a list, or the keys of a map where those may be visited. -/
def items (keys : Bool) : Value → Except EvalError (List Value)
  | .list items => .ok items
  | .map entries => if keys then .ok (entries.map fun e => .ofKey e.1) else .error .wrongArgument
  | _ => .error .wrongArgument

/-- The items of the subject, and the body as a function of an item. -/
def loop (keys : Bool) (call : Call) : Except EvalError (List Value × (Value → Result)) := do
  let (subject, call) ← call.subject
  let (name, call) ← call.loopName
  let (body, call) ← call.next
  return (← items keys subject, fun item => body.eval ((name, item) :: call.env))

/-- True of the value true alone. -/
def isTrue : Value → Bool
  | .bool b => b
  | _ => false

/-- True of the value false alone. -/
def isFalse : Value → Bool
  | .bool b => !b
  | _ => false

/-- The body's values of the items. -/
def map (call : Call) : Result := do
  let (items, body) ← call.loop false
  return .list (← items.mapM body)

/-- The items whose body is true. -/
def filter (call : Call) : Result := do
  let (items, body) ← call.loop false
  return .list (← items.filterM fun item => return isTrue (← body item))

/-- True unless the body of an item is false; nothing behind such an item is evaluated. -/
def allOf (body : Value → Result) : List Value → Except EvalError Bool
  | [] => .ok true
  | item :: rest => do if isFalse (← body item) then return false else allOf body rest

/-- True when the body of an item is true; nothing behind such an item is evaluated. -/
def anyOf (body : Value → Result) : List Value → Except EvalError Bool
  | [] => .ok false
  | item :: rest => do if isTrue (← body item) then return true else anyOf body rest

/-- True when the body of exactly one item is true, given whether there was one before; nothing
behind a second one is evaluated. -/
def oneOf (body : Value → Result) : Bool → List Value → Except EvalError Bool
  | found, [] => .ok found
  | found, item :: rest => do
    if isTrue (← body item) then (if found then return false else oneOf body true rest)
    else oneOf body found rest

/-- A quantifier over the items or keys of the subject. -/
def quantifier (test : (Value → Result) → List Value → Except EvalError Bool) (call : Call) :
    Result := do
  let (items, body) ← call.loop true
  return .bool (← test body items)

/-- The greatest of values, the last one of equals. -/
def greatest : Value → List Value → Result
  | best, [] => .ok best
  | best, v :: rest =>
    match Value.compare? best v with
    | some .gt => greatest best rest
    | some _ => greatest v rest
    | none => .error .notComparable

/-- The greatest of the arguments; a single list stands for its items. -/
def max (call : Call) : Result := do
  let values : List Value ← call.arguments.mapM fun argument => argument.eval call.env
  match values with
  | [.list []] | [] => return .null
  | [.list (v :: rest)] => greatest v rest
  | v :: rest => greatest v rest

/-! ## Conversions -/

/-- Floating-point numbers as text are always positional, and whole ones have no point. -/
def floatLayout : FloatLayout := ⟨-400, 400, false, ""⟩

/-- The text of a floating-point number. -/
def floatText (x : Binary64) : String :=
  if x.isFinite then floatLayout.render x
  else if x.isNaN then "NaN"
  else if x.isNegative then "-inf" else "inf"

/-- The text of the subject. -/
def string (call : Call) : Result := do
  let (subject, _) ← call.subject
  match subject with
  | .string s => return .string s
  | .int n => return .string (toString n)
  | .uint n => return .string (toString n)
  | .float x => return .string (floatText x)
  | .time z => return .string z.text
  | .span n => return .string (spanText n)
  | .bytes b =>
    match String.fromUTF8? ⟨b.toArray⟩ with
    | some s => return .string s
    | none => return .string (String.ofList (b.map fun x =>
        if x < 128 then Char.ofNat x.toNat else '\ufffd'))
  | _ => throw .wrongArgument

/-- The bytes of the argument's text. -/
def bytes (call : Call) : Result := do
  let (v, _) ← call.value
  return .bytes (← text v).toUTF8.data.toList

/-- The subject as a floating-point number. -/
def double (call : Call) : Result := do
  let (subject, _) ← call.subject
  match subject with
  | .string s =>
    match Binary64.ofText? s with
    | some x => return .float x
    | none => throw .wrongArgument
  | .float x => return .float x
  | .int n => return .float (.ofInt n)
  | .uint n => return .float (.ofInt n)
  | _ => throw .wrongArgument

/-- The whole part of a floating-point number between two bounds; NaN counts as zero. -/
def wholePart (least most : Int) (x : Binary64) : Except EvalError Int :=
  if x.isNaN then .ok 0
  else if !x.isFinite then .error .wrongArgument
  else if (Binary64.ofInt (most + 1)).toFloat < x.toFloat ∨ x.toFloat < (Binary64.ofInt least).toFloat
  then .error .wrongArgument
  else .ok (Min.min most (Max.max least x.truncate))

/-- The subject as a signed whole number. -/
def int (call : Call) : Result := do
  let (subject, _) ← call.subject
  match subject with
  | .string s =>
    match intOfText? (Nat.pow 2 63) s with
    | some n => return .int n
    | none => throw .wrongArgument
  | .float x => return .int (← wholePart (-Nat.pow 2 63) (Nat.pow 2 63 - 1) x)
  | .int n => return .int n
  | .uint n => if n < Nat.pow 2 63 then return .int n else throw .wrongArgument
  | _ => throw .wrongArgument

/-- The subject as an unsigned whole number. -/
def uint (call : Call) : Result := do
  let (subject, _) ← call.subject
  match subject with
  | .string s =>
    match natOfText? (Nat.pow 2 64) s with
    | some n => return .uint n
    | none => throw .wrongArgument
  | .float x => return .uint (← wholePart 0 (Nat.pow 2 64 - 1) x).toNat
  | .int n => if 0 ≤ n then return .uint n.toNat else throw .wrongArgument
  | .uint n => return .uint n
  | _ => throw .wrongArgument

/-- A value read from the argument's text. -/
def reading (read : String → Option Value) (call : Call) : Result := do
  let (v, _) ← call.value
  match read (← text v) with
  | some v => return v
  | none => throw .wrongArgument

end Call

/-- **The functions by name.** -/
def functions : List (String × (Call → Result)) := [
  ("size", Call.size),
  ("has", Call.has),
  ("contains", Call.contains),
  ("startsWith", Call.textTest fun s t => .ok (.bool (t.toList.isPrefixOf s.toList))),
  ("endsWith", Call.textTest fun s t => .ok (.bool (t.toList.isSuffixOf s.toList))),
  ("matches", Call.textTest Call.search),
  ("map", Call.map),
  ("filter", Call.filter),
  ("all", Call.quantifier Call.allOf),
  ("exists", Call.quantifier Call.anyOf),
  ("exists_one", Call.quantifier fun body => Call.oneOf body false),
  ("max", Call.max),
  ("string", Call.string),
  ("bytes", Call.bytes),
  ("double", Call.double),
  ("int", Call.int),
  ("uint", Call.uint),
  ("duration", Call.reading fun s => (spanOfText? s).map .span),
  ("timestamp", Call.reading fun s => (ZonedInstant.ofText? s).map .time)]

/-- The function of a name. -/
def function? (name : String) : Option (Call → Result) :=
  (functions.find? (·.1 = name)).map (·.2)

end WorkflowEngine.Guard
