import WorkflowEngine.Guard.Syntax
import WorkflowEngine.Guard.Value

/-!
# Operators of guard expressions

* `EvalError`: why an expression has no value;
* `Value.arithmetic`: sums, products and the like;
* `Value.unary`, `Value.relate`: operators before one operand, and relations;
* `Value.select`, `Value.item`: access by name and by position.
-/

namespace WorkflowEngine.Guard

/-- **Why an expression has no value.** A missing attribute is told apart, since one can ask for it. -/
inductive EvalError where
  | missingAttribute (name : String)
  | undeclared (name : String)
  | unsupportedOperands
  | notComparable
  | unsupportedKey
  | unsupportedPosition
  | unsupportedRecord
  | missingArgument
  | wrongArgument
  deriving DecidableEq, Repr

/-- What evaluation yields. -/
abbrev Result := Except EvalError Value

namespace Value

/-! ## Arithmetic -/

/-- A signed whole number, wrapped into sixty-four bits. -/
def wrapInt (n : Int) : Value := .int (n.bmod (Nat.pow 2 64))

/-- An unsigned whole number, wrapped into sixty-four bits. -/
def wrapUint (n : Int) : Value := .uint (n % Nat.pow 2 64).toNat

/-- Arithmetic on two signed whole numbers. -/
def intArithmetic (op : Arithmetic) (a b : Int) : Result :=
  match op with
  | .add => .ok (wrapInt (a + b))
  | .subtract => .ok (wrapInt (a - b))
  | .multiply => .ok (wrapInt (a * b))
  | .divide => if b = 0 then .error .unsupportedOperands else .ok (wrapInt (a.tdiv b))
  | .remainder => if b = 0 then .error .unsupportedOperands else .ok (wrapInt (a.tmod b))

/-- Arithmetic on two unsigned whole numbers. -/
def uintArithmetic (op : Arithmetic) (a b : Nat) : Result :=
  match op with
  | .add => .ok (wrapUint (a + b))
  | .subtract => .ok (wrapUint ((a : Int) - b))
  | .multiply => .ok (wrapUint (a * b))
  | .divide => if b = 0 then .error .unsupportedOperands else .ok (.uint (a / b))
  | .remainder => if b = 0 then .error .unsupportedOperands else .ok (.uint (a % b))

/-- Arithmetic on two floating-point numbers. -/
def floatArithmetic (op : Arithmetic) (a b : Binary64) : Value :=
  match op with
  | .add => .float (.ofFloat (a.toFloat + b.toFloat))
  | .subtract => .float (.ofFloat (a.toFloat - b.toFloat))
  | .multiply => .float (.ofFloat (a.toFloat * b.toFloat))
  | .divide => .float (.ofFloat (a.toFloat / b.toFloat))
  | .remainder => .float (a.remainder b)

/-- The instant some nanoseconds later. -/
def later (z : ZonedInstant) (nanos : Int) : ZonedInstant :=
  let total := z.instant.seconds * 1000000000 + z.instant.nanos + nanos
  ⟨⟨total / 1000000000, (total % 1000000000).toNat⟩, z.offset⟩

/-- The nanoseconds from one instant to another. -/
def nanosBetween (a b : ZonedInstant) : Int :=
  (b.instant.seconds - a.instant.seconds) * 1000000000 + b.instant.nanos - a.instant.nanos

/-- The entries of the second map put on top of those of the first one. -/
def mergeEntries (a b : List (Key × Value)) : List (Key × Value) :=
  b.foldl (fun entries (k, v) => put k v entries) a

/-- **Sums, products and the like.** The two kinds of whole numbers do not mix. -/
def arithmetic (op : Arithmetic) (a b : Value) : Result :=
  match op, a, b with
  | op, .int a, .int b => intArithmetic op a b
  | op, .uint a, .uint b => uintArithmetic op a b
  | op, .float a, .float b => .ok (floatArithmetic op a b)
  | op, .int a, .float b => .ok (floatArithmetic op (.ofInt a) b)
  | op, .uint a, .float b => .ok (floatArithmetic op (.ofInt a) b)
  | op, .float a, .int b => .ok (floatArithmetic op a (.ofInt b))
  | op, .float a, .uint b => .ok (floatArithmetic op a (.ofInt b))
  | .add, .string a, .string b => .ok (.string (a ++ b))
  | .add, .list a, .list b => .ok (.list (a ++ b))
  | .add, .map a, .map b => .ok (.map (mergeEntries a b))
  | .add, .span a, .span b => .ok (.span (a + b))
  | .add, .time a, .span b | .add, .span b, .time a => .ok (.time (later a b))
  | .subtract, .span a, .span b => .ok (.span (a - b))
  | .subtract, .time a, .span b => .ok (.time (later a (-b)))
  | .subtract, .time a, .time b => .ok (.span (nanosBetween b a))
  | _, _, _ => .error .unsupportedOperands

/-! ## One operand, and relations -/

/-- **Operators before one operand.** -/
def unary (op : UnaryOperator) (v : Value) : Result :=
  match op, v with
  | .negation, v => .ok (.bool !v.truthy)
  | .doubleNegation, v => .ok (.bool v.truthy)
  | .minus, .int n => .ok (wrapInt (-n))
  | .minus, .float x => .ok (.float (.ofFloat (-x.toFloat)))
  | .doubleMinus, .int n => .ok (.int n)
  | .doubleMinus, .uint n => .ok (.uint n)
  | .doubleMinus, .float x => .ok (.float x)
  | _, _ => .error .unsupportedOperands

/-- True when one row of characters occurs in another. -/
def occursIn (part : List Char) : List Char → Bool
  | [] => part.isEmpty
  | c :: cs => part.isPrefixOf (c :: cs) || occursIn part cs

/-- An order that has to exist, tested. -/
def ordered (a b : Value) (test : Ordering → Bool) : Result :=
  match compare? a b with
  | some order => .ok (.bool (test order))
  | none => .error .notComparable

/-- **Relations.** Text may be part of text, a value member of a list, and a key of a map. -/
def relate (relation : Relation) (a b : Value) : Result :=
  match relation with
  | .equal => .ok (.bool (same b a))
  | .notEqual => .ok (.bool !same b a)
  | .less => ordered a b (· == .lt)
  | .lessEqual => ordered a b (· != .gt)
  | .greater => ordered a b (· == .gt)
  | .greaterEqual => ordered a b (· != .lt)
  | .member =>
    match a, b with
    | .string a, .string b => .ok (.bool (occursIn a.toList b.toList))
    | a, .list items => .ok (.bool (items.any (same · a)))
    | a, .map entries =>
      .ok (.bool ((a.toKey?.bind fun key => lookup key entries).isSome))
    | _, _ => .error .notComparable

/-! ## Access -/

/-- The one-byte character at a byte position of a text. -/
def byteCharAt? : List Char → Nat → Option Char
  | [], _ => none
  | c :: cs, n =>
    if n = 0 then (if c.utf8Size = 1 then some c else none)
    else if n < c.utf8Size then none
    else byteCharAt? cs (n - c.utf8Size)

/-- **Access by position or key.** Where there is nothing, the answer is null. -/
def item (subject position : Value) : Result :=
  match subject, position with
  | .list items, .int n => .ok (if 0 ≤ n then items.getD n.toNat .null else .null)
  | .string s, .int n =>
    .ok (if 0 ≤ n then ((byteCharAt? s.toList n.toNat).map fun c => .string (.singleton c)).getD .null
      else .null)
  | .map entries, position =>
    match position.toKey? with
    | some key => .ok ((lookup key entries).getD .null)
    | none => .error .unsupportedPosition
  | _, _ => .error .unsupportedPosition

/-- **Access by name.** Where a map has no such key, the name of a function yields that function. -/
def select (isFunction : Bool) (subject : Value) (name : String) : Result :=
  let child := match subject with
    | .map entries => lookup (.string name) entries
    | _ => none
  match child with
  | some v => .ok v
  | none =>
    if isFunction then .ok (.function name subject) else .error (.missingAttribute name)

end Value

end WorkflowEngine.Guard
