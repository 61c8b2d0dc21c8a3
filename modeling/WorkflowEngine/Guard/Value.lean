import WorkflowEngine.Json.Basic
import WorkflowEngine.Time.Instant

/-!
# Values of guard expressions

What a guard expression computes with. Numbers come in three kinds, which compare with each other
but are never converted for arithmetic, except to meet a floating-point number.

* `Value`, `Key`: values, and the keys of maps;
* `Value.same`: equality, across the kinds of numbers;
* `Value.compare?`: order, where there is one;
* `Value.truthy`: the truth of any value;
* `Value.ofJson`: the value of an attribute.
-/

namespace WorkflowEngine.Guard

/-- **Keys of maps.** Whole numbers of the two kinds are different keys. -/
inductive Key where
  | int (value : Int)
  | uint (value : Nat)
  | bool (value : Bool)
  | string (value : String)
  deriving DecidableEq, Repr, Inhabited

/-- **Values of guard expressions.** A function value is what a function's name after a dot yields. -/
inductive Value where
  | null
  | bool (value : Bool)
  | int (value : Int)
  | uint (value : Nat)
  | float (value : Binary64)
  | string (value : String)
  | bytes (value : List UInt8)
  | span (nanos : Int)
  | time (value : ZonedInstant)
  | list (items : List Value)
  | map (entries : List (Key × Value))
  | function (name : String) (subject : Value)
  deriving Inhabited

/-- The value under a key. -/
def lookup (key : Key) : List (Key × Value) → Option Value
  | [] => none
  | (k, v) :: rest => if k = key then some v else lookup key rest

/-- Put a value under a key, in place of an earlier one. -/
def put (key : Key) (value : Value) : List (Key × Value) → List (Key × Value)
  | [] => [(key, value)]
  | (k, v) :: rest => if k = key then (key, value) :: rest else (k, v) :: put key value rest

namespace Value

/-! ## Equality and order -/

/-- A whole number as a floating-point one. -/
def toFloat (n : Int) : Float := (Binary64.ofInt n).toFloat

mutual

/-- **Equality of values**, across the kinds of numbers; other kinds are never equal. -/
def same : Value → Value → Bool
  | .null, .null => true
  | .bool a, .bool b => a == b
  | .int a, .int b => a == b
  | .int a, .uint b => a == (b : Int)
  | .int a, .float b => toFloat a == b.toFloat
  | .uint a, .uint b => a == b
  | .uint a, .int b => (a : Int) == b
  | .uint a, .float b => toFloat a == b.toFloat
  | .float a, .float b => a.toFloat == b.toFloat
  | .float a, .int b => a.toFloat == toFloat b
  | .float a, .uint b => a.toFloat == toFloat b
  | .string a, .string b => a == b
  | .bytes a, .bytes b => a == b
  | .span a, .span b => a == b
  | .time a, .time b => a.instant == b.instant
  | .list a, .list b => sameItems a b
  | .map a, .map b => a.length == b.length && sameEntries a b
  | .function f a, .function g b => f == g && same a b
  | _, _ => false

/-- Equality of lists, item by item. -/
def sameItems : List Value → List Value → Bool
  | [], [] => true
  | a :: as, b :: bs => same a b && sameItems as bs
  | _, _ => false

/-- True when every entry of the first list has an equal value in the second one. -/
def sameEntries : List (Key × Value) → List (Key × Value) → Bool
  | [], _ => true
  | (k, a) :: rest, entries =>
    (match lookup k entries with
      | some b => same a b
      | none => false) && sameEntries rest entries

end

/-- The order of two floating-point numbers, unless one is NaN. -/
def compareFloats (a b : Float) : Option Ordering :=
  if a < b then some .lt else if a == b then some .eq else if b < a then some .gt else none

/-- **The order of two values**, where there is one. -/
def compare? : Value → Value → Option Ordering
  | .null, .null => some .eq
  | .bool a, .bool b => some (Ord.compare a.toNat b.toNat)
  | .int a, .int b => some (Ord.compare a b)
  | .int a, .uint b => some (Ord.compare a (b : Int))
  | .int a, .float b => compareFloats (toFloat a) b.toFloat
  | .uint a, .uint b => some (Ord.compare a b)
  | .uint a, .int b => some (Ord.compare (a : Int) b)
  | .uint a, .float b => compareFloats (toFloat a) b.toFloat
  | .float a, .float b => compareFloats a.toFloat b.toFloat
  | .float a, .int b => compareFloats a.toFloat (toFloat b)
  | .float a, .uint b => compareFloats a.toFloat (toFloat b)
  | .string a, .string b => some (if a < b then .lt else if a = b then .eq else .gt)
  | .span a, .span b => some (Ord.compare a b)
  | .time a, .time b =>
    some (Ord.compare a.instant.seconds b.instant.seconds
      |>.then (Ord.compare a.instant.nanos b.instant.nanos))
  | _, _ => none

/-! ## Truth and kinds -/

/-- True of counts of nanoseconds within sixty-four bits. -/
def isNanosCount (n : Int) : Bool := -(Nat.pow 2 63 : Int) ≤ n && n < Nat.pow 2 63

/-- **The truth of any value**: empty, zero and null are false, and so is a time whose nanoseconds
do not fit sixty-four bits. -/
def truthy : Value → Bool
  | .null | .function .. => false
  | .bool b => b
  | .int n => n ≠ 0
  | .uint n => n ≠ 0
  | .float x => !x.isZero
  | .string s => s ≠ ""
  | .bytes b => !b.isEmpty
  | .span n => n ≠ 0 && isNanosCount n
  | .time z =>
    let n := z.instant.seconds * 1000000000 + z.instant.nanos
    0 < n && isNanosCount n
  | .list items => !items.isEmpty
  | .map entries => !entries.isEmpty

/-- The key that a value stands for, if it can be one. -/
def toKey? : Value → Option Key
  | .int n => some (.int n)
  | .uint n => some (.uint n)
  | .bool b => some (.bool b)
  | .string s => some (.string s)
  | _ => none

/-- The value of a key. -/
def ofKey : Key → Value
  | .int n => .int n
  | .uint n => .uint n
  | .bool b => .bool b
  | .string s => .string s

/-! ## Attributes -/

mutual

/-- **The value of an attribute**: whole numbers that are not negative are of the unsigned kind. -/
def ofJson : Json → Value
  | .null => .null
  | .bool b => .bool b
  | .number (.integer n) => if 0 ≤ n then .uint n.toNat else .int n
  | .number (.float x) => .float x
  | .string s => .string s
  | .array items => .list (ofItems items)
  | .object fields => .map (ofFields fields)

/-- The values of a list of attributes. -/
def ofItems : List Json → List Value
  | [] => []
  | item :: rest => ofJson item :: ofItems rest

/-- The entries of an object's fields. -/
def ofFields : List (String × Json) → List (Key × Value)
  | [] => []
  | (key, value) :: rest => (.string key, ofJson value) :: ofFields rest

end

end Value

end WorkflowEngine.Guard
