import WorkflowEngine.Json.Basic
import WorkflowEngine.Number.Reading

/-!
# Values of plain texts

What a plain text stands for. A few spellings mean null, a truth value or a number; every other text
stands for itself. Digits behind a leading nought are a text, and so is a number with separators.

* `isNullText`, `boolValue?`, `wholeValue?`, `floatValue?`: the spellings of each type;
* `plainValue?`: the value of a plain text; a whole number beyond sixty-four bits has none;
* `taggedValue?`: the value of a text whose type is given by a tag.
-/

namespace WorkflowEngine.Yaml

/-- The spellings of null, the empty one apart. -/
def isNullText (s : String) : Bool := ["~", "null", "Null", "NULL"].contains s

/-- The spellings of truth values. -/
def boolValue? (s : String) : Option Bool :=
  if ["true", "True", "TRUE"].contains s then some true
  else if ["false", "False", "FALSE"].contains s then some false
  else none

/-- Digits behind a leading nought, with or without a sign. -/
def isPaddedNumber (cs : List Char) : Bool :=
  match (scanSign cs).2 with
  | '0' :: rest => !rest.isEmpty && rest.all Char.isDigit
  | _ => false

/-- A number in base sixteen, eight or two, behind the mark of its base. -/
def basedNumber? : List Char → Option Nat
  | '0' :: 'x' :: digits => natOfDigits? 16 digits
  | '0' :: 'o' :: digits => natOfDigits? 8 digits
  | '0' :: 'b' :: digits => natOfDigits? 2 digits
  | _ => none

/-- **A whole number**, of any size. -/
def wholeValue? (cs : List Char) : Option Int :=
  let (negative, digits) := scanSign cs
  let magnitude := (basedNumber? digits).or
    (if isPaddedNumber cs then none else natOfDigits? 10 digits)
  magnitude.map fun n => if negative then -(n : Int) else n

/-- **A number with a point or an exponent**, or a name of infinity or NaN behind a point. -/
def floatValue? (s : String) : Option Binary64 :=
  if [".inf", ".Inf", ".INF", "+.inf", "+.Inf", "+.INF"].contains s then some (.infinity false)
  else if ["-.inf", "-.Inf", "-.INF"].contains s then some (.infinity true)
  else if [".nan", ".NaN", ".NAN"].contains s then some .nan
  else (Binary64.ofText? s).filter (·.isFinite)

/-- A whole number as a value, if sixty-four bits hold it. -/
def integerValue? (n : Int) : Option Json :=
  if -(Nat.pow 2 63 : Int) ≤ n ∧ n < Nat.pow 2 64 then some (.ofInt n) else none

/-- True of whole numbers that are read as such, whether or not sixty-four bits hold them. -/
def isReadableInteger (n : Int) : Bool := -(Nat.pow 2 127 : Int) ≤ n && n < Nat.pow 2 128

/-- The value of a number's text, if it is one: a whole number too large to be read is a float. -/
def numberValue? (s : String) : Option (Option Json) :=
  match (wholeValue? s.toList).filter isReadableInteger with
  | some n => some (integerValue? n)
  | none =>
    if isPaddedNumber s.toList then none
    else (floatValue? s).map fun x => some (.number (.float x))

/-- **The value of a plain text.** -/
def plainValue? (s : String) : Option Json :=
  if s = "" || isNullText s then some .null
  else match boolValue? s with
    | some b => some (.bool b)
    | none => (numberValue? s).getD (some (.string s))

/-- The family of the types that every reader knows. -/
def coreTag (name : String) : String := "tag:yaml.org,2002:" ++ name

/-- **The value of a text with a tag**: of the type that the tag names, if the text spells a value of
it; the text itself under any other tag. -/
def taggedValue? (tag s : String) : Option Json :=
  if tag = coreTag "bool" then (boolValue? s).map .bool
  else if tag = coreTag "int" then do
    integerValue? (← (wholeValue? s.toList).filter isReadableInteger)
  else if tag = coreTag "float" then (floatValue? s).map fun x => .number (.float x)
  else if tag = coreTag "null" then if isNullText s then some .null else none
  else some (.string s)

end WorkflowEngine.Yaml
