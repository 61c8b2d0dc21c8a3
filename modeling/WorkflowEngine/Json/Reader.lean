import WorkflowEngine.Document.Basic
import WorkflowEngine.Number.Reading

/-!
# Reading JSON

The text of one JSON value, read as a document. Numbers beyond the double-precision range and texts
with half of a surrogate pair are well-formed but have no value; nested containers are readable down
to `depthLimit`.

* `Json.depthLimit`;
* `Json.numberValue`: the value of a number's parts; a fraction is read by its leading digits;
* `Json.readText`: the characters of a quoted text;
* `Json.document?`: the document of a text; `Json.parse?`: its value.
-/

namespace WorkflowEngine.Json

/-- The greatest number of containers around a readable part, the outermost included. -/
def depthLimit : Nat := 127

/-- The blanks between the parts of a JSON text. -/
def isGap (c : Char) : Bool := c = ' ' || c = '\n' || c = '\t' || c = '\r'

/-- The text without the blanks at its start. -/
def skipGaps (cs : List Char) : List Char := cs.dropWhile isGap

/-! ## Numbers -/

/-- The number of the leading digits that sixty-four bits hold, counted on from a given one, and the
digits behind them. -/
def leadingDigits : Nat → List Char → Nat × List Char
  | n, [] => (n, [])
  | n, c :: cs =>
    let m := 10 * n + (c.toNat - 48)
    if m < Nat.pow 2 64 then leadingDigits m cs else (n, c :: cs)

/-- **The double-precision number of a number's parts**, made of its leading digits. A number beyond
the range has none. -/
def floatValue? (negative : Bool) (whole fraction : List Char) (exponent : Int) : Option Binary64 :=
  let (n, passed) := leadingDigits 0 whole
  let (n, dropped) := leadingDigits n fraction
  let x := Binary64.nearDecimal negative n
    (exponent + passed.length - (fraction.length - dropped.length))
  if x.isFinite then some x else none

/-- **The value of a number** of the given whole digits, fraction digits and exponent. A number
without fraction and exponent is whole when it fits into sixty-four bits; no whole number is minus
zero. -/
def numberValue (negative : Bool) (whole fraction : List Char) (exponent : Option Int) :
    Option Number :=
  let n := digitsValue whole
  let float := (floatValue? negative whole fraction (exponent.getD 0)).map Number.float
  if fraction.isEmpty ∧ exponent = none then
    if negative then
      if 0 < n ∧ n ≤ Nat.pow 2 63 then some (.integer (-(n : Int))) else float
    else if n < Nat.pow 2 64 then some (.integer n) else float
  else float

/-- The exponent part at the start of a text, if there is one. -/
def readExponent : List Char → Option (Option Int × List Char)
  | e :: cs =>
    if e = 'e' ∨ e = 'E' then
      let (negative, cs) := match cs with
        | '-' :: rest => (true, rest)
        | '+' :: rest => (false, rest)
        | rest => (false, rest)
      let digits := cs.takeWhile Char.isDigit
      if digits.isEmpty then none
      else
        let n : Int := digitsValue digits
        some (some (if negative then -n else n), cs.dropWhile Char.isDigit)
    else some (none, e :: cs)
  | [] => some (none, [])

/-- The fraction part at the start of a text, if there is one. -/
def readFraction : List Char → Option (List Char × List Char)
  | '.' :: cs =>
    let digits := cs.takeWhile Char.isDigit
    if digits.isEmpty then none else some (digits, cs.dropWhile Char.isDigit)
  | cs => some ([], cs)

/-- The number at the start of a text. -/
def readNumber (cs : List Char) : Option (Document × List Char) := do
  let (negative, cs) := match cs with
    | '-' :: rest => (true, rest)
    | rest => (false, rest)
  let whole := cs.takeWhile Char.isDigit
  if whole.isEmpty ∨ (whole.head? = some '0' ∧ 1 < whole.length) then none
  let (fraction, cs) ← readFraction (cs.dropWhile Char.isDigit)
  let (exponent, cs) ← readExponent cs
  return (.scalar none ((numberValue negative whole fraction exponent).map .number), cs)

/-! ## Texts -/

/-- The value of a digit in base sixteen. -/
def hexDigit? (c : Char) : Option Nat :=
  if c.isDigit then some (c.toNat - 48)
  else if 'a' ≤ c ∧ c ≤ 'f' then some (c.toNat - 87)
  else if 'A' ≤ c ∧ c ≤ 'F' then some (c.toNat - 55)
  else none

/-- The value of four digits in base sixteen. -/
def hexQuad? (a b c d : Char) : Option Nat :=
  return ((← hexDigit? a) * 16 + (← hexDigit? b)) * 256 + (← hexDigit? c) * 16 + (← hexDigit? d)

/-- The character of a one-letter escape. -/
def escape? : Char → Option Char
  | '"' => some '"'
  | '\\' => some '\\'
  | '/' => some '/'
  | 'b' => some (Char.ofNat 8)
  | 'f' => some (Char.ofNat 12)
  | 'n' => some '\n'
  | 'r' => some '\r'
  | 't' => some '\t'
  | _ => none

/-- The characters read so far, or nothing once half of a surrogate pair has been met. -/
abbrev Reading := Option (List Char)

/-- **A quoted text after its opening quote.** The pending number is the first half of a surrogate
pair whose second half has to come next. -/
def readText : Option Nat → Reading → List Char → Option (Option String × List Char)
  | pending, read, '"' :: rest =>
    some (if pending.isSome then none else read.map fun cs => String.ofList cs.reverse, rest)
  | pending, read, '\\' :: 'u' :: a :: b :: c :: d :: rest => do
    let n ← hexQuad? a b c d
    let second := 0xDC00 ≤ n ∧ n ≤ 0xDFFF
    match pending with
    | some high =>
      if second then
        let whole := Char.ofNat (0x10000 + (high - 0xD800) * 0x400 + (n - 0xDC00))
        readText none (read.map (whole :: ·)) rest
      else readText none none rest
    | none =>
      if 0xD800 ≤ n ∧ n ≤ 0xDBFF then readText (some n) read rest
      else if second then readText none none rest
      else readText none (read.map (Char.ofNat n :: ·)) rest
  | pending, read, '\\' :: e :: rest => do
    let c ← escape? e
    readText none (if pending.isSome then none else read.map (c :: ·)) rest
  | pending, read, c :: rest =>
    if c.toNat < 32 then none
    else readText none (if pending.isSome then none else read.map (c :: ·)) rest
  | _, _, [] => none

/-- A text as a document. -/
def textDocument (s : Option String) : Document := .scalar s (s.map .string)

/-! ## Values -/

/-- The rest of a text after a given start. -/
def dropStart? : List Char → List Char → Option (List Char)
  | [], cs => some cs
  | a :: as, b :: bs => if a = b then dropStart? as bs else none
  | _ :: _, [] => none

mutual

/-- The value at the start of a text, within the given number of steps. -/
def readValue : Nat → List Char → Option (Document × List Char)
  | 0, _ => none
  | fuel + 1, cs =>
    match skipGaps cs with
    | '"' :: rest => do
      let (s, rest) ← readText none (some []) rest
      return (textDocument s, rest)
    | '[' :: rest =>
      match skipGaps rest with
      | ']' :: rest => some (.list [], rest)
      | rest => do
        let (items, rest) ← readItems fuel rest
        return (.list items, rest)
    | '{' :: rest =>
      match skipGaps rest with
      | '}' :: rest => some (.mapping [], rest)
      | rest => do
        let (entries, rest) ← readEntries fuel rest
        return (.mapping entries, rest)
    | 'n' :: rest => (dropStart? ['u', 'l', 'l'] rest).map (.scalar none (some .null), ·)
    | 't' :: rest => (dropStart? ['r', 'u', 'e'] rest).map (.scalar none (some (.bool true)), ·)
    | 'f' :: rest =>
      (dropStart? ['a', 'l', 's', 'e'] rest).map (.scalar none (some (.bool false)), ·)
    | rest => readNumber rest

/-- The items of a list from its first item to its closing bracket. -/
def readItems : Nat → List Char → Option (List Document × List Char)
  | 0, _ => none
  | fuel + 1, cs => do
    let (item, rest) ← readValue fuel cs
    match skipGaps rest with
    | ']' :: rest => return ([item], rest)
    | ',' :: rest =>
      let (items, rest) ← readItems fuel rest
      return (item :: items, rest)
    | _ => none

/-- The entries of an object from its first key to its closing brace. -/
def readEntries : Nat → List Char → Option (List (Document × Document) × List Char)
  | 0, _ => none
  | fuel + 1, cs =>
    match skipGaps cs with
    | '"' :: rest => do
      let (key, rest) ← readText none (some []) rest
      match skipGaps rest with
      | ':' :: rest =>
        let (value, rest) ← readValue fuel rest
        match skipGaps rest with
        | '}' :: rest => return ([(textDocument key, value)], rest)
        | ',' :: rest =>
          let (entries, rest) ← readEntries fuel rest
          return ((textDocument key, value) :: entries, rest)
        | _ => none
      | _ => none
    | _ => none

end

/-- **The document of a JSON text.** Every step consumes a character, so the length of the text
bounds the steps. -/
def document? (s : String) : Option Document := do
  let cs := s.toList
  let (d, rest) ← readValue (2 * cs.length + 2) cs
  if (skipGaps rest).isEmpty then some (d.limitDepth depthLimit) else none

/-- **The value of a JSON text.** -/
def parse? (s : String) : Option Json := do
  (← document? s).value?

end WorkflowEngine.Json
