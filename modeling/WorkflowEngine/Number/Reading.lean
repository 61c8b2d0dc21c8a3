import WorkflowEngine.Number.Binary64

/-!
# Reading numbers from text

* `digitsValue`: the number a row of digits stands for;
* `natOfText?`, `intOfText?`: whole numbers of a bounded range, with an optional sign;
* `DecimalText`, `scanDecimal?`: the decimal number at the start of a text;
* `Binary64.ofText?`: a double-precision number, or one of the names of infinity and NaN.
-/

namespace WorkflowEngine

/-- The value of a digit in any base up to thirty-six. -/
def digitValue? (c : Char) : Option Nat :=
  if c.isDigit then some (c.toNat - 48)
  else if c.isLower then some (c.toNat - 87)
  else if c.isUpper then some (c.toNat - 55)
  else none

/-- The number that a non-empty row of digits in a base stands for. -/
def natOfDigits? (base : Nat) (cs : List Char) : Option Nat :=
  if cs.isEmpty then none
  else cs.foldlM (fun n c => do
    let v ← digitValue? c
    if v < base then some (n * base + v) else none) 0

/-- The number that a row of decimal digits stands for. -/
def digitsValue (cs : List Char) : Nat := cs.foldl (fun n c => 10 * n + (c.toNat - 48)) 0

/-- A whole number in a base, not negative and below a bound; a plus sign may stand before it. -/
def natOfChars? (base bound : Nat) : List Char → Option Nat
  | cs => do
    let n ← natOfDigits? base (if cs.head? = some '+' then cs.tail else cs)
    if n < bound then some n else none

/-- A whole number in a base within `[-bound, bound)`; a sign may stand before it. -/
def intOfChars? (base bound : Nat) (cs : List Char) : Option Int :=
  if cs.head? = some '-' then do
    let n ← natOfDigits? base cs.tail
    if n ≤ bound then some (-(n : Int)) else none
  else (natOfChars? base bound cs).map Int.ofNat

/-- **A whole number below a bound.** -/
def natOfText? (bound : Nat) (s : String) : Option Nat := natOfChars? 10 bound s.toList

/-- **A whole number within `[-bound, bound)`.** -/
def intOfText? (bound : Nat) (s : String) : Option Int := intOfChars? 10 bound s.toList

/-- A decimal number as it is written: `± digits · 10 ^ exponent`. -/
structure DecimalText where
  negative : Bool
  digits : Nat
  exponent : Int

/-- The nearest double-precision number to a written one. -/
def DecimalText.toBinary64 (d : DecimalText) : Binary64 :=
  Binary64.ofDecimal d.negative d.digits d.exponent

/-- The sign at the start of a text: true for minus. -/
def scanSign : List Char → Bool × List Char
  | '-' :: cs => (true, cs)
  | '+' :: cs => (false, cs)
  | cs => (false, cs)

/-- The exponent at the start of a text; none when it is not complete. -/
def scanExponent? : List Char → Option (Int × List Char)
  | e :: cs =>
    if e = 'e' ∨ e = 'E' then
      let (negative, rest) := scanSign cs
      let digits := rest.takeWhile Char.isDigit
      if digits.isEmpty then none
      else
        let n : Int := digitsValue digits
        some (if negative then -n else n, rest.dropWhile Char.isDigit)
    else none
  | [] => none

/-- **The decimal number at the start of a text**: a sign, digits with a point among them or at
either end, and an exponent. -/
def scanDecimal? (cs : List Char) : Option (DecimalText × List Char) :=
  let (negative, cs) := scanSign cs
  let whole := cs.takeWhile Char.isDigit
  let rest := cs.dropWhile Char.isDigit
  let (fraction, rest) := match rest with
    | '.' :: more => (more.takeWhile Char.isDigit, more.dropWhile Char.isDigit)
    | _ => ([], rest)
  if whole.isEmpty ∧ fraction.isEmpty then none
  else
    let (exponent, rest) := (scanExponent? rest).getD (0, rest)
    some (⟨negative, digitsValue (whole ++ fraction), exponent - fraction.length⟩, rest)

/-- The names of infinity and NaN, in any case. -/
def namedBinary64? (negative : Bool) (name : List Char) : Option Binary64 :=
  match String.ofList (name.map Char.toLower) with
  | "inf" | "infinity" => some (.infinity negative)
  | "nan" => some .nan
  | _ => none

/-- **A double-precision number from its text.** -/
def Binary64.ofText? (s : String) : Option Binary64 :=
  match scanDecimal? s.toList with
  | some (d, []) => some d.toBinary64
  | some (_, _ :: _) => none
  | none =>
    let (negative, rest) := scanSign s.toList
    namedBinary64? negative rest

end WorkflowEngine
