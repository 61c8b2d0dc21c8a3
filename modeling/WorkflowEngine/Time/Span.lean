import WorkflowEngine.Number.Reading

/-!
# Spans of time

Spans are counted in nanoseconds. Their text is a row of numbers, each with its unit.

* `scanUnit?`: the unit at the start of a text;
* `spanOfText?`: the span of a text;
* `spanText`: the text of a span.
-/

namespace WorkflowEngine

/-- The unit at the start of a text, in nanoseconds. -/
def scanUnit? : List Char → Option (Nat × List Char)
  | 'm' :: 's' :: cs => some (1000000, cs)
  | 'u' :: 's' :: cs => some (1000, cs)
  | 'n' :: 's' :: cs => some (1, cs)
  | 'h' :: cs => some (3600000000000, cs)
  | 'm' :: cs => some (60000000000, cs)
  | 's' :: cs => some (1000000000, cs)
  | _ => none

/-- The whole nanoseconds of a number of units, toward zero and within sixty-four bits. -/
def unitNanos (number : Binary64) (unit : Nat) : Int :=
  let x := Binary64.ofFloat (number.toFloat * (Binary64.ofInt unit).toFloat)
  if x.isNaN then 0
  else if x.isFinite then max (-Nat.pow 2 63) (min (Nat.pow 2 63 - 1) x.truncate)
  else if x.isNegative then -Nat.pow 2 63 else Nat.pow 2 63 - 1

/-- The numbers with units at the start of a text, added up; what follows them is ignored. -/
def scanSpan : Nat → Int → List Char → Int
  | 0, total, _ => total
  | fuel + 1, total, cs =>
    match scanDecimal? cs with
    | none => total
    | some (d, rest) =>
      match scanUnit? rest with
      | none => total
      | some (unit, rest) => scanSpan fuel (total + unitNanos d.toBinary64 unit) rest

/-- **The span of a text**: an optional minus sign before one or more numbers with units, or zero. -/
def spanOfText? (s : String) : Option Int :=
  let (negative, cs) := match s.toList with
    | '-' :: rest => (true, rest)
    | rest => (false, rest)
  if cs = ['0'] then some 0
  else do
    let (_, rest) ← scanDecimal? cs
    let _ ← scanUnit? rest
    let total := scanSpan cs.length 0 cs
    some (if negative then -total else total)

/-- A whole number and a fraction of the given count of places, without zeros at its end. -/
def fixedText (value : Nat) (places : Nat) : String :=
  let whole := value / Nat.pow 10 places
  let digits := Nat.toDigits 10 (value % Nat.pow 10 places)
  let fraction := List.replicate (places - digits.length) '0' ++ digits
  let kept := (fraction.reverse.dropWhile (· = '0')).reverse
  toString whole ++ if value % Nat.pow 10 places = 0 then "" else "." ++ String.ofList kept

/-- **The text of a span**: hours, minutes and seconds, or one small unit below a second. -/
def spanText (nanos : Int) : String :=
  let n := nanos.natAbs
  let body :=
    if n = 0 then "0s"
    else if n < 1000 then toString n ++ "ns"
    else if n < 1000000 then fixedText n 3 ++ "µs"
    else if n < 1000000000 then fixedText n 6 ++ "ms"
    else
      let minutes := n / 60000000000
      let seconds := fixedText (n % 60000000000) 9 ++ "s"
      if minutes = 0 then seconds
      else if minutes < 60 then toString minutes ++ "m" ++ seconds
      else toString (minutes / 60) ++ "h" ++ toString (minutes % 60) ++ "m" ++ seconds
  if nanos < 0 then "-" ++ body else body

end WorkflowEngine
