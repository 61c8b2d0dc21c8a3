import WorkflowEngine.Number.Reading
import WorkflowEngine.Text.Blank
import WorkflowEngine.Time.Calendar

/-!
# Instants

Points in time with the RFC 3339 text form. A leap second is the second before it with a thousand
million more nanoseconds.

* `Instant`: seconds since 1970 and nanoseconds;
* `Instant.text`: the text in universal time, with 0, 3, 6 or 9 fraction digits;
* `Instant.ofText?`: the lenient reading, with blanks and short numbers;
* `ZonedInstant`, `ZonedInstant.ofText?`, `ZonedInstant.text`: the strict reading, its offset kept.
-/

namespace WorkflowEngine

/-- **A point in time.** -/
structure Instant where
  seconds : Int
  nanos : Nat
  deriving DecidableEq, Repr, Inhabited

/-- A point in time as seen at an offset from universal time, in seconds. -/
structure ZonedInstant where
  instant : Instant
  offset : Int
  deriving DecidableEq, Repr, Inhabited

/-! ## Writing -/

/-- A number with zeros before it up to a width. -/
def padded (width n : Nat) : String :=
  let digits := Nat.toDigits 10 n
  String.ofList (List.replicate (width - digits.length) '0' ++ digits)

/-- A year in four digits; other years carry their sign. -/
def yearText (year : Int) : String :=
  if 0 ≤ year ∧ year ≤ 9999 then padded 4 year.toNat
  else (if year < 0 then "-" else "+") ++ padded 4 year.natAbs

/-- The fraction of a second, in groups of three digits. -/
def fractionText (nanos : Nat) : String :=
  if nanos = 0 then ""
  else if nanos % 1000000 = 0 then "." ++ padded 3 (nanos / 1000000)
  else if nanos % 1000 = 0 then "." ++ padded 6 (nanos / 1000)
  else "." ++ padded 9 nanos

/-- Date and time of day of an instant, without its offset. -/
def localText (t : Instant) : String :=
  let date := Date.ofDayNumber (t.seconds / 86400)
  let second := (t.seconds % 86400).toNat
  yearText date.year ++ "-" ++ padded 2 date.month ++ "-" ++ padded 2 date.day ++ "T" ++
    padded 2 (second / 3600) ++ ":" ++ padded 2 (second / 60 % 60) ++ ":" ++
    padded 2 (second % 60 + t.nanos / 1000000000) ++ fractionText (t.nanos % 1000000000)

/-- **The text of an instant in universal time.** -/
def Instant.text (t : Instant) : String := localText t ++ "Z"

/-- The text of an instant at its offset. -/
def ZonedInstant.text (z : ZonedInstant) : String :=
  let minutes := z.offset.natAbs / 60
  localText { z.instant with seconds := z.instant.seconds + z.offset } ++
    (if z.offset < 0 then "-" else "+") ++ padded 2 (minutes / 60) ++ ":" ++ padded 2 (minutes % 60)

/-! ## Reading -/

/-- The parts of a written instant. -/
structure WrittenInstant where
  date : Date
  hour : Nat
  minute : Nat
  second : Nat
  nanos : Nat
  offset : Int

/-- The instant of written parts, if there is such a date and time. -/
def WrittenInstant.zoned? (w : WrittenInstant) : Option ZonedInstant :=
  if w.date.isValid ∧ w.hour < 24 ∧ w.minute < 60 ∧ w.second ≤ 60 ∧ w.offset.natAbs < 86400 ∧
      w.date.year.natAbs ≤ 262142 then
    let leap := w.second = 60
    let second := if leap then 59 else w.second
    some ⟨⟨w.date.dayNumber * 86400 + (w.hour * 3600 + w.minute * 60 + second : Nat) - w.offset,
      w.nanos + if leap then 1000000000 else 0⟩, w.offset⟩
  else none

/-- The number of the first digits of a text, at least one and at most as many as given. -/
def scanNat? (least most : Nat) (cs : List Char) : Option (Nat × List Char) :=
  let digits := (cs.take most).takeWhile Char.isDigit
  if digits.length < least ∨ digits.isEmpty then none
  else some (digitsValue digits, cs.drop digits.length)

/-- The text after a character that has to come first. -/
def scanChar? (c : Char) : List Char → Option (List Char)
  | d :: cs => if c = d then some cs else none
  | [] => none

/-- The nanoseconds after the point of a second; digits beyond the ninth are dropped. -/
def scanFraction? : List Char → Option (Nat × List Char)
  | '.' :: cs =>
    let digits := cs.takeWhile Char.isDigit
    if digits.isEmpty then none
    else
      let kept := digits.take 9
      some (digitsValue kept * Nat.pow 10 (9 - kept.length), cs.dropWhile Char.isDigit)
  | cs => some (0, cs)

/-- The offset at the start of a text: `Z`, or a signed count of hours and minutes. The blanks and
colons between them are left to `separator`. -/
def scanOffset? (separator : List Char → Option (List Char)) :
    List Char → Option (Int × List Char)
  | 'Z' :: cs | 'z' :: cs => some (0, cs)
  | sign :: cs => do
    let negative ←
      if sign = '+' then some false
      else if sign = '-' ∨ sign = '\u2212' then some true
      else none
    let (hours, cs) ← scanNat? 2 2 cs
    let (minutes, cs) ← scanNat? 2 2 (← separator cs)
    if 60 ≤ minutes then none
    let offset : Int := (hours * 3600 + minutes * 60 : Nat)
    return (if negative then -offset else offset, cs)
  | [] => none

/-- The mark between date and time. -/
def scanTimeMark? : List Char → Option (List Char)
  | 'T' :: cs | 't' :: cs | ' ' :: cs => some cs
  | _ => none

/-- The strict form: every number with its full count of digits, and no blanks. -/
def ZonedInstant.ofText? (s : String) : Option ZonedInstant := do
  let (year, cs) ← scanNat? 4 4 s.toList
  let (month, cs) ← scanNat? 2 2 (← scanChar? '-' cs)
  let (day, cs) ← scanNat? 2 2 (← scanChar? '-' cs)
  let (hour, cs) ← scanNat? 2 2 (← scanTimeMark? cs)
  let (minute, cs) ← scanNat? 2 2 (← scanChar? ':' cs)
  let (second, cs) ← scanNat? 2 2 (← scanChar? ':' cs)
  let (nanos, cs) ← scanFraction? cs
  let (offset, cs) ← scanOffset? (scanChar? ':') cs
  if cs.isEmpty then
    WrittenInstant.zoned? ⟨⟨year, month, day⟩, hour, minute, second, nanos, offset⟩
  else none

/-- A year of the lenient form: four digits at most, or any count of them after a sign. -/
def scanYear? (cs : List Char) : Option (Int × List Char) :=
  match Text.dropBlanks cs with
  | '-' :: rest => (scanNat? 1 rest.length rest).map fun (n, cs) => (-(n : Int), cs)
  | '+' :: rest => (scanNat? 1 rest.length rest).map fun (n, cs) => ((n : Int), cs)
  | rest => (scanNat? 1 4 rest).map fun (n, cs) => ((n : Int), cs)

/-- A two-digit part of the lenient form, with blanks before it and a mark behind those. -/
def scanPart? (mark : Char) (cs : List Char) : Option (Nat × List Char) := do
  scanNat? 1 2 (Text.dropBlanks (← scanChar? mark (Text.dropBlanks cs)))

/-- The offset of the lenient form, where `UTC` may stand for it. -/
def scanLenientOffset? (cs : List Char) : Option (Int × List Char) :=
  match cs with
  | a :: b :: c :: rest =>
    if [a, b, c].map Char.toLower = ['u', 't', 'c'] then some (0, rest)
    else scanOffset? (fun cs => some (cs.dropWhile fun c => c = ':' || Text.isBlank c)) cs
  | _ => scanOffset? (fun cs => some (cs.dropWhile fun c => c = ':' || Text.isBlank c)) cs

/-- **An instant from its text**, read leniently: blanks may stand between the parts. -/
def Instant.ofText? (s : String) : Option Instant := do
  let (year, cs) ← scanYear? s.toList
  let (month, cs) ← scanPart? '-' cs
  let (day, cs) ← scanPart? '-' cs
  let (hour, cs) ← scanNat? 1 2 (Text.dropBlanks (← scanTimeMark? cs))
  let (minute, cs) ← scanPart? ':' cs
  let (second, cs) ← scanPart? ':' cs
  let (nanos, cs) ← scanFraction? cs
  let (offset, cs) ← scanLenientOffset? (Text.dropBlanks cs)
  if cs.isEmpty then
    let z ← WrittenInstant.zoned? ⟨⟨year, month, day⟩, hour, minute, second, nanos, offset⟩
    some z.instant
  else none

end WorkflowEngine
