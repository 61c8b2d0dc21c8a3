import WorkflowEngine.Number.Binary64

/-!
# Shortest digits

The fewest decimal digits that read back as a given double-precision number, and of those the
digits nearest to it. A decimal reads back when it lies in the interval of reals that round to the
number, whose ends belong to it exactly when the significand is even.

* `Decimal`: digits and a power of ten;
* `readsBack`: the interval, in whole-number arithmetic;
* `onGrid?`: the nearer of the number's two neighbours with a given count of digits;
* `shortest`: the first count of digits for which a neighbour reads back.
-/

namespace WorkflowEngine

/-- A whole number of powers of ten: `digits · 10 ^ exponent`. -/
structure Decimal where
  digits : Nat
  exponent : Int
  deriving DecidableEq, Repr, Inhabited

namespace Decimal

/-- `n · 2 ^ p · 10 ^ t` over a common denominator, as numerator and denominator. -/
def scaled (n : Nat) (p t : Int) : Nat × Nat :=
  (n * Nat.pow 2 p.toNat * Nat.pow 10 t.toNat, Nat.pow 2 (-p).toNat * Nat.pow 10 (-t).toNat)

/-- True when the first quotient is below the second one. -/
def quotLt (a b : Nat × Nat) : Bool := a.1 * b.2 < b.1 * a.2

/-- True when the first quotient is not above the second one. -/
def quotLe (a b : Nat × Nat) : Bool := a.1 * b.2 ≤ b.1 * a.2

/-- The lower end of the interval that rounds to `m · 2 ^ q`. The gap below a power of two is half
as wide as the gap above it. -/
def lowerEnd (m : Nat) (q : Int) : Nat × Nat :=
  if m = Nat.pow 2 52 ∧ -1074 < q then scaled (4 * m - 1) (q - 2) 0
  else scaled (2 * m - 1) (q - 1) 0

/-- The upper end of the interval that rounds to `m · 2 ^ q`. -/
def upperEnd (m : Nat) (q : Int) : Nat × Nat := scaled (2 * m + 1) (q - 1) 0

/-- **The decimal rounds to `m · 2 ^ q`.** -/
def readsBack (m : Nat) (q : Int) (d : Decimal) : Bool :=
  let v := scaled d.digits 0 d.exponent
  if m % 2 = 0 then quotLe (lowerEnd m q) v && quotLe v (upperEnd m q)
  else quotLt (lowerEnd m q) v && quotLt v (upperEnd m q)

/-- The nearer of the two neighbours of `m · 2 ^ q` on the grid of multiples of `10 ^ t`, among
those that read back; of two equally near ones the even one. -/
def onGrid? (m : Nat) (q t : Int) : Option Decimal :=
  let v := scaled m q (-t)
  let below := v.1 / v.2
  let r := v.1 % v.2
  let low : Decimal := ⟨below, t⟩
  let high : Decimal := ⟨below + 1, t⟩
  match readsBack m q low, readsBack m q high with
  | false, false => none
  | true, false => some low
  | false, true => some high
  | true, true =>
    if 2 * r < v.2 then some low
    else if v.2 < 2 * r then some high
    else if below % 2 = 0 then some low else some high

/-- The first grid, from coarse to fine, on which a neighbour reads back. -/
def firstOnGrid (m : Nat) (q : Int) : Nat → Int → Decimal
  | 0, t => (onGrid? m q t).getD ⟨m, q⟩
  | fuel + 1, t => (onGrid? m q t).getD (firstOnGrid m q fuel (t - 1))

/-- The count of decimal digits of a number, at least one. -/
def digitCount (n : Nat) : Nat := (Nat.toDigits 10 n).length

/-- A power of ten that is not below `m · 2 ^ q`. -/
def roofExponent (m : Nat) (q : Int) : Int :=
  let v := scaled m q 0
  if v.2 ≤ v.1 then digitCount (v.1 / v.2)
  else 1 - (digitCount (v.2 / v.1) : Int)

/-- The decimal without trailing zeros. -/
def stripZeros : Nat → Decimal → Decimal
  | 0, d => d
  | fuel + 1, d =>
    if d.digits ≠ 0 ∧ d.digits % 10 = 0 then stripZeros fuel ⟨d.digits / 10, d.exponent + 1⟩ else d

end Decimal

/-- **The fewest digits that read back as the magnitude of a finite number.** -/
def Binary64.shortest (x : Binary64) : Decimal :=
  if x.significand = 0 then ⟨0, 0⟩
  else
    let top := Decimal.roofExponent x.significand x.scale
    Decimal.stripZeros 20 (Decimal.firstOnGrid x.significand x.scale 18 top)

end WorkflowEngine
