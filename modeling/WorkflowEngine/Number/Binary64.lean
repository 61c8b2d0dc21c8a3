/-!
# Double-precision numbers

Numbers of the IEEE 754 format binary64, held as their sixty-four bits, so that equality tells the
two zeros apart and a number is compared as data. A finite number is `± significand · 2 ^ scale`.

* `Binary64`: the bits; `isNegative`, `isFinite`, `isNaN`, `significand`, `scale`;
* `ofRatio`: the nearest number to a quotient of natural numbers, ties to the even significand;
* `ofDecimal`: the nearest number to a decimal; `ofInt`: to an integer;
* `nearDecimal`: a number near a decimal, got by one scaling;
* `toFloat`, `ofFloat`: the same number for arithmetic.
-/

namespace WorkflowEngine

/-- **A double-precision number**, as its bits. -/
structure Binary64 where
  bits : UInt64
  deriving DecidableEq, Repr, Inhabited

namespace Binary64

/-- True of numbers with the sign bit set. -/
def isNegative (x : Binary64) : Bool := x.bits.toNat / Nat.pow 2 63 = 1

/-- The eleven exponent bits. -/
def exponentBits (x : Binary64) : Nat := x.bits.toNat / Nat.pow 2 52 % Nat.pow 2 11

/-- The fifty-two fraction bits. -/
def fractionBits (x : Binary64) : Nat := x.bits.toNat % Nat.pow 2 52

/-- True of every number except the infinities and NaN. -/
def isFinite (x : Binary64) : Bool := x.exponentBits ≠ 2047

/-- True of NaN. -/
def isNaN (x : Binary64) : Bool := x.exponentBits = 2047 && x.fractionBits ≠ 0

/-- The whole number that is scaled to the magnitude of a finite number. -/
def significand (x : Binary64) : Nat :=
  if x.exponentBits = 0 then x.fractionBits else Nat.pow 2 52 + x.fractionBits

/-- The power of two that scales the significand of a finite number. -/
def scale (x : Binary64) : Int :=
  if x.exponentBits = 0 then -1074 else (x.exponentBits : Int) - 1075

/-- True of both zeros. -/
def isZero (x : Binary64) : Bool := x.exponentBits = 0 && x.fractionBits = 0

/-- The number with the given sign and bits below it. -/
def ofMagnitude (negative : Bool) (magnitude : Nat) : Binary64 :=
  ⟨UInt64.ofNat (magnitude + if negative then Nat.pow 2 63 else 0)⟩

/-- The infinities. -/
def infinity (negative : Bool) : Binary64 := ofMagnitude negative (2047 * Nat.pow 2 52)

/-- A number that is not a number. -/
def nan : Binary64 := ofMagnitude false (2047 * Nat.pow 2 52 + Nat.pow 2 51)

/-- A quotient rounded to the nearest whole number, a half to the even neighbour. -/
def roundDiv (num den : Nat) : Nat :=
  let q := num / den
  let r := num % den
  if 2 * r < den then q else if den < 2 * r then q + 1 else if q % 2 = 0 then q else q + 1

/-- The quotient of two positive numbers lies in
`[2 ^ floorLog2 num den, 2 ^ (floorLog2 num den + 1))`. -/
def floorLog2 (num den : Nat) : Int :=
  let guess : Int := (Nat.log2 num : Int) - (Nat.log2 den : Int)
  let below :=
    if 0 ≤ guess then num < den * Nat.pow 2 guess.toNat
    else num * Nat.pow 2 (-guess).toNat < den
  if below then guess - 1 else guess

/-- **The nearest number to a quotient**, a half to the even significand. -/
def ofRatio (negative : Bool) (num den : Nat) : Binary64 :=
  if num = 0 then ofMagnitude negative 0
  else
    let scale : Int := max (floorLog2 num den - 52) (-1074)
    let significand :=
      if 0 ≤ scale then roundDiv num (den * Nat.pow 2 scale.toNat)
      else roundDiv (num * Nat.pow 2 (-scale).toNat) den
    let magnitude := ((scale + 1074).toNat * Nat.pow 2 52) + significand
    ofMagnitude negative (min magnitude (2047 * Nat.pow 2 52))

/-- **The nearest number to `digits · 10 ^ exponent`.** Far outside the format's range the answer
is known without the power. -/
def ofDecimal (negative : Bool) (digits : Nat) (exponent : Int) : Binary64 :=
  if digits = 0 then ofMagnitude negative 0
  else
    let size : Int := (Nat.log2 digits : Int) / 4 + exponent
    if 400 < size then infinity negative
    else if (Nat.log2 digits : Int) / 3 + 1 + exponent < -400 then ofMagnitude negative 0
    else if 0 ≤ exponent then ofRatio negative (digits * Nat.pow 10 exponent.toNat) 1
    else ofRatio negative digits (Nat.pow 10 (-exponent).toNat)

/-- The magnitude of a finite number as a quotient. -/
def ratio (x : Binary64) : Nat × Nat :=
  if 0 ≤ x.scale then (x.significand * Nat.pow 2 x.scale.toNat, 1)
  else (x.significand, Nat.pow 2 (-x.scale).toNat)

/-- The nearest number to the product of two magnitudes. -/
def product (x y : Binary64) : Binary64 :=
  ofRatio false (x.ratio.1 * y.ratio.1) (x.ratio.2 * y.ratio.2)

/-- The nearest number to the quotient of two magnitudes. -/
def quotient (x y : Binary64) : Binary64 :=
  ofRatio false (x.ratio.1 * y.ratio.2) (x.ratio.2 * y.ratio.1)

/-- The nearest number to a power of ten. -/
def powerOfTen (n : Nat) : Binary64 := ofRatio false (Nat.pow 10 n) 1

/-- The greatest power of ten below infinity. -/
def greatestPower : Nat := 308

/-- A number divided by a power of ten, in as many steps as powers below infinity make necessary,
each of them rounded. -/
def downByTens (x : Binary64) (n : Nat) : Binary64 :=
  if n ≤ greatestPower then x.quotient (powerOfTen n)
  else if x.isZero then x
  else downByTens (x.quotient (powerOfTen greatestPower)) (n - greatestPower)
termination_by n
decreasing_by simp only [greatestPower] at *; omega

/-- **A number near `digits · 10 ^ exponent`**: the digits are rounded, then scaled by a rounded power
of ten. It is the nearest one when neither needs rounding. -/
def nearDecimal (negative : Bool) (digits : Nat) (exponent : Int) : Binary64 :=
  let x := ofRatio false digits 1
  let scaled :=
    if exponent < 0 then x.downByTens (-exponent).toNat
    else if exponent ≤ greatestPower then x.product (powerOfTen exponent.toNat)
    else if x.isZero then x else infinity false
  ofMagnitude negative scaled.bits.toNat

/-- The nearest number to an integer. -/
def ofInt (n : Int) : Binary64 := ofRatio (n < 0) n.natAbs 1

/-- The number as a float, for arithmetic. -/
def toFloat (x : Binary64) : Float := Float.ofBits x.bits

/-- The number of a float. -/
def ofFloat (x : Float) : Binary64 := ⟨x.toBits⟩

/-- The whole part of a finite number, toward zero. -/
def truncate (x : Binary64) : Int :=
  let magnitude : Nat :=
    if 0 ≤ x.scale then x.significand * Nat.pow 2 x.scale.toNat
    else x.significand / Nat.pow 2 (-x.scale).toNat
  if x.isNegative then -(magnitude : Int) else magnitude

/-- The remainder of a division toward zero, with the sign of the dividend. It is exact: both
numbers are whole multiples of the finer of their scales, and so is the remainder. -/
def remainder (x y : Binary64) : Binary64 :=
  if !x.isFinite || y.isNaN || y.isZero then nan
  else if !y.isFinite then x
  else
    let scale := min x.scale y.scale
    let whole (z : Binary64) : Nat := z.significand * Nat.pow 2 (z.scale - scale).toNat
    let rest := whole x % whole y
    if 0 ≤ scale then ofRatio x.isNegative (rest * Nat.pow 2 scale.toNat) 1
    else ofRatio x.isNegative rest (Nat.pow 2 (-scale).toNat)

end Binary64

end WorkflowEngine
