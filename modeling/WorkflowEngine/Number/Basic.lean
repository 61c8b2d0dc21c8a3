import WorkflowEngine.Number.Shortest

/-!
# Numbers of documents

A number of a document is a whole number or a double-precision one; the two never compare equal,
so `1` and `1.0` stay apart.

* `Number`: the two cases;
* `FloatLayout`: where positional notation ends and how an exponent is written;
* `FloatLayout.render`, `Number.text`: the written form.
-/

namespace WorkflowEngine

/-- **A number of a document.** -/
inductive Number where
  | integer (value : Int)
  | float (value : Binary64)
  deriving DecidableEq, Repr, Inhabited

/-- **How a finite double-precision number is laid out**: positional notation for decimal exponents
between the two bounds, scientific notation otherwise. -/
structure FloatLayout where
  leastPositional : Int
  greatestPositional : Int
  pointZero : Bool
  positiveExponentSign : String

namespace FloatLayout

/-- Positional notation of `digits · 10 ^ exponent`. -/
def positional (layout : FloatLayout) (d : Decimal) : String :=
  let digits := Nat.toDigits 10 d.digits
  if 0 ≤ d.exponent then
    String.ofList (digits ++ List.replicate d.exponent.toNat '0') ++
      (if layout.pointZero then ".0" else "")
  else
    let places := (-d.exponent).toNat
    if places < digits.length then
      String.ofList (digits.take (digits.length - places)) ++ "." ++
        String.ofList (digits.drop (digits.length - places))
    else
      "0." ++ String.ofList (List.replicate (places - digits.length) '0' ++ digits)

/-- Scientific notation: one digit before the point. -/
def scientific (layout : FloatLayout) (d : Decimal) : String :=
  let digits := Nat.toDigits 10 d.digits
  let exponent := d.exponent + digits.length - 1
  let mantissa := match digits with
    | [] => "0"
    | [c] => String.singleton c
    | c :: rest => String.singleton c ++ "." ++ String.ofList rest
  mantissa ++ "e" ++ (if 0 ≤ exponent then layout.positiveExponentSign else "") ++ toString exponent

/-- The written form of a finite number, its sign included. -/
def render (layout : FloatLayout) (x : Binary64) : String :=
  let d := x.shortest
  let exponent := d.exponent + Decimal.digitCount d.digits - 1
  (if x.isNegative then "-" else "") ++
    if layout.leastPositional ≤ exponent ∧ exponent ≤ layout.greatestPositional then
      layout.positional d
    else layout.scientific d

end FloatLayout

/-- Numbers of documents are positional from `0.00001` up to sixteen places before the point, always
with a point, and a positive exponent carries its sign. -/
def Number.layout : FloatLayout := ⟨-5, 15, true, "+"⟩

/-- **The written form of a number.** -/
def Number.text : Number → String
  | .integer n => toString n
  | .float x => if x.isFinite then Number.layout.render x else "null"

end WorkflowEngine
