import Mathlib.Algebra.Order.Ring.Nat
import Mathlib.Tactic.Ring
import WorkflowEngine.Message.EnvelopeId

/-!
# Identifiers as texts

* `digitOf?_digit`: a written digit is read as it was;
* `foldlM_digitsOf`: the digits of a number are read one after another;
* **`ofText?_text`**: an identifier of 128 bits is read from its text.
-/

namespace WorkflowEngine.EnvelopeId

theorem digitOf?_digit : ∀ n < 32, digitOf? ((alphabet[n]?).getD '0') = some n := by
  decide

theorem length_digitsOf (count n : Nat) (digits : List Char) :
    (digitsOf count n digits).length = count + digits.length := by
  induction count generalizing n digits with
  | zero => simp [digitsOf]
  | succ count ih =>
    rw [digitsOf, ih, List.length_cons]
    omega

/-- A number with one more digit. -/
def addDigit? (n : Nat) (c : Char) : Option Nat := do return n * 32 + (← digitOf? c)

/-- **The last digits of a number** are read behind what was read before. -/
theorem foldlM_digitsOf (count n start : Nat) (digits : List Char) :
    (digitsOf count n digits).foldlM addDigit? start =
      digits.foldlM addDigit? (start * 32 ^ count + n % 32 ^ count) := by
  induction count generalizing n digits with
  | zero => simp [digitsOf, Nat.mod_one]
  | succ count ih =>
    have hdigit := digitOf?_digit (n % 32) (Nat.mod_lt n (by decide))
    have hvalue : (start * 32 ^ count + n / 32 % 32 ^ count) * 32 + n % 32 =
        start * 32 ^ (count + 1) + n % 32 ^ (count + 1) := by
      rw [pow_succ' 32 count, Nat.mod_mul]
      ring
    rw [digitsOf, ih, List.foldlM_cons, addDigit?, hdigit]
    exact congrArg (digits.foldlM addDigit?) hvalue

/-- **An identifier of 128 bits is read from its text.** -/
theorem ofText?_text {id : EnvelopeId} (h : id.value < 2 ^ 128) : ofText? id.text = some id := by
  have hdigits : (digitsOf width id.value []).foldlM addDigit? 0 = some id.value := by
    have hlt : id.value < 32 ^ width := lt_trans h (by decide)
    rw [foldlM_digitsOf, Nat.zero_mul, Nat.zero_add, Nat.mod_eq_of_lt hlt]
    rfl
  have hlength : (digitsOf width id.value []).length = width := length_digitsOf ..
  have hmod : id.value % Nat.pow 2 128 = id.value := Nat.mod_eq_of_lt h
  rw [text, ofText?, String.toList_ofList, if_pos hlength]
  change ((digitsOf width id.value []).foldlM addDigit? 0).bind _ = _
  rw [hdigits, Option.bind_some, hmod]
  rfl

end WorkflowEngine.EnvelopeId
