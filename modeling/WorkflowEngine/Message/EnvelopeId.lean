import WorkflowEngine.Number.Reading

/-!
# Envelope identifiers

An identifier is a number of 128 bits. It is written with twenty-six digits in base thirty-two, the
digits being numerals and capitals without I, L, O and U, so texts and numbers have the same order.

* `EnvelopeId`;
* `EnvelopeId.text`, `EnvelopeId.ofText?`: the written form; small letters are read as well.
-/

namespace WorkflowEngine

/-- **The identifier of an envelope.** -/
structure EnvelopeId where
  value : Nat
  deriving DecidableEq, Repr, Inhabited

namespace EnvelopeId

/-- The digits in increasing order. -/
def alphabet : List Char := "0123456789ABCDEFGHJKMNPQRSTVWXYZ".toList

/-- The number of digits of an identifier. -/
def width : Nat := 26

/-- The last digits of a number in base thirty-two, put in front of others. -/
def digitsOf : Nat → Nat → List Char → List Char
  | 0, _, digits => digits
  | count + 1, n, digits =>
    digitsOf count (n / 32) ((alphabet[n % 32]?).getD '0' :: digits)

/-- The written form. -/
def text (id : EnvelopeId) : String := String.ofList (digitsOf width id.value [])

/-- The value of a digit. -/
def digitOf? (c : Char) : Option Nat := alphabet.idxOf? c.toUpper

/-- **An identifier from its written form.** Bits beyond the 128 lowest are dropped. -/
def ofText? (s : String) : Option EnvelopeId :=
  let cs := s.toList
  if cs.length = width then do
    let n ← cs.foldlM (fun n c => do return n * 32 + (← digitOf? c)) 0
    return ⟨n % Nat.pow 2 128⟩
  else none

end EnvelopeId

end WorkflowEngine
