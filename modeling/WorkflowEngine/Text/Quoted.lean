import WorkflowEngine.Text.Printable

/-!
# Quoted display

How a text and a list of texts are shown inside a message: between double quotes, with escapes for
quotes, backslashes, line ends, tabs and zero characters, and by number in braces for characters
without a glyph of their own.

* `quotedChar`, `quoted`: one character, one text;
* `quotedList`: a list of texts between brackets.
-/

namespace WorkflowEngine.Text

/-- The digits of a number in base sixteen, small letters. -/
def hexDigits (n : Nat) : String := String.ofList (Nat.toDigits 16 n)

/-- One character of a quoted display. -/
def quotedChar (c : Char) : String :=
  if c = '"' then "\\\""
  else if c = '\\' then "\\\\"
  else if c = '\n' then "\\n"
  else if c = '\r' then "\\r"
  else if c = '\t' then "\\t"
  else if c.toNat = 0 then "\\0"
  else if isShown c then String.singleton c
  else "\\u\x7b" ++ hexDigits c.toNat ++ "\x7d"

/-- **A text as it is shown inside a message.** -/
def quoted (s : String) : String := "\"" ++ String.join (s.toList.map quotedChar) ++ "\""

/-- A list of texts as it is shown inside a message. -/
def quotedList (items : List String) : String :=
  "[" ++ ", ".intercalate (items.map quoted) ++ "]"

end WorkflowEngine.Text
