/-!
# Blanks and trimming

Blank characters are those with the Unicode property White_Space. Case folding here is of ASCII
letters only.

* `isBlank`: the property; `isBlank_of_isWhitespace`: it covers the ASCII blanks;
* `trimChars`, `trim`: a text without blanks at its ends;
* `isBlankText`: texts of blanks alone, the empty one included;
* `lowerAscii`: ASCII capitals turned to small letters.
-/

namespace WorkflowEngine.Text

/-- **Blank characters**: the Unicode property White_Space. -/
def isBlank (c : Char) : Bool :=
  let n := c.toNat
  (9 ≤ n && n ≤ 13) || n == 0x20 || n == 0x85 || n == 0xA0 || n == 0x1680 ||
    (0x2000 ≤ n && n ≤ 0x200A) || n == 0x2028 || n == 0x2029 || n == 0x202F || n == 0x205F ||
    n == 0x3000

theorem isBlank_of_isWhitespace {c : Char} (h : c.isWhitespace) : isBlank c := by
  simp only [Char.isWhitespace, Bool.or_eq_true, decide_eq_true_eq] at h
  rcases h with ((rfl | rfl) | rfl) | rfl <;> decide

/-- Characters without the blanks at their start. -/
def dropBlanks (cs : List Char) : List Char := cs.dropWhile isBlank

/-- Characters without the blanks at either end. -/
def trimChars (cs : List Char) : List Char := (dropBlanks (dropBlanks cs).reverse).reverse

/-- A text without the blanks at its ends. -/
def trim (s : String) : String := String.ofList (trimChars s.toList)

/-- True of a text of blanks alone, the empty one included. -/
def isBlankText (s : String) : Bool := s.toList.all isBlank

/-- The text, unless it is blank. -/
def nonBlank? (s : String) : Option String := if isBlankText s then none else some s

/-- ASCII capitals turned to small letters. -/
def lowerAscii (s : String) : String := String.ofList (s.toList.map Char.toLower)

/-- The pieces of a text between the separators. -/
def splitOn (sep : Char) : List Char → List (List Char)
  | [] => [[]]
  | c :: cs =>
    if c = sep then [] :: splitOn sep cs
    else match splitOn sep cs with
      | [] => [[c]]
      | piece :: pieces => (c :: piece) :: pieces

/-- **The entries of a comma-separated list**, trimmed, the blank ones left out. -/
def listEntries (s : String) : List String :=
  ((splitOn ',' s.toList).map fun piece => String.ofList (trimChars piece)).filter (· ≠ "")

end WorkflowEngine.Text
