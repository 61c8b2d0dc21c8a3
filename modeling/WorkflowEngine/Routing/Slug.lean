/-!
# Slugs

Workflow and transition names as they appear in queue addresses: words of small ASCII letters and
digits with one dot between them. A `workflow` at the end, and a last word `flow`, say nothing and
are removed.

* `lowerChar`, `isSlugChar`: the small form of a character, and the characters of words;
* `collapse`: the words of a name with one dot between them;
* `stripEnding`: one uninformative ending removed; `stripEndings`: all of them;
* `slug`: the slug of a name; `slug_of_length_le`: a name without uninformative ending keeps all its
  words.
-/

namespace WorkflowEngine.Routing

/-- **The small form of a character**, as far as it matters here: outside ASCII only the Kelvin sign
and the capital I with a dot have an ASCII letter in their small form. -/
def lowerChar (c : Char) : List Char :=
  if c = '\u212a' then ['k']
  else if c = '\u0130' then ['i', '\u0307']
  else [c.toLower]

/-- The characters of words: small ASCII letters and digits. -/
def isSlugChar (c : Char) : Bool := c.isLower || c.isDigit

/-- Where a reader of a name stands: before the first word, in a word, or behind one. -/
inductive Position where
  | start
  | inWord
  | afterWord
  deriving DecidableEq, Repr

/-- The words of a text with one dot between them, continued from a position. -/
def collapseFrom : Position → List Char → List Char
  | _, [] => []
  | .start, c :: cs =>
    if isSlugChar c then c :: collapseFrom .inWord cs else collapseFrom .start cs
  | .inWord, c :: cs =>
    if isSlugChar c then c :: collapseFrom .inWord cs else collapseFrom .afterWord cs
  | .afterWord, c :: cs =>
    if isSlugChar c then '.' :: c :: collapseFrom .inWord cs else collapseFrom .afterWord cs

/-- **The words of a name** in small letters, with one dot between them. -/
def collapse (name : List Char) : List Char := collapseFrom .start (name.flatMap lowerChar)

/-- The text before an ending, if it ends so. -/
def dropEnding? (ending cs : List Char) : Option (List Char) :=
  if ending.isSuffixOf cs then some (cs.take (cs.length - ending.length)) else none

/-- A text without the dots at its ends. -/
def trimDots (cs : List Char) : List Char :=
  ((cs.dropWhile (· = '.')).reverse.dropWhile (· = '.')).reverse

/-- **One uninformative ending removed**: `workflow`, or a last word `flow`. -/
def stripEnding (cs : List Char) : List Char :=
  trimDots <|
    match dropEnding? "workflow".toList cs with
    | some rest => rest
    | none =>
      if cs = "flow".toList then []
      else (dropEnding? ".flow".toList cs).getD cs

/-- Uninformative endings removed until there is none. -/
def stripEndings (cs : List Char) : List Char :=
  if (stripEnding cs).length < cs.length then stripEndings (stripEnding cs) else cs
termination_by cs.length

/-- **The slug of a name.** -/
def slug (name : String) : String := String.ofList (stripEndings (collapse name.toList))

theorem stripEndings_of_length_le {cs : List Char} (h : cs.length ≤ (stripEnding cs).length) :
    stripEndings cs = cs := by
  rw [stripEndings, if_neg (Nat.not_lt.2 h)]

theorem slug_of_length_le {name : String}
    (h : (collapse name.toList).length ≤ (stripEnding (collapse name.toList)).length) :
    slug name = String.ofList (collapse name.toList) := by
  rw [slug, stripEndings_of_length_le h]

end WorkflowEngine.Routing
