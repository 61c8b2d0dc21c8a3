/-!
# Cursors

A place in a YAML text: what is left to read, and the line and column where it starts. Five
characters break a line, and a carriage return with a line feed counts as one break.

* `isBlank`, `isBreak`, `isReadable`: classes of characters;
* `Cursor`, with `skip`, `skipBreak`, `takeBreak`, `skipRun`;
* `Gap`: what stands between two words of a text; `Gap.text`: how it reads;
* `takeGap`: the gap at a cursor.
-/

namespace WorkflowEngine.Yaml

/-- The blanks inside a line. -/
def isBlank (c : Char) : Bool := c = ' ' || c = '\t'

/-- The characters that break a line. -/
def isBreak (c : Char) : Bool :=
  c = '\r' || c = '\n' || c = '\u0085' || c = '\u2028' || c = '\u2029'

/-- Blanks and line breaks. -/
def isSpacing (c : Char) : Bool := isBlank c || isBreak c

/-- The characters that may stand in a YAML text. -/
def isReadable (c : Char) : Bool :=
  let n := c.toNat
  n == 0x09 || n == 0x0A || n == 0x0D || (0x20 ≤ n && n ≤ 0x7E) || n == 0x85 ||
    (0xA0 ≤ n && n ≤ 0xFFFD && n != 0xFEFF) || 0x10000 ≤ n

/-- The characters of words: ASCII letters, digits, underscores and dashes. -/
def isWordChar (c : Char) : Bool := c.isAlphanum || c = '_' || c = '-'

/-- True when a text is at its end or starts with spacing. -/
def atSpacing : List Char → Bool
  | [] => true
  | c :: _ => isSpacing c

/-- **A place in a text.** -/
structure Cursor where
  rest : List Char
  line : Nat := 0
  column : Nat := 0
  index : Nat := 0
  deriving Inhabited

namespace Cursor

/-- The next character. -/
def peek? (c : Cursor) : Option Char := c.rest.head?

/-- True when the next character is the given one. -/
def isAt (c : Cursor) (expected : Char) : Bool := c.peek? = some expected

/-- The place behind some characters of one line. -/
def skip (c : Cursor) (count : Nat) : Cursor :=
  { c with rest := c.rest.drop count, column := c.column + count, index := c.index + count }

/-- The place where a rest of the current line starts. -/
def skipTo (c : Cursor) (rest : List Char) : Cursor := c.skip (c.rest.length - rest.length)

/-- The place behind all characters of a kind. -/
def skipRun (c : Cursor) (p : Char → Bool) : Cursor := c.skipTo (c.rest.dropWhile p)

/-- The line break at a cursor, as it reads, and the place behind it. -/
def takeBreak (c : Cursor) : List Char × Cursor :=
  let next (rest : List Char) (count : Nat) : Cursor :=
    { rest, line := c.line + 1, column := 0, index := c.index + count }
  match c.rest with
  | '\r' :: '\n' :: rest => (['\n'], next rest 2)
  | '\r' :: rest | '\n' :: rest | '\u0085' :: rest => (['\n'], next rest 1)
  | '\u2028' :: rest => (['\u2028'], next rest 1)
  | '\u2029' :: rest => (['\u2029'], next rest 1)
  | _ => ([], c)

/-- The place behind the line break at a cursor. -/
def skipBreak (c : Cursor) : Cursor := c.takeBreak.2

/-- True when the next character breaks the line. -/
def isAtBreak (c : Cursor) : Bool := c.peek?.any isBreak

/-- True at the end of a line or of the text. -/
def isAtLineEnd (c : Cursor) : Bool := c.peek?.all isBreak

/-- True where a line starts with a mark of three equal characters and spacing behind it. -/
def isAtMark (c : Cursor) (mark : Char) : Bool :=
  c.column = 0 && c.rest.take 3 = [mark, mark, mark] && atSpacing (c.rest.drop 3)

/-- True where a document starts or ends. -/
def isAtDocumentMark (c : Cursor) : Bool := c.isAtMark '-' || c.isAtMark '.'

end Cursor

/-! ## Gaps -/

/-- **What stands between two words**: blanks on a line, or a first line break and others. -/
inductive Gap where
  | blanks (text : List Char)
  | breaks (first others : List Char)

/-- The gap without characters. -/
def Gap.none : Gap := .blanks []

/-- True of a gap with a line break. -/
def Gap.isBroken : Gap → Bool
  | .blanks _ => false
  | .breaks .. => true

/-- **Folding**: one line break reads as a blank, and of several the first is dropped. Breaks that
are no line feeds stay. -/
def Gap.text : Gap → List Char
  | .blanks text => text
  | .breaks ['\n'] [] => [' ']
  | .breaks ['\n'] others => others
  | .breaks first others => first ++ others

/-- The gap at a cursor, continued from what was read of it. With a margin, a tab before that
column of a later line is refused. -/
def takeGapFrom (margin : Option Int) : Nat → Gap → Cursor → Option (Gap × Cursor)
  | 0, gap, c => some (gap, c)
  | fuel + 1, gap, c =>
    match c.peek? with
    | none => some (gap, c)
    | some ch =>
      if isBlank ch then
        if gap.isBroken && ch = '\t' && margin.any ((c.column : Int) < ·) then none
        else
          let gap := match gap with
            | .blanks text => .blanks (text ++ [ch])
            | broken => broken
          takeGapFrom margin fuel gap (c.skip 1)
      else if isBreak ch then
        let (text, c) := c.takeBreak
        let gap := match gap with
          | .blanks _ => .breaks text []
          | .breaks first others => .breaks first (others ++ text)
        takeGapFrom margin fuel gap c
      else some (gap, c)

/-- **The gap at a cursor**, and the place behind it. -/
def takeGap (margin : Option Int) (gap : Gap) (c : Cursor) : Option (Gap × Cursor) :=
  takeGapFrom margin (c.rest.length + 1) gap c

end WorkflowEngine.Yaml
