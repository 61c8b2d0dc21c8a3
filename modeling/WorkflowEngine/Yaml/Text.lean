import WorkflowEngine.Yaml.Cursor

/-!
# Texts

The texts of scalars. A plain text runs over lines until something ends it; a quoted text runs to
its closing quote; a block text takes the lines of its indentation.

* `plainText?`: a plain text, and whether a line break follows it;
* `quotedText?`: a text in single or double quotes;
* `BlockStyle`, `blockText?`: a literal or folded block.
-/

namespace WorkflowEngine.Yaml

/-! ## Plain texts -/

/-- The characters that end a plain text inside brackets. -/
def isFlowIndicator (c : Char) : Bool :=
  c = ',' || c = '[' || c = ']' || c = '\x7b' || c = '\x7d'

/-- One word of a plain text, and what follows it. Inside brackets a colon must not touch an
indicator. -/
def plainWord? (flow : Bool) : List Char → Option (List Char × List Char)
  | [] => some ([], [])
  | c :: rest =>
    if isSpacing c then some ([], c :: rest)
    else if flow && c = ':' && rest.head?.any fun d => isFlowIndicator d || d = '?' then none
    else if c = ':' && atSpacing rest then some ([], c :: rest)
    else if flow && isFlowIndicator c then some ([], c :: rest)
    else do
      let (word, rest) ← plainWord? flow rest
      return (c :: word, rest)

/-- The words of a plain text, continued from what was read and the gap before the next word. -/
def plainWords? (flow : Bool) (margin : Int) : Nat → List Char → Gap → Cursor →
    Option (List Char × Bool × Cursor)
  | 0, _, _, _ => none
  | fuel + 1, text, gap, c => do
    if c.isAtDocumentMark || c.isAt '#' then return (text, gap.isBroken, c)
    let (word, rest) ← plainWord? flow c.rest
    if word.isEmpty then return (text, gap.isBroken, c)
    let text := text ++ gap.text ++ word
    let c := c.skipTo rest
    if !(c.peek?.any isSpacing) then return (text, false, c)
    let (gap, c) ← takeGap (some margin) .none c
    if !flow && c.column < margin then return (text, gap.isBroken, c)
    plainWords? flow margin fuel text gap c

/-- **The plain text at a cursor**, whether a line break follows it, and the place behind both. A
line left of the margin ends it. -/
def plainText? (flow : Bool) (margin : Int) (c : Cursor) : Option (List Char × Bool × Cursor) :=
  plainWords? flow margin (c.rest.length + 1) [] .none c

/-! ## Quoted texts -/

/-- The value of a hexadecimal digit. -/
def hexDigit? (c : Char) : Option Nat :=
  if '0' ≤ c ∧ c ≤ '9' then some (c.toNat - '0'.toNat)
  else if 'a' ≤ c ∧ c ≤ 'f' then some (c.toNat - 'a'.toNat + 10)
  else if 'A' ≤ c ∧ c ≤ 'F' then some (c.toNat - 'A'.toNat + 10)
  else none

/-- The number of a given count of hexadecimal digits, and what follows them. -/
def hexNumber? : Nat → Nat → List Char → Option (Nat × List Char)
  | 0, n, rest => some (n, rest)
  | _ + 1, _, [] => none
  | count + 1, n, c :: rest => do hexNumber? count (n * 16 + (← hexDigit? c)) rest

/-- The character of a code point. -/
def charOf? (n : Nat) : Option Char :=
  if n.isValidChar then some (Char.ofNat n) else none

/-- The character of an escape, given what follows the backslash. -/
def escape? : List Char → Option (Char × List Char)
  | [] => none
  | c :: rest =>
    let coded (count : Nat) : Option (Char × List Char) := do
      let (n, rest) ← hexNumber? count 0 rest
      return (← charOf? n, rest)
    match c with
    | '0' => some (Char.ofNat 0, rest)
    | 'a' => some (Char.ofNat 7, rest)
    | 'b' => some (Char.ofNat 8, rest)
    | 't' | '\t' => some ('\t', rest)
    | 'n' => some ('\n', rest)
    | 'v' => some (Char.ofNat 11, rest)
    | 'f' => some (Char.ofNat 12, rest)
    | 'r' => some ('\r', rest)
    | 'e' => some (Char.ofNat 27, rest)
    | ' ' | '"' | '/' | '\\' => some (c, rest)
    | 'N' => some ('\u0085', rest)
    | '_' => some ('\u00a0', rest)
    | 'L' => some ('\u2028', rest)
    | 'P' => some ('\u2029', rest)
    | 'x' => coded 2
    | 'u' => coded 4
    | 'U' => coded 8
    | _ => none

/-- What ends a word of a quoted text. -/
inductive WordEnd where
  | spacing
  | escapedBreak
  | closing
  deriving DecidableEq

/-- One word of a quoted text, what ends it, and what follows. -/
def quotedWord? (single : Bool) : Nat → List Char → Option (List Char × WordEnd × List Char)
  | 0, _ | _, [] => none
  | fuel + 1, c :: rest =>
    let put (c : Char) (rest : List Char) : Option (List Char × WordEnd × List Char) := do
      let (word, ending, rest) ← quotedWord? single fuel rest
      return (c :: word, ending, rest)
    if isSpacing c then some ([], .spacing, c :: rest)
    else if single then
      match c, rest with
      | '\'', '\'' :: rest => put '\'' rest
      | '\'', rest => some ([], .closing, rest)
      | c, rest => put c rest
    else
      match c, rest with
      | '"', rest => some ([], .closing, rest)
      | '\\', d :: rest =>
        if isBreak d then some ([], .escapedBreak, d :: rest)
        else do
          let (c, rest) ← escape? (d :: rest)
          put c rest
      | '\\', [] => none
      | c, rest => put c rest

/-- The words of a quoted text, continued from what was read. -/
def quotedWords? (single : Bool) : Nat → List Char → Cursor → Option (List Char × Cursor)
  | 0, _, _ => none
  | fuel + 1, text, c => do
    if c.isAtDocumentMark then none
    let (word, ending, rest) ← quotedWord? single (c.rest.length + 1) c.rest
    let text := text ++ word
    let c := c.skipTo rest
    match ending with
    | .closing => return (text, c)
    | .spacing =>
      let (gap, c) ← takeGap none .none c
      quotedWords? single fuel (text ++ gap.text) c
    | .escapedBreak =>
      let (gap, c) ← takeGap none (.breaks [] []) c.skipBreak
      quotedWords? single fuel (text ++ gap.text) c

/-- **The quoted text at a cursor**, and the place behind its closing quote. -/
def quotedText? (single : Bool) (c : Cursor) : Option (List Char × Cursor) :=
  quotedWords? single (c.rest.length + 1) [] (c.skip 1)

/-! ## Block texts -/

/-- What happens to the line breaks at the end of a block. -/
inductive Chomping where
  | strip
  | clip
  | keep
  deriving DecidableEq

/-- **How a block is written**: line by line or folded, what happens at its end, and how far it is
indented, when that is said. -/
structure BlockStyle where
  literal : Bool
  chomping : Chomping := .clip
  indent : Option Nat := none

/-- The chomping sign at the start of a text. -/
def chomping? : List Char → Option (Chomping × List Char)
  | '+' :: rest => some (.keep, rest)
  | '-' :: rest => some (.strip, rest)
  | _ => none

/-- The indentation digit at the start of a text; nought is refused. -/
def blockIndent? : List Char → Option (Option Nat × List Char)
  | c :: rest =>
    if c = '0' then none
    else if c.isDigit then some (some (c.toNat - '0'.toNat), rest)
    else some (none, c :: rest)
  | [] => some (none, [])

/-- The header of a block behind its indicator: chomping and indentation in either order. -/
def blockStyle? (literal : Bool) (cs : List Char) : Option (BlockStyle × List Char) :=
  match chomping? cs with
  | some (chomping, rest) => do
    let (indent, rest) ← blockIndent? rest
    return ({ literal, chomping, indent }, rest)
  | none => do
    let (indent, rest) ← blockIndent? cs
    match indent, chomping? rest with
    | some _, some (chomping, rest) => return ({ literal, chomping, indent }, rest)
    | _, _ => return ({ literal, indent }, rest)

/-- The empty lines at a cursor: their breaks, the greatest column met, and the place behind them.
Blanks are skipped up to the indentation, where there is one. -/
def blockBreaks? (indent : Option Nat) : Nat → List Char → Nat → Cursor →
    Option (List Char × Nat × Cursor)
  | 0, _, _, _ => none
  | fuel + 1, breaks, widest, c =>
    let blanks := (c.rest.takeWhile (· = ' ')).length
    let c := c.skip (match indent with
      | none => blanks
      | some n => min blanks (n - c.column))
    let widest := max widest c.column
    if c.isAt '\t' && indent.all (c.column < ·) then none
    else if c.isAtBreak then
      let (text, c) := c.takeBreak
      blockBreaks? indent fuel (breaks ++ text) widest c
    else some (breaks, widest, c)

/-- The lines of a block, continued from what was read, the break behind it and the empty lines
before the cursor. -/
def blockLines? (style : BlockStyle) (indent : Nat) : Nat → List Char → List Char → List Char →
    Bool → Cursor → Option (List Char × Cursor)
  | 0, _, _, _, _, _ => none
  | fuel + 1, text, first, others, afterBlank, c =>
    if c.column = indent ∧ c.peek?.isSome then do
      let blank := c.peek?.any isBlank
      let gap :=
        if !style.literal && first.head? = some '\n' && !afterBlank && !blank then
          (if others.isEmpty then [' '] else []) ++ others
        else first ++ others
      let line := c.rest.takeWhile (!isBreak ·)
      let (first, c) := (c.skip line.length).takeBreak
      let (others, _, c) ← blockBreaks? (some indent) (c.rest.length + 1) [] 0 c
      blockLines? style indent fuel (text ++ gap ++ line) first others blank c
    else some (
      text ++ (if style.chomping = .strip then [] else first) ++
        (if style.chomping = .keep then others else []), c)

/-- **The block text at a cursor**, given the indentation around it, and the place behind it. -/
def blockText? (literal : Bool) (around : Int) (c : Cursor) : Option (List Char × Cursor) := do
  let (style, rest) ← blockStyle? literal (c.rest.drop 1)
  let c := (c.skipTo rest).skipRun isBlank
  let c := if c.isAt '#' then c.skipRun (!isBreak ·) else c
  if !c.isAtLineEnd then none
  let c := c.skipBreak
  let declared := style.indent.map fun n => (max around 0).toNat + n
  let (others, widest, c) ← blockBreaks? declared (c.rest.length + 1) [] 0 c
  let indent := declared.getD (max widest (max (around + 1).toNat 1))
  blockLines? style indent (c.rest.length + 1) [] [] others false c

end WorkflowEngine.Yaml
