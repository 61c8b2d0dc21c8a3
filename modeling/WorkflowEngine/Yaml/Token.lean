import WorkflowEngine.Yaml.Text

/-!
# Tokens

The tokens of a YAML text. Block structure is turned into tokens as well: a deeper column opens a
block, a shallower one closes it. Whether a text is the key of an entry shows only at the colon
behind it, so possible keys are remembered, and the tokens of the entry are put in front of the key
when the colon comes. A possible key lasts for its line and for `keyReach` characters.

* `Token`, `TagName`;
* `Scan`: the state of a scan, with `Scan.token?`: one step;
* `tokens?`: the tokens of a text.
-/

namespace WorkflowEngine.Yaml

/-- **A tag as it is written**: the handle of a family of tags, and a name in it. -/
structure TagName where
  handle : String
  suffix : String
  deriving DecidableEq, Repr

/-- **A token.** A scalar says whether it was plain. -/
inductive Token where
  | version (major minor : Nat)
  | tagFamily (handle uri : String)
  | documentStart
  | documentEnd
  | blockSequence
  | blockMapping
  | blockEnd
  | flowSequence
  | flowSequenceEnd
  | flowMapping
  | flowMappingEnd
  | blockEntry
  | flowEntry
  | key
  | value
  | alias (name : String)
  | anchor (name : String)
  | tag (name : TagName)
  | scalar (plain : Bool) (text : String)
  deriving DecidableEq, Repr

/-- How many characters a possible key may have. -/
def keyReach : Nat := 1024

/-- **A possible key**: where it starts, the number of the token in front of which its entry would
start, and whether it has to be a key. -/
structure PossibleKey where
  number : Nat
  cursor : Cursor
  required : Bool

/-- **The state of a scan.** The tokens are newest first; `keys` holds the possible key of every
level of brackets, innermost first. -/
structure Scan where
  cursor : Cursor
  tokens : List Token := []
  indent : Int := -1
  outer : List Int := []
  keyAllowed : Bool := true
  key : Option PossibleKey := none
  outerKeys : List (Option PossibleKey) := []

namespace Scan

/-- True inside brackets. -/
def inFlow (s : Scan) : Bool := !s.outerKeys.isEmpty

/-- Put a token at the end. -/
def push (s : Scan) (t : Token) : Scan := { s with tokens := t :: s.tokens }

/-- Put a token in front of the token of a number. -/
def putAt (s : Scan) (number : Nat) (t : Token) : Scan :=
  { s with tokens := s.tokens.insertIdx (s.tokens.length - number) t }

/-- **A deeper column opens a block**, in front of the token of a number. Inside brackets columns
do not matter. -/
def openBlock (s : Scan) (column number : Nat) (t : Token) : Scan :=
  if !s.inFlow && s.indent < column then
    { s with outer := s.indent :: s.outer, indent := column }.putAt number t
  else s

/-- Close the blocks deeper than a column, given those around. -/
def closeBlocksFrom (column : Int) : List Int → Scan → Scan
  | [], s => s
  | around :: outer, s =>
    if s.indent > column then
      closeBlocksFrom column outer { s.push .blockEnd with indent := around, outer }
    else s

/-- **A shallower column closes blocks.** -/
def closeBlocks (s : Scan) (column : Int) : Scan :=
  if s.inFlow then s else closeBlocksFrom column s.outer s

/-- Give up the possible key; one that has to be a key must not be given up. -/
def dropKey? (s : Scan) : Option Scan :=
  if s.key.any (·.required) then none else some { s with key := none }

/-- Give up a possible key whose line is over or that is too far behind. -/
def dropStaleKey? (here : Cursor) : Option PossibleKey → Option (Option PossibleKey)
  | none => some none
  | some key =>
    if key.cursor.line < here.line || key.cursor.index + keyReach < here.index then
      if key.required then none else some none
    else some (some key)

/-- Give up all possible keys that are over. -/
def dropStaleKeys? (s : Scan) : Option Scan := do
  return { s with
    key := ← dropStaleKey? s.cursor s.key
    outerKeys := ← s.outerKeys.mapM (dropStaleKey? s.cursor) }

/-- Remember that the next token may be a key. -/
def saveKey? (s : Scan) : Option Scan :=
  if s.keyAllowed then do
    let required := !s.inFlow && s.indent = s.cursor.column
    let s ← s.dropKey?
    return { s with key := some { number := s.tokens.length, cursor := s.cursor, required } }
  else some s

/-- A step over some characters that gives a token. -/
def take (s : Scan) (count : Nat) (t : Token) (keyAllowed : Bool) : Scan :=
  { s with cursor := s.cursor.skip count, keyAllowed }.push t

/-! ## What stands between tokens -/

/-- Skip blanks, comments and line breaks. A tab is skipped only where no block can start, and
behind a line break a key may stand again. -/
def skipSpacingFrom : Nat → Scan → Scan
  | 0, s => s
  | fuel + 1, s =>
    let tabs := s.inFlow || !s.keyAllowed
    let c := s.cursor.skipRun fun ch => ch = ' ' || (tabs && ch = '\t')
    let c := if c.isAt '#' then c.skipRun (!isBreak ·) else c
    if c.isAtBreak then
      skipSpacingFrom fuel
        { s with cursor := c.skipBreak, keyAllowed := s.keyAllowed || !s.inFlow }
    else { s with cursor := c }

/-- Skip what stands before the next token. -/
def skipSpacing (s : Scan) : Scan := skipSpacingFrom (s.cursor.rest.length + 1) s

/-! ## Directives and documents -/

/-- A number of at most nine digits. -/
def versionNumber? (cs : List Char) : Option (Nat × List Char) :=
  let digits := cs.takeWhile Char.isDigit
  if digits.isEmpty || 9 < digits.length then none
  else some (digits.foldl (fun n d => n * 10 + (d.toNat - '0'.toNat)) 0, cs.drop digits.length)

/-- The characters of tag names; commas and square brackets only in full names. -/
def isTagChar (full : Bool) (c : Char) : Bool :=
  isWordChar c || ";/?:@&=+$.%!~*'()".toList.contains c || (full && ",[]".toList.contains c)

/-- The octet behind a percent sign. -/
def octet? : List Char → Option (Nat × List Char)
  | '%' :: rest => hexNumber? 2 0 rest
  | _ => none

/-- Further octets of a character in its UTF-8 form. -/
def octets? : Nat → Nat → List Char → Option (Nat × List Char)
  | 0, n, rest => some (n, rest)
  | count + 1, n, rest => do
    let (octet, rest) ← octet? rest
    if octet / 64 = 2 then octets? count (n * 64 + octet % 64) rest else none

/-- A character written as octets in its UTF-8 form. -/
def escapedChar? (cs : List Char) : Option (Char × List Char) := do
  let (lead, rest) ← octet? cs
  let (count, start) ←
    if lead < 0x80 then some (0, lead)
    else if lead / 0x20 = 6 then some (1, lead % 0x20)
    else if lead / 0x10 = 14 then some (2, lead % 0x10)
    else if lead / 0x08 = 30 then some (3, lead % 0x08)
    else none
  let (n, rest) ← octets? count start rest
  return (← charOf? n, rest)

/-- The characters of a tag name. -/
def tagChars? (full : Bool) : Nat → List Char → Option (List Char × List Char)
  | 0, _ => none
  | _ + 1, [] => some ([], [])
  | fuel + 1, c :: rest =>
    if c = '%' then do
      let (c, rest) ← escapedChar? (c :: rest)
      let (cs, rest) ← tagChars? full fuel rest
      return (c :: cs, rest)
    else if isTagChar full c then do
      let (cs, rest) ← tagChars? full fuel rest
      return (c :: cs, rest)
    else some ([], c :: rest)

/-- A tag name behind some characters that belong to it. -/
def tagText? (full : Bool) (head : List Char) (cs : List Char) : Option (List Char × List Char) := do
  let (chars, rest) ← tagChars? full (cs.length + 1) cs
  return (head ++ chars, rest)

/-- The handle of a family of tags: an exclamation mark, or a word between two. -/
def tagHandle? (cs : List Char) : Option (List Char × List Char) :=
  match cs with
  | '!' :: rest =>
    let word := rest.takeWhile isWordChar
    match rest.drop word.length with
    | '!' :: rest => some ('!' :: word ++ ['!'], rest)
    | rest => some ('!' :: word, rest)
  | _ => none

/-- What a directive says, given the characters behind the percent sign. -/
def directive? (cs : List Char) : Option (Token × List Char) := do
  let name := cs.takeWhile isWordChar
  let rest := cs.drop name.length
  if !atSpacing rest then none
  let rest := rest.dropWhile isBlank
  if name = "YAML".toList then
    let (major, rest) ← versionNumber? rest
    if rest.head? ≠ some '.' then none
    let (minor, rest) ← versionNumber? (rest.drop 1)
    return (.version major minor, rest)
  else if name = "TAG".toList then
    let (handle, rest) ← tagHandle? rest
    if handle ≠ ['!'] ∧ (handle.length < 2 ∨ handle.getLast? ≠ some '!') then none
    if !(rest.head?.any isBlank) then none
    let (uri, rest) ← tagText? true [] (rest.dropWhile isBlank)
    if uri.isEmpty || !atSpacing rest then none
    return (.tagFamily (String.ofList handle) (String.ofList uri), rest)
  else none

/-- A directive, up to the end of its line. -/
def takeDirective? (s : Scan) : Option Scan := do
  let s ← (s.closeBlocks (-1)).dropKey?
  let (t, rest) ← directive? (s.cursor.rest.drop 1)
  let c := (s.cursor.skipTo rest).skipRun isBlank
  let c := if c.isAt '#' then c.skipRun (!isBreak ·) else c
  if !c.isAtLineEnd then none
  return { s with cursor := c.skipBreak, keyAllowed := false }.push t

/-- The mark where a document starts or ends. -/
def takeDocumentMark? (s : Scan) (t : Token) : Option Scan := do
  let s ← (s.closeBlocks (-1)).dropKey?
  return s.take 3 t false

/-! ## Brackets and entries -/

/-- An opening bracket; it may start a key itself. -/
def openFlow? (s : Scan) (t : Token) : Option Scan := do
  let s ← s.saveKey?
  return { s with outerKeys := s.key :: s.outerKeys, key := none }.take 1 t true

/-- A closing bracket. -/
def closeFlow? (s : Scan) (t : Token) : Option Scan := do
  let s ← s.dropKey?
  let s := match s.outerKeys with
    | [] => s
    | key :: outerKeys => { s with key, outerKeys }
  return s.take 1 t false

/-- The comma between entries. -/
def takeFlowEntry? (s : Scan) : Option Scan := do
  return (← s.dropKey?).take 1 .flowEntry true

/-- The dash before an entry. -/
def takeBlockEntry? (s : Scan) : Option Scan := do
  if !s.inFlow && !s.keyAllowed then none
  let s ← (s.openBlock s.cursor.column s.tokens.length .blockSequence).dropKey?
  return s.take 1 .blockEntry true

/-- The question mark before a key. -/
def takeKey? (s : Scan) : Option Scan := do
  if !s.inFlow && !s.keyAllowed then none
  let s ← (s.openBlock s.cursor.column s.tokens.length .blockMapping).dropKey?
  return s.take 1 .key (!s.inFlow)

/-- **The colon before a value.** When there is a possible key, its entry starts in front of it. -/
def takeValue? (s : Scan) : Option Scan :=
  match s.key with
  | some key =>
    let s := { s with key := none }.putAt key.number .key
    some ((s.openBlock key.cursor.column key.number .blockMapping).take 1 .value false)
  | none =>
    if !s.inFlow && !s.keyAllowed then none
    else
      let s := s.openBlock s.cursor.column s.tokens.length .blockMapping
      some (s.take 1 .value (!s.inFlow))

/-! ## Scalars and their properties -/

/-- The word behind the sign of an anchor or alias. -/
def takeAnchor? (s : Scan) (token : String → Token) : Option Scan := do
  let s ← s.saveKey?
  let name := (s.cursor.rest.drop 1).takeWhile isWordChar
  let next := s.cursor.skip (1 + name.length)
  if name.isEmpty then none
  if !(atSpacing next.rest || next.peek?.any ("?:,]\x7d%@\x60".toList.contains ·)) then none
  return { s with cursor := next, keyAllowed := false }.push (token (String.ofList name))

/-- The tag at the start of a text. -/
def tagName? (cs : List Char) : Option (TagName × List Char) :=
  match cs with
  | '!' :: '<' :: rest => do
    let (uri, rest) ← tagText? true [] rest
    if uri.isEmpty || rest.head? ≠ some '>' then none
    return (⟨"", String.ofList uri⟩, rest.drop 1)
  | cs => do
    let (handle, rest) ← tagHandle? cs
    if 1 < handle.length ∧ handle.getLast? = some '!' then
      let (suffix, rest) ← tagText? false [] rest
      if suffix.isEmpty then none
      return (⟨String.ofList handle, String.ofList suffix⟩, rest)
    else
      let (suffix, rest) ← tagText? false (handle.drop 1) rest
      return (if suffix.isEmpty then ⟨"", "!"⟩ else ⟨"!", String.ofList suffix⟩, rest)

/-- A tag; it ends at spacing, or at a comma inside brackets. -/
def takeTag? (s : Scan) : Option Scan := do
  let s ← s.saveKey?
  let (name, rest) ← tagName? s.cursor.rest
  if !(atSpacing rest || (s.inFlow && rest.head? = some ',')) then none
  return { s with cursor := s.cursor.skipTo rest, keyAllowed := false }.push (.tag name)

/-- A block text. -/
def takeBlock? (s : Scan) (literal : Bool) : Option Scan := do
  let s ← s.dropKey?
  let (text, cursor) ← blockText? literal s.indent s.cursor
  return { s with cursor, keyAllowed := true }.push (.scalar false (String.ofList text))

/-- A quoted text. -/
def takeQuoted? (s : Scan) (single : Bool) : Option Scan := do
  let s ← s.saveKey?
  let (text, cursor) ← quotedText? single s.cursor
  return { s with cursor, keyAllowed := false }.push (.scalar false (String.ofList text))

/-- A plain text. Behind a line break a key may stand again. -/
def takePlain? (s : Scan) : Option Scan := do
  let s ← s.saveKey?
  let (text, broken, cursor) ← plainText? s.inFlow (s.indent + 1) s.cursor
  return { s with cursor, keyAllowed := broken }.push (.scalar true (String.ofList text))

/-- The characters that mean something else than the start of a plain text. -/
def isIndicator (c : Char) : Bool := "-?:,[]\x7b\x7d#&*!|>'\"%@\x60".toList.contains c

/-- **The next token**, given the first character of it. -/
def token? (s : Scan) (first : Char) : Option Scan :=
  let rest := s.cursor.rest.drop 1
  if s.cursor.column = 0 && first = '%' then s.takeDirective?
  else if s.cursor.isAtMark '-' then s.takeDocumentMark? .documentStart
  else if s.cursor.isAtMark '.' then s.takeDocumentMark? .documentEnd
  else match first with
    | '[' => s.openFlow? .flowSequence
    | '\x7b' => s.openFlow? .flowMapping
    | ']' => s.closeFlow? .flowSequenceEnd
    | '\x7d' => s.closeFlow? .flowMappingEnd
    | ',' => s.takeFlowEntry?
    | '*' => s.takeAnchor? .alias
    | '&' => s.takeAnchor? .anchor
    | '!' => s.takeTag?
    | '\'' => s.takeQuoted? true
    | '"' => s.takeQuoted? false
    | _ =>
      if first = '-' && atSpacing rest then s.takeBlockEntry?
      else if first = '?' && (s.inFlow || atSpacing rest) then s.takeKey?
      else if first = ':' && (s.inFlow || atSpacing rest) then s.takeValue?
      else if first = '|' && !s.inFlow then s.takeBlock? true
      else if first = '>' && !s.inFlow then s.takeBlock? false
      else if isSpacing first then none
      else if !isIndicator first || first = '-' || ((first = '?' || first = ':') && !s.inFlow) then
        s.takePlain?
      else none

/-- Take tokens until the text ends. -/
def run? : Nat → Scan → Option Scan
  | 0, _ => none
  | fuel + 1, s => do
    let s ← s.skipSpacing.dropStaleKeys?
    let s := s.closeBlocks s.cursor.column
    match s.cursor.peek? with
    | none => (s.closeBlocks (-1)).dropKey?
    | some first => run? fuel (← s.token? first)

end Scan

/-- **The tokens of a text.** -/
def tokens? (text : List Char) : Option (List Token) :=
  if text.all isReadable then
    (Scan.run? (text.length + 2) { cursor := { rest := text } }).map (·.tokens.reverse)
  else none

end WorkflowEngine.Yaml
