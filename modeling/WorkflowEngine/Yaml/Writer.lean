import WorkflowEngine.Yaml.Cursor
import WorkflowEngine.Text.Blank
import WorkflowEngine.Yaml.Value

/-!
# Writing YAML

Values in block style: two blanks of indentation, entries of a list at the column of their key, empty
containers in brackets. A text stays plain when it reads back as itself; else it is quoted, or
written as a literal block when it has line breaks.

* `TextStyle`, `textStyle`: how a text is written;
* `quotedSingle`, `quotedDouble`, `literalLines`: the quoted and literal forms;
* `Yaml.render`: the text of a value.
-/

namespace WorkflowEngine.Yaml

/-! ## How a text is written -/

/-- **The ways to write a text.** -/
inductive TextStyle where
  | plain
  | single
  | double
  | literal
  deriving DecidableEq

/-- The characters that a writer leaves as they are. -/
def isPrintable (c : Char) : Bool :=
  let n := c.toNat
  n == 0x0A || (0x20 ≤ n && n ≤ 0x7E) || (0xA0 ≤ n && n ≤ 0xFFFD && n != 0xFEFF)

/-- True of a text with two neighbours of which the first and the second are of given kinds. -/
def hasNeighbours (p q : Char → Bool) : List Char → Bool
  | a :: b :: rest => (p a && q b) || hasNeighbours p q (b :: rest)
  | _ => false

/-- True of a text with a colon that spacing or nothing follows. -/
def hasLooseColon : List Char → Bool
  | [] => false
  | c :: rest => (c = ':' && atSpacing rest) || hasLooseColon rest

/-- True of a text whose start means something else in a block. -/
def startsAsIndicator : List Char → Bool
  | [] => false
  | c :: rest =>
    ("#,[]\x7b\x7d&*!|>'\"%@\x60".toList.contains c) ||
      (("?:-".toList.contains c) && atSpacing rest) ||
      (c :: rest).take 3 = ['-', '-', '-'] || (c :: rest).take 3 = ['.', '.', '.']

/-- **A text that may stay plain**: nothing in it can be taken for structure. -/
def isPlainText (cs : List Char) : Bool :=
  cs.all (fun c => isPrintable c && !isBreak c) && cs.head? ≠ some ' ' &&
    cs.getLast? ≠ some ' ' && !startsAsIndicator cs && !hasLooseColon cs &&
    !hasNeighbours isSpacing (· = '#') cs

/-- A text that reads back as something else than a text when it is plain. -/
def isMistakable (s : String) : Bool :=
  isPaddedNumber s.toList || plainValue? s ≠ some (.string s)

/-- A text that single quotes can hold. -/
def isSingleText (cs : List Char) : Bool :=
  cs.all isPrintable && !hasNeighbours isBreak (· = ' ') cs && !hasNeighbours (· = ' ') isBreak cs

/-- A text that a literal block can hold. -/
def isLiteralText (cs : List Char) : Bool :=
  cs.all isPrintable && cs.getLast? ≠ some ' ' && !hasNeighbours (· = ' ') isBreak cs

/-- **How a text is written.** -/
def textStyle (s : String) : TextStyle :=
  let cs := s.toList
  if cs.contains '\n' then if isLiteralText cs then .literal else .double
  else if !isMistakable s && isPlainText cs then .plain
  else if isSingleText cs then .single
  else .double

/-! ## Quoted and literal forms -/

/-- Some blanks. -/
def blanks (count : Nat) : List Char := List.replicate count ' '

/-- The characters of a quoted or literal text: a line break of the text starts a line at the given
column. -/
def continued (column : Nat) (put : Char → List Char) : Bool → List Char → List Char
  | broken, [] => if broken then blanks column else []
  | broken, c :: rest =>
    if isBreak c then c :: continued column put true rest
    else (if broken then blanks column else []) ++ put c ++ continued column put false rest

/-- A text in single quotes, in which a quote is written twice. -/
def quotedSingle (column : Nat) (cs : List Char) : List Char :=
  '\'' :: continued column (fun c => if c = '\'' then ['\'', '\''] else [c]) false cs ++ ['\'']

/-- A hexadecimal number of a fixed number of digits. -/
def hexDigits (count n : Nat) : List Char :=
  let digits := (Nat.toDigits 16 n).map Char.toUpper
  List.replicate (count - digits.length) '0' ++ digits

/-- What stands behind the backslash of an escaped character. -/
def escapeBody (c : Char) : List Char :=
  match c.toNat with
  | 0x00 => ['0']
  | 0x07 => ['a']
  | 0x08 => ['b']
  | 0x09 => ['t']
  | 0x0A => ['n']
  | 0x0B => ['v']
  | 0x0C => ['f']
  | 0x0D => ['r']
  | 0x1B => ['e']
  | 0x22 => ['"']
  | 0x5C => ['\\']
  | 0x85 => ['N']
  | 0x2028 => ['L']
  | 0x2029 => ['P']
  | n =>
    if n ≤ 0xFF then 'x' :: hexDigits 2 n
    else if n ≤ 0xFFFF then 'u' :: hexDigits 4 n
    else 'U' :: hexDigits 8 n

/-- A text in double quotes. -/
def quotedDouble (cs : List Char) : List Char :=
  let put (c : Char) : List Char :=
    if !isPrintable c || isBreak c || c = '"' || c = '\\' then '\\' :: escapeBody c else [c]
  '"' :: cs.flatMap put ++ ['"']

/-- The header of a literal block: an indentation digit when the text starts with spacing, and a sign
unless the text ends with exactly one line break. -/
def literalHeader (cs : List Char) : List Char :=
  let digit := if cs.head?.any fun c => c = ' ' || isBreak c then ['2'] else []
  let sign := match cs.reverse with
    | [] => ['-']
    | [c] => if isBreak c then ['+'] else ['-']
    | c :: d :: _ => if !isBreak c then ['-'] else if isBreak d then ['+'] else []
  '|' :: digit ++ sign

/-- The pieces of a text between its line feeds; a line feed at the end closes the last piece. -/
def linesOf (cs : List Char) : List (List Char) :=
  let pieces := Text.splitOn '\n' cs
  if pieces.getLast? = some [] then pieces.dropLast else pieces

/-- The lines of a literal block at a column. Empty lines stay empty. -/
def literalLines (column : Nat) (cs : List Char) : List (List Char) :=
  (linesOf cs).map fun line =>
    if line.isEmpty then [] else blanks column ++ continued column (fun c => [c]) false line

/-! ## Values -/

/-- Floats are written like those of documents, but a positive exponent has no sign. -/
def floatLayout : FloatLayout := { Number.layout with positiveExponentSign := "" }

/-- The text of a number. -/
def numberText : Number → String
  | .integer n => toString n
  | .float x => if x.isFinite then floatLayout.render x else ".nan"

/-- A text, its first line apart, in a block of the given column. -/
def textLines (column : Nat) (s : String) : List Char × List (List Char) :=
  let cs := s.toList
  match textStyle s with
  | .plain => (cs, [])
  | .single => (quotedSingle (column + 2) cs, [])
  | .double => (quotedDouble cs, [])
  | .literal => (literalHeader cs, literalLines (column + 2) cs)

/-- The longest text, in octets, that may be a key on the line of its value. -/
def keyLimit : Nat := 128

/-- A text that may be a key on the line of its value. -/
def isSimpleKey (s : String) : Bool := s.utf8ByteSize ≤ keyLimit && !s.toList.any isBreak

/-- Lines of a block moved behind a sign: the sign stands at the column, two places before them. -/
def behind (column : Nat) (sign : Char) : List (List Char) → List (List Char)
  | [] => [blanks column ++ [sign]]
  | first :: rest => (blanks column ++ [sign, ' '] ++ first.drop (column + 2)) :: rest

mutual

/-- **The lines of a value** as a block at a column. A scalar has its first line at that column. -/
def blockOf (column : Nat) : Json → List (List Char)
  | .null => [blanks column ++ "null".toList]
  | .bool b => [blanks column ++ (toString b).toList]
  | .number n => [blanks column ++ (numberText n).toList]
  | .string s =>
    let (first, rest) := textLines (column - 2) s
    (blanks column ++ first) :: rest
  | .array [] => [blanks column ++ "[]".toList]
  | .object [] => [blanks column ++ "\x7b\x7d".toList]
  | .array items => itemLines column items
  | .object fields => fieldLines column fields

/-- The lines of the entries of a list. -/
def itemLines (column : Nat) : List Json → List (List Char)
  | [] => []
  | item :: rest => behind column '-' (blockOf (column + 2) item) ++ itemLines column rest

/-- The lines of the fields of an object. -/
def fieldLines (column : Nat) : List (String × Json) → List (List Char)
  | [] => []
  | (key, value) :: rest =>
    let lines :=
      if isSimpleKey key then
        let head := blanks column ++ (textLines column key).1 ++ [':']
        match value with
        | .array (item :: items) => head :: itemLines column (item :: items)
        | .object (field :: fields) => head :: fieldLines (column + 2) (field :: fields)
        | value =>
          match blockOf (column + 2) value with
          | [] => [head]
          | first :: others => (head ++ ' ' :: first.drop (column + 2)) :: others
      else
        behind column '?' (blockOf (column + 2) (.string key)) ++
          behind column ':' (blockOf (column + 2) value)
    lines ++ fieldLines column rest

end

/-- **The text of a value in YAML.** -/
def render (value : Json) : String :=
  String.ofList ((blockOf 0 value).flatMap (· ++ ['\n']))

end WorkflowEngine.Yaml
