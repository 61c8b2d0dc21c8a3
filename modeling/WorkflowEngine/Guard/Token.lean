import WorkflowEngine.Guard.Syntax
import WorkflowEngine.Number.Reading
import WorkflowEngine.Text.Blank

/-!
# Tokens of guard expressions

The longest token wins. A sign belongs to the number after it when nothing stands between them, so
`10-5` is two numbers; blanks and comments from `//` to the end of the line are skipped.

* `Mark`, `Token`: operators and brackets; all tokens;
* `scanNumber?`: the number at the start of a text;
* `unescape?`: the text inside quotes, `unescapeBytes?`: the bytes;
* `tokens?`: the tokens of a text.
-/

namespace WorkflowEngine.Guard

/-- Operators, brackets and separators. -/
inductive Mark where
  | openParen | closeParen | openBracket | closeBracket | openBrace | closeBrace
  | comma | colon | question | dot
  | plus | minus | minusMinus | star | slash | percent
  | bang | bangBang | andAnd | orOr
  | less | lessEqual | greater | greaterEqual | equalEqual | bangEqual | in
  deriving DecidableEq, Repr

/-- **Tokens.** -/
inductive Token where
  | name (text : String)
  | literal (value : Literal)
  | mark (mark : Mark)
  deriving DecidableEq, Repr

/-! ## Numbers -/

/-- **The number at the start of a text.** A fraction needs a digit behind its point, an exponent a
digit of its own, and only a floating-point number may carry a plus sign. -/
def scanNumber? (cs : List Char) : Option (Option Token × List Char) :=
  let (negative, rest) := scanSign cs
  let signed := rest.length < cs.length
  let whole := rest.takeWhile Char.isDigit
  let behind := rest.dropWhile Char.isDigit
  let float (fraction : List Char) (behind : List Char) : Option Token × List Char :=
    let (exponent, behind) := (scanExponent? behind).getD (0, behind)
    (some (.literal (.float (Binary64.ofDecimal negative (digitsValue (whole ++ fraction))
      (exponent - fraction.length)))), behind)
  match behind with
  | '.' :: d :: more =>
    if d.isDigit then
      some (float ((d :: more).takeWhile Char.isDigit) ((d :: more).dropWhile Char.isDigit))
    else integer negative signed whole behind
  | _ =>
    if !whole.isEmpty ∧ (scanExponent? behind).isSome then some (float [] behind)
    else integer negative signed whole behind
where
  /-- A whole number of sixty-four bits; beyond them the token has no value. -/
  integer (negative signed : Bool) (whole behind : List Char) : Option (Option Token × List Char) :=
    if whole.isEmpty ∨ (signed ∧ !negative) then none
    else
      let n : Int := digitsValue whole
      let n := if negative then -n else n
      if -(Nat.pow 2 63 : Int) ≤ n ∧ n < Nat.pow 2 63 then some (some (.literal (.int n)), behind)
      else some (none, behind)

/-! ## Quoted text -/

/-- The text up to a closing quote, escapes left as they are, and what follows it. -/
def scanQuoted? (quote : Char) : List Char → Option (List Char × List Char)
  | [] => none
  | '\\' :: c :: cs => (scanQuoted? quote cs).map fun (body, rest) => ('\\' :: c :: body, rest)
  | c :: cs =>
    if c = quote then some ([], cs)
    else (scanQuoted? quote cs).map fun (body, rest) => (c :: body, rest)

/-- The character of a number, if it has one. -/
def charOfNat? (n : Nat) : Option Char := if h : n.isValidChar then some (Char.ofNatAux n h) else none

/-- The character of the digits of an escape, and what follows them. -/
def scanCode? (base count bound : Nat) (cs : List Char) : Option (Char × List Char) := do
  if cs.length < count then none
  let n ← natOfDigits? base (cs.take count)
  if n < bound then return (← charOfNat? n, cs.drop count) else none

/-- The character of an escape of one letter. -/
def simpleEscape? : Char → Option Char
  | 'a' => some (Char.ofNat 7)
  | 'b' => some (Char.ofNat 8)
  | 'v' => some (Char.ofNat 11)
  | 'f' => some (Char.ofNat 12)
  | 'n' => some '\n'
  | 'r' => some '\r'
  | 't' => some '\t'
  | '\\' => some '\\'
  | '?' => some '?'
  | c => if c.toNat = 96 then some c else none

/-- **The text inside quotes**, its escapes resolved. The quote of the other kind keeps its
backslash. -/
def unescape? (quote : Char) : Nat → List Char → Option (List Char)
  | _, [] => some []
  | 0, _ => none
  | fuel + 1, '\\' :: c :: cs =>
    match simpleEscape? c with
    | some d => (unescape? quote fuel cs).map (d :: ·)
    | none =>
      if c = '\'' ∨ c = '"' then
        (unescape? quote fuel cs).map fun rest =>
          if c = quote then c :: rest else '\\' :: c :: rest
      else do
        let (d, rest) ←
          if c = 'x' then scanCode? 16 2 0x110000 cs
          else if c = 'u' then scanCode? 16 4 0x110000 cs
          else if c = 'U' then scanCode? 16 8 0x110000 cs
          else if '0' ≤ c ∧ c ≤ '3' then scanCode? 8 3 256 (c :: cs)
          else none
        return d :: (← unescape? quote fuel rest)
  | fuel + 1, c :: cs => (unescape? quote fuel cs).map (c :: ·)

/-- The bytes of a character. -/
def utf8 (c : Char) : List UInt8 := (String.singleton c).toUTF8.data.toList

/-- The bytes inside quotes; only numbers can be escaped. -/
def unescapeBytes? : Nat → List Char → Option (List UInt8)
  | _, [] => some []
  | 0, _ => none
  | fuel + 1, '\\' :: c :: cs => do
    let (d, rest) ←
      if c = 'x' then scanCode? 16 2 256 cs
      else if '0' ≤ c ∧ c ≤ '3' then scanCode? 8 3 256 (c :: cs)
      else none
    return UInt8.ofNat d.toNat :: (← unescapeBytes? fuel rest)
  | fuel + 1, c :: cs => (unescapeBytes? fuel cs).map (utf8 c ++ ·)

/-! ## Marks and names -/

/-- The mark at the start of a text, the longer one first. -/
def scanMark? : List Char → Option (Mark × List Char)
  | '&' :: '&' :: cs => some (.andAnd, cs)
  | '|' :: '|' :: cs => some (.orOr, cs)
  | '=' :: '=' :: cs => some (.equalEqual, cs)
  | '!' :: '=' :: cs => some (.bangEqual, cs)
  | '!' :: '!' :: cs => some (.bangBang, cs)
  | '<' :: '=' :: cs => some (.lessEqual, cs)
  | '>' :: '=' :: cs => some (.greaterEqual, cs)
  | '-' :: '-' :: cs => some (.minusMinus, cs)
  | '(' :: cs => some (.openParen, cs)
  | ')' :: cs => some (.closeParen, cs)
  | '[' :: cs => some (.openBracket, cs)
  | ']' :: cs => some (.closeBracket, cs)
  | '{' :: cs => some (.openBrace, cs)
  | '}' :: cs => some (.closeBrace, cs)
  | ',' :: cs => some (.comma, cs)
  | ':' :: cs => some (.colon, cs)
  | '?' :: cs => some (.question, cs)
  | '.' :: cs => some (.dot, cs)
  | '+' :: cs => some (.plus, cs)
  | '-' :: cs => some (.minus, cs)
  | '*' :: cs => some (.star, cs)
  | '/' :: cs => some (.slash, cs)
  | '%' :: cs => some (.percent, cs)
  | '!' :: cs => some (.bang, cs)
  | '<' :: cs => some (.less, cs)
  | '>' :: cs => some (.greater, cs)
  | _ => none

/-- Characters that a name starts with. -/
def isNameStart (c : Char) : Bool := c = '_' || c.isAlpha

/-- Characters of a name. -/
def isNameChar (c : Char) : Bool := c = '_' || c.isAlphanum

/-- The token of a name: four of them are reserved. -/
def nameToken : String → Token
  | "in" => .mark .in
  | "true" => .literal (.bool true)
  | "false" => .literal (.bool false)
  | "null" => .literal .null
  | name => .name name

/-! ## Token lists -/

/-- The token at the start of a text without blanks before it. -/
def scanToken? (cs : List Char) : Option (Token × List Char) :=
  let quoted (quote : Char) (rest : List Char) : Option (Token × List Char) := do
    let (body, rest) ← scanQuoted? quote rest
    return (.literal (.string (String.ofList (← unescape? quote body.length body))), rest)
  let bytes (quote : Char) (rest : List Char) : Option (Token × List Char) := do
    let (body, rest) ← scanQuoted? quote rest
    return (.literal (.bytes (← unescapeBytes? body.length body)), rest)
  match cs with
  | '\'' :: rest => quoted '\'' rest
  | '"' :: rest => quoted '"' rest
  | 'b' :: '\'' :: rest | 'B' :: '\'' :: rest => bytes '\'' rest
  | 'b' :: '"' :: rest | 'B' :: '"' :: rest => bytes '"' rest
  | cs =>
    match scanNumber? cs with
    | some (token, rest) => token.map (·, rest)
    | none =>
      match cs with
      | c :: rest =>
        if isNameStart c then
          some (nameToken (String.ofList (c :: rest.takeWhile isNameChar)),
            rest.dropWhile isNameChar)
        else (scanMark? cs).map fun (mark, rest) => (.mark mark, rest)
      | [] => none

/-- The text without blanks and comments at its start, within the given number of steps. -/
def skipBlanks : Nat → List Char → List Char
  | 0, cs => cs
  | fuel + 1, cs =>
    match Text.dropBlanks cs with
    | '/' :: '/' :: rest => skipBlanks fuel (rest.dropWhile fun c => c ≠ '\n' && c ≠ '\r')
    | rest => rest

/-- The tokens of a text, within the given number of steps. -/
def scanTokens? : Nat → List Char → Option (List Token)
  | 0, _ => none
  | fuel + 1, cs =>
    match skipBlanks cs.length cs with
    | [] => some []
    | rest => do
      let (token, rest) ← scanToken? rest
      return token :: (← scanTokens? fuel rest)

/-- **The tokens of a text.** Every token has a character, so the length bounds the steps. -/
def tokens? (s : String) : Option (List Token) :=
  let cs := s.toList
  scanTokens? (cs.length + 1) cs

end WorkflowEngine.Guard
