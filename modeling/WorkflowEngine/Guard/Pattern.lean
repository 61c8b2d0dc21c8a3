import WorkflowEngine.Text.Case
import WorkflowEngine.Text.Script

/-!
# Patterns

Regular expressions for searching a text. A pattern is matched by the set of positions it can reach
from a set of positions, which needs no backtracking and always ends.

* `CharClass`, `Pattern`: sets of characters; patterns;
* `Pattern.reach`: the positions behind the matches that start at given positions;
* `Pattern.isFoundIn`: the search;
* `CharClass.property?`: the set that a property names: a general category or a script, or what is
  alphabetic, in lower or upper case, or blank;
* `Pattern.parse?`: the pattern of a text.
-/

namespace WorkflowEngine.Guard

/-! ## Character classes -/

/-- **Sets of characters.** -/
inductive CharClass where
  | range (first last : Char)
  | digit
  | word
  | blank
  | any
  | listed (spans : List Text.Span)
  | union (left right : CharClass)
  | intersection (left right : CharClass)
  | complement (inner : CharClass)
  | folded (inner : CharClass)
  deriving Repr, Inhabited

/-- The class without characters. -/
def CharClass.none : CharClass := .complement .any

/-- **True of the characters of a class.** A folded class holds its characters in either
case. -/
def CharClass.contains (c : Char) : CharClass → Bool
  | .range first last => first ≤ c && c ≤ last
  | .digit => Text.isDigit c
  | .word => Text.isWordChar c
  | .blank => Text.isBlank c
  | .any => true
  | .listed spans => Text.inSpans spans c
  | .union a b => a.contains c || b.contains c
  | .intersection a b => a.contains c && b.contains c
  | .complement a => !a.contains c
  | .folded a => (Text.caseVariants c).any fun c => a.contains c

/-! ## Patterns -/

/-- Conditions on a position. -/
inductive Anchor where
  | textStart
  | textEnd
  | lineStart
  | lineEnd
  | wordBoundary
  | noWordBoundary
  | wordStart
  | wordEnd
  | wordStartHalf
  | wordEndHalf
  deriving DecidableEq, Repr

/-- **Patterns.** A repetition has a least and perhaps a greatest count. -/
inductive Pattern where
  | empty
  | char (set : CharClass)
  | anchor (condition : Anchor)
  | sequence (first second : Pattern)
  | choice (left right : Pattern)
  | repetition (body : Pattern) (least : Nat) (most : Option Nat)
  deriving Repr, Inhabited

/-- True when a condition holds at a position of a text. -/
def Anchor.holds (text : Array Char) (position : Nat) : Anchor → Bool
  | .textStart => position = 0
  | .textEnd => position = text.size
  | .lineStart => position = 0 || text[position - 1]? = some '\n'
  | .lineEnd => position = text.size || text[position]? = some '\n'
  | .wordBoundary => before ≠ behind
  | .noWordBoundary => before = behind
  | .wordStart => !before && behind
  | .wordEnd => before && !behind
  | .wordStartHalf => !before
  | .wordEndHalf => !behind
where
  /-- True when a word character stands before the position. -/
  before : Bool := position ≠ 0 && (text[position - 1]?.map Text.isWordChar).getD false
  /-- True when a word character stands behind the position. -/
  behind : Bool := (text[position]?.map Text.isWordChar).getD false

/-- The positions of two increasing lists. -/
def mergePositions (a b : List Nat) : List Nat :=
  (a ++ b.filter (!a.contains ·))

/-- Apply a step a number of times, or until it changes nothing. -/
def stepTimes (step : List Nat → List Nat) : Nat → List Nat → List Nat
  | 0, positions => positions
  | n + 1, positions =>
    let next := step positions
    if next = positions then positions else stepTimes step n next

/-- The positions reached by applying a step up to a number of times. -/
def stepUpTo (step : List Nat → List Nat) : Nat → List Nat → List Nat
  | 0, positions => positions
  | n + 1, positions =>
    let wider := mergePositions positions (step positions)
    if wider.length = positions.length then positions else stepUpTo step n wider

/-- **The positions behind the matches that start at given positions.** More repetitions than the
text has positions reach nothing new. -/
def Pattern.reach (text : Array Char) : Pattern → List Nat → List Nat
  | .empty, positions => positions
  | .char set, positions => positions.filterMap fun position =>
    match text[position]? with
    | some c => if set.contains c then some (position + 1) else none
    | none => none
  | .anchor condition, positions => positions.filter (condition.holds text)
  | .sequence first second, positions => second.reach text (first.reach text positions)
  | .choice left right, positions =>
    mergePositions (left.reach text positions) (right.reach text positions)
  | .repetition body least most, positions =>
    let start := stepTimes (body.reach text) least positions
    stepUpTo (body.reach text) ((most.map (· - least)).getD (text.size + 1)) start

/-- **The pattern matches somewhere in a text.** -/
def Pattern.isFoundIn (p : Pattern) (s : String) : Bool :=
  let text := s.toList.toArray
  !(p.reach text (List.range (text.size + 1))).isEmpty

/-! ## Reading patterns -/

/-- How the letters of a pattern are to be taken. -/
structure PatternMode where
  foldCase : Bool := false
  multiLine : Bool := false
  dotAll : Bool := false
  verbose : Bool := false

/-- The class of one character. -/
def CharClass.single (c : Char) : CharClass := .range c c

/-- A class as the mode takes it, with or without regard to case. -/
def PatternMode.fold (mode : PatternMode) (set : CharClass) : CharClass :=
  if mode.foldCase then .folded set else set

/-- Characters that may be escaped to stand for themselves. -/
def isPunctuation (c : Char) : Bool :=
  33 ≤ c.toNat && c.toNat < 127 && !c.isAlphanum && c ≠ '<' && c ≠ '>'

/-- The character of a hexadecimal escape: a fixed count of digits, or any count between braces. -/
def scanHexEscape? (count : Nat) (cs : List Char) : Option (Char × List Char) :=
  let char? (digits : List Char) : Option Char := do
    let n ← natOfDigits? 16 digits
    if h : n.isValidChar then some (Char.ofNatAux n h) else none
  match cs with
  | '{' :: rest =>
    match rest.dropWhile (· ≠ '}') with
    | _ :: behind => (char? (rest.takeWhile (· ≠ '}'))).map (·, behind)
    | [] => none
  | cs =>
    if cs.length < count then none else (char? (cs.take count)).map (·, cs.drop count)

/-! ## Properties -/

/-- A name without its capitals, spaces, hyphens and underscores, and without `is` before it. -/
def looseName (name : List Char) : List Char :=
  match name.map Char.toLower with
  | 'i' :: 's' :: rest => if plain rest = ['c'] then ['i', 's', 'c'] else plain rest
  | rest => plain rest
where
  /-- The characters that count. -/
  plain (cs : List Char) : List Char :=
    cs.filter fun c => c.toNat < 128 && c ≠ ' ' && c ≠ '_' && c ≠ '-'

/-- True if a name is among some others. -/
def isNamed (name : List Char) (names : List String) : Bool :=
  names.any fun other => looseName other.toList = name

namespace CharClass

/-- The characters of a general category, or of a group of them. -/
def category? (name : List Char) : Option CharClass :=
  let unassigned : CharClass := .complement (.listed Text.assigned)
  if isNamed name ["Any"] then some .any
  else if isNamed name ["ASCII"] then some (.range (Char.ofNat 0) (Char.ofNat 127))
  else if isNamed name ["Assigned"] then some (.listed Text.assigned)
  else if isNamed name ["Cn", "Unassigned"] then some unassigned
  else if isNamed name ["C", "Other"] then
    some (.union (.listed (Text.ofCategories ["Cc", "Cf", "Co"])) unassigned)
  else match Text.categoryGroups.find? fun group => isNamed name group.1 with
    | some (_, categories) => some (.listed (Text.ofCategories categories))
    | .none => (Text.generalCategories.find? fun row => isNamed name row.names).map (.listed ·.spans)

/-- The characters of a script. -/
def script? (name : List Char) : Option CharClass :=
  (Text.scripts.find? fun row => isNamed name row.names).map (.listed ·.spans)

/-- The characters with a property that has no values. -/
def plain? (name : List Char) : Option CharClass :=
  if isNamed name ["Alphabetic", "Alpha"] then some (.listed Text.alphabetic)
  else if isNamed name ["Lowercase", "Lower"] then some (.listed Text.lowercase)
  else if isNamed name ["Uppercase", "Upper"] then some (.listed Text.uppercase)
  else if isNamed name ["White_Space", "WSpace", "space"] then some .blank
  else .none

/-- The characters with a value of a property. -/
def valued? (property value : List Char) : Option CharClass :=
  if isNamed (looseName property) ["General_Category", "gc"] then category? (looseName value)
  else if isNamed (looseName property) ["Script", "sc"] then script? (looseName value)
  else .none

/-- **The set that a property names**, and whether the set without it is meant. -/
def property? (query : List Char) : Option (CharClass × Bool) :=
  match query.span (· ≠ '!'), query.span (· ≠ ':'), query.span (· ≠ '=') with
  | (property, '!' :: '=' :: value), _, _ => (valued? property value).map (·, true)
  | _, (property, ':' :: value), _ => (valued? property value).map (·, false)
  | _, _, (property, '=' :: value) => (valued? property value).map (·, false)
  | _, _, _ =>
    let name := looseName query
    ((plain? name).or ((category? name).or (script? name))).map (·, false)

end CharClass

/-- The property behind `p`: between braces, or of one letter. -/
def scanProperty? (mode : PatternMode) (negated : Bool) (cs : List Char) :
    Option (CharClass × List Char) := do
  let (query, cs) ← match cs with
    | '{' :: rest =>
      match rest.dropWhile (· ≠ '}') with
      | _ :: behind => some (rest.takeWhile (· ≠ '}'), behind)
      | [] => none
    | c :: rest => if c = '\\' then none else some ([c], rest)
    | [] => none
  let (set, without) ← CharClass.property? query
  return (if negated = without then mode.fold set else .complement (mode.fold set), cs)

/-! ## Escapes -/

/-- The word boundary behind `b`, which may have a name between braces. -/
def scanBoundary? : List Char → Option (Anchor × List Char)
  | '{' :: cs =>
    let name := cs.takeWhile fun c => c.isAlpha || c = '-'
    -- without a name the braces belong to a repetition
    if name.isEmpty then some (.wordBoundary, '{' :: cs)
    else match String.ofList name, cs.drop name.length with
      | "start", '}' :: cs => some (.wordStart, cs)
      | "end", '}' :: cs => some (.wordEnd, cs)
      | "start-half", '}' :: cs => some (.wordStartHalf, cs)
      | "end-half", '}' :: cs => some (.wordEndHalf, cs)
      | _, _ => none
  | cs => some (.wordBoundary, cs)

/-- What an escape stands for: a class, or a condition. -/
inductive Escape where
  | set (set : CharClass)
  | anchor (condition : Anchor)

/-- The escape behind a backslash. -/
def scanEscape? (mode : PatternMode) : List Char → Option (Escape × List Char)
  | 'd' :: cs => some (.set .digit, cs)
  | 'D' :: cs => some (.set (.complement .digit), cs)
  | 'w' :: cs => some (.set .word, cs)
  | 'W' :: cs => some (.set (.complement .word), cs)
  | 's' :: cs => some (.set .blank, cs)
  | 'S' :: cs => some (.set (.complement .blank), cs)
  | 'p' :: cs => (scanProperty? mode false cs).map fun (set, cs) => (.set set, cs)
  | 'P' :: cs => (scanProperty? mode true cs).map fun (set, cs) => (.set set, cs)
  | 'b' :: cs => (scanBoundary? cs).map fun (condition, cs) => (.anchor condition, cs)
  | 'B' :: cs => some (.anchor .noWordBoundary, cs)
  | '<' :: cs => some (.anchor .wordStart, cs)
  | '>' :: cs => some (.anchor .wordEnd, cs)
  | 'A' :: cs => some (.anchor .textStart, cs)
  | 'z' :: cs => some (.anchor .textEnd, cs)
  | 'a' :: cs => some (.set (.single (Char.ofNat 7)), cs)
  | 'f' :: cs => some (.set (.single (Char.ofNat 12)), cs)
  | 't' :: cs => some (.set (.single '\t'), cs)
  | 'n' :: cs => some (.set (.single '\n'), cs)
  | 'r' :: cs => some (.set (.single '\r'), cs)
  | 'v' :: cs => some (.set (.single (Char.ofNat 11)), cs)
  | 'x' :: cs => (scanHexEscape? 2 cs).map fun (c, cs) => (.set (.single c), cs)
  | 'u' :: cs => (scanHexEscape? 4 cs).map fun (c, cs) => (.set (.single c), cs)
  | 'U' :: cs => (scanHexEscape? 8 cs).map fun (c, cs) => (.set (.single c), cs)
  | c :: cs => if isPunctuation c then some (.set (.single c), cs) else none
  | [] => none

/-- The classes with a name between colons. -/
def namedClass? : String → Option CharClass
  | "alpha" => some (.union (.range 'a' 'z') (.range 'A' 'Z'))
  | "digit" => some (.range '0' '9')
  | "alnum" => some (.union (.range '0' '9') (.union (.range 'a' 'z') (.range 'A' 'Z')))
  | "upper" => some (.range 'A' 'Z')
  | "lower" => some (.range 'a' 'z')
  | "space" => some (.union (.range '\t' '\r') (.single ' '))
  | "blank" => some (.union (.single '\t') (.single ' '))
  | "punct" => some (.union (.union (.range '!' '/') (.range ':' '@'))
      (.union (.range '[' (Char.ofNat 96)) (.range '{' '~')))
  | "word" =>
    some (.union (.single '_') (.union (.range '0' '9') (.union (.range 'a' 'z') (.range 'A' 'Z'))))
  | "xdigit" => some (.union (.range '0' '9') (.union (.range 'a' 'f') (.range 'A' 'F')))
  | "cntrl" => some (.union (.range (Char.ofNat 0) (Char.ofNat 31)) (.single (Char.ofNat 127)))
  | "graph" => some (.range '!' '~')
  | "print" => some (.range ' ' '~')
  | "ascii" => some (.range (Char.ofNat 0) (Char.ofNat 127))
  | _ => none

/-- The named class behind an opening bracket and a colon. -/
def scanNamedClass? (cs : List Char) : Option (CharClass × List Char) :=
  let (negated, cs) := match cs with
    | '^' :: rest => (true, rest)
    | rest => (false, rest)
  match cs.dropWhile Char.isAlpha with
  | ':' :: ']' :: rest => do
    let set ← namedClass? (String.ofList (cs.takeWhile Char.isAlpha))
    some (if negated then .complement set else set, rest)
  | _ => none

/-- One end of a range, or a class, inside brackets. -/
def scanClassItem? (mode : PatternMode) : List Char → Option (CharClass × List Char)
  | '\\' :: cs => do
    match ← scanEscape? mode cs with
    | (.set set, cs) => some (set, cs)
    | (.anchor _, _) => none
  | c :: cs => some (.single c, cs)
  | [] => none

mutual

/-- The entries of a class up to its closing bracket, joined to those read before. -/
def readClassItems (mode : PatternMode) :
    Nat → CharClass → List Char → Option (CharClass × List Char)
  | 0, _, _ => none
  | _ + 1, set, ']' :: cs => some (mode.fold set, cs)
  | fuel + 1, set, '&' :: '&' :: cs => do
    let (other, cs) ← readClassItems mode fuel .none cs
    return (.intersection (mode.fold set) other, cs)
  | fuel + 1, set, '-' :: '-' :: cs => do
    let (other, cs) ← readClassItems mode fuel .none cs
    return (.intersection (mode.fold set) (.complement other), cs)
  | fuel + 1, set, '[' :: ':' :: cs =>
    match scanNamedClass? cs with
    | some (named, cs) => readClassItems mode fuel (.union set named) cs
    | none => do
      let (inner, cs) ← readClass mode fuel (':' :: cs)
      readClassItems mode fuel (.union set inner) cs
  | fuel + 1, set, '[' :: cs => do
    let (inner, cs) ← readClass mode fuel cs
    readClassItems mode fuel (.union set inner) cs
  | fuel + 1, set, cs => do
    let (first, cs) ← scanClassItem? mode cs
    match cs with
    | '-' :: ']' :: _ => readClassItems mode fuel (.union set first) cs
    | '-' :: '-' :: _ => readClassItems mode fuel (.union set first) cs
    | '-' :: cs =>
      let (last, cs) ← scanClassItem? mode cs
      match first, last with
      | .range a _, .range b _ =>
        if a ≤ b then readClassItems mode fuel (.union set (.range a b)) cs else none
      | _, _ => none
    | cs => readClassItems mode fuel (.union set first) cs

/-- A class behind its opening bracket. A closing bracket in the first place stands for itself. -/
def readClass (mode : PatternMode) : Nat → List Char → Option (CharClass × List Char)
  | 0, _ => none
  | fuel + 1, cs => do
    let (negated, cs) := match cs with
      | '^' :: rest => (true, rest)
      | rest => (false, rest)
    let (start, cs) := match cs with
      | ']' :: rest => (CharClass.single ']', rest)
      | rest => (.none, rest)
    let dashes := cs.takeWhile (· = '-')
    let start := if dashes.isEmpty then start else .union start (.single '-')
    let (set, cs) ← readClassItems mode fuel start (cs.dropWhile (· = '-'))
    return (if negated then .complement set else set, cs)

end

/-- The counts of a repetition between braces. -/
def scanCounts? (cs : List Char) : Option (Nat × Option Nat × List Char) := do
  let (least, cs) ← number? (cs.dropWhile (· = ' '))
  match cs.dropWhile (· = ' ') with
  | '}' :: cs => some (least, some least, cs)
  | ',' :: cs =>
    match cs.dropWhile (· = ' ') with
    | '}' :: cs => some (least, none, cs)
    | cs =>
      let (most, cs) ← number? cs
      match cs.dropWhile (· = ' ') with
      | '}' :: cs => if least ≤ most then some (least, some most, cs) else none
      | _ => none
  | _ => none
where
  /-- The number at the start of a text. -/
  number? (cs : List Char) : Option (Nat × List Char) :=
    let digits := cs.takeWhile Char.isDigit
    if digits.isEmpty then none else some (digitsValue digits, cs.dropWhile Char.isDigit)

/-- The repetitions behind a pattern; a question mark behind one changes no search. -/
def readRepetitions : Nat → Pattern → List Char → Option (Pattern × List Char)
  | 0, _, _ => none
  | fuel + 1, p, c :: cs =>
    let lazy (cs : List Char) : List Char := if cs.head? = some '?' then cs.tail else cs
    if c = '*' then readRepetitions fuel (.repetition p 0 none) (lazy cs)
    else if c = '+' then readRepetitions fuel (.repetition p 1 none) (lazy cs)
    else if c = '?' then readRepetitions fuel (.repetition p 0 (some 1)) (lazy cs)
    else if c = '{' then do
      let (least, most, cs) ← scanCounts? cs
      readRepetitions fuel (.repetition p least most) (lazy cs)
    else some (p, c :: cs)
  | _ + 1, p, [] => some (p, [])

/-- The letters that change the mode, up to a colon or a closing parenthesis. -/
def readMode : PatternMode → Bool → List Char → Option (PatternMode × List Char)
  | mode, _, ':' :: cs => some (mode, ':' :: cs)
  | mode, _, ')' :: cs => some (mode, ')' :: cs)
  | mode, on, c :: cs =>
    match c with
    | 'i' => readMode { mode with foldCase := on } on cs
    | 'm' => readMode { mode with multiLine := on } on cs
    | 's' => readMode { mode with dotAll := on } on cs
    | 'x' => readMode { mode with verbose := on } on cs
    | 'U' | 'u' | 'R' => readMode mode on cs
    | '-' => if on then readMode mode false cs else none
    | _ => none
  | _, _, [] => none

/-- True of the names that a group may have. -/
def isGroupName : List Char → Bool
  | [] => false
  | c :: cs => (c = '_' || Text.isAlphabetic c) &&
    cs.all fun c => ['_', '.', '[', ']'].contains c || Text.isAlphabetic c || Text.isNumeric c

/-- True of characters that may not start a pattern's atom. -/
def isRepetitionMark (c : Char) : Bool := c = '*' || c = '+' || c = '?' || c = '{'

mutual

/-- Alternatives up to the end or a closing parenthesis. -/
def readChoice : Nat → PatternMode → List Char → Option (Pattern × List Char)
  | 0, _, _ => none
  | fuel + 1, mode, cs => do
    let (left, mode, cs) ← readSequence fuel mode .empty cs
    match cs with
    | '|' :: cs =>
      let (right, cs) ← readChoice fuel mode cs
      return (.choice left right, cs)
    | cs => return (left, cs)

/-- A sequence, joined to what was read before. The mode may change within it. -/
def readSequence : Nat → PatternMode → Pattern → List Char →
    Option (Pattern × PatternMode × List Char)
  | 0, _, _, _ => none
  | _ + 1, mode, done, [] => some (done, mode, [])
  | fuel + 1, mode, done, c :: cs =>
    let proceed (atom : Pattern) (cs : List Char) : Option (Pattern × PatternMode × List Char) := do
      let (atom, cs) ← readRepetitions (cs.length + 1) atom cs
      readSequence fuel mode (.sequence done atom) cs
    if c = '|' ∨ c = ')' then some (done, mode, c :: cs)
    else if mode.verbose ∧ Text.isBlank c then readSequence fuel mode done cs
    else if mode.verbose ∧ c = '#' then readSequence fuel mode done (cs.dropWhile (· ≠ '\n'))
    else if isRepetitionMark c then none
    else if c = '.' then
      proceed (.char (if mode.dotAll then .any else .complement (.single '\n'))) cs
    else if c = '^' then proceed (.anchor (if mode.multiLine then .lineStart else .textStart)) cs
    else if c = '$' then proceed (.anchor (if mode.multiLine then .lineEnd else .textEnd)) cs
    else if c = '[' then do
      let (set, cs) ← readClass mode (cs.length + 1) cs
      proceed (.char set) cs
    else if c = '\\' then do
      match ← scanEscape? mode cs with
      | (.set set, cs) => proceed (.char (mode.fold set)) cs
      | (.anchor condition, cs) => proceed (.anchor condition) cs
    else if c = '(' then
      match cs with
      | '?' :: 'P' :: '<' :: cs | '?' :: '<' :: cs =>
        let name := cs.takeWhile (· ≠ '>')
        if !isGroupName name then none
        else do
          let (inner, cs) ← readGroup fuel mode (cs.dropWhile (· ≠ '>')).tail
          proceed inner cs
      | '?' :: cs => do
        let (inner, cs) ← readMode mode true cs
        match cs with
        | ':' :: cs =>
          let (p, cs) ← readGroup fuel inner cs
          proceed p cs
        | _ :: cs => readSequence fuel inner done cs
        | [] => none
      | cs => do
        let (inner, cs) ← readGroup fuel mode cs
        proceed inner cs
    else proceed (.char (mode.fold (.single c))) cs

/-- Alternatives up to a closing parenthesis. -/
def readGroup : Nat → PatternMode → List Char → Option (Pattern × List Char)
  | 0, _, _ => none
  | fuel + 1, mode, cs => do
    let (inner, cs) ← readChoice fuel mode cs
    match cs with
    | ')' :: cs => return (inner, cs)
    | _ => none

end

/-- **The pattern of a text.** -/
def Pattern.parse? (s : String) : Option Pattern := do
  let cs := s.toList
  let (p, rest) ← readChoice (4 * cs.length + 4) {} cs
  if rest.isEmpty then some p else none

end WorkflowEngine.Guard
