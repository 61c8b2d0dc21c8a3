import WorkflowEngine.Guard.Token

/-!
# Grammar of guard expressions

From loose to tight: a condition, `||`, `&&`, one relation, sums, products, one operator before an
operand, and access by dot, bracket and brace. Relations do not chain, and a separator may stand
behind the last entry of a list.

* `readExpr` and its companions: one reader for every level;
* `Expr.parse?`: the expression of a text.
-/

namespace WorkflowEngine.Guard

/-- The relation of a mark. -/
def relationOf? : Mark → Option Relation
  | .less => some .less
  | .lessEqual => some .lessEqual
  | .greater => some .greater
  | .greaterEqual => some .greaterEqual
  | .equalEqual => some .equal
  | .bangEqual => some .notEqual
  | .in => some .member
  | _ => none

/-- The operator of a mark between summands. -/
def sumOf? : Mark → Option Arithmetic
  | .plus => some .add
  | .minus => some .subtract
  | _ => none

/-- The operator of a mark between factors. -/
def productOf? : Mark → Option Arithmetic
  | .star => some .multiply
  | .slash => some .divide
  | .percent => some .remainder
  | _ => none

/-- The operator of a mark before an operand. -/
def unaryOf? : Mark → Option UnaryOperator
  | .bang => some .negation
  | .bangBang => some .doubleNegation
  | .minus => some .minus
  | .minusMinus => some .doubleMinus
  | _ => none

mutual

/-- **An expression**: a condition with two outcomes, or a disjunction. -/
def readExpr : Nat → List Token → Option (Expr × List Token)
  | 0, _ => none
  | fuel + 1, ts => do
    let (condition, ts) ← readOr fuel ts
    match ts with
    | .mark .question :: ts =>
      let (yes, ts) ← readOr fuel ts
      match ts with
      | .mark .colon :: ts =>
        let (no, ts) ← readExpr fuel ts
        return (.conditional condition yes no, ts)
      | _ => none
    | ts => return (condition, ts)

/-- A disjunction. -/
def readOr : Nat → List Token → Option (Expr × List Token)
  | 0, _ => none
  | fuel + 1, ts => do
    let (left, ts) ← readAnd fuel ts
    readOrTail fuel left ts

/-- The rest of a disjunction. -/
def readOrTail : Nat → Expr → List Token → Option (Expr × List Token)
  | 0, _, _ => none
  | fuel + 1, left, .mark .orOr :: ts => do
    let (right, ts) ← readAnd fuel ts
    readOrTail fuel (.or left right) ts
  | _ + 1, left, ts => some (left, ts)

/-- A conjunction. -/
def readAnd : Nat → List Token → Option (Expr × List Token)
  | 0, _ => none
  | fuel + 1, ts => do
    let (left, ts) ← readRelation fuel ts
    readAndTail fuel left ts

/-- The rest of a conjunction. -/
def readAndTail : Nat → Expr → List Token → Option (Expr × List Token)
  | 0, _, _ => none
  | fuel + 1, left, .mark .andAnd :: ts => do
    let (right, ts) ← readRelation fuel ts
    readAndTail fuel (.and left right) ts
  | _ + 1, left, ts => some (left, ts)

/-- One relation, or a sum. -/
def readRelation : Nat → List Token → Option (Expr × List Token)
  | 0, _ => none
  | fuel + 1, ts => do
    let (left, ts) ← readSum fuel ts
    match ts with
    | .mark m :: rest =>
      match relationOf? m with
      | some relation =>
        let (right, rest) ← readSum fuel rest
        return (.relation relation left right, rest)
      | none => return (left, ts)
    | ts => return (left, ts)

/-- A sum. -/
def readSum : Nat → List Token → Option (Expr × List Token)
  | 0, _ => none
  | fuel + 1, ts => do
    let (left, ts) ← readProduct fuel ts
    readSumTail fuel left ts

/-- The rest of a sum. -/
def readSumTail : Nat → Expr → List Token → Option (Expr × List Token)
  | 0, _, _ => none
  | fuel + 1, left, .mark m :: ts =>
    match sumOf? m with
    | some operator => do
      let (right, ts) ← readProduct fuel ts
      readSumTail fuel (.arithmetic operator left right) ts
    | none => some (left, .mark m :: ts)
  | _ + 1, left, ts => some (left, ts)

/-- A product. -/
def readProduct : Nat → List Token → Option (Expr × List Token)
  | 0, _ => none
  | fuel + 1, ts => do
    let (left, ts) ← readUnary fuel ts
    readProductTail fuel left ts

/-- The rest of a product. -/
def readProductTail : Nat → Expr → List Token → Option (Expr × List Token)
  | 0, _, _ => none
  | fuel + 1, left, .mark m :: ts =>
    match productOf? m with
    | some operator => do
      let (right, ts) ← readUnary fuel ts
      readProductTail fuel (.arithmetic operator left right) ts
    | none => some (left, .mark m :: ts)
  | _ + 1, left, ts => some (left, ts)

/-- An operand with at most one operator before it. -/
def readUnary : Nat → List Token → Option (Expr × List Token)
  | 0, _ => none
  | fuel + 1, .mark m :: ts =>
    match unaryOf? m with
    | some operator => do
      let (operand, ts) ← readMember fuel ts
      return (.unary operator operand, ts)
    | none => readMember fuel (.mark m :: ts)
  | fuel + 1, ts => readMember fuel ts

/-- A primary expression with its accesses. -/
def readMember : Nat → List Token → Option (Expr × List Token)
  | 0, _ => none
  | fuel + 1, ts => do
    let (primary, ts) ← readPrimary fuel ts
    readAccess fuel primary ts

/-- The accesses behind an expression. -/
def readAccess : Nat → Expr → List Token → Option (Expr × List Token)
  | 0, _, _ => none
  | fuel + 1, subject, .mark .dot :: .name name :: .mark .openParen :: ts => do
    let (arguments, ts) ← readItems fuel .closeParen ts
    readAccess fuel (.call name (some subject) arguments) ts
  | fuel + 1, subject, .mark .dot :: .name name :: ts =>
    readAccess fuel (.select subject name) ts
  | _ + 1, _, .mark .dot :: _ => none
  | fuel + 1, subject, .mark .openBracket :: ts => do
    let (position, ts) ← readExpr fuel ts
    match ts with
    | .mark .closeBracket :: ts => readAccess fuel (.index subject position) ts
    | _ => none
  | fuel + 1, subject, .mark .openBrace :: ts => do
    let (fields, ts) ← readFields fuel ts
    readAccess fuel (.record subject fields) ts
  | _ + 1, subject, ts => some (subject, ts)

/-- A name, a call, a literal, or an expression in brackets. -/
def readPrimary : Nat → List Token → Option (Expr × List Token)
  | 0, _ => none
  | fuel + 1, .mark .dot :: .name name :: ts => readPrimary fuel (.name name :: ts)
  | fuel + 1, .name name :: .mark .openParen :: ts => do
    let (arguments, ts) ← readItems fuel .closeParen ts
    return (.call name none arguments, ts)
  | _ + 1, .name name :: ts => some (.ident name, ts)
  | _ + 1, .literal value :: ts => some (.literal value, ts)
  | fuel + 1, .mark .openParen :: ts => do
    let (inner, ts) ← readExpr fuel ts
    match ts with
    | .mark .closeParen :: ts => return (inner, ts)
    | _ => none
  | fuel + 1, .mark .openBracket :: ts => do
    let (items, ts) ← readItems fuel .closeBracket ts
    return (.list items, ts)
  | fuel + 1, .mark .openBrace :: ts => do
    let (entries, ts) ← readEntries fuel ts
    return (.map entries, ts)
  | _ + 1, _ => none

/-- Expressions with separators up to a closing mark. -/
def readItems : Nat → Mark → List Token → Option (List Expr × List Token)
  | 0, _, _ => none
  | fuel + 1, close, ts =>
    if ts.head? = some (.mark close) then some ([], ts.tail)
    else do
      let (item, ts) ← readExpr fuel ts
      match ts with
      | .mark .comma :: ts =>
        let (items, ts) ← readItems fuel close ts
        return (item :: items, ts)
      | .mark m :: ts => if m = close then return ([item], ts) else none
      | _ => none

/-- The entries of a map up to its closing brace. -/
def readEntries : Nat → List Token → Option (List (Expr × Expr) × List Token)
  | 0, _ => none
  | _ + 1, .mark .closeBrace :: ts => some ([], ts)
  | fuel + 1, ts => do
    let (key, ts) ← readExpr fuel ts
    match ts with
    | .mark .colon :: ts =>
      let (value, ts) ← readExpr fuel ts
      match ts with
      | .mark .comma :: ts =>
        let (entries, ts) ← readEntries fuel ts
        return ((key, value) :: entries, ts)
      | .mark .closeBrace :: ts => return ([(key, value)], ts)
      | _ => none
    | _ => none

/-- The named fields of a record up to its closing brace. -/
def readFields : Nat → List Token → Option (List (String × Expr) × List Token)
  | 0, _ => none
  | _ + 1, .mark .closeBrace :: ts => some ([], ts)
  | fuel + 1, .name name :: .mark .colon :: ts => do
    let (value, ts) ← readExpr fuel ts
    match ts with
    | .mark .comma :: ts =>
      let (fields, ts) ← readFields fuel ts
      return ((name, value) :: fields, ts)
    | .mark .closeBrace :: ts => return ([(name, value)], ts)
    | _ => none
  | _ + 1, _ => none

end

/-- **The expression of a text.** Between two tokens no reader descends more than the levels of the
grammar, so a multiple of the number of tokens bounds the descent. -/
def Expr.parse? (s : String) : Option Expr := do
  let ts ← tokens? s
  let (e, rest) ← readExpr (16 * (ts.length + 2)) ts
  if rest.isEmpty then some e else none

end WorkflowEngine.Guard
