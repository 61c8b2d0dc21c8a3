import WorkflowEngine.Yaml.Token

/-!
# Nodes

The tree that the tokens of a YAML text describe. A node may carry an anchor and a tag, and an alias
stands for an anchored node. References are names at first; numbering them finds the node that each
one means.

* `Node ρ`: nodes with references of a type;
* `nodeOf?`: the node at the start of a list of tokens;
* `root?`: the only node of a text's tokens;
* `Node.number?`: references as numbers of anchored nodes.
-/

namespace WorkflowEngine.Yaml

/-- **The anchor and the tag of a node.** -/
structure Properties (ρ : Type) where
  anchor : Option ρ := none
  tag : Option String := none

/-- **A node**, with references of type `ρ`. -/
inductive Node (ρ : Type) where
  | alias (target : ρ)
  | scalar (properties : Properties ρ) (plain : Bool) (text : String)
  | sequence (properties : Properties ρ) (items : List (Node ρ))
  | mapping (properties : Properties ρ) (entries : List (Node ρ × Node ρ))

/-- The node of a part that is left out. -/
def Node.absent {ρ : Type} : Node ρ := .scalar {} true ""

/-- The families of tags by their handles. -/
abbrev TagFamilies := List (String × String)

/-- The families every document knows. -/
def TagFamilies.standard : TagFamilies := [("!", "!"), ("!!", "tag:yaml.org,2002:")]

/-- The full name of a tag; a tag without handle is complete. -/
def TagFamilies.resolve? (families : TagFamilies) (name : TagName) : Option String :=
  if name.handle = "" then some name.suffix
  else (families.lookup name.handle).map (· ++ name.suffix)

/-- **The properties at the start of a list of tokens**: an anchor and a tag in either order. -/
def properties? (families : TagFamilies) : List Token →
    Option (Properties String × List Token)
  | .anchor name :: .tag tag :: rest => do
    return ({ anchor := some name, tag := some (← families.resolve? tag) }, rest)
  | .tag tag :: .anchor name :: rest => do
    return ({ anchor := some name, tag := some (← families.resolve? tag) }, rest)
  | .anchor name :: rest => some ({ anchor := some name }, rest)
  | .tag tag :: rest => do return ({ tag := some (← families.resolve? tag) }, rest)
  | rest => some ({}, rest)

/-- A tag that leaves the choice of type to the reader. -/
def Properties.settled {ρ : Type} (p : Properties ρ) : Properties ρ :=
  if p.tag = some "!" then { p with tag := none } else p

/-- True when a token at the start of a list is among those given. -/
def startsWith (tokens : List Token) (expected : List Token) : Bool :=
  tokens.head?.any (expected.contains ·)

mutual

/-- **The node at the start of a list of tokens.** Blocks are allowed outside brackets; `dashes` says
that entries may follow without a block of their own. -/
def nodeOf? (families : TagFamilies) (block dashes : Bool) :
    Nat → List Token → Option (Node String × List Token)
  | 0, _ => none
  | _ + 1, .alias name :: rest => some (.alias name, rest)
  | fuel + 1, tokens => do
    let (p, tokens) ← properties? families tokens
    match tokens with
    | .scalar plain text :: rest => return (.scalar p.settled plain text, rest)
    | .flowSequence :: rest => do
      let (items, rest) ← flowItems? families true fuel rest
      return (.sequence p items, rest)
    | .flowMapping :: rest => do
      let (entries, rest) ← flowEntries? families true fuel rest
      return (.mapping p entries, rest)
    | .blockEntry :: _ =>
      if dashes then do
        let (items, rest) ← dashedItems? families fuel tokens
        return (.sequence p items, rest)
      else bare? p tokens
    | .blockSequence :: rest =>
      if block then do
        let (items, rest) ← blockItems? families fuel rest
        return (.sequence p items, rest)
      else bare? p tokens
    | .blockMapping :: rest =>
      if block then do
        let (entries, rest) ← blockEntries? families fuel rest
        return (.mapping p entries, rest)
      else bare? p tokens
    | _ => bare? p tokens

/-- Properties without anything behind them belong to an empty text. -/
def bare? (p : Properties String) (tokens : List Token) : Option (Node String × List Token) :=
  if p.anchor.isSome || p.tag.isSome then some (.scalar p true "", tokens) else none

/-- A node, or an absent one in front of the given tokens. -/
def nodeBefore? (families : TagFamilies) (block dashes : Bool) (stops : List Token) :
    Nat → List Token → Option (Node String × List Token)
  | 0, _ => none
  | fuel + 1, tokens =>
    if startsWith tokens stops then some (.absent, tokens)
    else nodeOf? families block dashes fuel tokens

/-- The entries of a sequence in a block of its own. -/
def blockItems? (families : TagFamilies) :
    Nat → List Token → Option (List (Node String) × List Token)
  | 0, _ => none
  | fuel + 1, .blockEntry :: rest => do
    let (item, rest) ← nodeBefore? families true false [.blockEntry, .blockEnd] fuel rest
    let (items, rest) ← blockItems? families fuel rest
    return (item :: items, rest)
  | _ + 1, .blockEnd :: rest => some ([], rest)
  | _ + 1, _ => none

/-- The entries of a sequence in the block of a mapping. -/
def dashedItems? (families : TagFamilies) :
    Nat → List Token → Option (List (Node String) × List Token)
  | 0, _ => none
  | fuel + 1, .blockEntry :: rest => do
    let (item, rest) ←
      nodeBefore? families true false [.blockEntry, .key, .value, .blockEnd] fuel rest
    let (items, rest) ← dashedItems? families fuel rest
    return (item :: items, rest)
  | _ + 1, rest => some ([], rest)

/-- The entries of a mapping in a block. -/
def blockEntries? (families : TagFamilies) :
    Nat → List Token → Option (List (Node String × Node String) × List Token)
  | 0, _ => none
  | _ + 1, .blockEnd :: rest => some ([], rest)
  | fuel + 1, .key :: rest => do
    let (key, rest) ← nodeBefore? families true true [.key, .value, .blockEnd] fuel rest
    let (value, rest) ← blockValue? families fuel rest
    let (entries, rest) ← blockEntries? families fuel rest
    return ((key, value) :: entries, rest)
  | _ + 1, _ => none

/-- The value of an entry in a block. -/
def blockValue? (families : TagFamilies) :
    Nat → List Token → Option (Node String × List Token)
  | 0, _ => none
  | fuel + 1, .value :: rest => nodeBefore? families true true [.key, .value, .blockEnd] fuel rest
  | _ + 1, rest => some (.absent, rest)

/-- The entries of a sequence in brackets; an entry may be a mapping of one pair. -/
def flowItems? (families : TagFamilies) (first : Bool) :
    Nat → List Token → Option (List (Node String) × List Token)
  | 0, _ => none
  | _ + 1, .flowSequenceEnd :: rest => some ([], rest)
  | fuel + 1, tokens => do
    let tokens ← match first, tokens with
      | true, tokens => some tokens
      | false, .flowEntry :: rest => some rest
      | false, _ => none
    match tokens with
    | .flowSequenceEnd :: rest => return ([], rest)
    | .key :: rest => do
      let (key, rest) ← flowPairKey? families fuel rest
      let (value, rest) ← flowValue? families [.flowEntry, .flowSequenceEnd] fuel rest
      let (items, rest) ← flowItems? families false fuel rest
      return (.mapping {} [(key, value)] :: items, rest)
    | tokens => do
      let (item, rest) ← nodeOf? families false false fuel tokens
      let (items, rest) ← flowItems? families false fuel rest
      return (item :: items, rest)

/-- The key of a single pair in brackets. In place of a missing key one token is passed over. -/
def flowPairKey? (families : TagFamilies) :
    Nat → List Token → Option (Node String × List Token)
  | 0, _ => none
  | fuel + 1, tokens =>
    if startsWith tokens [.value, .flowEntry, .flowSequenceEnd] then some (.absent, tokens.drop 1)
    else nodeOf? families false false fuel tokens

/-- The value of an entry in brackets. -/
def flowValue? (families : TagFamilies) (stops : List Token) :
    Nat → List Token → Option (Node String × List Token)
  | 0, _ => none
  | fuel + 1, .value :: rest => nodeBefore? families false false stops fuel rest
  | _ + 1, rest => some (.absent, rest)

/-- The entries of a mapping in brackets; an entry may be a key without value. -/
def flowEntries? (families : TagFamilies) (first : Bool) :
    Nat → List Token → Option (List (Node String × Node String) × List Token)
  | 0, _ => none
  | _ + 1, .flowMappingEnd :: rest => some ([], rest)
  | fuel + 1, tokens => do
    let tokens ← match first, tokens with
      | true, tokens => some tokens
      | false, .flowEntry :: rest => some rest
      | false, _ => none
    match tokens with
    | .flowMappingEnd :: rest => return ([], rest)
    | .key :: rest => do
      let (key, rest) ←
        nodeBefore? families false false [.value, .flowEntry, .flowMappingEnd] fuel rest
      let (value, rest) ← flowValue? families [.flowEntry, .flowMappingEnd] fuel rest
      let (entries, rest) ← flowEntries? families false fuel rest
      return ((key, value) :: entries, rest)
    | tokens => do
      let (key, rest) ← nodeOf? families false false fuel tokens
      let (entries, rest) ← flowEntries? families false fuel rest
      return ((key, .absent) :: entries, rest)

end

/-! ## Documents -/

/-- The directives of a document: at most one version, which has to be known, and families of tags
with different handles. -/
def directives? (seenVersion : Bool) (families : TagFamilies) :
    List Token → Option (TagFamilies × List Token)
  | .version major minor :: rest =>
    if seenVersion || major ≠ 1 || !(minor = 1 || minor = 2) then none
    else directives? true families rest
  | .tagFamily handle uri :: rest =>
    if (families.lookup handle).isSome then none
    else directives? seenVersion ((handle, uri) :: families) rest
  | rest => some (families, rest)

/-- The content of a document behind its mark. -/
def content? (families : TagFamilies) (tokens : List Token) :
    Option (Node String × List Token) :=
  match tokens with
  | [] | .version .. :: _ | .tagFamily .. :: _ | .documentStart :: _ | .documentEnd :: _ =>
    some (.absent, tokens)
  | tokens => nodeOf? families true false (4 * tokens.length + 8) tokens

/-- **The only node of a text's tokens.** A text without tokens has an absent node. -/
def root? (tokens : List Token) : Option (Node String) := do
  let (node, rest) ← match tokens with
    | [] => some (.absent, [])
    | .version .. :: _ | .tagFamily .. :: _ | .documentStart :: _ => do
      let (families, tokens) ← directives? false [] tokens
      let .documentStart :: tokens := tokens | none
      content? (families ++ TagFamilies.standard) tokens
    | tokens => nodeOf? TagFamilies.standard true false (4 * tokens.length + 8) tokens
  if rest.all (· = .documentEnd) then some node else none

/-! ## References -/

/-- **Anchors while they are numbered**: the numbers of the names, and the anchored nodes. A name gets
the count of names known before as its number. -/
structure Anchors where
  names : List (String × Nat) := []
  nodes : List (Nat × Node Nat) := []

namespace Anchors

/-- Give a name its number. -/
def name (a : Anchors) (name : String) : Nat × Anchors :=
  let number := a.names.length
  (number, { a with names := (name, number) :: a.names.filter (·.1 ≠ name) })

/-- Give the anchor of a node its number, when it has one. -/
def properties (a : Anchors) (p : Properties String) : Properties Nat × Anchors :=
  match p.anchor with
  | none => ({ tag := p.tag }, a)
  | some name =>
    let (number, a) := a.name name
    ({ anchor := some number, tag := p.tag }, a)

/-- Keep an anchored node. -/
def keep (a : Anchors) (p : Properties Nat) (node : Node Nat) : Node Nat × Anchors :=
  match p.anchor with
  | none => (node, a)
  | some number => (node, { a with nodes := (number, node) :: a.nodes })

end Anchors

mutual

/-- **References as numbers.** An alias of an unknown name is refused. -/
def Node.number? : Node String → Anchors → Option (Node Nat × Anchors)
  | .alias target, a => do return (.alias (← a.names.lookup target), a)
  | .scalar p plain text, a =>
    let (p, a) := a.properties p
    some (a.keep p (.scalar p plain text))
  | .sequence p items, a => do
    let (p, a) := a.properties p
    let (items, a) ← numberItems? items a
    return a.keep p (.sequence p items)
  | .mapping p entries, a => do
    let (p, a) := a.properties p
    let (entries, a) ← numberEntries? entries a
    return a.keep p (.mapping p entries)

/-- References as numbers in a list of nodes. -/
def numberItems? : List (Node String) → Anchors → Option (List (Node Nat) × Anchors)
  | [], a => some ([], a)
  | item :: rest, a => do
    let (item, a) ← item.number? a
    let (rest, a) ← numberItems? rest a
    return (item :: rest, a)

/-- References as numbers in the entries of a mapping. -/
def numberEntries? : List (Node String × Node String) → Anchors →
    Option (List (Node Nat × Node Nat) × Anchors)
  | [], a => some ([], a)
  | (key, value) :: rest, a => do
    let (key, a) ← key.number? a
    let (value, a) ← value.number? a
    let (rest, a) ← numberEntries? rest a
    return ((key, value) :: rest, a)

end

end WorkflowEngine.Yaml
