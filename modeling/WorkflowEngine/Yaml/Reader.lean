import WorkflowEngine.Document.Basic
import WorkflowEngine.Yaml.Node
import WorkflowEngine.Yaml.Value

/-!
# Reading YAML

The text of one YAML document, read as a document of the library. Aliases are replaced by what they
stand for; containers are readable down to `depthLimit`, and following aliases is limited by the size
of the text.

* `Node.document`: the document of a node;
* `Yaml.document?`: the document of a text.
-/

namespace WorkflowEngine.Yaml

/-- The greatest number of containers around a readable part, the outermost included. -/
def depthLimit : Nat := 128

/-- How many aliases may be followed for every part of a text. -/
def aliasLimit : Nat := 100

/-- The document of a part with a tag: a private tag keeps it from being read as a plain value. -/
def tagged (tag : Option String) (d : Document) : Document :=
  if tag.any (·.toList.head? = some '!') then .tagged d else d

/-- The document of a scalar. -/
def scalarDocument (tag : Option String) (plain : Bool) (text : String) : Document :=
  let value := match tag with
    | none => if plain then plainValue? text else some (.string text)
    | some tag =>
      if tag.toList.head? = some '!' && plain then plainValue? text else taggedValue? tag text
  tagged tag (.scalar (some text) value)

mutual

/-- The number of marks in the text of a node: one for a scalar, two around a container. -/
def Node.marks : Node Nat → Nat
  | .alias _ | .scalar .. => 1
  | .sequence _ items => 2 + itemMarks items
  | .mapping _ entries => 2 + entryMarks entries

/-- The marks in a list of nodes. -/
def itemMarks : List (Node Nat) → Nat
  | [] => 0
  | item :: rest => item.marks + itemMarks rest

/-- The marks in the entries of a mapping. -/
def entryMarks : List (Node Nat × Node Nat) → Nat
  | [] => 0
  | (key, value) :: rest => key.marks + value.marks + entryMarks rest

end

/-- What a node stands for: an alias stands for its target. The state counts the aliases that may
still be followed. -/
def follow (targets : List (Nat × Node Nat)) : Node Nat → StateM Nat (Option (Node Nat))
  | .alias target => fun left =>
    if left = 0 then (none, 0) else (targets.lookup target, left - 1)
  | node => return node

/-- The document of a node, with containers down to a depth. -/
def documentTo (targets : List (Nat × Node Nat)) : Nat → Node Nat → StateM Nat Document
  | 0, node => do
    match ← follow targets node with
    | some (.scalar p plain text) => return scalarDocument p.tag plain text
    | _ => return .unreadable
  | depth + 1, node => do
    match ← follow targets node with
    | some (.scalar p plain text) => return scalarDocument p.tag plain text
    | some (.sequence p items) =>
      return tagged p.tag (.list (← items.mapM (documentTo targets depth)))
    | some (.mapping p entries) =>
      return tagged p.tag (.mapping (← entries.mapM fun (key, value) => do
        return (← documentTo targets depth key, ← documentTo targets depth value)))
    | none | some (.alias _) => return .unreadable

/-- **The document of a node.** Each entry of an outermost mapping has its own allowance of aliases,
so an entry that nothing asks for spoils no other. -/
def Node.document (targets : List (Nat × Node Nat)) (node : Node Nat) : Document :=
  let allowance := aliasLimit * node.marks
  match node with
  | .mapping p entries =>
    tagged p.tag <| .mapping <| entries.map fun (key, value) =>
      let read (node : Node Nat) : Document := (documentTo targets (depthLimit - 1) node allowance).1
      (read key, read value)
  | node => (documentTo targets depthLimit node allowance).1

/-- **The document of a text.** -/
def document? (text : String) : Option Document := do
  let node ← root? (← tokens? text.toList)
  let (node, anchors) ← node.number? {}
  return node.document anchors.nodes

end WorkflowEngine.Yaml
