import WorkflowEngine.Document.Record
import WorkflowEngine.Json.Reader
import WorkflowEngine.Message.Basic

/-!
# The written form of messages

Envelopes as JSON texts. A stamp names its kind first, whether it is an object or a list of its
fields. Reading keeps every stamp, repeated ones included.

* `TransitionMessage.toJson`, `Stamp.toJson`, `Envelope.toJson`, with fields in declared order;
* `ContextValue.ofDocument?`, `ContextPayload.ofDocument?`, `Stamp.ofDocument?`,
  `Envelope.ofDocument?`;
* `Envelope.parse?`: an envelope from its text.
-/

namespace WorkflowEngine

namespace ContextValue

/-- The written form of a partition value. -/
def toJson : ContextValue → Json
  | .int n => .ofInt n
  | .text s => .string s

/-- A partition value from its written form: a whole number of sixty-four bits with sign, or a
text. -/
def ofDocument? (d : Document) : Option ContextValue := do
  match ← (← d.typed?).value? with
  | .number (.integer n) => if n < Nat.pow 2 63 then some (.int n) else none
  | .string s => some (.text s)
  | _ => none

end ContextValue

/-- The written form of a partition value under its key. -/
def ContextStamp.toJson (s : ContextStamp) : Json :=
  .object [("key", .string s.key), ("value", s.value.toJson)]

namespace ContextPayload

/-- A key and a value written as a list of two. -/
def pairOfDocument? (d : Document) : Option ContextStamp := do
  match ← d.items? with
  | [key, value] => return ⟨← key.text?, ← ContextValue.ofDocument? value⟩
  | _ => none

/-- **What an entity gives for partitioning**, from its written form; it may give nothing. -/
def ofDocument? (d : Document) : Option (Option ContextPayload) :=
  if d.isNull then some none
  else do
    let r ← Record.ofMapping? ["value", "values", "keyed"] d
    match r.field? "value", r.field? "values", r.field? "keyed" with
    | some d, _, _ => return some (.one (← ContextValue.ofDocument? d))
    | none, some d, _ => return some (.several (← (← d.items?).mapM ContextValue.ofDocument?))
    | none, none, some d => return some (.keyed (← (← d.items?).mapM pairOfDocument?))
    | none, none, none => return none

end ContextPayload

namespace TransitionMessage

/-- The written form of a message. -/
def toJson (m : TransitionMessage) : Json :=
  .object [("entityId", .string m.entityId), ("entityType", .string m.entityType),
    ("transitionName", .string m.transition), ("workflowName", .string m.workflow)]

/-- A message from its written form. -/
def ofDocument? (d : Document) : Option TransitionMessage := do
  let r ← Record.read? true ["entityId", "entityType", "transitionName", "workflowName"] 4 d
  return {
    entityId := ← r.required? "entityId" Document.text?
    entityType := ← r.required? "entityType" Document.text?
    transition := ← r.required? "transitionName" Document.text?
    workflow := ← r.required? "workflowName" Document.text? }

end TransitionMessage

namespace Stamp

/-- The written form of a stamp. -/
def toJson : Stamp → Json
  | .route address => .object [("kind", .string "route"), ("address", .string address)]
  | .context s =>
    .object [("kind", .string "context"), ("key", .string s.key), ("value", s.value.toJson)]
  | .received transport instant =>
    .object [("kind", .string "received"), ("transport", .string transport),
      ("at", .string instant.text)]
  | .handled handler instant =>
    .object [("kind", .string "handled"), ("handler", .string handler),
      ("at", .string instant.text)]

/-- The kind of a stamp and its other fields: an object with a kind, or a list that starts with it. -/
def parts? (d : Document) : Option (String × Document) :=
  match d with
  | .list (kind :: fields) => do return (← kind.text?, ← (Document.list fields).typed?)
  | d => do
    let r ← Record.ofMapping? ["kind"] d
    let kind ← r.required? "kind" Document.text?
    let fields := r.others.map fun (name, d) => (Document.scalar (some name) (some (.string name)), d)
    return (kind, ← (Document.mapping fields).typed?)

/-- The instant of a stamp from its written form. -/
def instantOfDocument? (d : Document) : Option Instant := do Instant.ofText? (← d.text?)

/-- **A stamp from its written form.** -/
def ofDocument? (d : Document) : Option Stamp := do
  let (kind, d) ← parts? d
  match kind with
  | "route" =>
    let r ← Record.read? true ["address"] 1 d
    return .route (← r.required? "address" Document.text?)
  | "context" =>
    let r ← Record.read? true ["key", "value"] 2 d
    return .context ⟨← r.required? "key" Document.text?,
      ← r.required? "value" ContextValue.ofDocument?⟩
  | "received" =>
    let r ← Record.read? true ["transport", "at"] 2 d
    return .received (← r.required? "transport" Document.text?)
      (← r.required? "at" instantOfDocument?)
  | "handled" =>
    let r ← Record.read? true ["handler", "at"] 2 d
    return .handled (← r.required? "handler" Document.text?)
      (← r.required? "at" instantOfDocument?)
  | _ => none

end Stamp

namespace Envelope

/-- **The written form of an envelope.** -/
def toJson (e : Envelope) : Json :=
  .object [("id", .string e.id.text), ("message", e.message.toJson),
    ("stamps", .array (e.stamps.map Stamp.toJson))]

/-- An envelope from its written form. -/
def ofDocument? (d : Document) : Option Envelope := do
  let r ← Record.read? true ["id", "message", "stamps"] 2 d
  return {
    id := ← r.required? "id" fun d => do EnvelopeId.ofText? (← d.text?)
    message := ← r.required? "message" TransitionMessage.ofDocument?
    stamps := ← r.withDefault? "stamps" [] fun d => do (← d.items?).mapM Stamp.ofDocument? }

/-- **An envelope from its text.** -/
def parse? (text : String) : Option Envelope := do ofDocument? (← Json.document? text)

end Envelope

end WorkflowEngine
