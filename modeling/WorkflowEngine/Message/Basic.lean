import WorkflowEngine.Collection.Distinct
import WorkflowEngine.Message.EnvelopeId
import WorkflowEngine.Time.Instant
import WorkflowEngine.Workflow.Name

/-!
# Messages

A message names an entity and a transition to fire on it. It travels in an envelope with stamps: where
to deliver it, which partitions it belongs to, and what has happened to it.

* `TransitionMessage`;
* `ContextValue`, `ContextStamp`, `ContextPayload`: partition values of an entity;
* `Stamp`, `Envelope`: stamps and the envelope they are put on;
* `Envelope.stamp`, `Envelope.route?`, `Envelope.lastContext?`, `Envelope.hasLifecycleMarker`.
-/

namespace WorkflowEngine

/-- **A message**: fire a transition of a workflow on an entity. -/
structure TransitionMessage where
  entityId : String
  entityType : String
  transition : TransitionName
  workflow : WorkflowName
  deriving DecidableEq, Repr, Inhabited

/-! ## Partition values -/

/-- **A partition value**: a whole number or a text. -/
inductive ContextValue where
  | int (value : Int)
  | text (value : String)
  deriving DecidableEq, Repr

/-- The text of a partition value. -/
def ContextValue.display : ContextValue → String
  | .int n => toString n
  | .text s => s

/-- **A partition value under a key.** -/
structure ContextStamp where
  key : String
  value : ContextValue
  deriving DecidableEq, Repr

/-- The key of partition values that have none of their own. -/
def defaultContextKey : String := "context"

/-- **What an entity gives for partitioning**: one value, several, or values under keys. -/
inductive ContextPayload where
  | one (value : ContextValue)
  | several (values : List ContextValue)
  | keyed (stamps : List ContextStamp)
  deriving DecidableEq

/-- **The stamps of a payload**, each once, in order. -/
def ContextPayload.stamps : ContextPayload → List ContextStamp
  | .one value => [⟨defaultContextKey, value⟩]
  | .several values => distinct (values.map fun value => ⟨defaultContextKey, value⟩)
  | .keyed stamps => distinct stamps

/-! ## Stamps and envelopes -/

/-- **A stamp.** `received` and `handled` tell what has happened to a message, and when. -/
inductive Stamp where
  | route (address : String)
  | context (stamp : ContextStamp)
  | received (transport : String) (instant : Instant)
  | handled (handler : String) (instant : Instant)
  deriving DecidableEq, Repr

namespace Stamp

/-- The address of a route stamp. -/
def address? : Stamp → Option String
  | .route address => some address
  | _ => none

/-- The partition value of a context stamp. -/
def context? : Stamp → Option ContextStamp
  | .context stamp => some stamp
  | _ => none

/-- True of stamps that tell what has happened to a message. -/
def isLifecycleMarker : Stamp → Bool
  | .received .. | .handled .. => true
  | _ => false

end Stamp

/-- **A message with its stamps.** -/
structure Envelope where
  id : EnvelopeId
  message : TransitionMessage
  stamps : List Stamp := []
  deriving DecidableEq, Repr, Inhabited

namespace Envelope

/-- **The envelope with a stamp put on.** A context stamp that is there already is not repeated. -/
def stamp (e : Envelope) (s : Stamp) : Envelope :=
  if s.context?.isSome && e.stamps.contains s then e else { e with stamps := e.stamps ++ [s] }

/-- The envelope with several stamps put on. -/
def stampAll (e : Envelope) (stamps : List Stamp) : Envelope := stamps.foldl stamp e

/-- **Where to deliver**: the address of the last route stamp. -/
def route? (e : Envelope) : Option String := (e.stamps.filterMap Stamp.address?).getLast?

/-- True when the envelope says where to deliver it. -/
def hasRoute (e : Envelope) : Bool := e.route?.isSome

/-- True when something has happened to the message already. -/
def hasLifecycleMarker (e : Envelope) : Bool := e.stamps.any (·.isLifecycleMarker)

/-- The context stamps in order. -/
def contexts (e : Envelope) : List ContextStamp := e.stamps.filterMap Stamp.context?

/-- The context stamp put on last. -/
def lastContext? (e : Envelope) : Option ContextStamp := e.contexts.getLast?

end Envelope

end WorkflowEngine
