import WorkflowEngine.Bus.Queue
import WorkflowEngine.Dispatch.Subject

/-!
# Services

What a dispatcher needs from outside: a store for entities and a bus for messages. The state of the
outside world is a value, and a service may change it whether it succeeds or fails.

* `StoreError`, with its message;
* `Services σ`: storing, finding and sending over a state;
* `EntityTable`: stored entities by type and identity.
-/

namespace WorkflowEngine

/-- **What can go wrong with stored entities.** -/
inductive StoreError where
  | persist (entityType entityId reason : String)
  | load (entityType entityId reason : String)
  | unsupportedType (entityType : String)
  deriving DecidableEq, Repr

/-- The message of a store error. -/
def StoreError.message : StoreError → String
  | .persist entityType entityId reason =>
    "Failed to persist " ++ entityType ++ " '" ++ entityId ++ "': " ++ reason
  | .load entityType entityId reason =>
    "Failed to load " ++ entityType ++ " '" ++ entityId ++ "': " ++ reason
  | .unsupportedType entityType => "No loader for entity type '" ++ entityType ++ "'"

/-- **The outside world of a dispatcher.** Sending makes an envelope of a message and its stamps. -/
structure Services (σ : Type) where
  persist : Subject → σ → Except StoreError Unit × σ
  find : String → String → σ → Except StoreError (Option Subject) × σ
  send : TransitionMessage → List Stamp → σ → Except BusError Envelope × σ

/-- **A stored entity** with its identity. -/
structure StoredEntity where
  id : String
  subject : Subject

/-- True of the stored entity of a type and an identity. -/
def StoredEntity.isFor (entityType id : String) (e : StoredEntity) : Bool :=
  e.subject.entityType = entityType && e.id = id

/-- **Stored entities**, at most one of a type and an identity. -/
structure EntityTable where
  rows : List StoredEntity := []

namespace EntityTable

/-- The entity of a type and an identity. -/
def find? (t : EntityTable) (entityType id : String) : Option Subject :=
  (t.rows.find? (·.isFor entityType id)).map (·.subject)

/-- The table with an entity stored, in place of an earlier one of its identity. -/
def store (t : EntityTable) (id : String) (s : Subject) : EntityTable :=
  ⟨⟨id, s⟩ :: t.rows.filter (!·.isFor s.entityType id)⟩

end EntityTable

end WorkflowEngine
