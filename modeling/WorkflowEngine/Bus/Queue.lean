import WorkflowEngine.Message.Basic

/-!
# Queues

A queue hands out its envelopes in the order in which they came. An envelope that was handed out is in
flight until it is acknowledged or rejected; redelivery puts what is in flight back.

* `BusError`: what can go wrong on the way of a message, with its message;
* `Queue`, with `send`, `receive`, `ack`, `reject`, `redeliver`.
-/

namespace WorkflowEngine

/-- **What can go wrong on the way of a message.** -/
inductive BusError where
  | unknownTransport (name : String)
  | noRoute (workflow : WorkflowName) (transition : TransitionName)
  | notInFlight (transport : String) (id : EnvelopeId)
  | handlerFailed (handler address reason : String)
  deriving DecidableEq, Repr

/-- The message of a bus error. -/
def BusError.message : BusError → String
  | .unknownTransport name => "No transport named '" ++ name ++ "'"
  | .noRoute workflow transition =>
    "No route for " ++ workflow ++ "." ++ transition ++ " and no default transport"
  | .notInFlight transport id =>
    "Transport '" ++ transport ++ "' failed: envelope " ++ id.text ++ " is not in flight"
  | .handlerFailed handler address reason =>
    "Handler '" ++ handler ++ "' failed for TransitionMessage on '" ++ address ++ "': " ++ reason

/-- **A queue**: what is ready to be handed out, what is in flight, and what was settled. -/
structure Queue where
  name : String
  ready : List Envelope := []
  inFlight : List Envelope := []
  acked : List Envelope := []
  rejected : List Envelope := []
  deriving DecidableEq, Repr

namespace Queue

/-- Put an envelope at the end. -/
def send (q : Queue) (e : Envelope) : Queue := { q with ready := q.ready ++ [e] }

/-- Envelopes without those of an identifier. -/
def without (id : EnvelopeId) (es : List Envelope) : List Envelope := es.filter (·.id ≠ id)

/-- **Hand out the first envelope**, if there is one; then it is in flight. -/
def receive (q : Queue) : Option Envelope × Queue :=
  match q.ready with
  | [] => (none, q)
  | e :: ready => (some e, { q with ready, inFlight := without e.id q.inFlight ++ [e] })

/-- The envelope of an identifier in flight, and the queue where it is no longer in flight. -/
def land? (q : Queue) (id : EnvelopeId) : Option (Envelope × Queue) :=
  (q.inFlight.find? (·.id = id)).map fun e =>
    (e, { q with inFlight := without id q.inFlight })

/-- **Acknowledge an envelope in flight.** -/
def ack (q : Queue) (id : EnvelopeId) : Except BusError Queue :=
  match q.land? id with
  | some (e, q) => .ok { q with acked := q.acked ++ [e] }
  | none => .error (.notInFlight q.name id)

/-- **Reject an envelope in flight.** -/
def reject (q : Queue) (id : EnvelopeId) : Except BusError Queue :=
  match q.land? id with
  | some (e, q) => .ok { q with rejected := q.rejected ++ [e] }
  | none => .error (.notInFlight q.name id)

/-- **Put everything in flight back**, in the order of the identifiers. -/
def redeliver (q : Queue) : Queue :=
  { q with
    ready := q.ready ++ q.inFlight.mergeSort fun a b => a.id.value ≤ b.id.value
    inFlight := [] }

end Queue

end WorkflowEngine
