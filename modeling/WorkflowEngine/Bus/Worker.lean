import WorkflowEngine.Bus.Filter
import WorkflowEngine.Bus.Sender

/-!
# Workers

A worker takes envelopes from one queue and has them handled, one at a time. What its filter does not
take stays in flight; what was handled is acknowledged; what failed is rejected. Handlers may change
the state they run in, the queue itself included.

* `QueueAt σ`: where a state has the queue; `Bus.queueAt`;
* `Handler σ`, `Worker σ`, `WorkerOutcome`, `WorkerStats`;
* `Worker.runOnce`: at most one envelope;
* `Worker.runUntilIdle?`: until nothing is ready, within a number of rounds.
-/

namespace WorkflowEngine

/-- **Where a state has a queue.** -/
structure QueueAt (σ : Type) where
  get : σ → Queue
  put : Queue → σ → σ

/-- The queue of a name on a bus. -/
def Bus.queueAt (name : String) : QueueAt Bus where
  get b := (b.anyQueue? name).getD { name }
  put q b := b.update q

/-- A queue in a part of a state. -/
def QueueAt.within {σ τ : Type} (inner : QueueAt τ) (get : σ → τ) (put : τ → σ → σ) : QueueAt σ where
  get s := inner.get (get s)
  put q s := put (inner.put q (get s)) s

/-- **What handles an envelope.** It fails with a reason. -/
structure Handler (σ : Type) where
  name : String
  handle : Envelope → σ → Except String Unit × σ

/-- **A worker**: a queue, a handler, a filter, and what time it is. -/
structure Worker (σ : Type) where
  queue : QueueAt σ
  handler : Handler σ
  filter : ContextFilter := .acceptAll
  now : Instant

/-- **What a worker did**: nothing, as nothing was ready; left an envelope in flight; or had it
handled. -/
inductive WorkerOutcome where
  | idle
  | skipped (envelope : Envelope)
  | handled (envelope : Envelope)
  deriving DecidableEq

/-- How many envelopes a run of a worker had handled, and how many it skipped. -/
structure WorkerStats where
  handled : Nat := 0
  skipped : Nat := 0
  deriving DecidableEq, Repr

namespace Worker

variable {σ : Type}

/-- Settle an envelope on the queue of the worker, with the outcome if that succeeds. -/
def settle (w : Worker σ) (settled : Except BusError Queue)
    (outcome : Except BusError WorkerOutcome) (s : σ) : Except BusError WorkerOutcome × σ :=
  match settled with
  | .ok q => (outcome, w.queue.put q s)
  | .error e => (.error e, s)

/-- Have a received envelope handled, and settle it. -/
def process (w : Worker σ) (e : Envelope) (s : σ) : Except BusError WorkerOutcome × σ :=
  match w.handler.handle e s with
  | (.ok (), s) =>
    w.settle ((w.queue.get s).ack e.id) (.ok (.handled (e.stamp (.handled w.handler.name w.now)))) s
  | (.error reason, s) =>
    let address := e.route?.getD (w.queue.get s).name
    w.settle ((w.queue.get s).reject e.id)
      (.error (.handlerFailed w.handler.name address reason)) s

/-- **Take at most one envelope.** -/
def runOnce (w : Worker σ) (s : σ) : Except BusError WorkerOutcome × σ :=
  match (w.queue.get s).receive with
  | (none, _) => (.ok .idle, s)
  | (some e, q) =>
    let s := w.queue.put q s
    let e := e.stamp (.received q.name w.now)
    if w.filter.accepts e then w.process e s else (.ok (.skipped e), s)

/-- Take envelopes, counting on from given counts. -/
def runFrom? (w : Worker σ) : Nat → WorkerStats → σ → Option (Except BusError WorkerStats × σ)
  | 0, _, _ => none
  | rounds + 1, stats, s =>
    match w.runOnce s with
    | (.error e, s) => some (.error e, s)
    | (.ok .idle, s) => some (.ok stats, s)
    | (.ok (.skipped _), s) => w.runFrom? rounds { stats with skipped := stats.skipped + 1 } s
    | (.ok (.handled _), s) => w.runFrom? rounds { stats with handled := stats.handled + 1 } s

/-- **Take envelopes until nothing is ready** or one fails; none when the rounds do not suffice. -/
def runUntilIdle? (w : Worker σ) (rounds : Nat) (s : σ) :
    Option (Except BusError WorkerStats × σ) :=
  w.runFrom? rounds {} s

end Worker

end WorkflowEngine
