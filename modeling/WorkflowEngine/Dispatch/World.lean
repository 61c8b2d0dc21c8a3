import WorkflowEngine.Bus.Sender
import WorkflowEngine.Dispatch.Services
import WorkflowEngine.Workflow.Registry

/-!
# Worlds in memory

An outside world that is a value: stored entities, the queues of a bus, and a journal of what was
stored and sent. A stored entity keeps where it stands in the registered workflows and nothing of
others. Some entities may be refused, as a store outside may refuse them.

* `Registry.standing`: where a subject stands in the registered workflows;
* `Refusals`: what a store refuses;
* `JournalEntry`, `World`: stored entities, queues and journal;
* `World.store`, `World.find`, `World.send`, `worldServices`.
-/

namespace WorkflowEngine

/-- **Where a subject stands in the registered workflows**, those it has not entered left out. -/
def Registry.standing (r : Registry) (s : Subject) : SortedMap Marking :=
  .ofList ((r.names.map fun name => (name, s.marking name)).filter (!·.2.isEmpty))

/-- The written form of markings by workflow. -/
def markingsJson (markings : SortedMap Marking) : Json :=
  .ofMap (markings.mapValues fun m => .ofStrings m.places)

/-- **What a store refuses**: identities it does not write, identities it does not read, and all
types but those it can load. -/
structure Refusals where
  unwritable : List String := []
  unreadable : List String := []
  loadable : List String
  deriving DecidableEq, Repr

/-- **What happened in a world.** -/
inductive JournalEntry where
  | stored (entityType id : String) (markings : SortedMap Marking)
  | sent (message : TransitionMessage) (address : Option String)
  deriving DecidableEq

/-- The text of a stored entity. -/
def storedText (entityType id : String) (markings : SortedMap Marking) : String :=
  entityType ++ " " ++ id ++ " " ++ (markingsJson markings).text

/-- The text of a journal entry. -/
def JournalEntry.display : JournalEntry → String
  | .stored entityType id markings => "persist " ++ storedText entityType id markings
  | .sent m address =>
    "dispatch " ++ m.workflow ++ "." ++ m.transition ++ " " ++ m.entityType ++ " " ++ m.entityId ++
      " -> " ++ address.getD "-"

/-- **A world in memory.** Envelopes are numbered from one in the order in which they are sent. -/
structure World where
  table : EntityTable := {}
  bus : Bus := {}
  journal : List JournalEntry := []
  sent : Nat := 0

namespace World

/-- A world with one more journal entry. -/
def note (w : World) (entry : JournalEntry) : World := { w with journal := w.journal ++ [entry] }

/-- **Store an entity** under the identity it has by default, without telling the journal. The
identity is returned. -/
def store (refusals : Refusals) (r : Registry) (s : Subject) (w : World) :
    Except StoreError (String × World) :=
  match s.identity? defaultStrategies with
  | none => .error (.persist s.entityType "<none>" "no identity")
  | some id =>
    if refusals.unwritable.contains id then .error (.persist s.entityType id "disk full")
    else .ok (id, { w with table := w.table.store id { s with markings := r.standing s } })

/-- Store an entity and tell the journal. -/
def persist (refusals : Refusals) (r : Registry) (s : Subject) (w : World) :
    Except StoreError Unit × World :=
  match w.store refusals r s with
  | .error e => (.error e, w)
  | .ok (id, w) => (.ok (), w.note (.stored s.entityType id (r.standing s)))

/-- **Find an entity** by its type and identity. -/
def find (refusals : Refusals) (entityType id : String) (w : World) :
    Except StoreError (Option Subject) :=
  if !refusals.loadable.contains entityType then .error (.unsupportedType entityType)
  else if refusals.unreadable.contains id then .error (.load entityType id "connection lost")
  else .ok (w.table.find? entityType id)

/-- **Send a message**: number its envelope, tell the journal, and dispatch it on the bus. -/
def send (stages : List Stage) (m : TransitionMessage) (stamps : List Stamp) (w : World) :
    Except BusError Envelope × World :=
  let e := Envelope.stampAll { id := ⟨w.sent + 1⟩, message := m } stamps
  let w := { w with sent := w.sent + 1 }.note (.sent m e.route?)
  let (outcome, bus) := w.bus.dispatch stages e
  (outcome, { w with bus })

end World

/-- **The services of a world in memory.** -/
def worldServices (refusals : Refusals) (r : Registry) (stages : List Stage) : Services World where
  persist := World.persist refusals r
  find entityType id w := (w.find refusals entityType id, w)
  send := World.send stages

end WorkflowEngine
