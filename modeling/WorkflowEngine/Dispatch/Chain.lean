import WorkflowEngine.Dispatch.Services
import WorkflowEngine.Guard.Evaluation
import WorkflowEngine.Routing.Locator
import WorkflowEngine.Workflow.Registry

/-!
# Chains

An event, a place entered or a transition completed, may name transitions to go on with. The first of
them that is enabled is taken: one that goes to a queue is stored and sent and ends its branch, any
other fires at once, and its own events follow. The number of transitions fired in a row is bounded.

* `Event`, `Report`, `DispatchError`;
* `Dispatcher`: the definitions, the queues, what is read of subjects, and the bound;
* `Dispatcher.isEnabled`, `Dispatcher.firstEnabled?`: what a subject can take;
* `fire`, `followUps`, `Dispatcher.enqueue`: one step;
* `runChain`: all events of a stack, the first one and what follows from it before the others.
-/

namespace WorkflowEngine

/-- **An event** of a subject in a workflow. -/
inductive Event where
  | entered (workflow : WorkflowName) (place : PlaceName)
  | completed (workflow : WorkflowName) (transition : TransitionName)
  deriving DecidableEq, Repr

/-- The text of an event. -/
def Event.display : Event → String
  | .entered workflow place => workflow ++ " entered " ++ place
  | .completed workflow transition => workflow ++ " completed " ++ transition

/-- **What a call did**: transitions fired, envelopes sent, events met, and queued transitions given
up for want of an identity. -/
structure Report where
  applied : List TransitionName := []
  dispatched : List Envelope := []
  events : List Event := []
  abandoned : List TransitionName := []
  deriving DecidableEq, Repr

/-- **Why a call failed.** -/
inductive DispatchError where
  | unknownWorkflow (workflow : WorkflowName)
  | unsupportedEntity (workflow : WorkflowName) (entityType : String)
  | unknownPlace (workflow : WorkflowName) (place : PlaceName)
  | unknownTransition (workflow : WorkflowName) (transition : TransitionName)
  | notEnabled (workflow : WorkflowName) (transition : TransitionName) (marking : Marking)
  | chainTooDeep (workflow : WorkflowName) (transition : TransitionName) (bound : Nat)
  | store (cause : StoreError)
  | bus (cause : BusError)
  deriving DecidableEq

/-- The message of a dispatch error. -/
def DispatchError.message : DispatchError → String
  | .unknownWorkflow workflow => "Workflow '" ++ workflow ++ "' is not registered"
  | .unsupportedEntity workflow entityType =>
    "Workflow '" ++ workflow ++ "' does not support entity type '" ++ entityType ++ "'"
  | .unknownPlace workflow place => "Workflow '" ++ workflow ++ "' has no place '" ++ place ++ "'"
  | .unknownTransition workflow transition =>
    "Workflow '" ++ workflow ++ "' has no transition '" ++ transition ++ "'"
  | .notEnabled workflow transition marking =>
    "Transition '" ++ workflow ++ "." ++ transition ++ "' is not enabled at " ++ marking.display
  | .chainTooDeep workflow transition bound =>
    "Chain in '" ++ workflow ++ "' exceeded " ++ toString bound ++ " synchronous hop(s) at '" ++
      transition ++ "'"
  | .store cause => cause.message
  | .bus cause => cause.message

/-- The greatest number of transitions fired in a row, when nothing else is said. -/
def defaultChainDepth : Nat := 32

/-- **A dispatcher**: the definitions in force, where transitions are queued, how guards are evaluated,
what is read of subjects, how entities are identified, and how many transitions may fire in a row. -/
structure Dispatcher where
  registry : Registry
  locator : Locator
  guards : Guard.Evaluator := Guard.expressions.evaluate
  reading : Reading := {}
  identity : List IdentityStrategy := defaultStrategies
  maxChainDepth : Nat := defaultChainDepth

namespace Dispatcher

/-- The identity of a subject. -/
def identity? (x : Dispatcher) (s : Subject) : Option String := x.reading.identity? x.identity s

/-! ## What a subject can take -/

/-- **A transition is enabled**: the marking lets it fire and its guard holds. A guard that cannot be
evaluated does not hold. -/
def isEnabled (x : Dispatcher) (s : Subject) (d : Definition) (t : Transition) : Bool :=
  let marking := s.marking d.name
  marking.permits d.kind t &&
    match t.guard with
    | none => true
    | some guard =>
      match x.guards guard (x.reading.attributes s) marking with
      | .ok holds => holds
      | .error _ => false

/-- The first enabled transition among some names; unknown names are passed over. -/
def firstEnabled? (x : Dispatcher) (s : Subject) (d : Definition) (names : List TransitionName) :
    Option Transition :=
  names.findSome? fun name => (d.transition? name).filter (x.isEnabled s d)

end Dispatcher

/-- The transitions named to go on with after an event. -/
def Definition.candidates (d : Definition) : Event → List TransitionName
  | .entered _ place => ((d.place? place).map (·.metadata.next)).getD []
  | .completed _ transition => ((d.transition? transition).map (·.metadata.next)).getD []

theorem mem_of_firstEnabled? {x : Dispatcher} {s : Subject} {d : Definition}
    {names : List TransitionName} {t : Transition} (h : x.firstEnabled? s d names = some t) :
    t ∈ d.transitions := by
  obtain ⟨name, _, h⟩ := List.exists_of_findSome?_eq_some h
  exact List.mem_of_find?_eq_some (Option.filter_eq_some_iff.1 h).1

/-! ## One step -/

/-- **The subject after a transition fired.** -/
def fire (s : Subject) (d : Definition) (t : Transition) : Subject :=
  s.mark d.name ((s.marking d.name).advance d.kind t)

/-- The events of a fired transition: its targets were entered, then it was completed. -/
def followUps (d : Definition) (t : Transition) : List Event :=
  t.targets.map (.entered d.name) ++ [.completed d.name t.name]

/-- **Store a subject, then send the message of a queued transition.** A subject without identity is
left alone. -/
def Dispatcher.enqueue {σ : Type} (x : Dispatcher) (services : Services σ) (d : Definition)
    (t : Transition) (s : Subject) (w : σ) : Except DispatchError (Option Envelope) × σ :=
  match x.identity? s with
  | none => (.ok none, w)
  | some entityId =>
    let message : TransitionMessage :=
      { entityId, entityType := s.entityType, transition := t.name, workflow := d.name }
    match services.persist s w with
    | (.error e, w) => (.error (.store e), w)
    | (.ok (), w) =>
      match services.send message (x.locator.stamps message (x.reading.context s)) w with
      | (.error e, w) => (.error (.bus e), w)
      | (.ok e, w) => (.ok (some e), w)

/-! ## The chain -/

/-- The count of all targets of the transitions. -/
def targetCount (ts : List Transition) : Nat := ts.foldr (fun t n => t.targets.length + n) 0

theorem length_targets_le {t : Transition} {ts : List Transition} (h : t ∈ ts) :
    t.targets.length ≤ targetCount ts := by
  induction ts with
  | nil => cases h
  | cons u us ih =>
    simp only [targetCount, List.foldr_cons]
    rcases List.mem_cons.1 h with rfl | h
    · exact Nat.le_add_right ..
    · exact Nat.le_trans (ih h) (Nat.le_add_left ..)

/-- No transition of a definition has more follow-up events than this. -/
def Definition.breadth (d : Definition) : Nat := targetCount d.transitions + 1

theorem length_followUps_le {d : Definition} {t : Transition} (h : t ∈ d.transitions) :
    (followUps d t).length ≤ d.breadth := by
  have := length_targets_le h
  simp only [followUps, List.length_append, List.length_map, List.length_singleton,
    Definition.breadth]
  omega

/-- How much work a stack of events can still give rise to. -/
def stackWeight (breadth : Nat) : List (Event × Nat) → Nat
  | [] => 0
  | (_, left) :: rest => Nat.pow (breadth + 1) left + stackWeight breadth rest

theorem stackWeight_rest_lt (b : Nat) (entry : Event × Nat) (rest : List (Event × Nat)) :
    stackWeight b rest < stackWeight b (entry :: rest) := by
  have : 0 < Nat.pow (b + 1) entry.2 := Nat.pow_pos (Nat.succ_pos b)
  simp only [stackWeight]
  omega

theorem stackWeight_followUps_lt {b : Nat} {events : List Event} (h : events.length ≤ b)
    (event : Event) (left : Nat) (rest : List (Event × Nat)) :
    stackWeight b (events.map (·, left) ++ rest) < stackWeight b ((event, left + 1) :: rest) := by
  have hsum : stackWeight b (events.map (·, left) ++ rest) =
      events.length * Nat.pow (b + 1) left + stackWeight b rest := by
    clear h
    induction events with
    | nil => simp
    | cons e es ih =>
      simp only [List.map_cons, List.cons_append, stackWeight, List.length_cons, Nat.succ_mul, ih]
      omega
  have hpos : 0 < Nat.pow (b + 1) left := Nat.pow_pos (Nat.succ_pos b)
  have hle : events.length * Nat.pow (b + 1) left ≤ b * Nat.pow (b + 1) left :=
    Nat.mul_le_mul_right _ h
  have hsucc : Nat.pow (b + 1) (left + 1) = b * Nat.pow (b + 1) left + Nat.pow (b + 1) left := by
    rw [← Nat.succ_mul, Nat.mul_comm]
    rfl
  rw [hsum, stackWeight, hsucc]
  omega

/-- **Follow a stack of events**, each with the number of transitions that may still fire in a row
from it. -/
def Dispatcher.runChain {σ : Type} (x : Dispatcher) (services : Services σ) (d : Definition)
    (stack : List (Event × Nat)) (report : Report) (s : Subject) (w : σ) :
    Except DispatchError Report × Subject × σ :=
  match stack with
  | [] => (.ok report, s, w)
  | (event, left) :: rest =>
    let report := { report with events := report.events ++ [event] }
    match _ : x.firstEnabled? s d (d.candidates event) with
    | none => x.runChain services d rest report s w
    | some t =>
      if x.locator.isAsync d.name t.name then
        match x.enqueue services d t s w with
        | (.error e, w) => (.error e, s, w)
        | (.ok none, w) =>
          x.runChain services d rest { report with abandoned := report.abandoned ++ [t.name] } s w
        | (.ok (some e), w) =>
          x.runChain services d rest { report with dispatched := report.dispatched ++ [e] } s w
      else
        match left with
        | 0 => (.error (.chainTooDeep d.name t.name x.maxChainDepth), s, w)
        | left + 1 =>
          x.runChain services d ((followUps d t).map (·, left) ++ rest)
            { report with applied := report.applied ++ [t.name] } (fire s d t) w
termination_by stackWeight d.breadth stack
decreasing_by
  · exact stackWeight_rest_lt ..
  · exact stackWeight_rest_lt ..
  · exact stackWeight_rest_lt ..
  · exact stackWeight_followUps_lt (length_followUps_le (mem_of_firstEnabled? (by assumption))) ..

end WorkflowEngine
