import WorkflowEngine.Dispatch.Chain

/-!
# Dispatching

What a program calls when an entity is created, enters a place, completes a transition, or should take
one. Every call names a workflow, which has to be in force and to apply to the type of the entity.

* `start`, `entered`, `completed`: start a chain from events;
* `applyIfEnabled`, `apply`: fire a transition and follow its chain;
* `enabledTransitions`: what a subject could take now.
-/

namespace WorkflowEngine.Dispatcher

variable {σ : Type}

/-- The definition of a workflow that applies to a subject. -/
def definitionFor (x : Dispatcher) (s : Subject) (workflow : WorkflowName) :
    Except DispatchError Definition :=
  match x.registry.get? workflow with
  | none => .error (.unknownWorkflow workflow)
  | some d =>
    if d.supportsType s.entityType then .ok d
    else .error (.unsupportedEntity workflow s.entityType)

/-- Follow some events from the start. -/
def follow (x : Dispatcher) (services : Services σ) (d : Definition) (events : List Event)
    (report : Report) (s : Subject) (w : σ) : Except DispatchError Report × Subject × σ :=
  x.runChain services d (events.map (·, x.maxChainDepth)) report s w

/-- **Put a fresh subject where it starts** and follow the places it entered. -/
def start (x : Dispatcher) (services : Services σ) (workflow : WorkflowName) (s : Subject)
    (w : σ) : Except DispatchError Report × Subject × σ :=
  match x.definitionFor s workflow with
  | .error e => (.error e, s, w)
  | .ok d =>
    x.follow services d (d.initial.places.map (.entered workflow)) {} (s.mark workflow d.initial) w

/-- **Follow a place that was entered.** -/
def entered (x : Dispatcher) (services : Services σ) (workflow : WorkflowName) (place : PlaceName)
    (s : Subject) (w : σ) : Except DispatchError Report × Subject × σ :=
  match x.definitionFor s workflow with
  | .error e => (.error e, s, w)
  | .ok d =>
    if d.hasPlace place then x.follow services d [.entered workflow place] {} s w
    else (.error (.unknownPlace workflow place), s, w)

/-- **Follow a transition that was completed.** -/
def completed (x : Dispatcher) (services : Services σ) (workflow : WorkflowName)
    (transition : TransitionName) (s : Subject) (w : σ) :
    Except DispatchError Report × Subject × σ :=
  match x.definitionFor s workflow with
  | .error e => (.error e, s, w)
  | .ok d =>
    match d.transition? transition with
    | none => (.error (.unknownTransition workflow transition), s, w)
    | some _ => x.follow services d [.completed workflow transition] {} s w

/-- **Fire a transition and follow it**, if it is enabled. It fires at once even if it would go to a
queue: this is what a consumer of the queue calls. -/
def applyIfEnabled (x : Dispatcher) (services : Services σ) (workflow : WorkflowName)
    (transition : TransitionName) (s : Subject) (w : σ) :
    Except DispatchError (Option Report) × Subject × σ :=
  match x.definitionFor s workflow with
  | .error e => (.error e, s, w)
  | .ok d =>
    match d.transition? transition with
    | none => (.error (.unknownTransition workflow transition), s, w)
    | some t =>
      if x.isEnabled s d t then
        let (outcome, s, w) :=
          x.follow services d (followUps d t) { applied := [t.name] } (fire s d t) w
        (outcome.map some, s, w)
      else (.ok none, s, w)

/-- **Fire a transition and follow it.** It has to be enabled. -/
def apply (x : Dispatcher) (services : Services σ) (workflow : WorkflowName)
    (transition : TransitionName) (s : Subject) (w : σ) :
    Except DispatchError Report × Subject × σ :=
  match x.applyIfEnabled services workflow transition s w with
  | (.error e, s, w) => (.error e, s, w)
  | (.ok (some report), s, w) => (.ok report, s, w)
  | (.ok none, s, w) => (.error (.notEnabled workflow transition (s.marking workflow)), s, w)

/-- **The transitions that a subject could take now**, system transitions left out. -/
def enabledTransitions (x : Dispatcher) (workflow : WorkflowName) (s : Subject) :
    Except DispatchError (List TransitionName) := do
  let d ← x.definitionFor s workflow
  return (d.transitions.filter fun t => !isSystem t.name && x.isEnabled s d t).map (·.name)

end WorkflowEngine.Dispatcher
