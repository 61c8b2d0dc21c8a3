import WorkflowEngine.Dispatch.Dispatcher
import WorkflowEngine.Dispatch.World
import WorkflowEngine.Proofs.Dispatch.Step
import WorkflowEngine.Proofs.Routing.Locator
import WorkflowEngine.Proofs.Workflow.Registry

/-!
# Calls

The calls that a dispatcher answers, and how each of them begins: it is turned down and changes
nothing, or it puts the subject somewhere and follows some events.

* `Call`, `Call.workflow`, `Dispatcher.call`: the calls, and the answer to one;
* `Dispatcher.Opens`: the chain that a call begins;
* `Opens.registered`, `Opens.marking_eq`: a chain belongs to the definition of its workflow, and a
  call moves the subject there only;
* `Dispatcher.Refuses`, `call_of_refuses`: why a call is turned down, and that it changes nothing then;
* **`opens_or_refuses`**, **`opens_or_unchanged`**, **`call_of_opens`**: every call opens a chain and
  follows it, or is turned down;
* `assetFlow`, `assetDispatcher`: an example.
-/

namespace WorkflowEngine

/-- **A call to a dispatcher**, naming a workflow. -/
inductive Call where
  | start (workflow : WorkflowName)
  | entered (workflow : WorkflowName) (place : PlaceName)
  | completed (workflow : WorkflowName) (transition : TransitionName)
  | apply (workflow : WorkflowName) (transition : TransitionName)
  | applyIfEnabled (workflow : WorkflowName) (transition : TransitionName)
  deriving DecidableEq, Repr

/-- The workflow that a call names. -/
def Call.workflow : Call → WorkflowName
  | .start workflow | .entered workflow _ | .completed workflow _ | .apply workflow _
  | .applyIfEnabled workflow _ => workflow

namespace Dispatcher

variable {σ : Type}

/-- **The answer to a call**: a report, no report when the transition is not enabled, or an error;
with the subject and the outside world as they are then. -/
def call (x : Dispatcher) (services : Services σ) (c : Call) (s : Subject) (w : σ) :
    Except DispatchError (Option Report) × Subject × σ :=
  match c with
  | .start workflow => (x.start services workflow s w).map (·.map some) id
  | .entered workflow place => (x.entered services workflow place s w).map (·.map some) id
  | .completed workflow transition =>
    (x.completed services workflow transition s w).map (·.map some) id
  | .apply workflow transition => (x.apply services workflow transition s w).map (·.map some) id
  | .applyIfEnabled workflow transition => x.applyIfEnabled services workflow transition s w

/-- **The chain that a call begins**: a definition, the first events, what was fired before them, and
the subject as the events find it. -/
inductive Opens (x : Dispatcher) : Call → Subject → Definition → List Event → Report → Subject → Prop
  | start {workflow s d} (found : x.definitionFor s workflow = .ok d) :
      Opens x (.start workflow) s d (d.initial.places.map (.entered workflow)) {}
        (s.mark workflow d.initial)
  | entered {workflow place s d} (found : x.definitionFor s workflow = .ok d)
      (declared : d.hasPlace place = true) :
      Opens x (.entered workflow place) s d [.entered workflow place] {} s
  | completed {workflow transition s d t} (found : x.definitionFor s workflow = .ok d)
      (known : d.transition? transition = some t) :
      Opens x (.completed workflow transition) s d [.completed workflow transition] {} s
  | apply {workflow transition s d t} (found : x.definitionFor s workflow = .ok d)
      (known : d.transition? transition = some t) (enabled : x.isEnabled s d t = true) :
      Opens x (.apply workflow transition) s d (followUps d t) { applied := [t.name] } (fire s d t)
  | applyIfEnabled {workflow transition s d t} (found : x.definitionFor s workflow = .ok d)
      (known : d.transition? transition = some t) (enabled : x.isEnabled s d t = true) :
      Opens x (.applyIfEnabled workflow transition) s d (followUps d t) { applied := [t.name] }
        (fire s d t)

variable {x : Dispatcher} {services : Services σ}

theorem definitionFor_eq_ok_iff {s : Subject} {workflow : WorkflowName} {d : Definition} :
    x.definitionFor s workflow = .ok d ↔
      x.registry.get? workflow = some d ∧ d.supportsType s.entityType = true := by
  unfold definitionFor
  cases h : x.registry.get? workflow with
  | none => simp
  | some e =>
    by_cases hs : e.supportsType s.entityType = true
    · simp only [hs, if_true, Except.ok.injEq, Option.some.injEq]
      exact ⟨fun he => ⟨he, he ▸ hs⟩, fun he => he.1⟩
    · simp only [hs, Bool.false_eq_true, if_false, reduceCtorEq, Option.some.injEq, false_iff]
      rintro ⟨rfl, h'⟩
      exact hs h'

theorem definitionFor_ne_chainTooDeep (s : Subject) (workflow : WorkflowName) (name : WorkflowName)
    (transition : TransitionName) (bound : Nat) :
    x.definitionFor s workflow ≠ .error (.chainTooDeep name transition bound) := by
  unfold definitionFor
  split
  · simp
  · split <;> simp

/-! ## What a call begins -/

namespace Opens

variable {c : Call} {s s' : Subject} {d : Definition} {events : List Event} {report : Report}

theorem definitionFor (h : x.Opens c s d events report s') :
    x.definitionFor s c.workflow = .ok d := by
  cases h <;> assumption

theorem registered (h : x.Opens c s d events report s') :
    d ∈ x.registry.definitions ∧ d.name = c.workflow :=
  Registry.get?_eq_some (definitionFor_eq_ok_iff.1 h.definitionFor).1

theorem moves (h : x.Opens c s d events report s') :
    s' = s ∨ s' = s.mark d.name d.initial ∨ ∃ t ∈ d.transitions, s' = fire s d t := by
  have hname := h.registered.2
  cases h with
  | start => exact .inr (.inl (by rw [hname]; rfl))
  | entered | completed => exact .inl rfl
  | apply _ known | applyIfEnabled _ known =>
    exact .inr (.inr ⟨_, List.mem_of_find?_eq_some known, rfl⟩)

end Opens

theorem Opens.marking_eq {c : Call} {s s' : Subject} {d : Definition} {events : List Event}
    {report : Report} (h : x.Opens c s d events report s') {name : WorkflowName}
    (hn : name ≠ c.workflow) : s'.marking name = s.marking name := by
  rw [← h.registered.2] at hn
  rcases h.moves with rfl | rfl | ⟨t, _, rfl⟩
  · rfl
  · exact s.marking_mark_of_ne hn _
  · exact marking_fire_of_ne hn t

/-! ## Transitions taken on request -/

section Apply

variable {s : Subject} {workflow : WorkflowName} {d : Definition} {transition : TransitionName}

theorem applyIfEnabled_unknown (found : x.definitionFor s workflow = .ok d)
    (unknown : d.transition? transition = none) (w : σ) :
    x.applyIfEnabled services workflow transition s w =
      (.error (.unknownTransition workflow transition), s, w) := by
  simp only [applyIfEnabled, found, unknown]

theorem applyIfEnabled_disabled (found : x.definitionFor s workflow = .ok d) {t : Transition}
    (known : d.transition? transition = some t) (disabled : x.isEnabled s d t = false) (w : σ) :
    x.applyIfEnabled services workflow transition s w = (.ok none, s, w) := by
  simp only [applyIfEnabled, found, known, disabled, Bool.false_eq_true, if_false]

theorem applyIfEnabled_enabled (found : x.definitionFor s workflow = .ok d) {t : Transition}
    (known : d.transition? transition = some t) (enabled : x.isEnabled s d t = true) (w : σ) :
    x.applyIfEnabled services workflow transition s w =
      (x.follow services d (followUps d t) { applied := [t.name] } (fire s d t) w).map
        (·.map some) id := by
  simp only [applyIfEnabled, found, known, enabled, if_true]
  rfl

theorem apply_of_applyIfEnabled {outcome : Except DispatchError Report} {s' : Subject} {w w' : σ}
    (h : x.applyIfEnabled services workflow transition s w = (outcome.map some, s', w')) :
    x.apply services workflow transition s w = (outcome, s', w') := by
  cases outcome with
  | error e => simp only [apply, h, Except.map]
  | ok report => simp only [apply, h, Except.map]

end Apply

/-! ## Every call -/

theorem call_of_definitionFor_error {c : Call} {s : Subject} {e : DispatchError}
    (h : x.definitionFor s c.workflow = .error e) (w : σ) :
    x.call services c s w = (.error e, s, w) := by
  cases c <;> simp only [Call.workflow] at h <;>
    simp only [call, start, entered, completed, apply, applyIfEnabled, h, Prod.map, Except.map, id]

/-- **A call that opens a chain follows it.** -/
theorem call_of_opens {c : Call} {s s' : Subject} {d : Definition} {events : List Event}
    {report : Report} (h : x.Opens c s d events report s') (w : σ) :
    x.call services c s w = (x.follow services d events report s' w).map (·.map some) id := by
  cases h with
  | start found => simp only [call, start, found]
  | entered found declared => simp only [call, entered, found, declared, if_true]
  | completed found known => simp only [call, completed, found, known]
  | apply found known enabled =>
    simp only [call]
    rw [apply_of_applyIfEnabled (applyIfEnabled_enabled found known enabled w)]
    rfl
  | applyIfEnabled found known enabled => exact applyIfEnabled_enabled found known enabled w

/-- **Why a call is turned down**: its workflow has no definition for the subject, the definition has no
such place or transition, or the transition is not enabled. -/
inductive Refuses (x : Dispatcher) : Call → Subject → Except DispatchError (Option Report) → Prop
  | undefined {c s e} (missing : x.definitionFor s c.workflow = .error e) : Refuses x c s (.error e)
  | undeclared {workflow place s d} (found : x.definitionFor s workflow = .ok d)
      (undeclared : d.hasPlace place = false) :
      Refuses x (.entered workflow place) s (.error (.unknownPlace workflow place))
  | unknown {c workflow transition s d} (names : c = .completed workflow transition ∨
        c = .apply workflow transition ∨ c = .applyIfEnabled workflow transition)
      (found : x.definitionFor s workflow = .ok d) (unknown : d.transition? transition = none) :
      Refuses x c s (.error (.unknownTransition workflow transition))
  | disabled {workflow transition s d t} (found : x.definitionFor s workflow = .ok d)
      (known : d.transition? transition = some t) (disabled : x.isEnabled s d t = false) :
      Refuses x (.apply workflow transition) s
        (.error (.notEnabled workflow transition (s.marking workflow)))
  | skipped {workflow transition s d t} (found : x.definitionFor s workflow = .ok d)
      (known : d.transition? transition = some t) (disabled : x.isEnabled s d t = false) :
      Refuses x (.applyIfEnabled workflow transition) s (.ok none)

/-- **A call that is turned down changes nothing**, and the answer is the same in every outside
world. -/
theorem call_of_refuses {c : Call} {s : Subject} {outcome : Except DispatchError (Option Report)}
    (h : x.Refuses c s outcome) (w : σ) : x.call services c s w = (outcome, s, w) := by
  cases h with
  | undefined missing => exact call_of_definitionFor_error missing w
  | undeclared found undeclared =>
    simp only [call, entered, found, undeclared, Bool.false_eq_true, if_false]
    rfl
  | unknown names found unknown =>
    rcases names with rfl | rfl | rfl
    · simp only [call, completed, found, unknown]
      rfl
    · simp only [call, apply, applyIfEnabled_unknown found unknown]
      rfl
    · exact applyIfEnabled_unknown found unknown w
  | disabled found known disabled =>
    simp only [call, apply, applyIfEnabled_disabled found known disabled]
    rfl
  | skipped found known disabled => exact applyIfEnabled_disabled found known disabled w

/-- **Every call opens a chain, or is turned down.** -/
theorem opens_or_refuses (x : Dispatcher) (c : Call) (s : Subject) :
    (∃ d events report s', x.Opens c s d events report s') ∨ ∃ outcome, x.Refuses c s outcome := by
  cases found : x.definitionFor s c.workflow with
  | error e => exact .inr ⟨_, .undefined found⟩
  | ok d =>
    cases c with
    | start workflow => exact .inl ⟨d, _, _, _, .start found⟩
    | entered workflow place =>
      cases declared : d.hasPlace place with
      | true => exact .inl ⟨d, _, _, _, .entered found declared⟩
      | false => exact .inr ⟨_, .undeclared found declared⟩
    | completed workflow transition =>
      cases known : d.transition? transition with
      | some t => exact .inl ⟨d, _, _, _, .completed found known⟩
      | none => exact .inr ⟨_, .unknown (.inl rfl) found known⟩
    | apply workflow transition =>
      cases known : d.transition? transition with
      | none => exact .inr ⟨_, .unknown (.inr (.inl rfl)) found known⟩
      | some t =>
        cases enabled : x.isEnabled s d t with
        | true => exact .inl ⟨d, _, _, _, .apply found known enabled⟩
        | false => exact .inr ⟨_, .disabled found known enabled⟩
    | applyIfEnabled workflow transition =>
      cases known : d.transition? transition with
      | none => exact .inr ⟨_, .unknown (.inr (.inr rfl)) found known⟩
      | some t =>
        cases enabled : x.isEnabled s d t with
        | true => exact .inl ⟨d, _, _, _, .applyIfEnabled found known enabled⟩
        | false => exact .inr ⟨_, .skipped found known enabled⟩

theorem opens_or_refused (x : Dispatcher) (c : Call) (s : Subject) :
    (∃ d events report s', x.Opens c s d events report s') ∨
      ∃ outcome, (∀ (σ : Type) (services : Services σ) (w : σ),
          x.call services c s w = (outcome, s, w)) ∧
        (∀ report, outcome ≠ .ok (some report)) ∧
        ∀ name t bound, outcome ≠ .error (.chainTooDeep name t bound) := by
  rcases x.opens_or_refuses c s with opens | ⟨outcome, refuses⟩
  · exact .inl opens
  · refine .inr ⟨outcome, fun _ _ w => call_of_refuses refuses w, ?_⟩
    cases refuses with
    | undefined missing =>
      refine ⟨by simp, fun name t bound he => ?_⟩
      cases he
      exact definitionFor_ne_chainTooDeep _ _ _ _ _ missing
    | undeclared | unknown | disabled | skipped => exact ⟨by simp, by simp⟩

/-- **Every call opens a chain, or changes nothing.** -/
theorem opens_or_unchanged (x : Dispatcher) (services : Services σ) (c : Call) (s : Subject)
    (w : σ) :
    (∃ d events report s', x.Opens c s d events report s') ∨
      ∃ outcome, x.call services c s w = (outcome, s, w) ∧
        ∀ name t bound, outcome ≠ .error (.chainTooDeep name t bound) := by
  rcases x.opens_or_refused c s with hopen | ⟨outcome, hcall, _, hne⟩
  · exact .inl hopen
  · exact .inr ⟨outcome, hcall σ services w, hne⟩

theorem exists_opens_of_report {c : Call} {s s' : Subject} {w w' : σ} {report : Report}
    (answer : x.call services c s w = (.ok (some report), s', w')) :
    ∃ d events report₀ s₀, x.Opens c s d events report₀ s₀ ∧
      x.follow services d events report₀ s₀ w = (.ok report, s', w') := by
  rcases x.opens_or_refused c s with ⟨d, events, report₀, s₀, opens⟩ | ⟨outcome, refused, hreport, _⟩
  · refine ⟨d, events, report₀, s₀, opens, ?_⟩
    rw [call_of_opens opens] at answer
    rcases hrun : x.follow services d events report₀ s₀ w with ⟨_ | report', s'', w''⟩ <;>
      rw [hrun] at answer <;> cases answer
    rfl
  · rw [refused] at answer
    exact absurd (congrArg Prod.fst answer) (hreport report)

end Dispatcher

/-! ## An example -/

/-- The loading of an asset, which asks for a queue. -/
def loadAsset : Transition :=
  { name := "load", sources := ["new"], targets := ["loaded"], metadata := { async := true } }

/-- The publishing of an asset. -/
def publishAsset : Transition := { name := "publish", sources := ["loaded"], targets := ["published"] }

/-- The publishing of an asset by a queue. -/
def queuedPublish : Transition := { publishAsset with metadata := { async := true } }

/-- **A flow of assets** that are loaded when they are new, and published once they are loaded. -/
def assetFlow : Definition where
  name := "AssetFlow"
  places := [{ name := "new", metadata := { next := ["load"] } },
    { name := "loaded", metadata := { next := ["publish"] } }, { name := "published" }]
  transitions := [loadAsset, publishAsset]
  initialPlaces := ["new"]
  supports := ["Asset"]

/-- A dispatcher with a queue for loading. -/
def assetDispatcher : Dispatcher where
  registry := .ofList [assetFlow]
  locator := { routes := .ofList [⟨"assetflow", "load", "assetflow.load"⟩] }

/-- An asset that has not been seen before. -/
def asset : Subject := { entityType := "Asset", attributes := .object [("id", .string "7")] }

/-- A world with the queue for loading, and nothing in it. -/
def assetWorld : World := { bus := .ofNames ["assetflow.load"] (.ofName ["assetflow.load"] none) }

/-- The services of that world, which route messages by the same locator. -/
def assetServices : Services World :=
  worldServices { loadable := ["Asset"] } assetDispatcher.registry
    [routingStage assetDispatcher.locator]

theorem queue?_loadAsset :
    assetDispatcher.locator.queue? "AssetFlow" "load" = some "assetflow.load" := by
  rw [Locator.queue?, RouteMap.lookup?, Routing.slug_of_length_le (by decide),
    Routing.slug_of_length_le (by decide)]
  decide

theorem queue?_publishAsset : assetDispatcher.locator.queue? "AssetFlow" "publish" = none := by
  rw [Locator.queue?, RouteMap.lookup?, Routing.slug_of_length_le (by decide),
    Routing.slug_of_length_le (by decide)]
  decide

theorem isAsync_assetDispatcher :
    assetDispatcher.locator.isAsync "AssetFlow" "load" = true ∧
      assetDispatcher.locator.isAsync "AssetFlow" "publish" = false := by
  refine ⟨Locator.isAsync_iff.2 ⟨_, queue?_loadAsset⟩, ?_⟩
  rw [Bool.eq_false_iff, ne_eq, Locator.isAsync_iff, queue?_publishAsset]
  simp

end WorkflowEngine
