import WorkflowEngine.Proofs.Routing.Plan
import WorkflowEngine.Routing.Locator
import WorkflowEngine.Workflow.Validation

/-!
# Queues and the flags of transitions

A transition asks for a queue by its flag or its transport, and it is found by its slugs. So it has a
queue when any transition with its slugs asks for one. Planning looks at those that ask, and rules out
that two of them meet in this way; a synchronous transition may meet one of them unnoticed.

* `QueuedNamesake`: a transition with the slugs of two names asks for a queue;
* `lookup?_ne_none_iff`: what a plan finds an address for;
* **`isAsync_of_planQueues`**: what a planned locator queues, and when that is what the flag says;
* `capitalFlow`: a synchronous transition that is queued.
-/

namespace WorkflowEngine

/-- **A transition with the slugs of two names asks for a queue.** -/
def QueuedNamesake (definitions : List Definition) (workflow : WorkflowName)
    (transition : TransitionName) : Prop :=
  ∃ d t, Queues definitions d t ∧ Routing.slug d.name = Routing.slug workflow ∧
    Routing.slug t.name = Routing.slug transition

variable {config : RouterConfig} {definitions : List Definition} {plan : RoutePlan} {l : Locator}
  {d : Definition} {t : Transition}

theorem Queues.queuedNamesake (h : Queues definitions d t) :
    QueuedNamesake definitions d.name t.name := ⟨d, t, h, rfl, rfl⟩

/-- **A plan finds an address** for the names that a queued transition answers to. -/
theorem lookup?_ne_none_iff (planned : planQueues config definitions [] = .ok plan)
    {workflow : WorkflowName} {transition : TransitionName} :
    plan.routes.lookup? workflow transition ≠ none ↔
      QueuedNamesake definitions workflow transition := by
  rw [Option.ne_none_iff_exists']
  constructor
  · rintro ⟨address, hlookup⟩
    obtain ⟨d, t, asks, hw, ht, _⟩ := (get?_of_planQueues planned).1 hlookup
    exact ⟨d, t, asks, hw, ht⟩
  · rintro ⟨d, t, asks, hw, ht⟩
    exact ⟨config.addressOf d t, (get?_of_planQueues planned).2 ⟨d, t, asks, hw, ht, rfl⟩⟩

/-- **A planned locator queues a transition that has a queued namesake**, unless everything runs at
once. That is what the flag of the transition says, except where it is synchronous and its namesake is
not. -/
theorem isAsync_of_planQueues (planned : planQueues config definitions [] = .ok plan)
    (routes : l.routes = plan.routes) (known : d ∈ definitions) (declared : t ∈ d.transitions) :
    (l.isAsync d.name t.name = true ↔
        QueuedNamesake definitions d.name t.name ∧ l.sync = false) ∧
      ((l.isAsync d.name t.name = true ↔ t.isAsync = true ∧ l.sync = false) ↔
        (QueuedNamesake definitions d.name t.name → t.isAsync = true ∨ l.sync = true)) := by
  have hqueued : l.isAsync d.name t.name = true ↔
      QueuedNamesake definitions d.name t.name ∧ l.sync = false := by
    rw [← lookup?_ne_none_iff planned, ← routes, Locator.isAsync, Bool.and_eq_true,
      Bool.not_eq_true', Option.isSome_iff_ne_none]
    exact and_comm
  have hown : t.isAsync = true → QueuedNamesake definitions d.name t.name := by
    intro hasync
    exact Queues.queuedNamesake ⟨known, declared, hasync⟩
  refine ⟨hqueued, ?_⟩
  rw [hqueued]
  constructor
  · intro hflag hname
    cases hsync : l.sync with
    | true => exact .inr rfl
    | false => exact .inl (hflag.1 ⟨hname, hsync⟩).1
  · intro hcovered
    constructor
    · rintro ⟨hname, hsync⟩
      exact ⟨(hcovered hname).resolve_right (by simp [hsync]), hsync⟩
    · rintro ⟨hasync, hsync⟩
      exact ⟨hown hasync, hsync⟩

/-! ## A capital letter -/

/-- The loading of an asset that has been published, without a queue. -/
def loadAgain : Transition := { name := "Load", sources := ["published"], targets := ["loaded"] }

/-- **A flow with two transitions of one slug**, a queued and a synchronous one. -/
def capitalFlow : Definition := { assetFlow with transitions := [loadAsset, publishAsset, loadAgain] }

/-- The plan of that flow. -/
def capitalPlan : RoutePlan :=
  .ofRoutes defaultDsn (.ofList [⟨"assetflow", "load", "assetflow.load"⟩])

/-- A locator with that plan. -/
def capitalLocator : Locator := { routes := capitalPlan.routes }

/-- The flag is what counts for the queued transition. -/
theorem isAsync_of_planQueues_loadAsset :
    planQueues {} [capitalFlow] [] = .ok capitalPlan ∧
      capitalLocator.routes = capitalPlan.routes ∧ capitalFlow ∈ [capitalFlow] ∧
      loadAsset ∈ capitalFlow.transitions ∧
      capitalLocator.isAsync capitalFlow.name loadAsset.name = true := by
  have planned : planQueues {} [capitalFlow] [] = .ok capitalPlan := by decide +kernel
  have routes : capitalLocator.routes = capitalPlan.routes := rfl
  have known : capitalFlow ∈ [capitalFlow] := .head _
  have declared : loadAsset ∈ capitalFlow.transitions := .head _
  obtain ⟨_, hflag⟩ := isAsync_of_planQueues planned routes known declared
  have hiff := hflag.2 fun _ => .inl rfl
  exact ⟨planned, routes, known, declared, hiff.2 ⟨rfl, rfl⟩⟩

/-- **The flag is not what counts for the synchronous one**: the flow is valid and has a plan, and the
transition is sent to the queue of its namesake. -/
theorem isAsync_loadAgain :
    capitalFlow.isValid = true ∧ ([capitalFlow].map (·.name)).Nodup ∧
      planQueues {} [capitalFlow] [] = .ok capitalPlan ∧ loadAgain ∈ capitalFlow.transitions ∧
      capitalLocator.queue? capitalFlow.name loadAgain.name = some "assetflow.load" ∧
      ¬ (capitalLocator.isAsync capitalFlow.name loadAgain.name = true ↔
          loadAgain.isAsync = true ∧ capitalLocator.sync = false) := by
  have queued : capitalLocator.isAsync capitalFlow.name loadAgain.name = true := by decide +kernel
  have synchronous : loadAgain.isAsync = false := rfl
  refine ⟨by decide, by decide, by decide +kernel, by decide, by decide +kernel, ?_⟩
  rw [queued, synchronous]
  simp

end WorkflowEngine
