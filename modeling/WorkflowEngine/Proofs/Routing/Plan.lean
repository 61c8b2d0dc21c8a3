import WorkflowEngine.Proofs.Dispatch.Call
import WorkflowEngine.Proofs.Routing.Requests

/-!
# What a plan routes

A plan is made for the definitions in force: compiled ones, and external ones in place of their
namesakes. It has a route for every transition that asks for a queue, and no other.

* `InForce`, `mem_withExternal_iff`: the definitions in force;
* `RouterConfig.addressOf`: the address of a transition;
* `Queues`, `mem_queueRequests_iff`: the transitions that ask for a queue;
* `planQueues_eq`, `exists_planQueues_iff`: a plan is the routes of the requests;
* `planQueues_eq_ok_iff_of_mem_iff`: the order of the requests does not matter;
* `get?_of_planQueues`: where a pair of slugs leads;
* **`routes_of_planQueues`**: every address, every route and every queue of a plan;
* `urgentAssetFlow`, `appRouter`: an example.
-/

namespace WorkflowEngine

/-! ## Definitions in force -/

/-- **A definition is in force** if it is the last external one of its name, or a compiled one that no
external one replaces. -/
def InForce (definitions external : List Definition) (d : Definition) : Prop :=
  external.reverse.find? (·.name = d.name) = some d ∨
    d ∈ definitions ∧ ∀ e ∈ external, e.name ≠ d.name

theorem mem_putDefinition_iff {ds : List Definition} (h : (ds.map (·.name)).Nodup)
    {d e : Definition} : d ∈ putDefinition e ds ↔ d = e ∨ d ∈ ds ∧ e.name ≠ d.name := by
  induction ds with
  | nil => simp [putDefinition]
  | cons c ds ih =>
    rw [List.map_cons, List.nodup_cons] at h
    rw [putDefinition]
    split
    · next hname =>
      have hrest : d ∈ ds → e.name ≠ d.name := fun hd he =>
        h.1 (hname.trans he ▸ List.mem_map_of_mem hd)
      have hc : d = c → e.name = d.name := fun hd => hd ▸ hname.symm
      rw [List.mem_cons, List.mem_cons]
      tauto
    · next hname =>
      have hc : d = c → e.name ≠ d.name := fun hd he => hname (hd ▸ he.symm)
      rw [List.mem_cons, ih h.2, List.mem_cons]
      tauto

/-- **What definitions become with external ones put in** are the definitions in force. -/
theorem mem_withExternal_iff {definitions external : List Definition}
    (h : (definitions.map (·.name)).Nodup) {d : Definition} :
    d ∈ withExternal definitions external ↔ InForce definitions external d := by
  induction external generalizing definitions with
  | nil => simp [withExternal, InForce]
  | cons e external ih =>
    have hput : ((putDefinition e definitions).map (·.name)).Nodup :=
      Registry.nodup_putDefinition h e
    refine (ih hput).trans ?_
    rw [InForce, InForce, mem_putDefinition_iff h, List.reverse_cons, List.find?_append]
    -- Either a later external definition has the name of `d`, and the first one does not matter, or
    -- the first one decides.
    cases hlast : external.reverse.find? (·.name = d.name) with
    | some x =>
      have hx : x ∈ external := List.mem_reverse.1 (List.mem_of_find?_eq_some hlast)
      have hname : x.name = d.name := by simpa using List.find?_some hlast
      have hno : ¬ ∀ e ∈ external, e.name ≠ d.name := fun hall => hall x hx hname
      simp [hno]
    | none =>
      have hall : ∀ e ∈ external, e.name ≠ d.name := by
        intro x hx hname
        have := List.find?_eq_none.1 hlast x (List.mem_reverse.2 hx)
        simp [hname] at this
      have hiff : (∀ e ∈ external, e.name ≠ d.name) ↔ True := iff_true_intro hall
      by_cases he : e.name = d.name
      · simp [he, hiff, @eq_comm _ d e]
      · have hne : d ≠ e := fun hd => he (hd ▸ rfl)
        simp [he, hiff, hne]

/-! ## Transitions that ask for a queue -/

/-- **The address of a transition**: the transport it names, or else the prefix and the slugs of the
workflow and of the transition with a dot between them. -/
def RouterConfig.addressOf (config : RouterConfig) (d : Definition) (t : Transition) : String :=
  t.metadata.transport.getD
    (config.effectivePrefix ++ Routing.slug d.name ++ "." ++ Routing.slug t.name)

/-- The request of a transition. -/
def Definition.requestOf (d : Definition) (t : Transition) : QueueRequest :=
  ⟨d.name, t.name, t.metadata.transport⟩

theorem route_requestOf (config : RouterConfig) (d : Definition) (t : Transition) :
    (d.requestOf t).route config.effectivePrefix =
      ⟨Routing.slug d.name, Routing.slug t.name, config.addressOf d t⟩ := rfl

/-- **A transition of some definitions asks for a queue.** -/
structure Queues (definitions : List Definition) (d : Definition) (t : Transition) : Prop where
  definition : d ∈ definitions
  declared : t ∈ d.transitions
  async : t.isAsync = true

theorem mem_queueRequests_iff {definitions : List Definition} {q : QueueRequest} :
    q ∈ definitions.flatMap Definition.queueRequests ↔
      ∃ d t, Queues definitions d t ∧ d.requestOf t = q := by
  simp only [List.mem_flatMap, Definition.queueRequests, List.mem_map, List.mem_filter]
  constructor
  · rintro ⟨d, hd, t, ⟨ht, hasync⟩, rfl⟩
    exact ⟨d, t, ⟨hd, ht, hasync⟩, rfl⟩
  · rintro ⟨d, t, ⟨hd, ht, hasync⟩, rfl⟩
    exact ⟨d, hd, t, ⟨ht, hasync⟩, rfl⟩

/-! ## Plans -/

section Plans

variable {config : RouterConfig} {definitions external : List Definition} {plan : RoutePlan}

/-- The plan of some routes: one queue for every address. -/
def RoutePlan.ofRoutes (dsn : String) (routes : RouteMap) : RoutePlan where
  routes := routes
  transports := routes.addresses.map (.ofAddress dsn)

/-- The requests of the definitions in force. -/
abbrev requestsOf (definitions external : List Definition) : List QueueRequest :=
  (withExternal definitions external).flatMap Definition.queueRequests

theorem planQueues_eq : planQueues config definitions external =
    ((planRoutes config.effectivePrefix (requestsOf definitions external)).map Routes.map).map
      (.ofRoutes config.dsn) := by
  unfold planQueues
  change (planRoutes config.effectivePrefix _).bind _ = _
  cases planRoutes config.effectivePrefix (requestsOf definitions external) <;> rfl

theorem exists_planQueues_iff : (∃ plan, planQueues config definitions external = .ok plan) ↔
    Plannable config.effectivePrefix (requestsOf definitions external) := by
  rw [← exists_planRoutes_iff, planQueues_eq]
  cases planRoutes config.effectivePrefix (requestsOf definitions external) <;> simp [Except.map]

theorem planQueues_eq_ok (h : planQueues config definitions external = .ok plan) :
    ∃ r, planRoutes config.effectivePrefix (requestsOf definitions external) = .ok r ∧
      plan = .ofRoutes config.dsn r.map := by
  rw [planQueues_eq] at h
  cases hr : planRoutes config.effectivePrefix (requestsOf definitions external) with
  | error e =>
    rw [hr] at h
    cases h
  | ok r =>
    rw [hr] at h
    cases h
    exact ⟨r, rfl, rfl⟩

/-- **The plan depends on which requests there are only**, not on their order. -/
theorem planQueues_eq_ok_iff_of_mem_iff {definitions' external' : List Definition}
    (same : ∀ q, q ∈ requestsOf definitions external ↔ q ∈ requestsOf definitions' external') :
    planQueues config definitions external = .ok plan ↔
      planQueues config definitions' external' = .ok plan := by
  have hmap := @planRoutes_eq_of_mem_iff config.effectivePrefix _ _ same
  rw [planQueues_eq, planQueues_eq]
  generalize (planRoutes _ (requestsOf definitions external)).map Routes.map = routes at hmap ⊢
  generalize (planRoutes _ (requestsOf definitions' external')).map Routes.map = routes' at hmap ⊢
  cases routes <;> cases routes' <;> cases hmap <;> simp [Except.map]

/-- **A pair of slugs is routed** where a transition with these slugs has its address. -/
theorem get?_of_planQueues (h : planQueues config definitions external = .ok plan) {w t a : String} :
    plan.routes.get? w t = some a ↔ ∃ d t', Queues (withExternal definitions external) d t' ∧
      Routing.slug d.name = w ∧ Routing.slug t'.name = t ∧ config.addressOf d t' = a := by
  obtain ⟨r, hr, rfl⟩ := planQueues_eq_ok h
  obtain ⟨hdescribes, hp⟩ := describes_of_planRoutes hr
  refine (hdescribes.get?_eq_some_iff hp).trans ?_
  constructor
  · rintro ⟨q, hq, he⟩
    obtain ⟨d, t', hqueues, rfl⟩ := mem_queueRequests_iff.1 hq
    cases (route_requestOf config d t').symm.trans he
    exact ⟨d, t', hqueues, rfl, rfl, rfl⟩
  · rintro ⟨d, t', hqueues, rfl, rfl, rfl⟩
    exact ⟨_, mem_queueRequests_iff.2 ⟨d, t', hqueues, rfl⟩, route_requestOf config d t'⟩

/-- **A plan routes what asks for a queue.** Every such transition of a definition in force is found
under its names at its address, every route is that of such a transition, and there is one queue for
every address, in increasing order and named after it. -/
theorem routes_of_planQueues (distinct : (definitions.map (·.name)).Nodup)
    (planned : planQueues config definitions external = .ok plan) :
    (∀ d, InForce definitions external d → ∀ t ∈ d.transitions, t.isAsync = true →
      plan.routes.lookup? d.name t.name = some (config.addressOf d t)) ∧
    (∀ r ∈ plan.routes.entries, ∃ d, InForce definitions external d ∧
      ∃ t ∈ d.transitions, t.isAsync = true ∧
        r = ⟨Routing.slug d.name, Routing.slug t.name, config.addressOf d t⟩) ∧
    (plan.transports.map (·.name)).Pairwise (· < ·) ∧
    (∀ address, address ∈ plan.transports.map (·.name) ↔
      ∃ r ∈ plan.routes.entries, r.address = address) ∧
    ∀ q ∈ plan.transports, q.queueName = q.name := by
  have hnames : plan.transports.map (·.name) = plan.routes.addresses := by
    obtain ⟨r, _, rfl⟩ := planQueues_eq_ok planned
    simp [RoutePlan.ofRoutes, TransportDescriptor.ofAddress, Function.comp_def]
  refine ⟨?_, ?_, ?_, ?_, ?_⟩
  · intro d hd t ht hasync
    exact (get?_of_planQueues planned).2
      ⟨d, t, ⟨(mem_withExternal_iff distinct).2 hd, ht, hasync⟩, rfl, rfl, rfl⟩
  · intro r hr
    obtain ⟨d, t, hqueues, hw, ht, ha⟩ :=
      (get?_of_planQueues planned).1 (RouteMap.mem_entries_iff.1 hr)
    refine ⟨d, (mem_withExternal_iff distinct).1 hqueues.definition, t, hqueues.declared,
      hqueues.async, ?_⟩
    rw [hw, ht, ha]
  · rw [hnames]
    exact plan.routes.pairwise_addresses
  · rw [hnames]
    exact fun _ => RouteMap.mem_addresses_iff
  · obtain ⟨r, _, rfl⟩ := planQueues_eq_ok planned
    intro q hq
    obtain ⟨address, _, rfl⟩ := List.mem_map.1 hq
    rfl

end Plans

/-! ## An example -/

/-- The loading of an asset by a queue of its own choice. -/
def urgentLoad : Transition := { loadAsset with metadata := { transport := some "priority.queue" } }

/-- The asset flow with queues for both. -/
def urgentAssetFlow : Definition := { assetFlow with transitions := [urgentLoad, queuedPublish] }

/-- A configuration with a prefix for the addresses. -/
def appRouter : RouterConfig := { queuePrefix := "app", dsn := "redis://localhost" }

/-- The plan for the asset flow once `urgentAssetFlow` takes its place. -/
def urgentAssetPlan : RoutePlan :=
  .ofRoutes appRouter.dsn (.ofList [⟨"assetflow", "load", "priority.queue"⟩,
    ⟨"assetflow", "publish", "app.assetflow.publish"⟩])

/-- One transition has the transport that it names, the other an address made of slugs. -/
theorem routes_of_planQueues_urgent :
    ([assetFlow].map (·.name)).Nodup ∧
      planQueues appRouter [assetFlow] [urgentAssetFlow] = .ok urgentAssetPlan ∧
      urgentAssetPlan.routes.lookup? urgentAssetFlow.name urgentLoad.name = some "priority.queue" ∧
      urgentAssetPlan.routes.lookup? urgentAssetFlow.name queuedPublish.name =
        some "app.assetflow.publish" := by
  have distinct : ([assetFlow].map (·.name)).Nodup := by decide
  have planned : planQueues appRouter [assetFlow] [urgentAssetFlow] = .ok urgentAssetPlan := by
    decide +kernel
  have inForce : InForce [assetFlow] [urgentAssetFlow] urgentAssetFlow := .inl (by decide)
  have hload : appRouter.addressOf urgentAssetFlow urgentLoad = "priority.queue" := rfl
  have hpublish : appRouter.addressOf urgentAssetFlow queuedPublish = "app.assetflow.publish" := by
    decide +kernel
  have hroutes := (routes_of_planQueues distinct planned).1 urgentAssetFlow inForce
  refine ⟨distinct, planned, ?_, ?_⟩
  · rw [hroutes urgentLoad (by decide) rfl, hload]
  · rw [hroutes queuedPublish (by decide) rfl, hpublish]

end WorkflowEngine
