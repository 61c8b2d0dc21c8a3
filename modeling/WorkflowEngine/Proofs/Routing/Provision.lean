import WorkflowEngine.Engine
import WorkflowEngine.Proofs.Bus.Queues
import WorkflowEngine.Proofs.Collection.Outcome
import WorkflowEngine.Proofs.Routing.Plan

/-!
# What is routed is provided for

An engine plans the queues of the definitions that it puts in force, so a bus with the queues of the
plan has every queue that the engine can name.

* `Fallback.Takes`, `Bus.Serves`: a bus that has the queues of some names, and a fallback;
* `Bus.Serves.send`: what is sent there to one of the names, or without route, arrives;
* `Registry.definitions_foldl_insert`: a registry takes external definitions in as a plan does;
* `Engine.boot_eq_ok`: what an engine is made of;
* `Engine.switched`, `Engine.dispatchAll`: messages dispatched while someone turns the switch;
* **`Engine.provided_of_boot`**: the registry, the routes and the queues of an engine fit together;
* `stockConfig`, `stockSources`, `stockExternal`: an example.
-/

namespace WorkflowEngine

/-! ## Buses with the queues of some names -/

/-- **A fallback that takes what comes**: a queue of its own, or one under the given names. -/
def Fallback.Takes (names : List String) : Fallback → Prop
  | .none => False
  | .shared name => name ∈ names
  | .own _ => True

namespace Bus

/-- **A bus that serves some names**: each has a queue, and what has no route goes to the fallback. -/
structure Serves (b : Bus) (names : List String) : Prop where
  queues : ∀ name ∈ names, (b.queue? name).isSome = true
  fallback : b.fallback.Takes names

variable {b : Bus} {names : List String}

theorem serves_ofNames {fallback : Fallback} (h : fallback.Takes names) :
    (ofNames names fallback).Serves names where
  fallback := h
  queues := by
    intro name hname
    refine SortedMap.mem_keys_iff.1 (SortedMap.mem_keys_ofList.2 ?_)
    simpa using hname

theorem Serves.update (h : b.Serves names) (q : Queue) : (b.update q).Serves names where
  queues := fun name hname => (isSome_queue?_update b q name).trans (h.queues name hname)
  fallback := by
    rcases update_cases b q with ⟨_, he⟩ | ⟨_, _, he⟩ | ⟨_, he⟩
    · rw [he]
      exact h.fallback
    · rw [he]
      trivial
    · rw [he]
      exact h.fallback

theorem Serves.send (h : b.Serves names) {e : Envelope}
    (known : ∀ address, e.route? = some address → address ∈ names) :
    ∃ b', b.send e = (.ok (), b') ∧ b'.Serves names := by
  unfold Bus.send
  cases hroute : e.route? with
  | some address =>
    obtain ⟨q, hq⟩ := Option.isSome_iff_exists.1 (h.queues address (known address hroute))
    simp only [hq]
    exact ⟨_, rfl, h.update _⟩
  | none =>
    have takes := h.fallback
    cases hf : b.fallback with
    | none =>
      rw [hf] at takes
      exact takes.elim
    | shared name =>
      rw [hf] at takes
      obtain ⟨q, hq⟩ := Option.isSome_iff_exists.1 (h.queues name takes)
      simp only [hq]
      exact ⟨_, rfl, h.update _⟩
    | own q => exact ⟨_, rfl, h.queues, trivial⟩

end Bus

/-! ## Locators -/

theorem Locator.mem_addresses_of_queue? {l : Locator} (unforced : l.forced = none)
    {workflow : WorkflowName} {transition : TransitionName} {address : String}
    (h : l.queue? workflow transition = some address) : address ∈ l.routes.addresses := by
  unfold queue? at h
  split at h
  · cases h
  · obtain ⟨planned, hlookup, rfl⟩ := Option.map_eq_some_iff.1 h
    rw [unforced]
    exact RouteMap.mem_addresses_iff.2 ⟨⟨_, _, planned⟩, RouteMap.mem_entries_iff.2 hlookup, rfl⟩

theorem queue?_of_routingStage {l : Locator} {e : Envelope} (unrouted : e.hasRoute = false)
    {address : String} (h : (routingStage l e).route? = some address) :
    l.queue? e.message.workflow e.message.transition = some address := by
  have hnone : e.route? = none := by simpa [Envelope.hasRoute] using unrouted
  unfold routingStage at h
  split at h
  · rw [hnone] at h
    cases h
  · split at h
    · next hqueue => rw [hqueue, ← h, Envelope.route?_stamp_route]
    · rw [hnone] at h
      cases h

theorem Bus.Serves.dispatch {b : Bus} {l : Locator} (h : b.Serves l.routes.addresses)
    (unforced : l.forced = none) {e : Envelope} (unrouted : e.hasRoute = false) :
    ∃ sent b', b.dispatch [routingStage l] e = (.ok sent, b') ∧ b'.Serves l.routes.addresses := by
  obtain ⟨b', hsend, hserves⟩ := h.send (e := routingStage l e) fun address hroute =>
    Locator.mem_addresses_of_queue? unforced (queue?_of_routingStage unrouted hroute)
  refine ⟨routingStage l e, b', ?_, hserves⟩
  simp only [Bus.dispatch, List.foldl_cons, List.foldl_nil, hsend]
  rfl

/-! ## Engines -/

theorem Registry.definitions_foldl_insert (r : Registry) (external : List Definition) :
    (external.foldl insert r).definitions = withExternal r.definitions external := by
  induction external generalizing r with
  | nil => rfl
  | cons d external ih =>
    rw [List.foldl_cons, ih, definitions_insert]
    rfl

theorem planQueues_withExternal (config : RouterConfig) (definitions external : List Definition) :
    planQueues config (withExternal definitions external) [] =
      planQueues config definitions external := rfl

theorem plannedNames_of_planQueues {config : RouterConfig} {definitions external : List Definition}
    {plan : RoutePlan} (h : planQueues config definitions external = .ok plan) :
    Bus.plannedNames plan = plan.routes.addresses := by
  obtain ⟨r, _, rfl⟩ := planQueues_eq_ok h
  simp [Bus.plannedNames, RoutePlan.ofRoutes, TransportDescriptor.ofAddress, Function.comp_def]

namespace Engine

/-- **The engine with its switch turned**: on, everything runs at once. -/
def switched (e : Engine) (sync : Bool) : Engine := { e with locator := { e.locator with sync } }

/-- **Dispatch one envelope after another**, each with the switch as it stands by then. -/
def dispatchAll (e : Engine) (b : Bus) (envelopes : List (Bool × Envelope)) : Except BusError Bus :=
  envelopes.foldlM (fun b (sync, envelope) =>
    let (outcome, b) := b.dispatch (e.switched sync).stages envelope
    outcome.map fun _ => b) b

variable {config : Config} {sources : List Source} {external : List Definition}
  {folder : String → List SourceFile} {e : Engine}

/-- What an engine compiles: its sources, and the folders of its settings behind them. -/
def compiledDefinitions (config : Config) (sources : List Source)
    (folder : String → List SourceFile) : List Definition :=
  (compileSources (sources ++ config.workflowPaths.map (.folder ∘ folder))).definitions.definitions

theorem boot_eq_ok (dynamic : config.dynamicRouting = true)
    (unforced : config.forcedTransport.bind Text.nonBlank? = none)
    (h : boot config sources external folder = .ok e) :
    e.registry.definitions =
        withExternal (compiledDefinitions config sources folder) (external.filter (·.isValid)) ∧
      planQueues config.routerConfig e.registry.definitions [] = .ok e.plan ∧
      e.locator.routes = e.plan.routes ∧ e.locator.forced = none := by
  unfold boot at h
  obtain ⟨_, _, h⟩ := bind_eq_ok_iff.1 h
  obtain ⟨plan, hplan, h⟩ := bind_eq_ok_iff.1 h
  have hplan := mapError_eq_ok_iff.1 hplan
  rw [planFor, if_pos dynamic] at hplan
  cases h
  have hregistry := Registry.definitions_foldl_insert
    (compileSources (sources ++ config.workflowPaths.map (.folder ∘ folder))).definitions
    (external.filter (·.isValid))
  refine ⟨hregistry, ?_, ?_, ?_⟩
  · change planQueues _ (Registry.definitions (List.foldl _ _ _)) [] = _
    rw [hregistry, planQueues_withExternal, hplan]
  · cases config.forcedTransport <;> rfl
  · cases hforced : config.forcedTransport with
    | none => rfl
    | some transport =>
      rw [hforced] at unforced
      exact unforced

theorem exists_dispatchAll {b : Bus} (serves : b.Serves e.locator.routes.addresses)
    (unforced : e.locator.forced = none) {envelopes : List (Bool × Envelope)}
    (unrouted : ∀ p ∈ envelopes, p.2.hasRoute = false) :
    ∃ b', e.dispatchAll b envelopes = .ok b' ∧ b'.Serves e.locator.routes.addresses := by
  induction envelopes generalizing b with
  | nil => exact ⟨b, rfl, serves⟩
  | cons p envelopes ih =>
    obtain ⟨hp, hrest⟩ := List.forall_mem_cons.1 unrouted
    obtain ⟨sent, b₁, hdispatch, hserves⟩ :=
      Bus.Serves.dispatch (l := (e.switched p.1).locator) serves unforced hp
    obtain ⟨b', hall, hserves'⟩ := ih hserves hrest
    refine ⟨b', ?_, hserves'⟩
    rw [dispatchAll, List.foldlM_cons]
    refine bind_eq_ok_iff.2 ⟨b₁, ?_, hall⟩
    exact congrArg (fun p => p.1.map fun _ => p.2) hdispatch

/-- **The registry, the routes and the queues of an engine fit together.** -/
theorem provided_of_boot (dynamic : config.dynamicRouting = true)
    (unforced : config.forcedTransport.bind Text.nonBlank? = none)
    (booted : boot config sources external folder = .ok e) :
    e.registry.names.Nodup ∧
      (∀ d, d ∈ e.registry.definitions ↔
        InForce (compiledDefinitions config sources folder) (external.filter (·.isValid)) d) ∧
      planQueues config.routerConfig e.registry.definitions [] = .ok e.plan ∧
      (∀ r, r ∈ e.plan.routes.entries ↔ ∃ d t, Queues e.registry.definitions d t ∧
        r = ⟨Routing.slug d.name, Routing.slug t.name, config.routerConfig.addressOf d t⟩) ∧
      ∀ fallback : Fallback, fallback.Takes (Bus.plannedNames e.plan) →
        ∀ envelopes : List (Bool × Envelope), (∀ p ∈ envelopes, p.2.hasRoute = false) →
          ∃ b, e.dispatchAll (.ofNames (Bus.plannedNames e.plan) fallback) envelopes = .ok b := by
  obtain ⟨hregistry, planned, hroutes, hforced⟩ := boot_eq_ok dynamic unforced booted
  refine ⟨e.registry.nodup, fun d => ?_, planned, fun r => ?_, ?_⟩
  · rw [hregistry]
    exact mem_withExternal_iff (Registry.nodup _)
  · rw [RouteMap.mem_entries_iff, get?_of_planQueues planned]
    constructor
    · rintro ⟨d, t, asks, hw, ht, ha⟩
      exact ⟨d, t, asks, by rw [hw, ht, ha]⟩
    · rintro ⟨d, t, asks, rfl⟩
      exact ⟨d, t, asks, rfl, rfl, rfl⟩
  · intro fallback takes envelopes unrouted
    have serves := Bus.serves_ofNames takes
    rw [plannedNames_of_planQueues planned, ← hroutes] at serves
    obtain ⟨b, hall, _⟩ := exists_dispatchAll serves hforced unrouted
    rw [plannedNames_of_planQueues planned, ← hroutes]
    exact ⟨b, hall⟩

/-! ### An example -/

/-- Settings with a prefix for the queues and a folder with workflows, and with the switch on. -/
def stockConfig : Config :=
  { queuePrefix := "app", dsn := "redis://localhost", workflowPaths := ["flows"], sync := true }

/-- A flow of assets with a queue for their archiving, a text that is no declaration, and a flow of
files. -/
def stockSources : List Source := [
  .declared {
    header := { name := some "AssetFlow" }
    places := [.bare "new", .bare "archived"]
    transitions := [
      { name := "archive", sources := .one "new", targets := .one "archived", async := true }] },
  .unit { origin := "broken.json", format := .json, content := "[" },
  .declared {
    header := { name := some "Files" }
    places := [.bare "open", .bare "closed"]
    transitions := [
      { name := "close", sources := .one "open", targets := .one "closed", async := true }] }]

/-- Three flows of assets from elsewhere. The second is not valid, and the third is the one to use. -/
def stockExternal : List Definition :=
  [assetFlow, { assetFlow with initialPlaces := ["nowhere"] }, urgentAssetFlow]

/-- The flow of files, compiled. -/
def fileFlow : Definition where
  name := "Files"
  places := [{ name := "open" }, { name := "closed" }]
  transitions := [
    { name := "close", sources := ["open"], targets := ["closed"], metadata := { async := true } }]
  initialPlaces := ["open"]
  supports := ["Files"]

/-- A message to an asset. -/
def assetMessage (transition : TransitionName) : Envelope :=
  { id := ⟨7⟩
    message := { entityId := "7", entityType := "Asset", transition, workflow := "AssetFlow" } }

/-- The queue of the replaced flow is gone, and messages arrive with the switch on and off. -/
theorem provided_of_boot_stock :
    ∃ e, boot stockConfig stockSources stockExternal (fun _ => []) = .ok e ∧
      e.registry.definitions = [urgentAssetFlow, fileFlow] ∧
      planQueues stockConfig.routerConfig [urgentAssetFlow, fileFlow] [] = .ok e.plan ∧
      Bus.plannedNames e.plan = ["app.assetflow.publish", "app.files.close", "priority.queue"] ∧
      ∀ sync, ∃ b,
        e.dispatchAll (.ofNames (Bus.plannedNames e.plan) (.shared "priority.queue"))
          [(true, assetMessage "load"), (false, assetMessage "load"),
            (sync, assetMessage "archive")] = .ok b := by
  have hfacts : (boot stockConfig stockSources stockExternal fun _ => []).map
      (fun e => (e.registry.definitions, Bus.plannedNames e.plan)) =
        .ok ([urgentAssetFlow, fileFlow],
          ["app.assetflow.publish", "app.files.close", "priority.queue"]) := by
    decide +kernel
  cases booted : boot stockConfig stockSources stockExternal fun _ => [] with
  | error cause =>
    rw [booted] at hfacts
    cases hfacts
  | ok e =>
    rw [booted] at hfacts
    obtain ⟨hregistry, hnames⟩ := Prod.mk.inj (Except.ok.inj hfacts)
    obtain ⟨_, _, planned, _, arrive⟩ := provided_of_boot rfl rfl booted
    refine ⟨e, rfl, hregistry, hregistry ▸ planned, hnames, fun sync => arrive _ ?_ _ ?_⟩
    · change "priority.queue" ∈ Bus.plannedNames e.plan
      rw [hnames]
      decide
    · simp [assetMessage, Envelope.hasRoute, Envelope.route?]

end Engine

end WorkflowEngine
