import WorkflowEngine.Proofs.Dispatch.Handling

/-!
# Messages that are delivered again

A message that was handled may be delivered once more. If its transition is not enabled where the first
handling left the entity, nothing happens; and a state machine goes the same way again, as where it
goes does not depend on where it came from. A workflow that may stand in several places goes on from
where it is, and may come elsewhere.

* `queuesAlong_again`: what was queued once is queued again;
* `Meets.again`, `inStep_again`: what a second handling meets, and the chain of a state machine;
* **`handleMessage_again`**: when a second handling leaves the entity where it is;
* `proofing`, **`handleMessage_again_moves`**: a workflow in which it does not.
-/

namespace WorkflowEngine.Dispatcher

open Relation

variable {σ : Type} {x : Dispatcher} {services : Services σ} {m : TransitionMessage}
  {d : Definition} {l : Ledger σ}

theorem queuesAlong_again {S : Subject → Subject → Prop} (overlooks : x.Overlooks d S)
    (lawful : l.Lawful services x.registry) (steady : l.Steady services)
    (bus : l.SteadyBus services x.locator) (entity : Subject) :
    x.QueuesAlong services services d S entity fun w w' => l.sound w ∧ l.sound w' := by
  rintro t s s' w w' answer w₁ queued _ alike ⟨sound, sound'⟩ outcome
  have hidentity : x.identity? s' = x.identity? s := overlooks.identity? alike
  have kept := overlooks.keptAs alike
  cases enqueued_of_enqueue outcome with
  | nobody unidentified =>
    exact ⟨none, w', enqueue_of_enqueued (.nobody (hidentity.trans unidentified)), rfl, sound, sound'⟩
  | @sent id w₀ e _ identified stored sent =>
    obtain ⟨w₀', stored'⟩ := steady.persist sound sound' kept.toSameEntity stored
    have sound₀ : l.sound w₀ := (lawful.persist_ok sound stored).sound
    have sound₀' : l.sound w₀' := (lawful.persist_ok sound' stored').sound
    obtain ⟨e', w₁', sent'⟩ := bus (m := messageFor d t s id) queued sound₀ sound₀' sent
    have hmessage : messageFor d t s' id = messageFor d t s id := by
      rw [messageFor, messageFor, kept.entityType]
    rw [← hmessage, ← overlooks.context alike] at sent'
    exact ⟨some e', w₁', enqueue_of_enqueued (.sent (hidentity.trans identified) stored' sent'), rfl,
      (lawful.send sound₀ sent).sound, (lawful.send sound₀' sent').sound⟩

theorem find_of_row (lawful : l.Lawful services x.registry) (steady : l.Steady services)
    {entityType id : String} {w w₁ w₀ : σ} {row : Option Subject} {s : Subject} (sound : l.sound w)
    (found : services.find entityType id w₀ = (.ok row, w₁)) (sound₀ : l.sound w₀)
    (hrow : l.row? w entityType id = some s) :
    ∃ w', services.find entityType id w = (.ok (some s), w') ∧ l.Same w w' := by
  obtain ⟨row', w', found'⟩ := steady.find sound₀ sound found
  obtain ⟨same, hread⟩ := lawful.find sound found'
  obtain rfl : some s = row' := hrow.symm.trans (hread row' rfl)
  exact ⟨w', found', same⟩

theorem Meets.again (lawful : l.Lawful services x.registry) (steady : l.Steady services)
    {t : Transition} {s s₁ : Subject} {w w₁ w' : σ} (meets : x.Meets services m w d t s w₁)
    (sound : l.sound w) (sound' : l.sound w') (same : s.SameEntity s₁)
    (row : l.row? w' m.entityType m.entityId = some s₁) :
    ∃ w₁', x.Meets services m w' d t s₁ w₁' ∧ l.Same w' w₁' := by
  obtain ⟨w₁', found, hsame⟩ := find_of_row lawful steady sound' meets.found sound row
  obtain ⟨registered, supported⟩ := definitionFor_eq_ok_iff.1 meets.definition
  refine ⟨w₁', ⟨meets.workflow, meets.transition, found, ?_, meets.known⟩, hsame⟩
  exact definitionFor_eq_ok_iff.2 ⟨registered, same.entityType ▸ supported⟩

/-- **A state machine opens the same chain again**, wherever it stands. -/
theorem inStep_again {r : Registry} {R : σ → σ → Prop} {s s₁ : Subject} (machine : d.kind = .stateMachine)
    (same : s.SameEntity s₁) (others : ∀ name, name ≠ d.name → name ∈ r.names →
      s₁.marking name = s.marking name) (t : Transition) {w w' : σ} (related : R w w') :
    InStep (Subject.KeptAs r) s R (x.chainOf d t s w) (x.chainOf d t s₁ w') where
  stack := rfl
  entity := Subject.sameEntity_fire s d t
  subject :=
    { toSameEntity := ⟨same.entityType, same.primaryKey, same.attributes, same.context⟩
      marking := by
        intro name hname
        by_cases hn : name = d.name
        · subst hn
          simp only [chainOf, fire, Subject.marking_mark_self, machine, Marking.advance]
        · simp only [chainOf]
          rw [marking_fire_of_ne hn, marking_fire_of_ne hn]
          exact others name hn hname }
  world := related

/-- **A message that was handled may be handled again.** Of a state machine, if no more is read of its
subjects than is kept, and wherever its transition is not enabled any more, the second handling
succeeds as well, and leaves the entity in every registered workflow where the first one left it. -/
theorem handleMessage_again (lawful : l.Lawful services x.registry) (steady : l.Steady services)
    (bus : l.SteadyBus services x.locator) {w w₁ : σ} (sound : l.sound w)
    (handled : x.handleMessage services m w = (.ok (), w₁))
    (registered : x.registry.get? m.workflow = some d)
    (settled : (d.kind = .stateMachine ∧ x.ReadsKept) ∨
      ∀ s t, l.row? w₁ m.entityType m.entityId = some s → d.transition? m.transition = some t →
        x.isEnabled s d t = false) :
    ∃ w₂ s s', x.handleMessage services m w₁ = (.ok (), w₂) ∧
      l.row? w₁ m.entityType m.entityId = some s ∧ l.row? w₂ m.entityType m.entityId = some s' ∧
      s.KeptAs x.registry s' := by
  cases handling_of_handleMessage handled with
  | @ignored d' t s _ meets disabled =>
    obtain ⟨same, hread⟩ := lawful.find sound meets.found
    have hrow : l.row? w₁ m.entityType m.entityId = some s :=
      (same.row? _ _).trans (hread _ rfl)
    obtain ⟨w₂, meets', same'⟩ := meets.again lawful steady sound same.sound (.refl s) hrow
    exact ⟨w₂, s, s, handleMessage_disabled meets' disabled, hrow, (same'.row? _ _).trans hrow,
      .refl _ s⟩
  | @stored d' t s w₀ report s₁ w₀' _ meets enabled run stored =>
    obtain rfl : d = d' :=
      Option.some.inj (registered.symm.trans (definitionFor_eq_ok_iff.1 meets.definition).1)
    have hregistered : d ∈ x.registry.definitions := (Registry.get?_eq_some registered).1
    obtain ⟨same, hread⟩ := lawful.find sound meets.found
    obtain ⟨type, identity⟩ := lawful.keyed sound (hread _ rfl)
    obtain ⟨hentity, hothers⟩ := sameEntity_of_chainOf run
    have sound₀' : l.sound w₀' := by
      have := sound_of_runFrom (d := d) lawful (c := x.chainOf d t s w₀) same.sound
      rwa [run] at this
    have stores := lawful.persist_ok sound₀' stored
    obtain ⟨s₂, hrow, hkept⟩ := stores.row?_eq lawful type identity hentity
    have hentity₂ : s.SameEntity s₂ := hentity.trans hkept.toSameEntity
    obtain ⟨w₂, meets', same'⟩ := meets.again lawful steady sound stores.sound hentity₂ hrow
    cases enabled' : x.isEnabled s₂ d t with
    | false =>
      exact ⟨w₂, s₂, s₂, handleMessage_disabled meets' enabled', hrow, (same'.row? _ _).trans hrow,
        .refl _ s₂⟩
    | true =>
      obtain ⟨machine, reads⟩ : d.kind = .stateMachine ∧ x.ReadsKept := by
        refine settled.resolve_right fun h => ?_
        rw [h s₂ t hrow meets.known] at enabled'
        cases enabled'
      have inStep : InStep (Subject.KeptAs x.registry) s (fun w w' => l.sound w ∧ l.sound w')
          (x.chainOf d t s w₀) (x.chainOf d t s₂ w₂) := by
        refine inStep_again machine hentity₂ (fun name hne hname => ?_) t ⟨same.sound, same'.sound⟩
        exact (hkept.marking name hname).trans (hothers name hne)
      have overlooks := reads.overlooks hregistered
      obtain ⟨report', s₁', w₃, run', _, hkept', sound₁, sound₃⟩ :=
        inStep.runFrom_ok overlooks (queuesAlong_again overlooks lawful steady bus s) run
      obtain ⟨w₄, stored'⟩ := steady.persist sound₁ sound₃ hkept'.toSameEntity stored
      obtain ⟨s₃, hrow', hkept₃⟩ := (lawful.persist_ok sound₃ stored').row?_eq lawful type identity
        (hentity.trans hkept'.toSameEntity)
      exact ⟨w₄, s₂, s₃, handleMessage_stored meets' enabled' run' stored', hrow, hrow',
        hkept.symm.trans (hkept'.trans hkept₃)⟩

/-! ## Examples -/

theorem runFrom_hop {t t' : Transition} {s : Subject} {event : Event} {rest : List Event}
    (events : followUps d t = event :: rest)
    (chosen : x.firstEnabled? (fire s d t) d (d.candidates event) = some t')
    (inline : x.locator.isAsync d.name t'.name = false) (deep : 0 < x.maxChainDepth)
    (quiet : ∀ event ∈ followUps d t' ++ rest, d.candidates event = []) (w : σ) :
    ∃ report, x.runFrom services d (x.chainOf d t s w) =
      (.ok report, fire (fire s d t) d t', w) := by
  obtain ⟨left, hleft⟩ := Nat.exists_eq_succ_of_ne_zero (Nat.ne_of_gt deep)
  have hchain : x.chainOf d t s w = ⟨(event, left + 1) :: rest.map (·, x.maxChainDepth),
      { applied := [t.name] }, fire s d t, w⟩ := by
    rw [chainOf, events, List.map_cons, hleft]
  have hquiet : ∀ entry ∈ (followUps d t').map (·, left) ++ rest.map (·, x.maxChainDepth),
      d.candidates entry.1 = [] := by
    intro entry hentry
    rcases List.mem_append.1 hentry with hentry | hentry
    · obtain ⟨event, hevent, rfl⟩ := List.mem_map.1 hentry
      exact quiet event (List.mem_append_left _ hevent)
    · obtain ⟨event, hevent, rfl⟩ := List.mem_map.1 hentry
      exact quiet event (List.mem_append_right _ hevent)
  obtain ⟨report, hend, _⟩ := runChain_of_candidates_eq_nil x services hquiet
    ((Report.saw { applied := [t.name] } event).fired t'.name) (fire (fire s d t) d t') w
  refine ⟨report, ?_⟩
  rw [hchain, runFrom_step (.fired chosen inline)]
  exact hend

/-- A store with an asset in it that is new, and the queue for loading. -/
def newAssetWorld : World :=
  { assetWorld with table := ⟨[⟨"7", asset.mark "AssetFlow" assetFlow.initial⟩]⟩ }

/-- The message to load it. -/
def loadMessage : TransitionMessage := ⟨"7", "Asset", "load", "AssetFlow"⟩

/-- The asset is loaded and published, and nothing happens when the message comes again. -/
theorem handleMessage_again_loadAsset : ∃ w₁ w₂ s s',
    assetDispatcher.handleMessage assetServices loadMessage newAssetWorld = (.ok (), w₁) ∧
    assetDispatcher.handleMessage assetServices loadMessage w₁ = (.ok (), w₂) ∧
    w₁.table.find? "Asset" "7" = some s ∧ w₂.table.find? "Asset" "7" = some s' ∧
    s.KeptAs assetDispatcher.registry s' := by
  let l := World.ledger fun name => (assetWorld.bus.queue? name).isSome
  let s₀ := asset.mark "AssetFlow" assetFlow.initial
  have meets : assetDispatcher.Meets assetServices loadMessage newAssetWorld assetFlow loadAsset s₀
      newAssetWorld := ⟨by decide, by decide, rfl, rfl, by decide⟩
  let s₁ := fire (fire s₀ assetFlow loadAsset) assetFlow publishAsset
  have inline : assetDispatcher.locator.isAsync assetFlow.name publishAsset.name = false :=
    isAsync_assetDispatcher.2
  obtain ⟨report, run⟩ : ∃ report, assetDispatcher.runFrom assetServices assetFlow
      (assetDispatcher.chainOf assetFlow loadAsset s₀ newAssetWorld) =
        (.ok report, s₁, newAssetWorld) :=
    runFrom_hop rfl (by decide) inline (by decide) (by decide) newAssetWorld
  have identity : s₁.identity? defaultStrategies = some "7" := by decide
  obtain ⟨w₁, stored⟩ : ∃ w₁, World.persist { loadable := ["Asset"] } assetDispatcher.registry s₁
      newAssetWorld = (.ok (), w₁) := ⟨_, World.persist_of_writable identity (by decide) _ _⟩
  have handled : assetDispatcher.handleMessage assetServices loadMessage newAssetWorld = (.ok (), w₁) :=
    handleMessage_stored meets (by decide) run stored
  have keeps := keepsRoutes_routingStage assetDispatcher.locator
  have sound : l.sound newAssetWorld := ⟨by decide, fun _ => rfl⟩
  obtain ⟨w₂, s, s', handled', hrow, hrow', hkept⟩ := handleMessage_again (d := assetFlow)
    (World.lawful_ledger _ _ _ _) (World.steady_ledger _ _ _ _)
    (World.steadyBus_ledger _ _ keeps _ _) sound handled (by decide)
    (.inl ⟨rfl, readsKept_of_recorded rfl IdentityStrategy.ofRecord_default⟩)
  exact ⟨w₁, w₂, s, s', handled, handled', hrow, hrow', hkept⟩

/-- The checking of a proof. -/
def checkProof : Transition :=
  { name := "check", sources := ["draft"], targets := ["checked"], metadata := { async := true } }

/-- The renewal of a checked proof, which takes a credit. -/
def renewProof : Transition :=
  { name := "renew", sources := ["checked", "credit"], targets := ["draft", "spent"] }

/-- The closing of a checked proof. -/
def closeProof : Transition := { name := "close", sources := ["checked"], targets := ["closed"] }

/-- **A flow of proofs** that may stand in several places. A checked proof is renewed as long as there
is credit, and closed else. -/
def proofing : Definition where
  name := "Proofing"
  kind := .workflow
  places := [{ name := "draft" }, { name := "credit" },
    { name := "checked", metadata := { next := ["renew", "close"] } }, { name := "spent" },
    { name := "closed" }]
  transitions := [checkProof, renewProof, closeProof]
  initialPlaces := ["draft", "credit"]
  supports := ["Asset"]

/-- A dispatcher for proofs, with a queue for checking. -/
def proofDispatcher : Dispatcher where
  registry := .ofList [proofing]
  locator := { routes := .ofList [⟨"proofing", "check", "proofing.check"⟩] }

/-- The services of a store in memory. -/
def proofServices : Services World :=
  worldServices { loadable := ["Asset"] } proofDispatcher.registry
    [routingStage proofDispatcher.locator]

/-- A proof with a credit. -/
def proof : Subject := asset.mark "Proofing" proofing.initial

/-- A store with that proof in it. -/
def proofWorld : World := { table := ⟨[⟨"7", proof⟩]⟩ }

/-- The message to check it. -/
def checkMessage : TransitionMessage := ⟨"7", "Asset", "check", "Proofing"⟩

theorem isAsync_proofDispatcher :
    proofDispatcher.locator.isAsync "Proofing" "renew" = false ∧
      proofDispatcher.locator.isAsync "Proofing" "close" = false := by
  constructor
  all_goals
    rw [Locator.isAsync, RouteMap.lookup?, Routing.slug_of_length_le (by decide),
      Routing.slug_of_length_le (by decide)]
    decide

/-- **A message that is handled twice moves a proof twice**: from the first checking it comes back as a
draft, without credit, and the second one closes it. -/
theorem handleMessage_again_moves : proofing.isValid = true ∧ ∃ w₁ w₂ s s',
    proofDispatcher.handleMessage proofServices checkMessage proofWorld = (.ok (), w₁) ∧
    proofDispatcher.handleMessage proofServices checkMessage w₁ = (.ok (), w₂) ∧
    w₁.table.find? "Asset" "7" = some s ∧ s.marking "Proofing" = .ofPlaces ["draft", "spent"] ∧
    w₂.table.find? "Asset" "7" = some s' ∧ s'.marking "Proofing" = .ofPlaces ["spent", "closed"] := by
  let s₁ := fire (fire proof proofing checkProof) proofing renewProof
  have meets : proofDispatcher.Meets proofServices checkMessage proofWorld proofing checkProof proof
      proofWorld := ⟨by decide, by decide, rfl, rfl, by decide⟩
  have inline : proofDispatcher.locator.isAsync proofing.name renewProof.name = false :=
    isAsync_proofDispatcher.1
  obtain ⟨report, run⟩ : ∃ report, proofDispatcher.runFrom proofServices proofing
      (proofDispatcher.chainOf proofing checkProof proof proofWorld) =
        (.ok report, s₁, proofWorld) :=
    runFrom_hop rfl (by decide) inline (by decide) (by decide) proofWorld
  have identity : s₁.identity? defaultStrategies = some "7" := by decide
  have stored : proofServices.persist s₁ proofWorld = _ :=
    World.persist_worldServices identity (by decide) proofWorld
  have handled := handleMessage_stored meets (by decide) run stored
  -- what the store gives back is where the second handling begins
  let row : Subject := { s₁ with markings := proofDispatcher.registry.standing s₁ }
  let s₂ := fire (fire row proofing checkProof) proofing closeProof
  obtain ⟨w₁, hw₁⟩ : ∃ w₁, w₁ = (proofServices.persist s₁ proofWorld).2 := ⟨_, rfl⟩
  have meets' : proofDispatcher.Meets proofServices checkMessage w₁ proofing checkProof row w₁ :=
    ⟨by decide, by decide, by subst hw₁; rfl, rfl, by decide⟩
  have inline' : proofDispatcher.locator.isAsync proofing.name closeProof.name = false :=
    isAsync_proofDispatcher.2
  obtain ⟨report', run'⟩ : ∃ report, proofDispatcher.runFrom proofServices proofing
      (proofDispatcher.chainOf proofing checkProof row w₁) = (.ok report, s₂, w₁) :=
    runFrom_hop rfl (by decide) inline' (by decide) (by decide) w₁
  have identity' : s₂.identity? defaultStrategies = some "7" := by decide
  have stored' : proofServices.persist s₂ w₁ = _ :=
    World.persist_worldServices identity' (by decide) w₁
  have handled' := handleMessage_stored meets' (by decide) run' stored'
  refine ⟨by decide, w₁, _, row, _, ?_, handled', by subst hw₁; rfl, by decide,
    EntityTable.find?_store _ _ _, by decide⟩
  rw [handled, hw₁]
  exact congrArg (Prod.mk _) (congrArg Prod.snd stored).symm

end WorkflowEngine.Dispatcher
