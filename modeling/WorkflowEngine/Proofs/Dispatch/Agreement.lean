import WorkflowEngine.Proofs.Dispatch.WorldSite

/-!
# Queued runs agree with inline runs

A run in which everything fires at once is cut at its queued transitions: each piece ends with storing
the subject and sending a message, and a worker goes on from there. However the workers take turns,
they handle the queued transitions of the inline run in their order, and when nothing is ready any
more the entity stands where the inline run left it.

* `Site.worker`, `Site.Serves`: workers that take turns at the queues of a bus;
* `Lawful.turn`: a turn does nothing, or takes one transition off the rest of the walk;
* `Site.Underway`, `Serves.underway`, `Underway.exists_quiet`: many turns stay on the walk, and come to
  an end;
* `Site.Served`: what is promised of workers that took turns;
* **`Lawful.served_of_start`**: if a fresh subject comes to its end inline, it does so through the
  queues.
-/

namespace WorkflowEngine

/-- **The dispatcher in which everything fires at once.** -/
def Dispatcher.inline (x : Dispatcher) : Dispatcher :=
  { x with locator := { x.locator with sync := true } }

namespace Site

variable {σ : Type}

/-- **A worker at a queue of a site** that takes every message. -/
def worker (site : Site σ) (x : Dispatcher) (name : String) (now : Instant) : Worker σ where
  queue := (Bus.queueAt name).within site.bus site.putBus
  handler := x.messageHandler site.services
  now := now

/-- **Workers take turns**, in any order; what they handled is listed with the queue it came from. -/
inductive Serves (site : Site σ) (x : Dispatcher) : σ → List (String × Envelope) → σ → Prop
  | start {w} : Serves site x w [] w
  | idle {w handled w₁ w₂ name now} (before : Serves site x w handled w₁)
      (turn : (site.worker x name now).runOnce w₁ = (.ok .idle, w₂)) : Serves site x w handled w₂
  | handled {w handled w₁ w₂ name now e} (before : Serves site x w handled w₁)
      (turn : (site.worker x name now).runOnce w₁ = (.ok (.handled e), w₂)) :
      Serves site x w (handled ++ [(name, e)]) w₂

variable {site : Site σ} {x : Dispatcher} {entityType id : String} {d : Definition} {goal : Marking}

theorem worker_idle {w : σ} {name : String} (h : ((site.bus w).look name).ready = [])
    (now : Instant) : (site.worker x name now).runOnce w = (.ok .idle, w) :=
  Worker.runOnce_idle h

theorem Lawful.worker_handled (h : site.Lawful x entityType id) {w w₁ : σ} {name : String}
    {e : Envelope} {rest : List Envelope} (named : (site.bus w).Named)
    (known : ((site.bus w).queue? name).isSome = true)
    (ready : ((site.bus w).look name).ready = e :: rest)
    (handled : x.handleMessage site.services e.message
      (site.putBus ((site.bus w).update (((site.bus w).look name).taken e rest)) w) = (.ok (), w₁))
    (books : ((site.bus w).update (((site.bus w).look name).taken e rest)).SameBooks (site.bus w₁))
    (now : Instant) :
    ∃ e' w', (site.worker x name now).runOnce w = (.ok (.handled e'), w') ∧
      e'.message = e.message ∧ (site.bus w).Acked (site.bus w') name e'.id ∧
      (∀ s, site.keeps w₁ s → site.keeps w' s) ∧
      ∀ n, ((site.bus w').look n).ready = ((site.bus w₁).look n).ready := by
  have hinFlight : ((site.bus w₁).look name).inFlight =
      Queue.without e.id ((site.bus w).look name).inFlight ++ [e] := by
    have hbooks := books.books name
    rw [Bus.look_update_taken named known, if_pos rfl] at hbooks
    exact (Queue.books_eq_iff.1 hbooks).2.1
  have hhandle : (site.worker x name now).handler.handle
      (e.stamp (.received ((site.bus w).look name).name now))
      (site.putBus ((site.bus w).update (((site.bus w).look name).taken e rest)) w) =
        (.ok (), w₁) := by
    simp only [worker, Dispatcher.messageHandler, Envelope.message_stamp, handled]
    rfl
  obtain ⟨e', hturn, hid, hmessage⟩ :=
    Worker.runOnce_handled rfl ready hhandle hinFlight
  let b := (site.bus w₁).update (((site.bus w₁).look name).settled e)
  have hb : site.bus (site.putBus b w₁) = b := h.bus_putBus b w₁
  have hlook : ∀ n, b.look n =
      if n = name then ((site.bus w₁).look name).settled e else (site.bus w₁).look n :=
    Bus.look_update_settled (books.named (named.update _))
      ((books.names name).trans ((Bus.isSome_queue?_update _ _ name).trans known)) e
  refine ⟨e', site.putBus b w₁, hturn, hmessage, ?_, h.keeps_putBus b w₁, fun n => ?_⟩
  · rw [hb, hid]
    exact Bus.acked_of_sameBooks named known books
  · rw [hb, hlook]
    split
    · next hn => rw [hn]; rfl
    · rfl

/-- **A turn finds nothing, or takes one transition off the rest of the walk.** It has the message of
that transition handled and acknowledged. -/
theorem Lawful.turn (h : site.Lawful x entityType id) (chained : d.PlaceChained)
    (registered : x.registry.get? d.name = some d) (supported : d.supportsType entityType = true)
    (names : ∀ t ∈ d.transitions, Text.isBlankText t.name = false) {w : σ} {ts : List Transition}
    (pending : site.Pending x d entityType id goal w ts) (named : (site.bus w).Named)
    (routes : (site.bus w).Routes x.locator d) (name : String) (now : Instant) :
    ((site.bus w).look name).ready = [] ∨
      ∃ t rest e w' ts', ts = t :: rest ∧ x.locator.isAsync d.name t.name = true ∧
        (site.worker x name now).runOnce w = (.ok (.handled e), w') ∧
        e.message = messageOf entityType id d t ∧
        site.Pending x d entityType id goal w' ts' ∧ x.queuedOf d ts' = x.queuedOf d rest ∧
        (site.bus w).Acked (site.bus w') name e.id := by
  cases pending with
  | arrived keeps there quiet => exact .inl (quiet name)
  | @queued s place t rest last address e keeps type identity walk there length route message
      ready =>
    by_cases hname : name = address
    · subst hname
      right
      have known := routes t walk.mem_transitions name route
      -- the handler runs where the envelope is in flight
      let b := (site.bus w).update (((site.bus w).look name).taken e [])
      have hb : site.bus (site.putBus b w) = b := h.bus_putBus b w
      have quiet : ∀ n, ((site.bus (site.putBus b w)).look n).ready = [] := by
        intro n
        rw [hb, Bus.look_update_taken named known]
        split
        · rfl
        · next hn => exact (ready n).trans (if_neg hn)
      have routes' : b.Routes x.locator d :=
        routes.of_names fun n => Bus.isSome_queue?_update (site.bus w) _ n
      obtain ⟨w₁, ts', hhandle, hpending, hsame, hbooks⟩ := h.handle chained registered supported
        names walk there type identity length (h.keeps_putBus b w s keeps) quiet
        (hb.symm ▸ named.update _) (hb.symm ▸ routes')
      rw [hb] at hbooks
      obtain ⟨e', w', hturn, hmessage, hacked, hkeep, hready⟩ := h.worker_handled named known
        ((ready name).trans (if_pos rfl)) (message ▸ hhandle) hbooks now
      exact ⟨t, rest, e', w', ts', rfl, Locator.isAsync_iff.2 ⟨name, route⟩, hturn,
        hmessage.trans message, hpending.of_ready hkeep hready, hsame, hacked⟩
    · exact .inl ((ready name).trans (if_neg hname))

/-! ## Many turns -/

/-- **How far workers have come.** What they handled and what is still queued are the queued
transitions of a walk, in their order, and the books of the queues say so. -/
structure Underway (site : Site σ) (x : Dispatcher) (d : Definition) (entityType id : String)
    (goal : Marking) (b : Bus) (all : List Transition) (handled : List (String × Envelope)) (w : σ) :
    Prop where
  pending : ∃ ts, site.Pending x d entityType id goal w ts ∧
    handled.map (·.2.message) ++ (x.queuedOf d ts).map (messageOf entityType id d) =
      all.map (messageOf entityType id d)
  named : (site.bus w).Named
  routes : (site.bus w).Routes x.locator d
  settled : b.Settled (site.bus w) handled

section Turns

variable {b : Bus} {all : List Transition} (h : site.Lawful x entityType id)
  (chained : d.PlaceChained) (registered : x.registry.get? d.name = some d)
  (supported : d.supportsType entityType = true)
  (names : ∀ t ∈ d.transitions, Text.isBlankText t.name = false)

include h chained registered supported names in
theorem Underway.turn {handled : List (String × Envelope)} {w : σ}
    (u : site.Underway x d entityType id goal b all handled w) (name : String) (now : Instant) :
    ((site.bus w).look name).ready = [] ∨
      ∃ e w', (site.worker x name now).runOnce w = (.ok (.handled e), w') ∧
        site.Underway x d entityType id goal b all (handled ++ [(name, e)]) w' := by
  obtain ⟨ts, hpending, hall⟩ := u.pending
  refine (h.turn chained registered supported names hpending u.named u.routes name now).imp_right ?_
  rintro ⟨t, rest, e, w', ts', rfl, queued, hturn, hmessage, hpending', hsame, hacked⟩
  refine ⟨e, w', hturn, ⟨ts', hpending', ?_⟩, hacked.named u.named,
    u.routes.of_names hacked.names, u.settled.snoc hacked⟩
  rw [← hall, hsame, Dispatcher.queuedOf, Dispatcher.queuedOf, List.filter_cons, queued, if_pos rfl]
  simp [hmessage]

include h chained registered supported names in
/-- **Workers that take turns stay under way.** The induction is on the turns. -/
theorem Serves.underway {handled : List (String × Envelope)} {w w' : σ}
    (serves : site.Serves x w handled w')
    (u : site.Underway x d entityType id goal b all [] w) :
    site.Underway x d entityType id goal b all handled w' := by
  induction serves with
  | start => exact u
  | @idle handled w₁ w₂ name now _ hturn ih =>
    rcases ih.turn h chained registered supported names name now with quiet | ⟨e, w', hne, _⟩
    · rw [worker_idle quiet] at hturn
      cases hturn
      exact ih
    · rw [hne] at hturn
      cases hturn
  | @handled handled w₁ w₂ name now e _ hturn ih =>
    rcases ih.turn h chained registered supported names name now with quiet | ⟨e', w', hne, hu⟩
    · rw [worker_idle quiet] at hturn
      cases hturn
    · rw [hne] at hturn
      cases hturn
      exact hu

include h chained registered supported names in
/-- **Workers come to an end.** The induction is on what is still queued. -/
theorem Underway.exists_quiet (n : Nat) : ∀ {handled : List (String × Envelope)} {w₀ w : σ},
    handled.length + n = all.length → site.Underway x d entityType id goal b all handled w →
    site.Serves x w₀ handled w →
    ∃ handled' w', site.Serves x w₀ handled' w' ∧
      ∀ name, ((site.bus w').look name).ready = [] := by
  induction n with
  | zero =>
    intro handled w₀ w hlength u serves
    refine ⟨handled, w, serves, fun name => ?_⟩
    rcases u.turn h chained registered supported names name default with quiet | ⟨e, w', _, u'⟩
    · exact quiet
    · obtain ⟨ts, _, hall⟩ := u'.pending
      have := congrArg List.length hall
      simp at this
      omega
  | succ n ih =>
    intro handled w₀ w hlength u serves
    by_cases quiet : ∀ name, ((site.bus w).look name).ready = []
    · exact ⟨handled, w, serves, quiet⟩
    · obtain ⟨name, hready⟩ := Classical.not_forall.1 quiet
      rcases u.turn h chained registered supported names name default with
        hquiet | ⟨e, w', hturn, u'⟩
      · exact absurd hquiet hready
      · refine ih ?_ u' (serves.handled hturn)
        rw [List.length_append, List.length_singleton]
        omega

end Turns

/-! ## The whole run -/

/-- **What is promised of workers that took turns**, after an inline run has come to its end. -/
structure Served (site : Site σ) (x : Dispatcher) (d : Definition) (entityType id : String)
    (inline : Report) (goal : Marking) (b : Bus) (handled : List (String × Envelope)) (w : σ) :
    Prop where
  idle : ∀ name now, ((site.bus w).look name).ready = [] →
    (site.worker x name now).runOnce w = (.ok .idle, w)
  busy : ∀ name now, ((site.bus w).look name).ready ≠ [] →
    ∃ e w', (site.worker x name now).runOnce w = (.ok (.handled e), w')
  order : handled.map (·.2.message.transition) <+:
    inline.applied.filter fun t => x.locator.isAsync d.name t
  settled : b.Settled (site.bus w) handled
  finished : (∀ name, ((site.bus w).look name).ready = []) →
    handled.map (·.2.message.transition) =
        inline.applied.filter (fun t => x.locator.isAsync d.name t) ∧
      ∃ s w', site.services.find entityType id w = (.ok (some s), w') ∧ s.marking d.name = goal

section Turns

variable {b : Bus} {all : List Transition} (h : site.Lawful x entityType id)
  (chained : d.PlaceChained) (registered : x.registry.get? d.name = some d)
  (supported : d.supportsType entityType = true)
  (names : ∀ t ∈ d.transitions, Text.isBlankText t.name = false)

include h chained registered supported names in
theorem Underway.served {handled : List (String × Envelope)} {w : σ} {inline : Report}
    (u : site.Underway x d entityType id goal b all handled w)
    (hall : all.map (·.name) = inline.applied.filter fun t => x.locator.isAsync d.name t) :
    site.Served x d entityType id inline goal b handled w := by
  obtain ⟨ts, hpending, hmessages⟩ := u.pending
  have horder : handled.map (·.2.message.transition) ++ (x.queuedOf d ts).map (·.name) =
      inline.applied.filter fun t => x.locator.isAsync d.name t := by
    have := congrArg (List.map TransitionMessage.transition) hmessages
    simpa [List.map_append, List.map_map, Function.comp_def, messageOf, hall] using this
  refine ⟨fun name now => (worker_idle · now), fun name now hready => ?_, ⟨_, horder⟩, u.settled,
    fun quiet => ?_⟩
  · rcases u.turn h chained registered supported names name now with hquiet | ⟨e, w', hturn, _⟩
    · exact absurd hquiet hready
    · exact ⟨e, w', hturn⟩
  · cases hpending with
    | arrived keeps there _ =>
      obtain ⟨s', w', hfind, halike, _⟩ := h.find w _ keeps
      refine ⟨by simpa [Dispatcher.queuedOf] using horder, s', w', hfind, ?_⟩
      exact (halike.marking_eq (Registry.get?_eq_some registered).1).trans there
    | @queued s place t rest last address e keeps type identity walk there length route message
        ready =>
      have := (ready address).symm.trans (quiet address)
      simp at this

end Turns

/-- **Queued runs agree with inline runs.** If a fresh subject comes to its end when everything fires at
once, it can be started with queues too. However workers take turns then, they handle the queued
transitions of the inline run in their order, and acknowledge all of them; they come to an end; and
when nothing is ready any more, the entity stands where the inline run left it. -/
theorem Lawful.served_of_start (h : site.Lawful x entityType id)
    (registered : x.registry.get? d.name = some d) (valid : d.isValid = true)
    (machine : d.kind = .stateMachine) (placesOnly : ∀ t ∈ d.transitions, t.metadata.next = [])
    (names : ∀ t ∈ d.transitions, Text.isBlankText t.name = false)
    {s : Subject} (type : s.entityType = entityType) (supported : d.supportsType entityType = true)
    (identity : x.Identifies s id) {w : σ} (named : (site.bus w).Named)
    (quiet : ∀ name, ((site.bus w).look name).ready = [])
    (routes : (site.bus w).Routes x.locator d) {inline : Report} {last : Subject} {w' : σ}
    (run : x.inline.start site.services d.name s w = (.ok inline, last, w')) :
    ∃ report s₁ w₁ w₂, x.start site.services d.name s w = (.ok report, s₁, w₁) ∧
      site.services.persist s₁ w₁ = (.ok (), w₂) ∧
      (∀ handled w₃, site.Serves x w₂ handled w₃ →
        site.Served x d entityType id inline (last.marking d.name) (site.bus w) handled w₃) ∧
      ∃ handled w₃, site.Serves x w₂ handled w₃ ∧
        ∀ name, ((site.bus w₃).look name).ready = [] := by
  have chained : d.PlaceChained := ⟨isValid_iff.1 valid, machine, placesOnly⟩
  obtain ⟨place, hinitial⟩ := chained.exists_initial
  have hstart : ∀ y : Dispatcher, y.registry = x.registry →
      y.start site.services d.name s w =
        y.runChain site.services d [(.entered d.name place, y.maxChainDepth)] {}
          (s.mark d.name d.initial) w := by
    intro y hy
    have hfound : y.definitionFor s d.name = .ok d :=
      Dispatcher.definitionFor_eq_ok_iff.2 ⟨hy ▸ registered, type ▸ supported⟩
    simp only [Dispatcher.start, hfound, hinitial, Dispatcher.follow, List.map_cons, List.map_nil]
  have hbehind : ∀ entry ∈ ([] : List (Event × Nat)), d.candidates entry.1 = [] := by simp
  rw [hstart x.inline rfl] at run
  obtain ⟨ts, walk, length, happlied⟩ :=
    Dispatcher.walk_of_runChain chained (fun _ _ => rfl) _ hbehind run
  have walk : Walk x d (s.mark d.name d.initial) place ts last :=
    Walk.of_choice (x := x.inline) (fun _ _ => rfl) walk
  have identity : x.Identifies (s.mark d.name d.initial) id :=
    identity.of_sameEntity (s.sameEntity_mark _ _)
  obtain ⟨report, s₁, w₁, w₂, ts', hrun, hpersist, hpending, hsame, hbooks⟩ :=
    h.advance chained walk rfl type identity length quiet named routes hbehind {}
  have hall : (x.queuedOf d ts).map (·.name) =
      inline.applied.filter fun t => x.locator.isAsync d.name t := by
    rw [happlied, Dispatcher.queuedOf, List.nil_append, List.filter_map]
    rfl
  have under : site.Underway x d entityType id (last.marking d.name) (site.bus w) (x.queuedOf d ts)
      [] w₂ :=
    ⟨⟨ts', hpending, by rw [hsame]; rfl⟩, hbooks.named named, routes.of_names hbooks.names,
      hbooks.settled⟩
  refine ⟨report, s₁, w₁, w₂, (hstart x rfl).trans hrun, hpersist, fun handled w₃ serves => ?_, ?_⟩
  · exact (serves.underway h chained registered supported names under).served h chained registered
      supported names hall
  · exact under.exists_quiet h chained registered supported names _ (Nat.zero_add _) .start

/-- The site of assets. -/
def assetSite : Site World :=
  World.site { loadable := ["Asset"] } assetDispatcher.registry
    [routingStage assetDispatcher.locator] "Asset" "7"

/-- An asset is loaded by a worker and published, as it is when everything fires at once. -/
theorem served_of_start_asset :
    ∃ report s₁ w₁ w₂ handled w₃ s w₄,
      assetDispatcher.start assetServices "AssetFlow" asset assetWorld = (.ok report, s₁, w₁) ∧
      assetServices.persist s₁ w₁ = (.ok (), w₂) ∧
      assetSite.Serves assetDispatcher w₂ handled w₃ ∧
      handled.map (·.2.message.transition) = ["load"] ∧
      assetServices.find "Asset" "7" w₃ = (.ok (some s), w₄) ∧
      s.marking "AssetFlow" = .ofPlaces ["published"] := by
  have keeps := keepsRoutes_routingStage assetDispatcher.locator
  have lawful : assetSite.Lawful assetDispatcher "Asset" "7" :=
    World.lawful_site rfl rfl (by decide) (by decide) (by decide) keeps
  have identified : assetDispatcher.Identifies asset "7" :=
    Dispatcher.identifies_of_recorded rfl IdentityStrategy.ofRecord_default (by decide)
  have empty : ∀ name, assetWorld.bus.look name = { name } :=
    Bus.look_ofNames ["assetflow.load"] none
  have named : (assetSite.bus assetWorld).Named := fun name => congrArg Queue.name (empty name)
  have quiet : ∀ name, ((assetSite.bus assetWorld).look name).ready = [] := fun name =>
    congrArg Queue.ready (empty name)
  have routes : (assetSite.bus assetWorld).Routes assetDispatcher.locator assetFlow := by
    intro t ht address haddress
    rcases List.mem_cons.1 ht with rfl | ht
    · cases haddress.symm.trans queue?_loadAsset
      decide
    · rw [List.mem_singleton.1 ht] at haddress
      cases haddress.symm.trans queue?_publishAsset
  -- the inline run: loading and publishing fire, and nothing follows
  let s₀ := asset.mark "AssetFlow" assetFlow.initial
  let s₁ := fire s₀ assetFlow loadAsset
  let s₂ := fire s₁ assetFlow publishAsset
  let c : ChainState World := ⟨[(.entered "AssetFlow" "new", 32)], {}, s₀, assetWorld⟩
  let c₁ : ChainState World :=
    ⟨[(.entered "AssetFlow" "loaded", 31), (.completed "AssetFlow" "load", 31)],
      (c.report.saw (.entered "AssetFlow" "new")).fired "load", s₁, assetWorld⟩
  let c₂ : ChainState World :=
    ⟨[(.entered "AssetFlow" "published", 30), (.completed "AssetFlow" "publish", 30),
        (.completed "AssetFlow" "load", 31)],
      (c₁.report.saw (.entered "AssetFlow" "loaded")).fired "publish", s₂, assetWorld⟩
  have load : assetDispatcher.inline.Step assetServices assetFlow c c₁ :=
    .fired (t := loadAsset) (by decide) rfl
  have publish : assetDispatcher.inline.Step assetServices assetFlow c₁ c₂ :=
    .fired (t := publishAsset) (by decide) rfl
  have behind : ∀ entry ∈ c₂.stack, assetFlow.candidates entry.1 = [] := by decide
  obtain ⟨inline, hend, happlied⟩ := Dispatcher.runChain_of_candidates_eq_nil
    assetDispatcher.inline assetServices behind c₂.report c₂.subject c₂.world
  have run : assetDispatcher.inline.start assetServices "AssetFlow" asset assetWorld =
      (.ok inline, s₂, assetWorld) :=
    (Dispatcher.runFrom_step load).trans ((Dispatcher.runFrom_step publish).trans hend)
  obtain ⟨report, s₃, w₁, w₂, hstart, hpersist, hserved, handled, w₃, serves, calm⟩ :=
    lawful.served_of_start (d := assetFlow) (by decide) (by decide) rfl (by decide) (by decide) rfl
      (by decide) identified named quiet routes run
  obtain ⟨horder, s, w₄, hfind, hmarking⟩ := (hserved handled w₃ serves).finished calm
  refine ⟨report, s₃, w₁, w₂, handled, w₃, s, w₄, hstart, hpersist, serves, ?_, hfind,
    hmarking.trans (by decide)⟩
  rw [horder, happlied]
  change List.filter _ ["load", "publish"] = ["load"]
  simp only [List.filter_cons, assetFlow, isAsync_assetDispatcher]
  rfl

end Site

end WorkflowEngine
