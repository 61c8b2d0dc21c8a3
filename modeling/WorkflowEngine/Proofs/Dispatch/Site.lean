import WorkflowEngine.Dispatch.Handler
import WorkflowEngine.Proofs.Bus.Turns
import WorkflowEngine.Proofs.Dispatch.Call
import WorkflowEngine.Proofs.Dispatch.Walk

/-!
# Where a dispatcher runs

A dispatcher runs on a site: a store that keeps entities and a bus that carries messages. The store
comes from outside, and what is relied on is written down as laws.

* `Site`, `Site.Lawful`: a store that gives back what was stored last, and a bus that takes what is
  sent;
* `Bus.Routes`: the queues of a definition are on the bus;
* `Lawful.enqueue`: a queued transition is stored and comes to its queue;
* `Site.Pending`: the rest of a walk, with the message that will go on with it;
* **`Lawful.advance`**: a chain followed by storing the subject leaves the rest of its walk pending;
* **`Lawful.handle`**: so does handling the message that is pending.
-/

namespace WorkflowEngine

/-- **The queues of a definition are on a bus.** -/
def Bus.Routes (b : Bus) (l : Locator) (d : Definition) : Prop :=
  ∀ t ∈ d.transitions, ∀ address, l.queue? d.name t.name = some address →
    (b.queue? address).isSome = true

theorem Bus.Routes.of_names {b b' : Bus} {l : Locator} {d : Definition} (h : b.Routes l d)
    (names : ∀ name, (b'.queue? name).isSome = (b.queue? name).isSome) : b'.Routes l d :=
  fun t ht address haddress => (names address).trans (h t ht address haddress)

/-! ## Sites -/

/-- **Where a dispatcher runs**: its services, the stages and the place of its bus, and what the store
keeps of an entity. -/
structure Site (σ : Type) where
  services : Services σ
  stages : List Stage
  bus : σ → Bus
  putBus : Bus → σ → σ
  keeps : σ → Subject → Prop

namespace Site

variable {σ : Type}

/-- **What a site promises for an entity.** It can be stored, and is found again as it was stored last,
as far as the dispatcher reads it; a message gets a number and goes to the bus; and neither the store nor
the bus touches the other. -/
structure Lawful (site : Site σ) (x : Dispatcher) (entityType id : String) : Prop where
  reads : x.ReadsKept
  stages : ∀ stage ∈ site.stages, Stage.KeepsRoutes stage
  persist : ∀ w s, s.entityType = entityType → x.identity? s = some id →
    ∃ w', site.services.persist s w = (.ok (), w') ∧ site.bus w' = site.bus w ∧ site.keeps w' s
  find : ∀ w s, site.keeps w s →
    ∃ s' w', site.services.find entityType id w = (.ok (some s'), w') ∧
      s.Alike x.registry s' ∧ site.bus w' = site.bus w ∧ site.keeps w' s
  send : ∀ m stamps w, ∃ number, ∀ e b,
    (site.bus w).dispatch site.stages (Envelope.stampAll { id := number, message := m } stamps) =
      (.ok e, b) →
    ∃ w', site.services.send m stamps w = (.ok e, w') ∧ site.bus w' = b ∧
      ∀ s, site.keeps w s → site.keeps w' s
  bus_putBus : ∀ b w, site.bus (site.putBus b w) = b
  keeps_putBus : ∀ b w s, site.keeps w s → site.keeps (site.putBus b w) s

/-- The message of a transition of an entity. -/
def messageOf (entityType id : String) (d : Definition) (t : Transition) : TransitionMessage :=
  { entityId := id, entityType, transition := t.name, workflow := d.name }

variable {site : Site σ} {x : Dispatcher} {entityType id : String} {d : Definition}

theorem Lawful.enqueue (h : site.Lawful x entityType id) {s : Subject}
    (type : s.entityType = entityType) (identity : x.identity? s = some id)
    {t : Transition} {address : String}
    (route : x.locator.queue? d.name t.name = some address) {w : σ}
    (known : ((site.bus w).queue? address).isSome = true) :
    ∃ e w', x.enqueue site.services d t s w = (.ok (some e), w') ∧
      e.message = messageOf entityType id d t ∧
      site.bus w' = (site.bus w).update (((site.bus w).look address).send e) ∧
      site.keeps w' s := by
  obtain ⟨w₁, hpersist, hbus, hkeeps⟩ := h.persist w s type identity
  let m := messageOf entityType id d t
  obtain ⟨number, hsend⟩ := h.send m (x.locator.stamps m (x.reading.context s)) w₁
  obtain ⟨e, hdispatch, hmessage⟩ := Bus.dispatch_of_route h.stages
    (Locator.route?_stamps (m := m) route { id := number, message := m } (x.reading.context s))
    (hbus.symm ▸ known)
  obtain ⟨w₂, hsent, hbus₂, hkeep⟩ := hsend e _ hdispatch
  refine ⟨e, w₂, ?_, ?_, ?_, hkeep s hkeeps⟩
  · subst type
    exact Dispatcher.enqueue_of_sent identity hpersist hsent
  · rw [hmessage, Envelope.message_stampAll]
  · rw [hbus₂, hbus]

/-! ## The rest of a walk -/

/-- **The rest of a walk**: it is over and nothing is ready, or its next transition is queued and the
message for it is the only one that is ready. -/
inductive Pending (site : Site σ) (x : Dispatcher) (d : Definition) (entityType id : String)
    (goal : Marking) : σ → List Transition → Prop
  | arrived {w s} (keeps : site.keeps w s) (there : s.marking d.name = goal)
      (quiet : ∀ name, ((site.bus w).look name).ready = []) :
      Pending site x d entityType id goal w []
  | queued {w s place t rest last address e} (keeps : site.keeps w s)
      (type : s.entityType = entityType) (identity : x.Identifies s id)
      (walk : Walk x d s place (t :: rest) last) (there : last.marking d.name = goal)
      (length : (t :: rest).length ≤ x.maxChainDepth)
      (route : x.locator.queue? d.name t.name = some address)
      (message : e.message = messageOf entityType id d t)
      (ready : ∀ name, ((site.bus w).look name).ready = if name = address then [e] else []) :
      Pending site x d entityType id goal w (t :: rest)

variable {goal : Marking}

theorem Pending.of_ready {w w' : σ} {ts : List Transition}
    (h : site.Pending x d entityType id goal w ts) (keep : ∀ s, site.keeps w s → site.keeps w' s)
    (same : ∀ name, ((site.bus w').look name).ready = ((site.bus w).look name).ready) :
    site.Pending x d entityType id goal w' ts := by
  cases h with
  | arrived keeps there quiet =>
    exact .arrived (keep _ keeps) there fun name => (same name).trans (quiet name)
  | queued keeps type identity walk there length route message ready =>
    exact .queued (keep _ keeps) type identity walk there length route message
      fun name => (same name).trans (ready name)

/-- **A chain followed by storing the subject leaves the rest of its walk pending.** -/
theorem Lawful.advance (h : site.Lawful x entityType id) (chained : d.PlaceChained)
    {s last : Subject} {place : PlaceName} {ts : List Transition} (walk : Walk x d s place ts last)
    (there : last.marking d.name = goal) (type : s.entityType = entityType)
    (identity : x.Identifies s id) (length : ts.length ≤ x.maxChainDepth) {w : σ}
    (quiet : ∀ name, ((site.bus w).look name).ready = []) (named : (site.bus w).Named)
    (routes : (site.bus w).Routes x.locator d) {rest : List (Event × Nat)}
    (hrest : ∀ entry ∈ rest, d.candidates entry.1 = []) (report : Report) :
    ∃ report' s' w₁ w₂ ts',
      x.runChain site.services d ((.entered d.name place, x.maxChainDepth) :: rest) report s w =
        (.ok report', s', w₁) ∧
      site.services.persist s' w₁ = (.ok (), w₂) ∧
      site.Pending x d entityType id goal w₂ ts' ∧ x.queuedOf d ts' = x.queuedOf d ts ∧
      (site.bus w).SameBooks (site.bus w₂) := by
  have sends : ∀ s' t, s.SameEntity s' → t ∈ d.transitions →
      x.locator.isAsync d.name t.name = true →
      ∃ e w', x.enqueue site.services d t s' w = (.ok (some e), w') := by
    intro s' t same ht hqueued
    obtain ⟨address, haddress⟩ := Locator.isAsync_iff.1 hqueued
    obtain ⟨e, w', hsent, _⟩ := h.enqueue (same.entityType.trans type) (identity s' same) haddress
      (routes t ht address haddress)
    exact ⟨e, w', hsent⟩
  obtain ⟨report', s', w₁, hrun, hpause⟩ :=
    Dispatcher.runChain_of_walk chained walk sends length hrest report
  have same := walk.sameEntity
  cases hpause with
  | arrived inline =>
    obtain ⟨w₂, hpersist, hbus, hkeeps⟩ :=
      h.persist w last (same.entityType.trans type) (identity last same)
    refine ⟨report', last, w, w₂, [], hrun, hpersist, .arrived hkeeps there ?_, inline.symm, ?_⟩
    · rw [hbus]
      exact quiet
    · rw [hbus]
      exact .refl _
  | @queued _ next t rest' e _ walk' queued sent length' part =>
    have same' : s.SameEntity s' := same.trans walk'.sameEntity.symm
    have type' : s'.entityType = entityType := same'.entityType.trans type
    have identity' := identity s' same'
    obtain ⟨address, haddress⟩ := Locator.isAsync_iff.1 queued
    have known := routes t walk'.mem_transitions address haddress
    obtain ⟨e', w₁', hsent, hmessage, hbus₁, _⟩ := h.enqueue type' identity' haddress known
    rw [sent] at hsent
    cases hsent
    obtain ⟨w₂, hpersist, hbus₂, hkeeps⟩ := h.persist w₁ s' type' identity'
    rw [hbus₁] at hbus₂
    have ready : ∀ name, ((site.bus w₂).look name).ready = if name = address then [e] else [] := by
      intro name
      rw [hbus₂, Bus.look_update (((site.bus w).look address).send e) (named address) known]
      split
      · rw [Queue.send, quiet address]
        rfl
      · exact quiet name
    refine ⟨report', s', w₁, w₂, t :: rest', hrun, hpersist, ?_, part, ?_⟩
    · exact .queued hkeeps type' (identity.of_sameEntity same') walk' there
        (Nat.le_trans length' length) haddress hmessage ready
    · rw [hbus₂]
      exact Bus.sameBooks_send named known e

/-- **Handling the message that is pending leaves the rest of its walk pending.** -/
theorem Lawful.handle (h : site.Lawful x entityType id) (chained : d.PlaceChained)
    (registered : x.registry.get? d.name = some d) (supported : d.supportsType entityType = true)
    (names : ∀ t ∈ d.transitions, Text.isBlankText t.name = false) {s last : Subject}
    {place : PlaceName} {t : Transition} {ts : List Transition}
    (walk : Walk x d s place (t :: ts) last) (there : last.marking d.name = goal)
    (type : s.entityType = entityType) (identity : x.Identifies s id)
    (length : (t :: ts).length ≤ x.maxChainDepth) {w : σ} (keeps : site.keeps w s)
    (quiet : ∀ name, ((site.bus w).look name).ready = []) (named : (site.bus w).Named)
    (routes : (site.bus w).Routes x.locator d) :
    ∃ w' ts', x.handleMessage site.services (messageOf entityType id d t) w = (.ok (), w') ∧
      site.Pending x d entityType id goal w' ts' ∧ x.queuedOf d ts' = x.queuedOf d ts ∧
      (site.bus w).SameBooks (site.bus w') := by
  obtain ⟨s₁, w₁, hfind, halike, hbus, _⟩ := h.find w s keeps
  have hd : d ∈ x.registry.definitions := (Registry.get?_eq_some registered).1
  -- the walk goes on from what the store gives back
  obtain ⟨last₁, walk₁, hlast⟩ := walk.alike h.reads hd halike
  have type₁ : s₁.entityType = entityType := halike.entityType.trans type
  have identity₁ : x.Identifies (fire s₁ d t) id :=
    (identity.of_alike h.reads halike).of_sameEntity (Subject.sameEntity_fire s₁ d t)
  rcases walk₁ with _ | @⟨_, _, _, next, _, _, chosen, leads, walk₂⟩
  obtain ⟨_, known, enabled⟩ := Dispatcher.firstEnabled?_eq_some chosen
  have ht : t ∈ d.transitions := mem_of_firstEnabled? chosen
  rw [← hbus] at quiet named routes
  have hrest : ∀ entry ∈ [(Event.completed d.name t.name, x.maxChainDepth)],
      d.candidates entry.1 = [] :=
    Dispatcher.candidates_completed_cons chained ht (by simp)
  obtain ⟨report', s', w₂, w₃, ts', hrun, hpersist, hpending, hsame, hbooks⟩ :=
    h.advance chained walk₂ ((hlast.marking_eq hd).trans there) type₁ identity₁
      (Nat.le_of_succ_le length) quiet named routes hrest { applied := [t.name] }
  refine ⟨w₃, ts', ?_, hpending, hsame, hbus ▸ hbooks⟩
  have hfollow : x.follow site.services d (followUps d t) { applied := [t.name] } (fire s₁ d t) w₁ =
      (.ok report', s', w₂) := by
    rw [Dispatcher.follow, leads]
    exact hrun
  have hfound : x.definitionFor s₁ d.name = .ok d :=
    Dispatcher.definitionFor_eq_ok_iff.2 ⟨registered, type₁ ▸ supported⟩
  have happly : x.applyIfEnabled site.services d.name t.name s₁ w₁ =
      (.ok (some report'), s', w₂) := by
    rw [Dispatcher.applyIfEnabled_enabled hfound known enabled, hfollow]
    rfl
  simp only [Dispatcher.handleMessage, messageOf, workflowName, transitionName, checkName,
    chained.named, names t ht, Bool.false_eq_true, if_false, hfind, Dispatcher.handleFound, happly,
    hpersist]

end Site

end WorkflowEngine
