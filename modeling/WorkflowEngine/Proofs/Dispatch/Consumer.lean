import WorkflowEngine.Proofs.Dispatch.Handling

/-!
# Consumers, one access at a time

What a worker does with an envelope is not done at once. It takes the envelope from its queue, finds
the entity, stores it and sends a message whenever the chain comes to a queued transition, stores it
once more at the end, and settles the envelope. In between, it works on a subject of its own.

* `Dispatcher.Moves`: what a subject can come to by enabled transitions;
* `Consumer`, `Consumer.worker`: a worker that has messages handled by a dispatcher;
* `Consumer.Phase`, `Consumer.Act`, `Consumer.next`: what a consumer is at, and its next turn;
* `Consumer.Runs`, **`runs_iff_runOnce`**: undisturbed turns do what the worker does;
* `Consumer.Does`, **`does_next`**: what one turn does to the ledger and to the subject in hand.
-/

namespace WorkflowEngine

open Relation

variable {σ : Type}

/-! ## What a subject can come to -/

namespace Dispatcher

/-- Firing a transition that is enabled. -/
def Hop (x : Dispatcher) (d : Definition) (s s' : Subject) : Prop :=
  ∃ t ∈ d.transitions, x.isEnabled s d t = true ∧ s' = fire s d t

/-- **What a subject can come to**, as one enabled transition after the other fires. -/
def Moves (x : Dispatcher) (d : Definition) : Subject → Subject → Prop := ReflTransGen (x.Hop d)

variable {x : Dispatcher} {d : Definition} {s s' s₁ : Subject}

theorem Moves.sameEntity (h : x.Moves d s s') : s.SameEntity s' := by
  induction h with
  | refl => exact .refl s
  | tail _ hop ih =>
    obtain ⟨t, _, _, rfl⟩ := hop
    exact ih.trans (Subject.sameEntity_fire _ d t)

theorem Moves.keptAs (h : x.Moves d s s') (reads : x.ReadsKept)
    (registered : d ∈ x.registry.definitions) (kept : s.KeptAs x.registry s₁) :
    ∃ s₁', x.Moves d s₁ s₁' ∧ s'.KeptAs x.registry s₁' := by
  induction h with
  | refl => exact ⟨s₁, .refl, kept⟩
  | tail _ hop ih =>
    obtain ⟨s₂, hmoves, hkept⟩ := ih
    obtain ⟨t, ht, enabled, rfl⟩ := hop
    have enabled' := (reads.isEnabled hkept.alike registered t).trans enabled
    exact ⟨fire s₂ d t, hmoves.tail ⟨t, ht, enabled', rfl⟩, hkept.fire registered t⟩

theorem Moves.eq_of_idle (h : x.Moves d s s')
    (idle : ∀ t ∈ d.transitions, x.isEnabled s d t = false) : s' = s := by
  induction h using ReflTransGen.head_induction_on with
  | refl => rfl
  | head hop _ _ =>
    obtain ⟨t, ht, enabled, _⟩ := hop
    cases enabled.symm.trans (idle t ht)

end Dispatcher

/-! ## Turns -/

/-- **A consumer of messages**: a dispatcher, the services it uses, and the queue it takes messages
from. -/
structure Consumer (σ : Type) where
  dispatcher : Dispatcher
  services : Services σ
  queue : QueueAt σ
  filter : ContextFilter := .acceptAll
  now : Instant

namespace Consumer

/-- The worker of a consumer. -/
def worker (k : Consumer σ) : Worker σ where
  queue := k.queue
  handler := k.dispatcher.messageHandler k.services
  filter := k.filter
  now := k.now

/-- **What a consumer is at**: nothing; an envelope whose entity was not looked at yet; a chain, with the
events that are pending; a message to send for a subject that was stored; or an envelope to settle. -/
inductive Phase where
  | idle
  | holding (e : Envelope)
  | chaining (e : Envelope) (d : Definition) (stack : List (Event × Nat)) (s : Subject)
  | announcing (e : Envelope) (d : Definition) (stack : List (Event × Nat)) (s : Subject)
      (m : TransitionMessage)
  | settling (e : Envelope) (answer : Except HandlingError Unit)

/-- **What a turn shows to others**: an entity was found or stored, the worker is through with its
outcome, or nothing of the kind. -/
inductive Act where
  | quiet
  | found (s : Subject)
  | stored (s : Subject)
  | through (outcome : Except BusError WorkerOutcome)
  deriving DecidableEq

/-- The subject that a consumer works on, and its workflow. -/
def Phase.subject? : Phase → Option (Definition × Subject)
  | .chaining _ d _ s | .announcing _ d _ s _ => some (d, s)
  | .idle | .holding _ | .settling _ _ => none

/-- The subject that was found or stored. -/
def Act.subject? : Act → Option Subject
  | .found s | .stored s => some s
  | .quiet | .through _ => none

/-- What is done with an entity that was found. -/
def opened (k : Consumer σ) (e : Envelope) (s : Subject) : Phase :=
  match k.dispatcher.definitionFor s e.message.workflow with
  | .error cause => .settling e (.error (.failed cause))
  | .ok d =>
    match d.transition? e.message.transition with
    | none => .settling e (.error (.failed
        (.unknownTransition e.message.workflow e.message.transition)))
    | some t =>
      if k.dispatcher.isEnabled s d t then
        .chaining e d ((followUps d t).map (·, k.dispatcher.maxChainDepth)) (fire s d t)
      else .settling e (.ok ())

/-- Find the entity of an envelope. -/
def look (k : Consumer σ) (e : Envelope) (w : σ) : Act × Phase × σ :=
  match workflowName e.message.workflow, transitionName e.message.transition with
  | .error kind, _ => (.quiet, .settling e (.error (.blank kind)), w)
  | .ok _, .error kind => (.quiet, .settling e (.error (.blank kind)), w)
  | .ok _, .ok _ =>
    match k.services.find e.message.entityType e.message.entityId w with
    | (.error cause, w) => (.quiet, .settling e (.error (.notFound cause)), w)
    | (.ok none, w) =>
      (.quiet, .settling e (.error (.gone e.message.entityType e.message.entityId)), w)
    | (.ok (some s), w) => (.found s, k.opened e s, w)

/-- Store a subject; what follows depends on whether that succeeds. -/
def keep (k : Consumer σ) (s : Subject) (refused : StoreError → Phase) (next : Phase) (w : σ) :
    Act × Phase × σ :=
  match k.services.persist s w with
  | (.error cause, w) => (.quiet, refused cause, w)
  | (.ok (), w) => (.stored s, next, w)

/-- Take the first pending event of a chain. -/
def take (k : Consumer σ) (e : Envelope) (d : Definition) (event : Event) (left : Nat)
    (rest : List (Event × Nat)) (s : Subject) (w : σ) : Act × Phase × σ :=
  match k.dispatcher.firstEnabled? s d (d.candidates event) with
  | none => (.quiet, .chaining e d rest s, w)
  | some t =>
    if k.dispatcher.locator.isAsync d.name t.name then
      match k.dispatcher.identity? s with
      | none => (.quiet, .chaining e d rest s, w)
      | some id =>
        k.keep s (fun cause => .settling e (.error (.failed (.store cause))))
          (.announcing e d rest s (Dispatcher.messageFor d t s id)) w
    else
      match left with
      | 0 =>
        (.quiet, .settling e (.error (.failed
          (.chainTooDeep d.name t.name k.dispatcher.maxChainDepth))), w)
      | left + 1 => (.quiet, .chaining e d ((followUps d t).map (·, left) ++ rest) (fire s d t), w)

/-- Settle an envelope after it was handled. -/
def settled (k : Consumer σ) (e : Envelope) :
    Except HandlingError Unit × σ → Except BusError WorkerOutcome × σ
  | (.ok (), w) =>
    k.worker.settle ((k.queue.get w).ack e.id)
      (.ok (.handled (e.stamp (.handled k.worker.handler.name k.now)))) w
  | (.error cause, w) =>
    k.worker.settle ((k.queue.get w).reject e.id)
      (.error (.handlerFailed k.worker.handler.name (e.route?.getD (k.queue.get w).name)
        cause.message)) w

/-- **The next turn of a consumer**, which asks its queue or its services for one thing at most. -/
def next (k : Consumer σ) : Phase → σ → Act × Phase × σ
  | .idle, w =>
    match (k.queue.get w).receive with
    | (none, _) => (.through (.ok .idle), .idle, w)
    | (some e, q) =>
      let w := k.queue.put q w
      let e := e.stamp (.received q.name k.now)
      if k.filter.accepts e then (.quiet, .holding e, w)
      else (.through (.ok (.skipped e)), .idle, w)
  | .holding e, w => k.look e w
  | .chaining e _ [] s, w =>
    k.keep s
      (fun cause => .settling e
        (.error (.notStored e.message.entityType e.message.entityId cause)))
      (.settling e (.ok ())) w
  | .chaining e d ((event, left) :: rest) s, w => k.take e d event left rest s w
  | .announcing e d rest s m, w =>
    match k.services.send m (k.dispatcher.locator.stamps m (k.dispatcher.reading.context s)) w with
    | (.error cause, w) => (.quiet, .settling e (.error (.failed (.bus cause))), w)
    | (.ok _, w) => (.quiet, .chaining e d rest s, w)
  | .settling e answer, w =>
    let (outcome, w) := k.settled e (answer, w)
    (.through outcome, .idle, w)

/-! ## Undisturbed turns -/

/-- **Turns of a consumer that is left alone**, until it is through. -/
inductive Runs (k : Consumer σ) : Phase → σ → Except BusError WorkerOutcome × σ → Prop
  | through {p w outcome w'} (turn : k.next p w = (.through outcome, .idle, w')) :
      Runs k p w (outcome, w')
  | turn {p w a p' w' r} (turn : k.next p w = (a, p', w')) (goesOn : ∀ outcome, a ≠ .through outcome)
      (rest : Runs k p' w' r) : Runs k p w r

variable {k : Consumer σ}

theorem Runs.quiet {p p' : Phase} {w w' : σ} {r : Except BusError WorkerOutcome × σ}
    (turn : k.next p w = (.quiet, p', w')) (rest : k.Runs p' w' r) : k.Runs p w r :=
  .turn turn (by simp) rest

theorem Runs.stored {p p' : Phase} {s : Subject} {w w' : σ} {r : Except BusError WorkerOutcome × σ}
    (turn : k.next p w = (.stored s, p', w')) (rest : k.Runs p' w' r) : k.Runs p w r :=
  .turn turn (by simp) rest

theorem Runs.unique {p : Phase} {w : σ} {r r' : Except BusError WorkerOutcome × σ}
    (h : k.Runs p w r) (h' : k.Runs p w r') : r' = r := by
  induction h with
  | through turn =>
    cases h' with
    | through turn' =>
      cases turn.symm.trans turn'
      rfl
    | turn turn' goesOn =>
      cases turn.symm.trans turn'
      exact absurd rfl (goesOn _)
  | turn turn goesOn _ ih =>
    cases h' with
    | through turn' =>
      cases turn.symm.trans turn'
      exact absurd rfl (goesOn _)
    | turn turn' _ rest' =>
      cases turn.symm.trans turn'
      exact ih rest'

theorem runs_settling (e : Envelope) (answer : Except HandlingError Unit) (w : σ) :
    k.Runs (.settling e answer) w (k.settled e (answer, w)) := .through rfl

theorem next_queued {e : Envelope} {d : Definition} {event : Event} {left : Nat}
    {rest : List (Event × Nat)} {s : Subject} {t : Transition} {id : String} {w w' : σ}
    (chosen : k.dispatcher.firstEnabled? s d (d.candidates event) = some t)
    (queued : k.dispatcher.locator.isAsync d.name t.name = true)
    (identified : k.dispatcher.identity? s = some id)
    (stored : k.services.persist s w = (.ok (), w')) :
    k.next (.chaining e d ((event, left) :: rest) s) w =
      (.stored s, .announcing e d rest s (Dispatcher.messageFor d t s id), w') := by
  simp only [next, take, keep, chosen, queued, if_true, identified, stored]

theorem Runs.of_step {e : Envelope} {d : Definition} {c c' : ChainState σ}
    {r : Except BusError WorkerOutcome × σ} (h : k.dispatcher.Step k.services d c c')
    (rest : k.Runs (.chaining e d c'.stack c'.subject) c'.world r) :
    k.Runs (.chaining e d c.stack c.subject) c.world r := by
  cases h with
  | settled idle =>
    refine .quiet ?_ rest
    simp only [next, take, idle]
  | abandoned chosen queued outcome =>
    cases Dispatcher.enqueued_of_enqueue outcome with
    | nobody unidentified =>
      refine .quiet ?_ rest
      simp only [next, take, chosen, queued, if_true, unidentified]
  | sent chosen queued outcome =>
    -- one turn for the store, one for the bus
    cases Dispatcher.enqueued_of_enqueue outcome with
    | sent identified stored sent =>
      refine .stored (next_queued chosen queued identified stored) (.quiet ?_ rest)
      simp only [next, sent]
  | fired chosen inline =>
    refine .quiet ?_ rest
    simp only [next, take, chosen, inline, Bool.false_eq_true, if_false]

theorem runs_of_stop {e : Envelope} {d : Definition} {c : ChainState σ}
    {r : Except DispatchError Report × Subject × σ} (h : k.dispatcher.Stop k.services d c r) :
    k.Runs (.chaining e d c.stack c.subject) c.world
      (k.settled e (Dispatcher.finish k.services e.message r)) := by
  cases h with
  | @finished _ s w =>
    rw [Dispatcher.finish]
    rcases stored : k.services.persist s w with ⟨cause | _, w'⟩
    · refine .quiet ?_ (runs_settling e _ w')
      simp only [next, keep, stored]
    · refine .stored (s := s) ?_ (runs_settling e _ w')
      simp only [next, keep, stored]
  | @refused _ _ _ _ _ _ _ _ w' chosen queued outcome =>
    cases Dispatcher.enqueued_of_enqueue outcome with
    | unstored identified unstored =>
      refine .quiet ?_ (runs_settling e _ w')
      simp only [next, take, keep, chosen, queued, if_true, identified, unstored]
    | unsent identified stored unsent =>
      refine .stored (next_queued chosen queued identified stored)
        (.quiet ?_ (runs_settling e _ w'))
      simp only [next, unsent]
  | tooDeep chosen inline =>
    refine .quiet ?_ (runs_settling e _ _)
    simp only [next, take, chosen, inline, Bool.false_eq_true, if_false]

theorem runs_chaining (e : Envelope) (d : Definition) (c : ChainState σ) :
    k.Runs (.chaining e d c.stack c.subject) c.world
      (k.settled e (Dispatcher.finish k.services e.message
        (k.dispatcher.runFrom k.services d c))) := by
  obtain ⟨last, hrun, hstop⟩ := Dispatcher.exists_stop k.dispatcher k.services d c
  have hlast := runs_of_stop (e := e) hstop
  clear hstop
  -- the outcome is fixed by the stop, and the steps before it are put in front one by one
  generalize k.settled e _ = r at hlast ⊢
  induction hrun using ReflTransGen.head_induction_on with
  | refl => exact hlast
  | head step _ ih => exact .of_step step ih

theorem runs_opened (e : Envelope) (s : Subject) (w : σ) :
    k.Runs (k.opened e s) w
      (k.settled e (k.dispatcher.handleFound k.services e.message s w)) := by
  cases definition : k.dispatcher.definitionFor s e.message.workflow with
  | error cause =>
    simp only [opened, Dispatcher.handleFound, Dispatcher.applyIfEnabled, definition]
    exact runs_settling e _ w
  | ok d =>
    cases known : d.transition? e.message.transition with
    | none =>
      simp only [opened, Dispatcher.handleFound, Dispatcher.applyIfEnabled_unknown definition known,
        definition, known]
      exact runs_settling e _ w
    | some t =>
      cases enabled : k.dispatcher.isEnabled s d t with
      | false =>
        simp only [opened, Dispatcher.handleFound, definition, known, enabled, Bool.false_eq_true,
          if_false, Dispatcher.applyIfEnabled_disabled definition known enabled w]
        exact runs_settling e _ w
      | true =>
        rw [Dispatcher.handleFound_enabled definition known enabled]
        simp only [opened, definition, known, enabled, if_true]
        exact runs_chaining e d (k.dispatcher.chainOf d t s w)

theorem runs_holding (e : Envelope) (w : σ) :
    k.Runs (.holding e) w
      (k.settled e (k.dispatcher.handleMessage k.services e.message w)) := by
  rw [Dispatcher.handleMessage]
  cases workflow : workflowName e.message.workflow with
  | error kind =>
    refine .quiet ?_ (runs_settling e _ w)
    simp only [next, look, workflow]
  | ok _ =>
    cases transition : transitionName e.message.transition with
    | error kind =>
      refine .quiet ?_ (runs_settling e _ w)
      simp only [next, look, workflow, transition]
    | ok _ =>
      rcases found : k.services.find e.message.entityType e.message.entityId w with
        ⟨cause | _ | s, w₁⟩
      · refine .quiet ?_ (runs_settling e _ w₁)
        simp only [next, look, workflow, transition, found]
      · refine .quiet ?_ (runs_settling e _ w₁)
        simp only [next, look, workflow, transition, found]
      · refine .turn (a := .found s) ?_ (by simp) (runs_opened e s w₁)
        simp only [next, look, workflow, transition, found]

theorem process_eq_settled (e : Envelope) (w : σ) :
    k.worker.process e w =
      k.settled e (k.dispatcher.handleMessage k.services e.message w) := by
  have hhandle : k.worker.handler.handle e w =
      ((k.dispatcher.handleMessage k.services e.message w).1.mapError HandlingError.message,
        (k.dispatcher.handleMessage k.services e.message w).2) := rfl
  rw [Worker.process, hhandle]
  rcases k.dispatcher.handleMessage k.services e.message w with ⟨_ | _, w'⟩ <;> rfl

theorem runs_idle (k : Consumer σ) (w : σ) : k.Runs .idle w (k.worker.runOnce w) := by
  have hqueue : k.worker.queue = k.queue := rfl
  rw [Worker.runOnce, hqueue]
  rcases received : (k.queue.get w).receive with ⟨_ | e, q⟩
  · refine .through ?_
    simp only [next, received]
  · simp only
    split
    · next accepted =>
      rw [process_eq_settled]
      refine .quiet ?_ (runs_holding _ _)
      simp only [next, received]
      exact if_pos accepted
    · next declined =>
      refine .through ?_
      simp only [next, received]
      exact if_neg declined

/-- **Turns that nothing disturbs do what a worker does** with one envelope. -/
theorem runs_iff_runOnce {w : σ} {r : Except BusError WorkerOutcome × σ} :
    k.Runs .idle w r ↔ k.worker.runOnce w = r := by
  constructor
  · intro h
    exact h.unique (runs_idle k w)
  · rintro rfl
    exact runs_idle k w

/-! ## What a turn does -/

/-- **A consumer that a store can rely on**: its services are lawful, and what it does to its queue does
not change what is stored. -/
structure Fits (l : Ledger σ) (r : Registry) (k : Consumer σ) : Prop where
  registry : k.dispatcher.registry = r
  lawful : l.Lawful k.services r
  put : ∀ q {w}, l.sound w → l.Same w (k.queue.put q w)

/-- **What a turn may do**: an entity is found as it is stored, and worked on from there; the subject in
hand is stored, and worked on from there; or nothing is stored, and the subject in hand moves on. -/
inductive Does (k : Consumer σ) (l : Ledger σ) (r : Registry) (p : Phase) (w : σ) :
    Act → Phase → σ → Prop
  | plain {a p' w'} (plain : a.subject? = none) (same : l.Same w w')
      (carried : ∀ {d s'}, p'.subject? = some (d, s') →
        ∃ s, p.subject? = some (d, s) ∧ k.dispatcher.Moves d s s') :
      k.Does l r p w a p' w'
  | found {entityType id s p' w'} (same : l.Same w w') (row : l.row? w entityType id = some s)
      (carried : ∀ {d s'}, p'.subject? = some (d, s') →
        d ∈ r.definitions ∧ k.dispatcher.Moves d s s') :
      k.Does l r p w (.found s) p' w'
  | stored {d s p' w'} (held : p.subject? = some (d, s)) (stores : l.Stores r s w w')
      (carried : ∀ {d' s'}, p'.subject? = some (d', s') → d' = d ∧ s' = s) :
      k.Does l r p w (.stored s) p' w'

variable {l : Ledger σ} {r : Registry} {p p' : Phase} {a : Act} {w w' : σ} {e : Envelope}
  {d : Definition} {s : Subject}

theorem Does.of_dropped (plain : a.subject? = none) (same : l.Same w w')
    (dropped : p'.subject? = none) : k.Does l r p w a p' w' :=
  .plain plain same fun h => by cases dropped.symm.trans h

theorem Does.sound (h : k.Does l r p w a p' w') : l.sound w' := by
  cases h with
  | plain _ same | found same => exact same.sound
  | stored _ stores => exact stores.sound

theorem does_keep (fits : k.Fits l r) (sound : l.sound w) (held : p.subject? = some (d, s))
    {refused : StoreError → Phase} (dropped : ∀ cause, (refused cause).subject? = none)
    {after : Phase} (carried : ∀ {d' s'}, after.subject? = some (d', s') → d' = d ∧ s' = s)
    (turn : k.keep s refused after w = (a, p', w')) : k.Does l r p w a p' w' := by
  unfold keep at turn
  rcases stored : k.services.persist s w with ⟨cause | _, w₁⟩
  · rw [stored] at turn
    cases turn
    exact .of_dropped rfl (fits.lawful.persist_error sound stored) (dropped cause)
  · rw [stored] at turn
    cases turn
    exact .stored held (fits.lawful.persist_ok sound stored) carried

theorem does_take (fits : k.Fits l r) (sound : l.sound w) {event : Event} {left : Nat}
    {rest : List (Event × Nat)} (held : p.subject? = some (d, s))
    (turn : k.take e d event left rest s w = (a, p', w')) : k.Does l r p w a p' w' := by
  have stays : ∀ {d' s'}, (Phase.chaining e d rest s).subject? = some (d', s') →
      ∃ s, p.subject? = some (d', s) ∧ k.dispatcher.Moves d' s s' := by
    rintro _ _ ⟨⟩
    exact ⟨s, held, .refl⟩
  unfold take at turn
  cases chosen : k.dispatcher.firstEnabled? s d (d.candidates event) with
  | none =>
    rw [chosen] at turn
    cases turn
    exact .plain rfl (.refl sound) stays
  | some t =>
    simp only [chosen] at turn
    split at turn
    · cases identified : k.dispatcher.identity? s with
      | none =>
        rw [identified] at turn
        cases turn
        exact .plain rfl (.refl sound) stays
      | some id =>
        rw [identified] at turn
        exact does_keep fits sound held (fun _ => rfl) (by rintro _ _ ⟨⟩; exact ⟨rfl, rfl⟩) turn
    · cases left with
      | zero =>
        cases turn
        exact .of_dropped rfl (.refl sound) rfl
      | succ left =>
        cases turn
        refine .plain rfl (.refl sound) ?_
        rintro _ _ ⟨⟩
        have enabled := (Dispatcher.firstEnabled?_eq_some chosen).2.2
        exact ⟨s, held, .single ⟨t, mem_of_firstEnabled? chosen, enabled, rfl⟩⟩

theorem moves_of_opened (registry : k.dispatcher.registry = r) {d : Definition} {s' : Subject}
    (h : (k.opened e s).subject? = some (d, s')) : d ∈ r.definitions ∧ k.dispatcher.Moves d s s' := by
  cases definition : k.dispatcher.definitionFor s e.message.workflow with
  | error => simp [opened, definition, Phase.subject?] at h
  | ok d' =>
    cases known : d'.transition? e.message.transition with
    | none => simp [opened, definition, known, Phase.subject?] at h
    | some t =>
      cases enabled : k.dispatcher.isEnabled s d' t with
      | false => simp [opened, definition, known, enabled, Phase.subject?] at h
      | true =>
        simp only [opened, definition, known, enabled, if_true, Phase.subject?] at h
        cases h
        obtain ⟨registered, _⟩ := Dispatcher.definitionFor_eq_ok_iff.1 definition
        refine ⟨registry ▸ (Registry.get?_eq_some registered).1, .single ⟨t, ?_, enabled, rfl⟩⟩
        exact List.mem_of_find?_eq_some known

theorem does_look (fits : k.Fits l r) (sound : l.sound w) (turn : k.look e w = (a, p', w')) :
    k.Does l r p w a p' w' := by
  unfold look at turn
  split at turn
  · cases turn
    exact .of_dropped rfl (.refl sound) rfl
  · cases turn
    exact .of_dropped rfl (.refl sound) rfl
  · rcases found : k.services.find e.message.entityType e.message.entityId w with
      ⟨cause | _ | s, w₁⟩
    all_goals
      obtain ⟨same, row⟩ := fits.lawful.find sound found
      rw [found] at turn
      cases turn
    · exact .of_dropped rfl same rfl
    · exact .of_dropped rfl same rfl
    · exact .found same (row _ rfl) (moves_of_opened fits.registry)

theorem same_settled (fits : k.Fits l r) (sound : l.sound w) (e : Envelope)
    (answer : Except HandlingError Unit) : l.Same w (k.settled e (answer, w)).2 := by
  have same : ∀ outcome settled, l.Same w (k.worker.settle settled outcome w).2 := by
    rintro outcome (cause | q)
    · exact .refl sound
    · exact fits.put q sound
  cases answer <;> exact same _ _

/-- **Every turn does one of these.** -/
theorem does_next (fits : k.Fits l r) (sound : l.sound w) (turn : k.next p w = (a, p', w')) :
    k.Does l r p w a p' w' := by
  cases p with
  | idle =>
    simp only [next] at turn
    split at turn
    · cases turn
      exact .of_dropped rfl (.refl sound) rfl
    · next q _ =>
      split at turn <;> cases turn
      · exact .of_dropped rfl (fits.put q sound) rfl
      · exact .of_dropped rfl (fits.put q sound) rfl
  | holding e => exact does_look fits sound turn
  | chaining e d stack s =>
    rcases stack with _ | ⟨⟨event, left⟩, rest⟩
    · exact does_keep (d := d) fits sound rfl (fun _ => rfl) (by rintro _ _ ⟨⟩) turn
    · exact does_take fits sound rfl turn
  | announcing e d rest s m =>
    simp only [next] at turn
    rcases sent : k.services.send m
      (k.dispatcher.locator.stamps m (k.dispatcher.reading.context s)) w with ⟨cause | envelope, w₁⟩
    all_goals
      have same := fits.lawful.send sound sent
      rw [sent] at turn
      cases turn
    · exact .of_dropped rfl same rfl
    · refine .plain rfl same ?_
      rintro _ _ ⟨⟩
      exact ⟨s, rfl, .refl⟩
  | settling e answer =>
    cases turn
    exact .of_dropped rfl (same_settled fits sound e answer) rfl

end Consumer

end WorkflowEngine
