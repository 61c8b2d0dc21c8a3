import WorkflowEngine.Proofs.Dispatch.Recording
import WorkflowEngine.Proofs.Dispatch.Redelivery

/-!
# Messages that are handled again after a failure

A chain stores an entity before it sends a message for it. If the bus refuses the message, the entity
stands where the message would have found it, and a second attempt begins from there: it does nothing
if the transition is not enabled there, and a state machine sends everything once more if it is.

* `Services.SameStore`, `Services.Accepts`: two buses for one store, one of which takes every message;
* `Ledger.Storable`: an entity that was stored before;
* `Ledger.Abreast`, `queuesAlong_accepting`: attempts that sent the same;
* `Dispatcher.BrokeOff`, **`InStep.exists_refused`**: how a chain ends whose bus refuses a message, and
  what it had sent by then;
* `exists_sent`, `finish_endsAlike`: with a bus that takes every message, attempts that end alike are
  finished alike;
* **`handleMessage_retry`**: what becomes of a message that is handled again;
* **`handleMessage_retry_loses`**: an attempt whose last message is lost.
-/

namespace WorkflowEngine

variable {σ : Type}

/-- **One store**, with buses that may differ. -/
structure Services.SameStore (services services' : Services σ) : Prop where
  persist : services'.persist = services.persist
  find : services'.find = services.find

theorem Services.SameStore.find_recording {services services' : Services σ}
    (h : services.SameStore services') {entityType id : String} {p : σ × List Effect} :
    services'.recording.find entityType id p = services.recording.find entityType id p := by
  rw [recording, recording, h.find]

theorem Services.SameStore.steady {services services' : Services σ} (h : services.SameStore services')
    {l : Ledger σ} (steady : l.Steady services) : l.Steady services' where
  find := by
    rw [h.find]
    exact steady.find
  persist := by
    rw [h.persist]
    exact steady.persist

/-- **A bus that takes every message.** -/
def Services.Accepts (services : Services σ) : Prop :=
  ∀ m stamps w, ∃ e w', services.send m stamps w = (.ok e, w')

namespace Ledger

variable {l : Ledger σ} {services : Services σ} {entity : Subject}

/-- **An entity that was stored before**, wherever it stood then. -/
def Storable (l : Ledger σ) (services : Services σ) (entity : Subject) : Prop :=
  ∃ s w w', l.sound w ∧ entity.SameEntity s ∧ services.persist s w = (.ok (), w')

theorem Storable.exists_persist (h : l.Storable services entity) (steady : l.Steady services)
    {s : Subject} {w : σ} (same : entity.SameEntity s) (sound : l.sound w) :
    ∃ w', services.persist s w = (.ok (), w') := by
  obtain ⟨s₀, w₀, w₀', sound₀, same₀, stored⟩ := h
  exact steady.persist sound₀ sound (same₀.symm.trans same) stored

/-- **Attempts that sent the same messages**; when they sent any, the store has the same for both. -/
structure Abreast (l : Ledger σ) (r : Registry) (entityType id : String) (p p' : σ × List Effect) :
    Prop where
  sound : l.sound p.1
  sound' : l.sound p'.1
  messages : messagesOf p'.2 = messagesOf p.2
  rows : messagesOf p.2 ≠ [] → ∃ s s', l.row? p.1 entityType id = some s ∧
    l.row? p'.1 entityType id = some s' ∧ s.KeptAs r s'

end Ledger

namespace Dispatcher

open Relation

variable {x : Dispatcher} {services accepting : Services σ} {m : TransitionMessage}
  {d : Definition} {l : Ledger σ}

section Accepting

variable {S : Subject → Subject → Prop} (overlooks : x.Overlooks d S)
  (lawful : l.Lawful services x.registry) (lawful' : l.Lawful accepting x.registry)
  (store : services.SameStore accepting) (steady : l.Steady services) (accepts : accepting.Accepts)
  {entity : Subject} {entityType id : String} (type : entity.entityType = entityType)
  (identity : l.identity? entity = some id)

include store steady accepts in
/-- **A bus that takes every message has a queued transition sent**, if the entity can be stored. -/
theorem exists_sent {t : Transition} {s : Subject} {p : σ × List Effect} (sound : l.sound p.1)
    (same : entity.SameEntity s) (storable : l.Storable services entity) {name : String}
    (identified : x.identity? s = some name) :
    ∃ p₁ e p₂, accepting.recording.persist s p = (.ok (), p₁) ∧
      accepting.recording.send (messageFor d t s name)
        (x.locator.stamps (messageFor d t s name) (x.reading.context s)) p₁ = (.ok e, p₂) ∧
      x.enqueue accepting.recording d t s p = (.ok (some e), p₂) := by
  obtain ⟨w₁, stored⟩ := storable.exists_persist steady same sound
  rw [← store.persist] at stored
  obtain ⟨p₁, stored⟩ := Services.exists_persist_recording stored
  obtain ⟨e, w₂, sent⟩ := accepts (messageFor d t s name)
    (x.locator.stamps (messageFor d t s name) (x.reading.context s)) p₁.1
  obtain ⟨p₂, sent⟩ := Services.exists_send_recording sent
  exact ⟨p₁, e, p₂, stored, sent, enqueue_of_enqueued (.sent identified stored sent)⟩

include overlooks lawful lawful' store steady accepts type identity in
theorem queuesAlong_accepting : x.QueuesAlong services.recording accepting.recording d S entity
    (l.Abreast x.registry entityType id) := by
  intro t s s' p p' answer p₂ queued same alike abreast outcome
  have hidentity : x.identity? s' = x.identity? s := overlooks.identity? alike
  have kept := overlooks.keptAs alike
  cases enqueued_of_enqueue outcome with
  | nobody unidentified =>
    exact ⟨none, p', enqueue_of_enqueued (.nobody (hidentity.trans unidentified)), rfl, abreast⟩
  | @sent name p₁ e _ identified stored sent =>
    have same' : entity.SameEntity s' := same.trans kept.toSameEntity
    have storable : l.Storable services entity :=
      ⟨s, p.1, p₁.1, abreast.sound, same, (Services.persist_recording stored).1⟩
    obtain ⟨p₁', e', p₂', stored', sent', henqueue⟩ := exists_sent store steady accepts
      (d := d) (t := t) abreast.sound' same' storable (hidentity.trans identified)
    obtain ⟨sound₂, row, hrow, hkept⟩ :=
      lawful.recorded.row?_sent abreast.sound stored sent type identity same
    obtain ⟨sound₂', row', hrow', hkept'⟩ :=
      lawful'.recorded.row?_sent abreast.sound' stored' sent' type identity same'
    refine ⟨some e', p₂', henqueue, rfl, sound₂, sound₂', ?_, fun _ => ?_⟩
    · have hmessage : messageFor d t s' name = messageFor d t s name := by
        rw [messageFor, messageFor, kept.entityType]
      rw [messagesOf_sent stored' sent', messagesOf_sent stored sent, abreast.messages, hmessage]
    · exact ⟨row, row', hrow, hrow', hkept.symm.trans (kept.trans hkept')⟩

include store steady accepts in
theorem enqueue_accepting_ne_error {t : Transition} {s : Subject} {p p' : σ × List Effect}
    {e : DispatchError} (sound : l.sound p.1) (same : entity.SameEntity s)
    (storable : l.Storable services entity) :
    x.enqueue accepting.recording d t s p ≠ (.error e, p') := by
  intro h
  cases identified : x.identity? s with
  | none =>
    cases h.symm.trans (enqueue_of_enqueued (.nobody identified))
  | some name =>
    obtain ⟨p₁, e', p₂, _, _, henqueue⟩ := exists_sent store steady accepts (d := d) (t := t) sound
      same storable identified
    cases h.symm.trans henqueue

/-- **A chain whose bus refused a message**: the last of its effects are those of a hand-over that was
due, in which the store took the subject and the bus did not take the message. -/
structure BrokeOff (x : Dispatcher) (d : Definition) (cause : BusError) (h : Handover)
    (effects : List Effect) : Prop where
  due : h.Due x d
  unsent : h.outcome = .unsent cause
  last : h.effects <:+ effects

include overlooks lawful lawful' store steady accepts type identity in
/-- **What a chain had sent when its bus refused a message** is what another bus had taken by then, and
the refused message comes next there. The subject is stored where the chain stands. -/
theorem InStep.exists_refused {c c' : ChainState (σ × List Effect)}
    (h : InStep S entity (l.Abreast x.registry entityType id) c c') {cause : BusError}
    {s : Subject} {p : σ × List Effect}
    (run : x.runFrom services.recording d c = (.error (.bus cause), s, p)) :
    l.sound p.1 ∧ (∃ row, l.row? p.1 entityType id = some row ∧ s.KeptAs x.registry row) ∧
      l.Storable services entity ∧
      ∃ h : Handover, h.subject = s ∧ x.BrokeOff d cause h p.2 ∧
        messagesOf p.2 ++ [h.message] <+:
          messagesOf (x.runFrom accepting.recording d c').2.2.2 := by
  obtain ⟨last, ⟨stack', report', s', p'⟩, hstop, hrun', hsame⟩ := h.exists_stop overlooks
    (queuesAlong_accepting overlooks lawful lawful' store steady accepts type identity)
  rw [run] at hstop
  cases hstop with
  | @refused event left rest report _ p₀ t _ _ chosen queued outcome =>
    obtain ⟨rfl, same, alike, abreast⟩ := hsame
    have kept := overlooks.keptAs alike
    cases enqueued_of_enqueue outcome with
    | @unsent name p₁ _ _ identified stored unsent =>
      obtain ⟨sound, row, hrow, hkept⟩ :=
        lawful.recorded.row?_sent abreast.sound stored unsent type identity same
      have storable : l.Storable services entity :=
        ⟨s, p₀.1, p₁.1, abreast.sound, same, (Services.persist_recording stored).1⟩
      let refused : Handover := ⟨s, messageFor d t s name,
        x.locator.stamps (messageFor d t s name) (x.reading.context s), .unsent cause⟩
      have hlast : refused.effects <:+ p.2 := by
        rw [(Services.send_recording unsent).2, (Services.persist_recording stored).2,
          List.append_assoc]
        exact List.suffix_append _ _
      refine ⟨sound, ⟨row, hrow, hkept⟩, storable, refused, rfl,
        ⟨due_of_chosen chosen queued identified _, rfl, hlast⟩, ?_⟩
      -- the other bus takes the message, and its chain goes on from there
      obtain ⟨p₁', e', p₂', stored', sent', henqueue⟩ := exists_sent store steady accepts
        (d := d) (t := t) abreast.sound' (same.trans kept.toSameEntity) storable
        ((overlooks.identity? alike).trans identified)
      have chosen' := (overlooks.firstEnabled? alike _).trans chosen
      have hmessage : messageFor d t s' name = refused.message := by
        rw [messageFor, kept.entityType]
        rfl
      rw [runFrom_steps hrun', runFrom_step (.sent chosen' queued henqueue), ← hmessage,
        messagesOf_unsent stored unsent, ← abreast.messages, ← messagesOf_sent stored' sent']
      exact isPrefix_messagesOf_runFrom (⟨rest, _, s', p₂'⟩ : ChainState (σ × List Effect))

include lawful' store steady type identity in
/-- **Attempts that end alike are finished alike**, and leave the same in the store. -/
theorem finish_endsAlike (storable : l.Storable services entity)
    {a b : Except DispatchError Report × Subject × σ × List Effect}
    (h : EndsAlike x.registry entity (l.Abreast x.registry entityType id) a b)
    (sent : messagesOf a.2.2.2 ≠ []) :
    ∃ answer p p' s s', finish accepting.recording m a = (answer, p) ∧
      finish accepting.recording m b = (answer, p') ∧ messagesOf p'.2 = messagesOf p.2 ∧
      l.row? p.1 entityType id = some s ∧ l.row? p'.1 entityType id = some s' ∧
      s.KeptAs x.registry s' := by
  have hmessages : messagesOf (finish accepting.recording m b).2.2 =
      messagesOf (finish accepting.recording m a).2.2 := by
    rw [messagesOf_finish, messagesOf_finish, h.world.messages]
  obtain ⟨answer, s, p⟩ := a
  obtain ⟨answer', s', p'⟩ := b
  obtain ⟨houtcome, same, kept, abreast⟩ := h
  cases answer with
  | error e =>
    cases answer' with
    | error e' =>
      cases houtcome
      obtain ⟨row, row', hrow, hrow', hkept⟩ := abreast.rows sent
      exact ⟨_, p, p', row, row', rfl, rfl, hmessages, hrow, hrow', hkept⟩
    | ok => cases houtcome
  | ok report =>
    cases answer' with
    | error => cases houtcome
    | ok report' =>
      have hstored : ∀ {s p}, l.sound p.1 → entity.SameEntity s →
          ∃ p₁, accepting.recording.persist s p = (.ok (), p₁) := by
        intro s p sound same
        obtain ⟨w, stored⟩ := storable.exists_persist steady same sound
        rw [← store.persist] at stored
        exact Services.exists_persist_recording stored
      have same' := same.trans kept.toSameEntity
      obtain ⟨p₁, stored⟩ := hstored abreast.sound same
      obtain ⟨p₁', stored'⟩ := hstored abreast.sound' same'
      obtain ⟨row, hrow, hkept⟩ :=
        (lawful'.recorded.persist_ok abreast.sound stored).row?_eq lawful'.recorded type identity same
      obtain ⟨row', hrow', hkept'⟩ :=
        (lawful'.recorded.persist_ok abreast.sound' stored').row?_eq lawful'.recorded type identity
          same'
      have hfinish : finish accepting.recording m (.ok report, s, p) = (.ok (), p₁) := by
        rw [finish, stored]
      have hfinish' : finish accepting.recording m (.ok report', s', p') = (.ok (), p₁') := by
        rw [finish, stored']
      rw [hfinish, hfinish'] at hmessages
      exact ⟨_, p₁, p₁', row, row', hfinish, hfinish', hmessages, hrow, hrow',
        hkept.symm.trans (kept.trans hkept')⟩

include overlooks lawful' store steady accepts type identity in
theorem InStep.finish_accepting {c c' : ChainState (σ × List Effect)}
    (h : InStep S entity (l.Abreast x.registry entityType id) c c')
    (storable : l.Storable services entity)
    (sent : messagesOf (x.runFrom accepting.recording d c).2.2.2 ≠ []) :
    ∃ answer p p' s s',
      finish accepting.recording m (x.runFrom accepting.recording d c) = (answer, p) ∧
      finish accepting.recording m (x.runFrom accepting.recording d c') = (answer, p') ∧
      messagesOf p'.2 = messagesOf p.2 ∧ l.row? p.1 entityType id = some s ∧
      l.row? p'.1 entityType id = some s' ∧ s.KeptAs x.registry s' := by
  have along : x.QueuesAlong accepting.recording accepting.recording d S entity
      (l.Abreast x.registry entityType id) :=
    queuesAlong_accepting overlooks lawful' lawful' ⟨rfl, rfl⟩ (store.steady steady) accepts type identity
  refine finish_endsAlike lawful' store steady type identity storable
    (h.endsAlike overlooks along fun _ same abreast => ?_) sent
  exact enqueue_accepting_ne_error store steady accepts abreast.sound same storable

end Accepting

/-- **What becomes of a message that is handled again** after its bus refused one of the messages that
follow from it, when the bus takes every message then. The first attempt ended with a hand-over: the
store has the subject where the chain stood, and the message for it was refused. What was sent until
then, and the refused message behind it, is what one undisturbed handling begins with to send.

If the transition of the message is not enabled where the first attempt left the entity, the second one
succeeds and does nothing: the refused message is lost, and all behind it. If it is enabled, and for a
state machine of whose subjects no more is read than is kept, the second attempt ends like the
undisturbed handling, leaves the same in the store, and sends all of its messages once more. -/
theorem handleMessage_retry (lawful : l.Lawful services x.registry)
    (lawful' : l.Lawful accepting x.registry) (store : services.SameStore accepting)
    (steady : l.Steady services) (accepts : accepting.Accepts) {w w₁ : σ} {cause : BusError}
    (sound : l.sound w) (refused : x.handleMessage services m w = (.error (.failed (.bus cause)), w₁)) :
    ∃ d t s p h row effects answer w₂ effects₂ rest,
      x.Meets services.recording m (w, []) d t s p ∧
      x.runFrom services.recording d (x.chainOf d t s p) =
        (.error (.bus cause), h.subject, w₁, effects) ∧
      x.handleMessage services.recording m (w, []) =
        (.error (.failed (.bus cause)), w₁, effects) ∧
      x.BrokeOff d cause h effects ∧
      l.row? w₁ m.entityType m.entityId = some row ∧ h.subject.KeptAs x.registry row ∧
      x.handleMessage accepting.recording m (w, []) = (answer, w₂, effects₂) ∧
      messagesOf effects₂ = messagesOf effects ++ h.message :: rest ∧
      (x.isEnabled row d t = false →
        ∃ w₃, x.handleMessage accepting.recording m (w₁, []) = (.ok (), w₃, []) ∧
          l.row? w₃ m.entityType m.entityId = some row) ∧
      (x.isEnabled row d t = true → d.kind = .stateMachine → x.ReadsKept →
        ∃ w₃ effects₃ s₂ s₃,
          x.handleMessage accepting.recording m (w₁, []) = (answer, w₃, effects₃) ∧
          messagesOf effects₃ = messagesOf effects₂ ∧
          l.row? w₂ m.entityType m.entityId = some s₂ ∧
          l.row? w₃ m.entityType m.entityId = some s₃ ∧ s₂.KeptAs x.registry s₃) := by
  have steady' : l.Steady accepting := store.steady steady
  obtain ⟨effects, recorded⟩ := exists_handleMessage_recording refused []
  cases handling_of_handleMessage recorded with
  | turnedDown early => exact absurd rfl (early cause)
  | @failed d t s p₀ _ s' _ meets enabled run =>
    obtain ⟨registered, _⟩ := definitionFor_eq_ok_iff.1 meets.definition
    have hregistered : d ∈ x.registry.definitions := (Registry.get?_eq_some registered).1
    -- the undisturbed handling finds the same and opens the same chain
    have meets' : x.Meets accepting.recording m (w, []) d t s p₀ :=
      { meets with found := store.find_recording.trans meets.found }
    obtain ⟨hfound, hread⟩ := lawful.recorded.find (w := (w, [])) sound meets.found
    obtain ⟨type, identity⟩ := lawful.keyed sound (hread _ rfl)
    have hnone : messagesOf p₀.2 = [] := by
      rw [(Services.find_recording meets.found).2]
      rfl
    have inStep : InStep Eq s (l.Abreast x.registry m.entityType m.entityId)
        (x.chainOf d t s p₀) (x.chainOf d t s p₀) :=
      ⟨rfl, Subject.sameEntity_fire s d t, rfl, hfound.sound, hfound.sound, rfl,
        fun hsome => absurd hnone hsome⟩
    obtain ⟨sound₁, ⟨row, hrow, hkept⟩, storable, h, rfl, brokeOff, rest, hmessages⟩ :=
      inStep.exists_refused (x.overlooks_eq d) lawful lawful' store steady accepts type identity run
    obtain ⟨hentity, hothers⟩ := sameEntity_of_chainOf run
    have hrow_entity : s.SameEntity row := hentity.trans hkept.toSameEntity
    have hsent : messagesOf (finish accepting.recording m
        (x.runFrom accepting.recording d (x.chainOf d t s p₀))).2.2 =
          messagesOf (x.runFrom accepting.recording d (x.chainOf d t s p₀)).2.2.2 :=
      messagesOf_finish _
    have sound₁' : l.recorded.sound (w₁, []) := sound₁
    obtain ⟨p₁', meets'', hfound'⟩ := meets'.again lawful'.recorded steady'.recorded sound sound₁'
      hrow_entity hrow
    have hnone' : p₁'.2 = [] := (Services.find_recording meets''.found).2
    obtain ⟨answer, p₂, hfinish⟩ : ∃ answer p₂, finish accepting.recording m
        (x.runFrom accepting.recording d (x.chainOf d t s p₀)) = (answer, p₂) := ⟨_, _, rfl⟩
    rw [hfinish, ← hmessages, List.append_assoc, List.singleton_append] at hsent
    refine ⟨d, t, s, p₀, h, row, effects, answer, p₂.1, p₂.2, rest, meets, run, recorded, brokeOff, hrow,
      hkept, (handleMessage_enabled meets' enabled).trans hfinish, hsent, fun disabled => ?_,
      fun enabled' machine reads => ?_⟩
    · refine ⟨p₁'.1, ?_, (hfound'.row? _ _).trans hrow⟩
      rw [handleMessage_disabled meets'' disabled, ← hnone']
    · have inStep' : InStep (Subject.KeptAs x.registry) s (l.Abreast x.registry m.entityType m.entityId)
          (x.chainOf d t s p₀) (x.chainOf d t row p₁') := by
        refine inStep_again machine hrow_entity (fun name hne hname => ?_) t
          ⟨hfound.sound, hfound'.sound, ?_, fun hsome => absurd hnone hsome⟩
        · exact (hkept.marking name hname).trans (hothers name hne)
        · rw [hnone, hnone']
          rfl
      obtain ⟨answer', p₃, p₃', s₂, s₃, hfirst, hsecond, hsame, hrow₂, hrow₃, hkept₂⟩ :=
        inStep'.finish_accepting (m := m) (reads.overlooks hregistered) lawful' store steady accepts
          type identity storable (by simp [← hmessages])
      cases hfirst.symm.trans hfinish
      exact ⟨p₃'.1, p₃'.2, s₂, s₃, (handleMessage_enabled meets'' enabled').trans hsecond, hsame, hrow₂,
        hrow₃, hkept₂⟩

/-! ## Examples -/

theorem runFrom_sent {t t' : Transition} {s : Subject} {event : Event} {rest : List Event} {w w' : σ}
    {e : Envelope} (events : followUps d t = event :: rest)
    (chosen : x.firstEnabled? (fire s d t) d (d.candidates event) = some t')
    (queued : x.locator.isAsync d.name t'.name = true)
    (enqueued : x.Enqueued services d t' (fire s d t) w (.ok (some e)) w')
    (quiet : ∀ event ∈ rest, d.candidates event = []) :
    ∃ report, x.runFrom services d (x.chainOf d t s w) = (.ok report, fire s d t, w') := by
  have hquiet : ∀ entry ∈ rest.map (·, x.maxChainDepth), d.candidates entry.1 = [] := by
    intro entry hentry
    obtain ⟨event, hevent, rfl⟩ := List.mem_map.1 hentry
    exact quiet event hevent
  obtain ⟨report, hend, _⟩ := runChain_of_candidates_eq_nil x services hquiet
    ((Report.saw { applied := [t.name] } event).sent e) (fire s d t) w'
  refine ⟨report, ?_⟩
  rw [chainOf, events, List.map_cons, runFrom_step (.sent chosen queued (enqueue_of_enqueued enqueued))]
  exact hend

/-- The flow of assets, where publishing is queued as well. -/
def queuedFlow : Definition := { assetFlow with transitions := [loadAsset, queuedPublish] }

/-- A dispatcher with a queue for each transition. -/
def queuedDispatcher : Dispatcher where
  registry := .ofList [queuedFlow]
  locator := { routes := .ofList [⟨"assetflow", "load", "assetflow.load"⟩,
    ⟨"assetflow", "publish", "assetflow.publish"⟩] }

/-- The services of a world in memory. -/
def queuedServices : Services World :=
  worldServices { loadable := ["Asset"] } queuedDispatcher.registry
    [routingStage queuedDispatcher.locator]

/-- The same store, with a bus that only numbers its messages. -/
def numberingServices : Services World :=
  { queuedServices with
    send := fun m _ w => (.ok { id := ⟨w.sent + 1⟩, message := m }, { w with sent := w.sent + 1 }) }

/-- The message to publish the asset. -/
def publishMessage : TransitionMessage := ⟨"7", "Asset", "publish", "AssetFlow"⟩

theorem queue?_queuedPublish :
    queuedDispatcher.locator.queue? "AssetFlow" "publish" = some "assetflow.publish" := by
  rw [Locator.queue?, RouteMap.lookup?, Routing.slug_of_length_le (by decide),
    Routing.slug_of_length_le (by decide)]
  decide

/-- The asset as it was stored when it had been loaded. -/
def loadedAsset : Subject :=
  let s := fire (asset.mark "AssetFlow" assetFlow.initial) queuedFlow loadAsset
  { s with markings := queuedDispatcher.registry.standing s }

theorem handleMessage_unpublished : ∃ w₁ effects,
    queuedDispatcher.handleMessage queuedServices.recording loadMessage (newAssetWorld, []) =
      (.error (.failed (.bus (.unknownTransport "assetflow.publish"))), w₁, effects) ∧
    messagesOf effects = [] ∧ w₁.table.find? "Asset" "7" = some loadedAsset := by
  let s := asset.mark "AssetFlow" assetFlow.initial
  let s₁ := fire s queuedFlow loadAsset
  have meets : queuedDispatcher.Meets queuedServices.recording loadMessage (newAssetWorld, [])
      queuedFlow loadAsset s (newAssetWorld, []) := ⟨by decide, by decide, rfl, rfl, by decide⟩
  have identity : s₁.identity? defaultStrategies = some "7" := by decide
  have written : queuedServices.persist s₁ newAssetWorld = _ :=
    World.persist_worldServices identity (by decide) newAssetWorld
  obtain ⟨p₁, stored⟩ := Services.exists_persist_recording (p := (newAssetWorld, [])) written
  have hp₁ := (Prod.mk.inj (written.symm.trans (Services.persist_recording stored).1)).2
  have unknown : p₁.1.bus.queue? "assetflow.publish" = none := by
    rw [← hp₁]
    decide
  have keeps := keepsRoutes_routingStage queuedDispatcher.locator
  let stamps := queuedDispatcher.locator.stamps publishMessage (queuedDispatcher.reading.context s₁)
  have route := Locator.route?_stamps (m := publishMessage) queue?_queuedPublish
    { id := ⟨p₁.1.sent + 1⟩, message := publishMessage } s₁.context
  have refused : queuedServices.send publishMessage stamps p₁.1 = _ :=
    World.send_of_unknown keeps route unknown
  obtain ⟨p₂, unsent⟩ := Services.exists_send_recording refused
  have hp₂ := (Services.send_recording unsent).1.symm.trans refused
  have enqueued : queuedDispatcher.Enqueued queuedServices.recording queuedFlow queuedPublish s₁
      (newAssetWorld, []) (.error (.bus (.unknownTransport "assetflow.publish"))) p₂ :=
    .unsent identity stored unsent
  have queued := Locator.isAsync_iff.2 ⟨_, queue?_queuedPublish⟩
  have stop : queuedDispatcher.Stop queuedServices.recording queuedFlow
      (queuedDispatcher.chainOf queuedFlow loadAsset s (newAssetWorld, []))
      (.error (.bus (.unknownTransport "assetflow.publish")), s₁, p₂) :=
    .refused (t := queuedPublish) (by decide) queued (enqueue_of_enqueued enqueued)
  have hnone : messagesOf p₂.2 = [] := by
    rw [messagesOf_unsent stored unsent]
    rfl
  refine ⟨p₂.1, p₂.2, ?_, hnone, ?_⟩
  · rw [handleMessage_enabled meets (by decide), runFrom_stop stop, finish]
  · have htable : p₂.1.table = p₁.1.table := congrArg (fun a => a.2.table) hp₂
    rw [htable, ← hp₁]
    exact EntityTable.find?_store _ "7" loadedAsset

/-- When the loading is handled again, the asset stands loaded, and nothing is done. -/
theorem handleMessage_retry_loadAsset :
    ∃ (w₁ : World) (before : List Effect) (h : Handover) (row : Subject)
      (answer : Except HandlingError Unit) (w₂ : World) (effects₂ : List Effect) (w₃ : World)
      (rest : List TransitionMessage),
    queuedDispatcher.handleMessage queuedServices loadMessage newAssetWorld =
      (.error (.failed (.bus (.unknownTransport "assetflow.publish"))), w₁) ∧
    queuedDispatcher.handleMessage queuedServices.recording loadMessage (newAssetWorld, []) =
      (.error (.failed (.bus (.unknownTransport "assetflow.publish"))), w₁,
        before ++ [.persisted h.subject (.ok ()),
          .sent h.message h.stamps (.error (.unknownTransport "assetflow.publish"))]) ∧
    w₁.table.find? "Asset" "7" = some row ∧ h.subject.KeptAs queuedDispatcher.registry row ∧
    queuedDispatcher.handleMessage numberingServices.recording loadMessage (newAssetWorld, []) =
      (answer, w₂, effects₂) ∧
    messagesOf effects₂ = messagesOf before ++ h.message :: rest ∧
    queuedDispatcher.handleMessage numberingServices.recording loadMessage (w₁, []) =
      (.ok (), w₃, []) := by
  obtain ⟨w₁, _, recorded₁, _, hrow⟩ := handleMessage_unpublished
  have refused : queuedDispatcher.handleMessage queuedServices loadMessage newAssetWorld =
      (.error (.failed (.bus (.unknownTransport "assetflow.publish"))), w₁) := by
    rw [← handleMessage_recording loadMessage newAssetWorld [], recorded₁]
    rfl
  let l := World.ledger fun name => (assetWorld.bus.queue? name).isSome
  have lawful : l.Lawful queuedServices queuedDispatcher.registry := World.lawful_ledger _ _ _ _
  have lawful' : l.Lawful numberingServices queuedDispatcher.registry :=
    { lawful with
      send := by
        rintro m stamps w answer w' sound ⟨⟩
        exact ⟨sound, fun _ _ => rfl⟩ }
  have sound : l.sound newAssetWorld := ⟨by decide, fun _ => rfl⟩
  obtain ⟨d, t, _, _, h, row, effects, answer, w₂, effects₂, rest, meets, _, recorded, brokeOff,
    row₁, kept, handled, hmessages, again, _⟩ := handleMessage_retry lawful lawful' ⟨rfl, rfl⟩
      (World.steady_ledger _ _ _ _) (fun _ _ _ => ⟨_, _, rfl⟩) sound refused
  have hd : queuedDispatcher.registry.get? "AssetFlow" = some queuedFlow := by decide
  obtain rfl : d = queuedFlow :=
    Option.some.inj ((definitionFor_eq_ok_iff.1 meets.definition).1.symm.trans hd)
  have ht : queuedFlow.transition? "load" = some loadAsset := by decide
  obtain rfl : t = loadAsset := Option.some.inj (meets.known.symm.trans ht)
  obtain rfl : row = loadedAsset := Option.some.inj (row₁.symm.trans hrow)
  obtain ⟨w₃, handled', _⟩ := again (by decide)
  obtain ⟨before, rfl⟩ := brokeOff.last
  rw [Handover.effects, brokeOff.unsent] at recorded hmessages
  rw [messagesOf_append] at hmessages
  exact ⟨w₁, before, h, loadedAsset, answer, w₂, effects₂, w₃, rest, refused, recorded, hrow, kept,
    handled, (List.append_nil (messagesOf before)) ▸ hmessages, handled'⟩

theorem handleMessage_published : ∃ w₂ effects,
    queuedDispatcher.handleMessage numberingServices.recording loadMessage (newAssetWorld, []) =
      (.ok (), w₂, effects) ∧ messagesOf effects = [publishMessage] := by
  let s := asset.mark "AssetFlow" assetFlow.initial
  let s₁ := fire s queuedFlow loadAsset
  have meets : queuedDispatcher.Meets numberingServices.recording loadMessage (newAssetWorld, [])
      queuedFlow loadAsset s (newAssetWorld, []) := ⟨by decide, by decide, rfl, rfl, by decide⟩
  let p₁ : World × List Effect := (numberingServices.recording.persist s₁ (newAssetWorld, [])).2
  have stored : numberingServices.recording.persist s₁ (newAssetWorld, []) = (.ok (), p₁) := rfl
  let e : Envelope := { id := ⟨p₁.1.sent + 1⟩, message := publishMessage }
  let stamps := queuedDispatcher.locator.stamps publishMessage (queuedDispatcher.reading.context s₁)
  obtain ⟨p₂, sent⟩ : ∃ p₂, numberingServices.recording.send publishMessage stamps p₁ = (.ok e, p₂) :=
    Services.exists_send_recording rfl
  have identity : s₁.identity? defaultStrategies = some "7" := by decide
  have enqueued : queuedDispatcher.Enqueued numberingServices.recording queuedFlow queuedPublish s₁
      (newAssetWorld, []) (.ok (some e)) p₂ := .sent identity stored sent
  have queued : queuedDispatcher.locator.isAsync queuedFlow.name queuedPublish.name = true :=
    Locator.isAsync_iff.2 ⟨_, queue?_queuedPublish⟩
  obtain ⟨report, run⟩ : ∃ report, queuedDispatcher.runFrom numberingServices.recording queuedFlow
      (queuedDispatcher.chainOf queuedFlow loadAsset s (newAssetWorld, [])) = (.ok report, s₁, p₂) :=
    runFrom_sent rfl (by decide) queued enqueued (by decide)
  have written : queuedServices.persist s₁ p₂.1 = _ :=
    World.persist_worldServices identity (by decide) p₂.1
  obtain ⟨p₃, stored'⟩ : ∃ p₃, numberingServices.recording.persist s₁ p₂ = (.ok (), p₃) :=
    Services.exists_persist_recording written
  have handled := handleMessage_stored meets (by decide) run stored'
  refine ⟨p₃.1, p₃.2, handled, ?_⟩
  rw [(Services.persist_recording stored').2, messagesOf_append, messagesOf_sent stored sent]
  rfl

/-- **An attempt whose message is lost.** The bus refuses the message to publish an asset that was
loaded; when the loading is handled again, nothing is sent, as the asset stands loaded by then. -/
theorem handleMessage_retry_loses : queuedFlow.isValid = true ∧ numberingServices.Accepts ∧
    ∃ w₁ effects w₂ effects₂ w₃ effects₃,
      queuedDispatcher.handleMessage queuedServices.recording loadMessage (newAssetWorld, []) =
        (.error (.failed (.bus (.unknownTransport "assetflow.publish"))), w₁, effects) ∧
      queuedDispatcher.handleMessage numberingServices.recording loadMessage (w₁, []) =
        (.ok (), w₃, effects₃) ∧
      queuedDispatcher.handleMessage numberingServices.recording loadMessage (newAssetWorld, []) =
        (.ok (), w₂, effects₂) ∧
      messagesOf effects ++ messagesOf effects₃ = [] ∧ messagesOf effects₂ = [publishMessage] := by
  obtain ⟨w₁, effects, refused, hnone, hrow⟩ := handleMessage_unpublished
  obtain ⟨w₂, effects₂, handled, hsent⟩ := handleMessage_published
  have found : numberingServices.recording.find "Asset" "7" (w₁, []) =
      (.ok (some loadedAsset), w₁, []) := by
    rw [← hrow]
    rfl
  have meets : queuedDispatcher.Meets numberingServices.recording loadMessage (w₁, []) queuedFlow
      loadAsset loadedAsset (w₁, []) := ⟨by decide, by decide, found, rfl, by decide⟩
  have ignored := handleMessage_disabled meets (by decide)
  refine ⟨by decide, fun m stamps w => ⟨_, _, rfl⟩, w₁, effects, w₂, effects₂, w₁, [], refused, ignored,
    handled, ?_, hsent⟩
  rw [hnone]
  rfl

end Dispatcher

end WorkflowEngine
