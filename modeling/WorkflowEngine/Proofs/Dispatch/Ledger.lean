import WorkflowEngine.Dispatch.Handler
import WorkflowEngine.Proofs.Bus.Queues
import WorkflowEngine.Proofs.Dispatch.Walk
import WorkflowEngine.Proofs.Dispatch.WorldSite

/-!
# What a store keeps of entities

A store has one row for an entity, which is what was stored last; nothing but storing changes it. What
else is relied on is that a store and a bus do not change their mind.

* `Ledger`, `Ledger.Same`, `Ledger.Stores`: the rows of a store, and how they change;
* **`Ledger.Lawful`**, `Ledger.Steady`, `Ledger.SteadyBus`: what is relied on;
* `World.ledger`, **`World.lawful_ledger`**, `World.steady_ledger`, `World.steadyBus_ledger`: worlds in
  memory can be relied on.
-/

namespace WorkflowEngine

/-! ## Ledgers -/

/-- **The rows of a store**: the states that it comes through, the row of a type and an identity, and
the identity under which it puts a subject. -/
structure Ledger (σ : Type) where
  sound : σ → Prop
  row? : σ → String → String → Option Subject
  identity? : Subject → Option String

namespace Ledger

variable {σ : Type}

/-- **The rows are the same as before.** -/
structure Same (l : Ledger σ) (w w' : σ) : Prop where
  sound : l.sound w'
  row? : ∀ entityType id, l.row? w' entityType id = l.row? w entityType id

/-- **A subject was stored**: its row gives it back, and the other rows are the same as before. -/
structure Stores (l : Ledger σ) (r : Registry) (s : Subject) (w w' : σ) : Prop where
  sound : l.sound w'
  row? : ∃ id s', l.identity? s = some id ∧ s.KeptAs r s' ∧
    l.row? w' s.entityType id = some s' ∧
    ∀ entityType id', ¬(entityType = s.entityType ∧ id' = id) →
      l.row? w' entityType id' = l.row? w entityType id'

/-- **What is relied on of a store.** A row is found as it is, storing a subject changes its row, and
nothing else changes a row. -/
structure Lawful (l : Ledger σ) (services : Services σ) (r : Registry) : Prop where
  identity? : ∀ {s s'}, s.SameEntity s' → l.identity? s' = l.identity? s
  keyed : ∀ {w entityType id s}, l.sound w → l.row? w entityType id = some s →
    s.entityType = entityType ∧ l.identity? s = some id
  find : ∀ {w entityType id answer w'}, l.sound w →
    services.find entityType id w = (answer, w') →
    l.Same w w' ∧ ∀ row, answer = .ok row → l.row? w entityType id = row
  persist_ok : ∀ {s w w'}, l.sound w → services.persist s w = (.ok (), w') → l.Stores r s w w'
  persist_error : ∀ {s w e w'}, l.sound w → services.persist s w = (.error e, w') → l.Same w w'
  send : ∀ {m stamps w answer w'}, l.sound w → services.send m stamps w = (answer, w') → l.Same w w'

/-- **A store that does not change its mind**: what could be read can be read, and an entity that could
be stored can be stored, wherever it stands. -/
structure Steady (l : Ledger σ) (services : Services σ) : Prop where
  find : ∀ {w w' entityType id row w₁}, l.sound w → l.sound w' →
    services.find entityType id w = (.ok row, w₁) →
    ∃ row' w₁', services.find entityType id w' = (.ok row', w₁')
  persist : ∀ {w w' s s' w₁}, l.sound w → l.sound w' → s.SameEntity s' →
    services.persist s w = (.ok (), w₁) → ∃ w₁', services.persist s' w' = (.ok (), w₁')

/-- **A bus that does not change its mind**: a message that could be sent can be sent. -/
def SteadyBus (l : Ledger σ) (services : Services σ) (locator : Locator) : Prop :=
  ∀ {m payload w w' e w₁}, locator.isAsync m.workflow m.transition = true → l.sound w → l.sound w' →
    services.send m (locator.stamps m payload) w = (.ok e, w₁) →
    ∃ e' w₁', services.send m (locator.stamps m payload) w' = (.ok e', w₁')

variable {l : Ledger σ}

theorem Same.refl {w : σ} (h : l.sound w) : l.Same w w := ⟨h, fun _ _ => rfl⟩

theorem Stores.row?_eq {services : Services σ} {r : Registry} (lawful : l.Lawful services r)
    {s s₀ : Subject} {w w' : σ} {entityType id : String} (h : l.Stores r s w w')
    (type : s₀.entityType = entityType) (identity : l.identity? s₀ = some id)
    (same : s₀.SameEntity s) : ∃ s', l.row? w' entityType id = some s' ∧ s.KeptAs r s' := by
  obtain ⟨id', s', hid, hkept, hrow, _⟩ := h.row?
  rw [lawful.identity? same, identity] at hid
  cases hid
  rw [same.entityType, type] at hrow
  exact ⟨s', hrow, hkept⟩

theorem Lawful.row?_sent {services : Services σ} {r : Registry} (lawful : l.Lawful services r)
    {m : TransitionMessage} {stamps : List Stamp} {s s₀ : Subject} {w w₁ w₂ : σ}
    {answer : Except BusError Envelope} {entityType id : String} (sound : l.sound w)
    (stored : services.persist s w = (.ok (), w₁))
    (sent : services.send m stamps w₁ = (answer, w₂)) (type : s₀.entityType = entityType)
    (identity : l.identity? s₀ = some id) (same : s₀.SameEntity s) :
    l.sound w₂ ∧ ∃ s', l.row? w₂ entityType id = some s' ∧ s.KeptAs r s' := by
  have stores := lawful.persist_ok sound stored
  obtain ⟨s', hrow, hkept⟩ := stores.row?_eq lawful type identity same
  have hsame := lawful.send stores.sound sent
  exact ⟨hsame.sound, s', (hsame.row? entityType id).trans hrow, hkept⟩

end Ledger

/-! ## Worlds in memory -/

theorem EntityTable.find?_store_of_ne (t : EntityTable) {id : String} {s : Subject}
    {entityType id' : String} (h : ¬(entityType = s.entityType ∧ id' = id)) :
    (t.store id s).find? entityType id' = t.find? entityType id' := by
  have hother : ∀ e : StoredEntity, e.isFor entityType id' = true → e.isFor s.entityType id = false := by
    intro e hfor
    simp only [StoredEntity.isFor, Bool.and_eq_true, decide_eq_true_eq] at hfor
    rw [Bool.eq_false_iff]
    intro hfor'
    simp only [StoredEntity.isFor, Bool.and_eq_true, decide_eq_true_eq] at hfor'
    exact h ⟨hfor.1.symm.trans hfor'.1, hfor.2.symm.trans hfor'.2⟩
  have hfirst : (StoredEntity.mk id s).isFor entityType id' ≠ true := by
    intro hfor
    have hself : (StoredEntity.mk id s).isFor s.entityType id = true := by simp [StoredEntity.isFor]
    rw [hother _ hfor] at hself
    cases hself
  rw [find?, find?, store, List.find?_cons_of_neg hfirst, List.find?_filter]
  refine congrArg (fun p => (t.rows.find? p).map (·.subject)) (funext fun e => ?_)
  cases hfor : e.isFor entityType id' with
  | false => simp
  | true => simp [hother e hfor]

theorem Bus.isSome_queue?_send (b : Bus) (e : Envelope) (name : String) :
    ((b.send e).2.queue? name).isSome = (b.queue? name).isSome := by
  unfold send
  split
  · split
    · exact isSome_queue?_update b _ name
    · rfl
  · split
    · rfl
    · split
      · exact isSome_queue?_update b _ name
      · rfl
    · rfl

theorem Bus.dispatch_of_unknown {b : Bus} {stages : List Stage}
    (h : ∀ stage ∈ stages, Stage.KeepsRoutes stage) {e : Envelope} {address : String}
    (route : e.route? = some address) (unknown : b.queue? address = none) :
    b.dispatch stages e = (.error (.unknownTransport address), b) := by
  obtain ⟨_, hroute⟩ := foldl_keepsRoutes h (e := e) (by rw [Envelope.hasRoute, route]; rfl)
  simp only [dispatch, send, hroute, route, unknown]
  rfl

namespace World

/-- **The rows of a world**, as long as its bus has the queues of some names. -/
def ledger (known : String → Bool) : Ledger World where
  sound w := (∀ row ∈ w.table.rows, row.subject.identity? defaultStrategies = some row.id) ∧
    ∀ name, (w.bus.queue? name).isSome = known name
  row? w := w.table.find?
  identity? s := s.identity? defaultStrategies

variable {refusals : Refusals} {r : Registry} {stages : List Stage} {known : String → Bool}

theorem keyed_ledger {w : World} {entityType id : String} {s : Subject} (h : (ledger known).sound w)
    (row : (ledger known).row? w entityType id = some s) :
    s.entityType = entityType ∧ s.identity? defaultStrategies = some id := by
  obtain ⟨e, he, rfl⟩ := Option.map_eq_some_iff.1 row
  have hfor : e.isFor entityType id = true := List.find?_some he
  simp only [StoredEntity.isFor, Bool.and_eq_true, decide_eq_true_eq] at hfor
  refine ⟨hfor.1, ?_⟩
  rw [h.1 e (List.mem_of_find?_eq_some he), hfor.2]

theorem persist_eq_ok {s : Subject} {w w' : World} (h : w.persist refusals r s = (.ok (), w')) :
    ∃ id, s.identity? defaultStrategies = some id ∧ refusals.unwritable.contains id = false := by
  cases identity : s.identity? defaultStrategies with
  | none => simp [persist, store, identity] at h
  | some id =>
    cases writable : refusals.unwritable.contains id with
    | true =>
      simp only [persist, store, identity, writable, if_true] at h
      cases h
    | false => exact ⟨id, rfl, writable⟩

theorem stores_of_persist {s : Subject} {w w' : World} (sound : (ledger known).sound w)
    (h : w.persist refusals r s = (.ok (), w')) : (ledger known).Stores r s w w' := by
  obtain ⟨id, identity, writable⟩ := persist_eq_ok h
  rw [persist_of_writable identity writable r w] at h
  cases h
  let s' : Subject := { s with markings := r.standing s }
  refine ⟨⟨?_, sound.2⟩, id, s', identity, ⟨⟨rfl, rfl, rfl, rfl⟩, fun name hname => ?_⟩, ?_, ?_⟩
  · intro row hrow
    rcases List.mem_cons.1 hrow with rfl | hrow
    · exact identity
    · exact sound.1 row (List.mem_filter.1 hrow).1
  · exact r.marking_standing s hname
  · exact w.table.find?_store id s'
  · intro entityType id' hne
    exact w.table.find?_store_of_ne (s := s') hne

theorem same_of_send {m : TransitionMessage} {stamps : List Stamp} {w w' : World}
    {answer : Except BusError Envelope} (sound : (ledger known).sound w)
    (h : World.send stages m stamps w = (answer, w')) : (ledger known).Same w w' := by
  cases h
  refine ⟨⟨sound.1, fun name => ?_⟩, fun _ _ => rfl⟩
  exact (w.bus.isSome_queue?_send _ name).trans (sound.2 name)

theorem send_of_unknown (keeps : ∀ stage ∈ stages, Stage.KeepsRoutes stage) {m : TransitionMessage}
    {stamps : List Stamp} {w : World} {address : String}
    (route : (Envelope.stampAll { id := ⟨w.sent + 1⟩, message := m } stamps).route? = some address)
    (unknown : w.bus.queue? address = none) :
    World.send stages m stamps w = (.error (.unknownTransport address),
      { w with sent := w.sent + 1 }.note (.sent m (some address))) := by
  simp only [send, note, Bus.dispatch_of_unknown keeps route unknown, route]

/-- **Worlds in memory keep what was stored last.** -/
theorem lawful_ledger (refusals : Refusals) (r : Registry) (stages : List Stage)
    (known : String → Bool) :
    (ledger known).Lawful (worldServices refusals r stages) r where
  identity? h := h.identity?
  keyed := keyed_ledger
  find := by
    rintro w entityType id answer w' sound ⟨⟩
    refine ⟨.refl sound, fun row hrow => ?_⟩
    unfold find at hrow
    split at hrow
    · cases hrow
    · split at hrow
      · cases hrow
      · cases hrow
        rfl
  persist_ok := stores_of_persist
  persist_error := by
    intro s w e w' sound h
    change World.persist refusals r s w = _ at h
    unfold persist at h
    split at h <;> cases h
    exact .refl sound
  send := same_of_send

theorem steady_ledger (refusals : Refusals) (r : Registry) (stages : List Stage)
    (known : String → Bool) : (ledger known).Steady (worldServices refusals r stages) where
  find := by
    intro w w' entityType id row w₁ _ _ h
    have hanswer : w.find refusals entityType id = .ok row := congrArg Prod.fst h
    refine ⟨w'.table.find? entityType id, w', ?_⟩
    change (w'.find refusals entityType id, w') = _
    unfold World.find at hanswer ⊢
    split at hanswer
    · cases hanswer
    · next loadable =>
      split at hanswer
      · cases hanswer
      · next readable => rw [if_neg loadable, if_neg readable]
  persist := by
    intro w w' s s' w₁ _ _ same h
    obtain ⟨id, identity, writable⟩ := persist_eq_ok h
    rw [← same.identity?] at identity
    exact ⟨_, persist_of_writable identity writable r w'⟩

theorem steadyBus_ledger (refusals : Refusals) (r : Registry)
    (keeps : ∀ stage ∈ stages, Stage.KeepsRoutes stage) (known : String → Bool) (locator : Locator) :
    (ledger known).SteadyBus (worldServices refusals r stages) locator := by
  intro m payload w w' e w₁ queued sound sound' h
  obtain ⟨address, route⟩ := Locator.isAsync_iff.1 queued
  have routed : ∀ e : Envelope, (e.stampAll (locator.stamps m payload)).route? = some address :=
    fun e => Locator.route?_stamps route e payload
  have hknown : known address = true := by
    rw [← sound.2 address]
    cases hq : w.bus.queue? address with
    | some q => rfl
    | none =>
      change World.send stages m _ w = _ at h
      rw [send_of_unknown keeps (routed _) hq] at h
      cases h
  obtain ⟨e', hdispatch, _⟩ := Bus.dispatch_of_route keeps
    (routed { id := ⟨w'.sent + 1⟩, message := m }) ((sound'.2 address).trans hknown)
  exact ⟨e', _, send_of_dispatch rfl hdispatch⟩

end World

end WorkflowEngine
