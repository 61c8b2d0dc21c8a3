import WorkflowEngine.Dispatch.World
import WorkflowEngine.Proofs.Collection.SortedMap
import WorkflowEngine.Proofs.Dispatch.Site

/-!
# Worlds in memory are sites

A world in memory gives an entity back as it was stored last, as far as the registered workflows go,
unless it refuses it.

* `Registry.marking_standing`: where a subject stands in registered workflows is kept;
* `EntityTable.find?_store`: what was stored is found;
* `World.site`, **`World.lawful_site`**: a world that does not refuse an entity is a lawful site for it.
-/

namespace WorkflowEngine

theorem Marking.eq_empty_of_isEmpty {m : Marking} (h : m.isEmpty = true) : m = .empty := by
  obtain ⟨places, nodup⟩ := m
  obtain rfl : places = [] := List.isEmpty_iff.1 h
  rfl

theorem Registry.marking_standing (r : Registry) (s : Subject) {name : WorkflowName}
    (h : name ∈ r.names) :
    ({ s with markings := r.standing s } : Subject).marking name = s.marking name := by
  let pairs := (r.names.map fun name => (name, s.marking name)).filter (!·.2.isEmpty)
  have hkeys : (pairs.map (·.1)).Nodup := by
    refine List.Nodup.sublist (List.filter_sublist.map _) ?_
    rw [List.map_map]
    exact (List.map_id r.names).symm ▸ r.nodup
  change ((SortedMap.ofList pairs).get? name).getD .empty = s.marking name
  cases hempty : (s.marking name).isEmpty with
  | true =>
    have hnone : name ∉ pairs.map (·.1) := by
      intro hname
      obtain ⟨pair, hpair, rfl⟩ := List.mem_map.1 hname
      obtain ⟨hmem, hfull⟩ := List.mem_filter.1 hpair
      obtain ⟨name, _, rfl⟩ := List.mem_map.1 hmem
      simp [hempty] at hfull
    rw [SortedMap.get?_ofList_of_notMem hnone, Marking.eq_empty_of_isEmpty hempty]
    rfl
  | false =>
    have hpair : (name, s.marking name) ∈ pairs :=
      List.mem_filter.2 ⟨List.mem_map.2 ⟨name, h, rfl⟩, by simp [hempty]⟩
    rw [SortedMap.get?_ofList_of_mem hkeys hpair]
    rfl

theorem EntityTable.find?_store (t : EntityTable) (id : String) (s : Subject) :
    (t.store id s).find? s.entityType id = some s := by
  simp [EntityTable.find?, EntityTable.store, StoredEntity.isFor]

namespace World

/-- **A world in memory as a site.** -/
def site (refusals : Refusals) (r : Registry) (stages : List Stage) (entityType id : String) :
    Site World where
  services := worldServices refusals r stages
  stages := stages
  bus w := w.bus
  putBus bus w := { w with bus }
  keeps w s := ∃ s', w.table.find? entityType id = some s' ∧ s.Alike r s'

theorem persist_of_writable {refusals : Refusals} {s : Subject} {id : String}
    (identity : s.identity? defaultStrategies = some id)
    (writable : refusals.unwritable.contains id = false) (r : Registry) (w : World) :
    w.persist refusals r s =
      (.ok (), { w with
        table := w.table.store id { s with markings := r.standing s }
        journal := w.journal ++ [.stored s.entityType id (r.standing s)] }) := by
  simp only [persist, store, identity, writable, Bool.false_eq_true, if_false, note]

theorem persist_worldServices {refusals : Refusals} {r : Registry} {stages : List Stage} {s : Subject}
    {id : String} (identity : s.identity? defaultStrategies = some id)
    (writable : refusals.unwritable.contains id = false) (w : World) :
    (worldServices refusals r stages).persist s w =
      (.ok (), { w with
        table := w.table.store id { s with markings := r.standing s }
        journal := w.journal ++ [.stored s.entityType id (r.standing s)] }) :=
  persist_of_writable identity writable r w

theorem send_of_dispatch {stages : List Stage} {m : TransitionMessage} {stamps : List Stamp}
    {w : World} {e₀ e : Envelope} {b : Bus}
    (numbered : e₀ = .stampAll { id := ⟨w.sent + 1⟩, message := m } stamps)
    (taken : w.bus.dispatch stages e₀ = (.ok e, b)) :
    send stages m stamps w =
      (.ok e, { w with
        bus := b
        journal := w.journal ++ [.sent m e₀.route?]
        sent := w.sent + 1 }) := by
  subst numbered
  simp only [send, note, taken]

/-- **A world that does not refuse an entity is a lawful site for it.** -/
theorem lawful_site {refusals : Refusals} {x : Dispatcher} {stages : List Stage}
    {entityType id : String} (recorded : x.reading = {}) (identity : x.identity = defaultStrategies)
    (loadable : refusals.loadable.contains entityType = true)
    (readable : refusals.unreadable.contains id = false)
    (writable : refusals.unwritable.contains id = false)
    (keeps : ∀ stage ∈ stages, Stage.KeepsRoutes stage) :
    (site refusals x.registry stages entityType id).Lawful x entityType id where
  reads := Dispatcher.readsKept_of_recorded recorded (identity ▸ IdentityStrategy.ofRecord_default)
  stages := keeps
  persist := by
    rintro w s rfl hid
    rw [Dispatcher.identity?, recorded, identity] at hid
    refine ⟨_, persist_of_writable hid writable x.registry w, rfl,
      { s with markings := x.registry.standing s }, ?_, rfl, rfl, rfl, fun name hname => ?_⟩
    · exact w.table.find?_store id { s with markings := x.registry.standing s }
    · exact x.registry.marking_standing s hname
  find := by
    rintro w s ⟨s', hfound, halike⟩
    refine ⟨s', w, ?_, halike, rfl, s', hfound, halike⟩
    simp only [site, worldServices, find, loadable, readable, hfound, Bool.not_true,
      Bool.false_eq_true, if_false]
  send := by
    intro m stamps w
    refine ⟨⟨w.sent + 1⟩, fun e b hdispatch => ?_⟩
    exact ⟨_, send_of_dispatch rfl hdispatch, rfl, fun s hs => hs⟩
  bus_putBus _ _ := rfl
  keeps_putBus _ _ _ h := h

end World

end WorkflowEngine
