import WorkflowEngine.Bus.Sender
import WorkflowEngine.Bus.Worker
import WorkflowEngine.Proofs.Collection.SortedMap
import WorkflowEngine.Proofs.Routing.Locator

/-!
# The queues of a bus

A bus is looked at through its queues: every name has one, an empty one if nothing has that name.
Putting a queue back changes what is seen under its name and nothing else.

* `Bus.look`: the queue under a name; `Bus.Named`: every queue is found under its own name;
* `look_ofNames`: a new bus has empty queues only;
* `look_update`: what putting a queue back changes;
* `isSome_queue?_update`, `Named.update`: the names of a bus stay;
* `Queue.books`, `Bus.SameBooks`, `sameBooks_send`: sending changes what is ready only;
* `Stage.KeepsRoutes`: stages that leave a message with a route alone;
* **`dispatch_of_route`**: a message with a known route comes to its queue.
-/

namespace WorkflowEngine

namespace Bus

/-- **The queue seen under a name.** -/
def look (b : Bus) (name : String) : Queue := (queueAt name).get b

/-- Every queue is found under its own name. -/
def Named (b : Bus) : Prop := ∀ name, (b.look name).name = name

variable {b : Bus} {q : Queue} {name : String}

theorem look_eq_of_queue? (h : b.queue? name = some q) : b.look name = q := by
  simp only [look, queueAt, anyQueue?, h, Option.getD_some]

theorem isSome_anyQueue?_of_queue? (h : (b.queue? name).isSome = true) :
    (b.anyQueue? name).isSome = true := by
  obtain ⟨q, h⟩ := Option.isSome_iff_exists.1 h
  simp only [anyQueue?, h, Option.isSome_some]

theorem look_ofNames (names : List String) (default? : Option String) (name : String) :
    (ofNames names (.ofName names default?)).look name = { name } := by
  cases hq : (ofNames names (.ofName names default?)).queue? name with
  | some q =>
    rw [look_eq_of_queue? hq]
    obtain ⟨n, _, hn⟩ := List.mem_map.1 (SortedMap.mem_of_get?_ofList hq)
    cases hn
    rfl
  | none =>
    simp only [look, queueAt, anyQueue?, hq]
    cases default? with
    | none => rfl
    | some own =>
      cases hshared : names.contains own with
      | true => simp only [ofNames, Fallback.ofName, hshared, if_true, Option.getD_none]
      | false =>
        simp only [ofNames, Fallback.ofName, hshared, Bool.false_eq_true, if_false]
        split
        · next hown => rw [hown, Option.getD_some]
        · rfl

/-! ## Putting a queue back -/

theorem update_cases (b : Bus) (q : Queue) :
    ((b.queue? q.name).isSome = true ∧ b.update q = { b with queues := b.queues.insert q.name q }) ∨
      (b.queue? q.name = none ∧ (∃ own, b.fallback = .own own ∧ own.name = q.name) ∧
        b.update q = { b with fallback := .own q }) ∨
      (b.anyQueue? q.name = none ∧ b.update q = b) := by
  cases hq : b.queue? q.name with
  | some q' =>
    refine .inl ⟨rfl, ?_⟩
    simp only [update, hq]
  | none =>
    cases hf : b.fallback with
    | own own =>
      by_cases hname : own.name = q.name
      · refine .inr (.inl ⟨rfl, ⟨own, rfl, hname⟩, ?_⟩)
        simp only [update, hq, hf, hname, if_true]
      · refine .inr (.inr ⟨?_, ?_⟩)
        · simp only [anyQueue?, hq, hf, hname, if_false]
        · simp only [update, hq, hf, hname, if_false]
    | none | shared =>
      refine .inr (.inr ⟨?_, ?_⟩)
      · simp only [anyQueue?, hq, hf]
      · simp only [update, hq, hf]

theorem look_update_self (h : (b.anyQueue? q.name).isSome = true) :
    (b.update q).look q.name = q := by
  rcases update_cases b q with ⟨_, he⟩ | ⟨hnone, _, he⟩ | ⟨hnone, _⟩
  · rw [he]
    exact look_eq_of_queue? (SortedMap.get?_insert_self ..)
  · rw [he]
    simp only [look, queueAt, anyQueue?, queue?] at hnone ⊢
    simp only [hnone, if_true, Option.getD_some]
  · rw [hnone] at h
    cases h

theorem look_update_of_ne (h : name ≠ q.name) : (b.update q).look name = b.look name := by
  rcases update_cases b q with ⟨_, he⟩ | ⟨_, ⟨own, hf, hname⟩, he⟩ | ⟨_, he⟩
  · rw [he]
    simp only [look, queueAt, anyQueue?, queue?, SortedMap.get?_insert_of_ne _ h]
  · rw [he]
    simp only [look, queueAt, anyQueue?, queue?, hf]
    cases b.queues.get? name with
    | some q' => rfl
    | none => simp only [Ne.symm h, hname, if_false]
  · rw [he]

theorem look_update (q : Queue) (hq : q.name = name) (known : (b.queue? name).isSome = true)
    (n : String) :
    (b.update q).look n = if n = name then q else b.look n := by
  subst hq
  split
  · next h => rw [h, look_update_self (isSome_anyQueue?_of_queue? known)]
  · next h => exact look_update_of_ne h

theorem isSome_queue?_update (b : Bus) (q : Queue) (name : String) :
    ((b.update q).queue? name).isSome = (b.queue? name).isSome := by
  rcases update_cases b q with ⟨hsome, he⟩ | ⟨_, _, he⟩ | ⟨_, he⟩
  · rw [he]
    by_cases hname : name = q.name
    · subst hname
      rw [hsome]
      simp only [queue?, SortedMap.get?_insert_self, Option.isSome_some]
    · simp only [queue?, SortedMap.get?_insert_of_ne _ hname]
  · rw [he]
    rfl
  · rw [he]

theorem Named.update (h : b.Named) (q : Queue) : (b.update q).Named := by
  intro name
  by_cases hname : name = q.name
  · subst hname
    cases known : (b.anyQueue? q.name).isSome with
    | true => rw [look_update_self known]
    | false =>
      rcases update_cases b q with ⟨hsome, _⟩ | ⟨hnone, ⟨own, hf, hown⟩, _⟩ | ⟨_, he⟩
      · rw [isSome_anyQueue?_of_queue? hsome] at known
        cases known
      · simp [anyQueue?, hnone, hf, hown] at known
      · rw [he]
        exact h q.name
  · rw [look_update_of_ne hname]
    exact h name

end Bus

/-! ## What stays when messages are sent -/

/-- A queue but for what is ready. -/
def Queue.books (q : Queue) : Queue := { q with ready := [] }

theorem Queue.books_eq_iff {q q' : Queue} : q.books = q'.books ↔
    q.name = q'.name ∧ q.inFlight = q'.inFlight ∧ q.acked = q'.acked ∧ q.rejected = q'.rejected := by
  simp [books]

namespace Bus

/-- **Buses that differ in what is ready only.** -/
structure SameBooks (b b' : Bus) : Prop where
  books : ∀ name, (b'.look name).books = (b.look name).books
  names : ∀ name, (b'.queue? name).isSome = (b.queue? name).isSome

variable {b b' : Bus}

theorem SameBooks.refl (b : Bus) : b.SameBooks b := ⟨fun _ => rfl, fun _ => rfl⟩

theorem SameBooks.named (h : b.SameBooks b') (hn : b.Named) : b'.Named :=
  fun name => (Queue.books_eq_iff.1 (h.books name)).1.trans (hn name)

theorem sameBooks_send (hn : b.Named) {address : String}
    (known : (b.queue? address).isSome = true) (e : Envelope) :
    b.SameBooks (b.update ((b.look address).send e)) where
  names := isSome_queue?_update b _
  books := by
    intro name
    rw [look_update ((b.look address).send e) (hn address) known]
    split
    · next h => rw [h]; rfl
    · rfl

end Bus

/-! ## On the way to a queue -/

/-- **Stages that leave a message with a route alone**, as far as the way and the message go. -/
def Stage.KeepsRoutes (stage : Stage) : Prop :=
  ∀ e : Envelope, e.hasRoute = true → (stage e).message = e.message ∧ (stage e).route? = e.route?

theorem keepsRoutes_routingStage (l : Locator) : ∀ stage ∈ [routingStage l], Stage.KeepsRoutes stage := by
  intro stage hstage e he
  rw [List.mem_singleton.1 hstage]
  simp only [routingStage, he, Bool.or_true, if_true, and_self]

theorem foldl_keepsRoutes {stages : List Stage} (h : ∀ stage ∈ stages, Stage.KeepsRoutes stage)
    {e : Envelope} (he : e.hasRoute = true) :
    (stages.foldl (fun e stage => stage e) e).message = e.message ∧
      (stages.foldl (fun e stage => stage e) e).route? = e.route? := by
  induction stages generalizing e with
  | nil => exact ⟨rfl, rfl⟩
  | cons stage stages ih =>
    obtain ⟨hmessage, hroute⟩ := h stage List.mem_cons_self e he
    have he' : (stage e).hasRoute = true := by rwa [Envelope.hasRoute, hroute]
    obtain ⟨hm, hr⟩ := ih (fun s hs => h s (List.mem_cons_of_mem _ hs)) he'
    exact ⟨hm.trans hmessage, hr.trans hroute⟩

/-- **A message with a known route comes to its queue.** -/
theorem Bus.dispatch_of_route {b : Bus} {stages : List Stage}
    (h : ∀ stage ∈ stages, Stage.KeepsRoutes stage) {e : Envelope} {address : String}
    (route : e.route? = some address) (known : (b.queue? address).isSome = true) :
    ∃ sent, b.dispatch stages e = (.ok sent, b.update ((b.look address).send sent)) ∧
      sent.message = e.message := by
  obtain ⟨hmessage, hroute⟩ := foldl_keepsRoutes h (e := e) (by rw [Envelope.hasRoute, route]; rfl)
  obtain ⟨q, hq⟩ := Option.isSome_iff_exists.1 known
  refine ⟨stages.foldl (fun e stage => stage e) e, ?_, hmessage⟩
  simp only [dispatch, send, hroute, route, hq, look_eq_of_queue? hq]
  rfl

end WorkflowEngine
