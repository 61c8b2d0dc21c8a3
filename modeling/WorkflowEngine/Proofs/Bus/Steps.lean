import Mathlib.Data.List.Nodup
import WorkflowEngine.Proofs.Bus.Partition

/-!
# A worker, one step at a time

What a worker does with an envelope is not done at once. It takes the envelope from its queue, its
handler answers, and only then is the envelope settled; in between, others may use the queue.

* `Queue.Use`, `Queue.useAll`: what anybody may do with a queue;
* `Queue.returned`, `ack_cases`, `reject_cases`: what settling an envelope does;
* `Worker.Phase`, `Worker.Act`, `Worker.next`: what a worker is at, and its next step;
* `Worker.finish`, **`finish_idle`**: steps that nobody disturbs do what the worker does;
* `Worker.Does`, **`does_next`**: what one step does to the queue;
* `Queue.everywhere`, **`Does.everywhere`**: no step loses an envelope or doubles one.
-/

namespace WorkflowEngine

variable {σ : Type}

namespace Queue

variable {q : Queue} {id : EnvelopeId}

/-! ## Use -/

/-- **What anybody may do with a queue**: send an envelope, or put back what is in flight. -/
inductive Use where
  | send (e : Envelope)
  | redeliver

/-- The envelope that was sent. -/
def Use.sent? : Use → Option Envelope
  | .send e => some e
  | .redeliver => none

/-- A queue after a use. -/
def use (q : Queue) : Use → Queue
  | .send e => q.send e
  | .redeliver => q.redeliver

/-- A queue after some uses. -/
def useAll (q : Queue) (uses : List Use) : Queue := uses.foldl use q

/-! ## Settling -/

/-- **The queue whose envelope in flight was rejected.** -/
def returned (q : Queue) (e : Envelope) : Queue :=
  { q with inFlight := without e.id q.inFlight, rejected := q.rejected ++ [e] }

theorem land?_cases (q : Queue) (id : EnvelopeId) :
    (id ∉ q.inFlight.map (·.id) ∧ q.land? id = none) ∨
      ∃ e ∈ q.inFlight, e.id = id ∧
        q.land? id = some (e, { q with inFlight := without id q.inFlight }) := by
  cases h : q.inFlight.find? (·.id = id) with
  | none =>
    refine .inl ⟨fun hmem => ?_, by rw [land?, h]; rfl⟩
    obtain ⟨e, he, rfl⟩ := List.mem_map.1 hmem
    simpa using List.find?_eq_none.1 h e he
  | some e =>
    refine .inr ⟨e, List.mem_of_find?_eq_some h, by simpa using List.find?_some h, ?_⟩
    rw [land?, h]
    rfl

/-- **An acknowledgement** fails when the envelope is not in flight, and else settles it. -/
theorem ack_cases (q : Queue) (id : EnvelopeId) :
    (id ∉ q.inFlight.map (·.id) ∧ q.ack id = .error (.notInFlight q.name id)) ∨
      ∃ e ∈ q.inFlight, e.id = id ∧ q.ack id = .ok (q.settled e) := by
  obtain ⟨gone, h⟩ | ⟨e, he, rfl, h⟩ := q.land?_cases id
  · exact .inl ⟨gone, by rw [ack, h]⟩
  · exact .inr ⟨e, he, rfl, by rw [ack, h]; rfl⟩

/-- **A rejection** fails when the envelope is not in flight, and else settles it. -/
theorem reject_cases (q : Queue) (id : EnvelopeId) :
    (id ∉ q.inFlight.map (·.id) ∧ q.reject id = .error (.notInFlight q.name id)) ∨
      ∃ e ∈ q.inFlight, e.id = id ∧ q.reject id = .ok (q.returned e) := by
  obtain ⟨gone, h⟩ | ⟨e, he, rfl, h⟩ := q.land?_cases id
  · exact .inl ⟨gone, by rw [reject, h]⟩
  · exact .inr ⟨e, he, rfl, by rw [reject, h]; rfl⟩

theorem unsettled_of_notMem (gone : id ∉ q.inFlight.map (·.id)) :
    q.ack id = .error (.notInFlight q.name id) ∧ q.reject id = .error (.notInFlight q.name id) := by
  constructor
  · obtain ⟨_, h⟩ | ⟨e, he, rfl, _⟩ := q.ack_cases id
    · exact h
    · exact absurd (List.mem_map_of_mem he) gone
  · obtain ⟨_, h⟩ | ⟨e, he, rfl, _⟩ := q.reject_cases id
    · exact h
    · exact absurd (List.mem_map_of_mem he) gone

end Queue

/-! ## Steps -/

namespace Worker

/-- **What a worker is at**: nothing, an envelope that its handler has not answered yet, or an envelope
to settle as its handler answered. -/
inductive Phase where
  | idle
  | handling (e : Envelope)
  | settling (e : Envelope) (answer : Except String Unit)

/-- **What a step comes to**: an envelope was taken; there was none, or one that the filter leaves; the
handler answered; or the envelope was settled, unless it was not in flight. -/
inductive Act where
  | took (e : Envelope)
  | passed (outcome : WorkerOutcome)
  | answered (e : Envelope) (answer : Except String Unit)
  | settled (e : Envelope) (answer : Except String Unit) (inFlight : Bool)
      (outcome : Except BusError WorkerOutcome)
  deriving DecidableEq

/-- The outcome of a worker that is through with an envelope. -/
def Act.outcome? : Act → Option (Except BusError WorkerOutcome)
  | .took _ | .answered _ _ => none
  | .passed outcome => some (.ok outcome)
  | .settled _ _ _ outcome => some outcome

/-- The identifier of the envelope that was acknowledged. -/
def Act.acked? : Act → Option EnvelopeId
  | .settled e (.ok ()) true _ => some e.id
  | _ => none

/-- The identifier of the envelope that was rejected. -/
def Act.rejected? : Act → Option EnvelopeId
  | .settled e (.error _) true _ => some e.id
  | _ => none

/-- The copy of an envelope that a worker works on. -/
def copy (w : Worker σ) (transport : String) (e : Envelope) : Envelope :=
  e.stamp (.received transport w.now)

/-- Settle an envelope as the handler answered. -/
def close (w : Worker σ) (e : Envelope) (answer : Except String Unit) (s : σ) : Act × Phase × σ :=
  let result := match answer with
    | .ok () => (w.queue.get s).ack e.id
    | .error _ => (w.queue.get s).reject e.id
  let outcome : Except BusError WorkerOutcome := match answer with
    | .ok () => .ok (.handled (e.stamp (.handled w.handler.name w.now)))
    | .error reason =>
      .error (.handlerFailed w.handler.name (e.route?.getD (w.queue.get s).name) reason)
  match result with
  | .ok q => (.settled e answer true outcome, .idle, w.queue.put q s)
  | .error cause => (.settled e answer false (.error cause), .idle, s)

/-- **The next step of a worker**, which uses its queue once at most. -/
def next (w : Worker σ) : Phase → σ → Act × Phase × σ
  | .idle, s =>
    match (w.queue.get s).receive with
    | (none, _) => (.passed .idle, .idle, s)
    | (some e, q) =>
      let s := w.queue.put q s
      let e := w.copy q.name e
      if w.filter.accepts e then (.took e, .handling e, s) else (.passed (.skipped e), .idle, s)
  | .handling e, s =>
    let (answer, s) := w.handler.handle e s
    (.answered e answer, .settling e answer, s)
  | .settling e answer, s => w.close e answer s

/-- Take steps until the worker is through with an envelope; none when the steps do not suffice. -/
def finish (w : Worker σ) : Nat → Phase → σ → Option (Except BusError WorkerOutcome × σ)
  | 0, _, _ => none
  | steps + 1, p, s =>
    let (a, p, s) := w.next p s
    match a.outcome? with
    | some outcome => some (outcome, s)
    | none => w.finish steps p s

theorem finish_settling (w : Worker σ) (e : Envelope) (answer : Except String Unit) (s : σ) :
    w.finish 1 (.settling e answer) s = some (match answer with
      | .ok () => w.settle ((w.queue.get s).ack e.id)
          (.ok (.handled (e.stamp (.handled w.handler.name w.now)))) s
      | .error reason => w.settle ((w.queue.get s).reject e.id)
          (.error (.handlerFailed w.handler.name (e.route?.getD (w.queue.get s).name) reason)) s) := by
  rcases answer with reason | _
  · simp only [finish, next, close]
    cases (w.queue.get s).reject e.id <;> rfl
  · simp only [finish, next, close]
    cases (w.queue.get s).ack e.id <;> rfl

theorem finish_handling (w : Worker σ) (e : Envelope) (s : σ) :
    w.finish 2 (.handling e) s = some (w.process e s) := by
  rcases h : w.handler.handle e s with ⟨answer, s'⟩
  have hfirst : w.finish 2 (.handling e) s = w.finish 1 (.settling e answer) s' := by
    rw [finish, next, h]
    rfl
  rw [hfirst, finish_settling, process, h]
  rcases answer with reason | _ <;> rfl

/-- **Three steps that nobody disturbs do what the worker does.** -/
theorem finish_idle (w : Worker σ) (s : σ) : w.finish 3 .idle s = some (w.runOnce s) := by
  rw [finish, next, runOnce]
  rcases (w.queue.get s).receive with ⟨_ | e, q⟩
  · rfl
  · dsimp only [copy]
    cases w.filter.accepts (e.stamp (.received q.name w.now)) with
    | false => rfl
    | true =>
      simp only [if_true]
      exact finish_handling w _ _

/-! ## What a step does -/

/-- **What a handler does to the queue in the next step**, given what it does for an envelope. -/
def Phase.uses (given : Envelope → σ → List Queue.Use) (s : σ) : Phase → List Queue.Use
  | .handling e => given e s
  | _ => []

/-- **What one step does to the queue**, by what the worker was at and what its handler does. -/
inductive Does (w : Worker σ) (q : Queue) : Phase → List Queue.Use → Act → Phase → Queue → Prop
  | nothing (ready : q.ready = []) : Does w q .idle [] (.passed .idle) .idle q
  | skipped {e : Envelope} {rest : List Envelope} (ready : q.ready = e :: rest)
      (declines : w.filter.accepts e = false) :
      Does w q .idle [] (.passed (.skipped (w.copy q.name e))) .idle (q.taken e rest)
  | took {e : Envelope} {rest : List Envelope} (ready : q.ready = e :: rest)
      (accepts : w.filter.accepts e = true) :
      Does w q .idle [] (.took (w.copy q.name e)) (.handling (w.copy q.name e)) (q.taken e rest)
  | answered {e : Envelope} (s : σ) (uses : List Queue.Use) :
      Does w q (.handling e) uses (.answered e (w.handler.handle e s).1)
        (.settling e (w.handler.handle e s).1) (q.useAll uses)
  | acked {e e' : Envelope} {outcome : Except BusError WorkerOutcome} (inFlight : e' ∈ q.inFlight)
      (id : e'.id = e.id) :
      Does w q (.settling e (.ok ())) [] (.settled e (.ok ()) true outcome) .idle (q.settled e')
  | rejected {e e' : Envelope} {reason : String} {outcome : Except BusError WorkerOutcome}
      (inFlight : e' ∈ q.inFlight) (id : e'.id = e.id) :
      Does w q (.settling e (.error reason)) [] (.settled e (.error reason) true outcome) .idle
        (q.returned e')
  | refused {e : Envelope} {answer : Except String Unit} (gone : e.id ∉ q.inFlight.map (·.id)) :
      Does w q (.settling e answer) []
        (.settled e answer false (.error (.notInFlight q.name e.id))) .idle q

variable {w : Worker σ} {e : Envelope} {answer : Except String Unit} {s : σ}

theorem close_refused (gone : e.id ∉ (w.queue.get s).inFlight.map (·.id)) :
    w.close e answer s =
      (.settled e answer false (.error (.notInFlight (w.queue.get s).name e.id)), .idle, s) := by
  obtain ⟨hack, hreject⟩ := Queue.unsettled_of_notMem gone
  rcases answer with reason | _
  · rw [close, hreject]
  · rw [close, hack]

theorem does_close (lawful : w.queue.Lawful) :
    w.Does (w.queue.get s) (.settling e answer) [] (w.close e answer s).1
      (w.close e answer s).2.1 (w.queue.get (w.close e answer s).2.2) := by
  by_cases gone : e.id ∉ (w.queue.get s).inFlight.map (·.id)
  · rw [close_refused gone]
    exact .refused gone
  · rcases answer with reason | _
    · obtain ⟨absent, _⟩ | ⟨e', inFlight, id, h⟩ := (w.queue.get s).reject_cases e.id
      · exact absurd absent gone
      · simp only [close, h, lawful _ _]
        exact .rejected inFlight id
    · obtain ⟨absent, _⟩ | ⟨e', inFlight, id, h⟩ := (w.queue.get s).ack_cases e.id
      · exact absurd absent gone
      · simp only [close, h, lawful _ _]
        exact .acked inFlight id

/-- **Every step does one of these things.** -/
theorem does_next (lawful : w.queue.Lawful) {given : Envelope → σ → List Queue.Use}
    (handled : ∀ e s, w.queue.get (w.handler.handle e s).2 = (w.queue.get s).useAll (given e s))
    (p : Phase) (s : σ) :
    w.Does (w.queue.get s) p (p.uses given s) (w.next p s).1 (w.next p s).2.1
      (w.queue.get (w.next p s).2.2) := by
  cases p with
  | idle =>
    cases hready : (w.queue.get s).ready with
    | nil =>
      simp only [next, Queue.receive, hready]
      exact .nothing hready
    | cons e rest =>
      have hname : ((w.queue.get s).taken e rest).name = (w.queue.get s).name := rfl
      have haccepts : w.filter.accepts (w.copy (w.queue.get s).name e) = w.filter.accepts e :=
        w.filter.accepts_stamp_received e _ _
      cases accepts : w.filter.accepts e with
      | true =>
        simp only [next, Queue.receive_cons hready, hname, haccepts, accepts, if_true, lawful _ _]
        exact .took hready accepts
      | false =>
        simp only [next, Queue.receive_cons hready, hname, haccepts, accepts, Bool.false_eq_true,
          if_false, lawful _ _]
        exact .skipped hready accepts
  | handling e =>
    change w.Does _ _ (given e s) _ _ (w.queue.get (w.handler.handle e s).2)
    rw [handled]
    exact .answered s _
  | settling e answer => exact does_close lawful

end Worker

/-! ## All that a queue has -/

namespace Queue

variable {q : Queue} {e : Envelope} {es rest : List Envelope}

/-- **All that a queue has**: what is ready, in flight or settled. -/
def everywhere (q : Queue) : List Envelope := q.ready ++ q.inFlight ++ q.acked ++ q.rejected

theorem perm_cons_without (mem : e ∈ es) (distinct : (es.map (·.id)).Nodup) :
    es.Perm (e :: without e.id es) := by
  induction es with
  | nil => cases mem
  | cons e' es ih =>
    rw [List.map_cons, List.nodup_cons] at distinct
    rcases List.mem_cons.1 mem with rfl | mem
    · have hrest : without e.id (e :: es) = without e.id es := by simp [without]
      rw [hrest, without_of_notMem distinct.1]
    · have hne : e'.id ≠ e.id := fun heq => distinct.1 (heq ▸ List.mem_map_of_mem mem)
      have hrest : without e.id (e' :: es) = e' :: without e.id es := by simp [without, hne]
      rw [hrest]
      exact ((ih mem distinct.2).cons e').trans (.swap _ _ _)

theorem everywhere_use (q : Queue) (use : Use) :
    (q.use use).everywhere.Perm (use.sent?.toList ++ q.everywhere) := by
  rw [List.perm_iff_count]
  intro x
  cases use with
  | send e =>
    simp only [Queue.use, send, everywhere, Use.sent?, Option.toList_some, List.count_append]
    omega
  | redeliver =>
    have hsorted := (List.mergeSort_perm q.inFlight fun a b => a.id.value ≤ b.id.value).count_eq x
    simp only [Queue.use, redeliver, everywhere, Use.sent?, Option.toList_none, List.count_append,
      List.count_nil, hsorted]
    omega

theorem everywhere_useAll (uses : List Use) (q : Queue) :
    (q.useAll uses).everywhere.Perm (uses.filterMap Use.sent? ++ q.everywhere) := by
  induction uses generalizing q with
  | nil => exact .refl _
  | cons use uses ih =>
    have hcons : (use :: uses).filterMap Use.sent? =
        use.sent?.toList ++ uses.filterMap Use.sent? := by
      cases use <;> rfl
    refine (ih (q.use use)).trans (((everywhere_use q use).append_left _).trans ?_)
    rw [hcons, ← List.append_assoc]
    exact List.perm_append_comm.append_right _

theorem books_useAll (uses : List Use) (q : Queue) : (q.useAll uses).name = q.name ∧
    (q.useAll uses).acked = q.acked ∧ (q.useAll uses).rejected = q.rejected := by
  induction uses generalizing q with
  | nil => exact ⟨rfl, rfl, rfl⟩
  | cons use uses ih => cases use <;> exact ih _

section Distinct

variable (distinct : (q.everywhere.map (·.id)).Nodup)

include distinct

theorem everywhere_taken (ready : q.ready = e :: rest) :
    (q.taken e rest).everywhere.Perm q.everywhere := by
  have hfresh : e.id ∉ q.inFlight.map (·.id) := by
    intro hmem
    rw [everywhere, ready, List.cons_append, List.cons_append, List.cons_append, List.map_cons,
      List.nodup_cons] at distinct
    refine distinct.1 (List.map_subset _ ?_ hmem)
    intro e' he'
    simp [he']
  rw [List.perm_iff_count]
  intro x
  simp only [everywhere, taken, ready, without_of_notMem hfresh, List.count_append,
    List.count_cons, List.count_nil]
  omega

theorem count_without (inFlight : e ∈ q.inFlight) (x : Envelope) :
    (without e.id q.inFlight).count x + [e].count x = q.inFlight.count x := by
  have hsub : q.inFlight.Sublist q.everywhere := by
    rw [everywhere, List.append_assoc, List.append_assoc]
    exact (List.sublist_append_left _ _).trans (List.sublist_append_right _ _)
  rw [(perm_cons_without inFlight (distinct.sublist (hsub.map _))).count_eq x, List.count_cons,
    List.count_cons, List.count_nil, Nat.zero_add]

theorem everywhere_settled (inFlight : e ∈ q.inFlight) :
    (q.settled e).everywhere.Perm q.everywhere := by
  rw [List.perm_iff_count]
  intro x
  have hcount := count_without distinct inFlight x
  simp only [everywhere, settled, List.count_append]
  omega

theorem everywhere_returned (inFlight : e ∈ q.inFlight) :
    (q.returned e).everywhere.Perm q.everywhere := by
  rw [List.perm_iff_count]
  intro x
  have hcount := count_without distinct inFlight x
  simp only [everywhere, returned, List.count_append]
  omega

end Distinct

end Queue

namespace Worker.Does

variable {w : Worker σ} {q q' : Queue} {p p' : Phase} {a : Act} {uses : List Queue.Use}

/-- **No step loses an envelope or doubles one**: there is what was there, and what the handler sent. -/
theorem everywhere (does : w.Does q p uses a p' q') (distinct : (q.everywhere.map (·.id)).Nodup) :
    q'.everywhere.Perm (uses.filterMap Queue.Use.sent? ++ q.everywhere) := by
  cases does with
  | nothing => exact .refl _
  | skipped ready => exact Queue.everywhere_taken distinct ready
  | took ready => exact Queue.everywhere_taken distinct ready
  | answered s uses => exact Queue.everywhere_useAll uses q
  | acked inFlight => exact Queue.everywhere_settled distinct inFlight
  | rejected inFlight => exact Queue.everywhere_returned distinct inFlight
  | refused => exact .refl _

theorem books (does : w.Does q p uses a p' q') : q'.name = q.name ∧
    q'.acked.map (·.id) = q.acked.map (·.id) ++ a.acked?.toList ∧
    q'.rejected.map (·.id) = q.rejected.map (·.id) ++ a.rejected?.toList := by
  cases does with
  | nothing => simp [Act.acked?, Act.rejected?]
  | skipped => simp [Act.acked?, Act.rejected?, Queue.taken]
  | took => simp [Act.acked?, Act.rejected?, Queue.taken]
  | answered s uses => simp [Act.acked?, Act.rejected?, Queue.books_useAll]
  | acked _ id => simp [Act.acked?, Act.rejected?, Queue.settled, id]
  | rejected _ id => simp [Act.acked?, Act.rejected?, Queue.returned, id]
  | refused => simp [Act.acked?, Act.rejected?]

end Worker.Does

end WorkflowEngine
