import WorkflowEngine.Proofs.Bus.Queues

/-!
# One turn of a worker

A worker that takes everything finds nothing ready and does nothing, or has the first envelope handled
and acknowledges it.

* `Queue.taken`, `Queue.settled`: a queue whose first envelope was handed out, and one whose envelope
  was acknowledged;
* `ack_of_inFlight`: an envelope in flight can be acknowledged;
* `runOnce_idle`, **`runOnce_handled`**: the two turns;
* `Bus.Acked`, `Bus.Settled`: what one turn and what many turns do to the books of the queues.
-/

namespace WorkflowEngine

namespace Queue

/-- **The queue whose first envelope was handed out.** -/
def taken (q : Queue) (e : Envelope) (rest : List Envelope) : Queue :=
  { q with ready := rest, inFlight := without e.id q.inFlight ++ [e] }

/-- **The queue whose last envelope in flight was acknowledged.** -/
def settled (q : Queue) (e : Envelope) : Queue :=
  { q with inFlight := without e.id q.inFlight, acked := q.acked ++ [e] }

theorem receive_cons {q : Queue} {e : Envelope} {rest : List Envelope} (h : q.ready = e :: rest) :
    q.receive = (some e, q.taken e rest) := by
  simp only [receive, h, taken]

theorem without_append_self (e : Envelope) (es : List Envelope) :
    without e.id (without e.id es ++ [e]) = without e.id es := by
  simp [without]

theorem find?_without_append_self (e : Envelope) (es : List Envelope) :
    (without e.id es ++ [e]).find? (·.id = e.id) = some e := by
  have hnone : (without e.id es).find? (·.id = e.id) = none := by
    rw [List.find?_eq_none]
    intro e' he'
    simpa using (List.mem_filter.1 he').2
  rw [List.find?_append, hnone]
  simp

theorem ack_of_inFlight {q : Queue} {e : Envelope} {es : List Envelope}
    (h : q.inFlight = without e.id es ++ [e]) : q.ack e.id = .ok (q.settled e) := by
  simp only [ack, land?, h, find?_without_append_self, Option.map_some, settled]

end Queue

namespace Worker

variable {σ : Type} {worker : Worker σ} {s s' : σ}

theorem runOnce_idle (h : (worker.queue.get s).ready = []) : worker.runOnce s = (.ok .idle, s) := by
  simp only [runOnce, Queue.receive, h]

/-- **What is ready is handled and acknowledged**, if the handler succeeds and leaves the envelope in
flight. -/
theorem runOnce_handled {e : Envelope} {rest es : List Envelope}
    (accepts : worker.filter.accepts
      (e.stamp (.received (worker.queue.get s).name worker.now)) = true)
    (ready : (worker.queue.get s).ready = e :: rest)
    (handled : worker.handler.handle (e.stamp (.received (worker.queue.get s).name worker.now))
      (worker.queue.put ((worker.queue.get s).taken e rest) s) = (.ok (), s'))
    (inFlight : (worker.queue.get s').inFlight = Queue.without e.id es ++ [e]) :
    ∃ e', worker.runOnce s =
        (.ok (.handled e'), worker.queue.put ((worker.queue.get s').settled e) s') ∧
      e'.id = e.id ∧ e'.message = e.message := by
  refine ⟨(e.stamp (.received (worker.queue.get s).name worker.now)).stamp
    (.handled worker.handler.name worker.now), ?_, by simp, by simp⟩
  have hname : ((worker.queue.get s).taken e rest).name = (worker.queue.get s).name := rfl
  simp only [runOnce, Queue.receive_cons ready, hname, accepts, if_true, process, handled,
    Envelope.id_stamp, Queue.ack_of_inFlight inFlight, settle]

end Worker

/-! ## Books -/

namespace Bus

/-- **One envelope of a queue was acknowledged**, and nothing else was settled. -/
structure Acked (b b' : Bus) (name : String) (id : EnvelopeId) : Prop where
  names : ∀ n, (b'.queue? n).isSome = (b.queue? n).isSome
  others : ∀ n, n ≠ name → (b'.look n).books = (b.look n).books
  settled : ∃ e : Envelope, e.id = id ∧ (b'.look name).books = ((b.look name).settled e).books

/-- **What was handled was acknowledged**, in order and where it was taken from. Nothing was rejected,
and nothing more is in flight. -/
structure Settled (b b' : Bus) (handled : List (String × Envelope)) : Prop where
  acked : ∀ name, (b'.look name).acked.map (·.id) =
    (b.look name).acked.map (·.id) ++ (handled.filter (·.1 = name)).map (·.2.id)
  rejected : ∀ name, (b'.look name).rejected = (b.look name).rejected
  inFlight : ∀ name, ((b'.look name).inFlight).Sublist (b.look name).inFlight

variable {b b' b'' : Bus}

theorem Acked.named {name : String} {id : EnvelopeId} (h : b.Acked b' name id) (hn : b.Named) :
    b'.Named := by
  intro n
  by_cases hname : n = name
  · subst hname
    obtain ⟨e, _, hbooks⟩ := h.settled
    exact (Queue.books_eq_iff.1 hbooks).1.trans (hn n)
  · exact (Queue.books_eq_iff.1 (h.others n hname)).1.trans (hn n)

theorem look_update_taken (hn : b.Named) {name : String} (known : (b.queue? name).isSome = true)
    (e : Envelope) (rest : List Envelope) (n : String) :
    (b.update ((b.look name).taken e rest)).look n =
      if n = name then (b.look name).taken e rest else b.look n :=
  look_update ((b.look name).taken e rest) (hn name) known n

theorem look_update_settled (hn : b.Named) {name : String} (known : (b.queue? name).isSome = true)
    (e : Envelope) (n : String) :
    (b.update ((b.look name).settled e)).look n =
      if n = name then (b.look name).settled e else b.look n :=
  look_update ((b.look name).settled e) (hn name) known n

theorem acked_of_sameBooks (hn : b.Named) {name : String}
    (known : (b.queue? name).isSome = true) {e : Envelope} {rest : List Envelope}
    (h : (b.update ((b.look name).taken e rest)).SameBooks b') :
    b.Acked (b'.update ((b'.look name).settled e)) name e.id := by
  have htaken := look_update_taken hn known e rest
  have hnames : ∀ n, (b'.queue? n).isSome = (b.queue? n).isSome := fun n =>
    (h.names n).trans (isSome_queue?_update b _ n)
  have hsettled :=
    look_update_settled (h.named (hn.update _)) ((hnames name).trans known) e
  refine ⟨fun n => (isSome_queue?_update b' _ n).trans (hnames n), fun n hne => ?_, e, rfl, ?_⟩
  · rw [hsettled, if_neg hne, h.books, htaken, if_neg hne]
  · rw [hsettled, if_pos rfl, Queue.books_eq_iff]
    have hbooks := h.books name
    rw [htaken, if_pos rfl, Queue.books_eq_iff] at hbooks
    obtain ⟨hname, hinFlight, hacked, hrejected⟩ := hbooks
    refine ⟨hname, ?_, ?_, hrejected⟩
    · simp only [Queue.settled, hinFlight, Queue.taken, Queue.without_append_self]
    · simp only [Queue.settled, hacked, Queue.taken]

theorem SameBooks.settled (h : b.SameBooks b') : b.Settled b' [] where
  acked name := by simp [(Queue.books_eq_iff.1 (h.books name)).2.2.1]
  rejected name := (Queue.books_eq_iff.1 (h.books name)).2.2.2
  inFlight name := by
    have hsame := (Queue.books_eq_iff.1 (h.books name)).2.1
    exact hsame ▸ List.Sublist.refl _

theorem Settled.snoc {handled : List (String × Envelope)} (h : b.Settled b' handled)
    {name : String} {e : Envelope} (h' : b'.Acked b'' name e.id) :
    b.Settled b'' (handled ++ [(name, e)]) := by
  obtain ⟨e₀, hid, hbooks⟩ := h'.settled
  obtain ⟨_, hinFlight, hacked, hrejected⟩ := Queue.books_eq_iff.1 hbooks
  refine ⟨fun n => ?_, fun n => ?_, fun n => ?_⟩ <;> by_cases hn : n = name
  · subst hn
    rw [hacked, Queue.settled, List.map_append, h.acked n]
    simp [hid]
  · obtain ⟨_, _, hsame, _⟩ := Queue.books_eq_iff.1 (h'.others n hn)
    rw [hsame, h.acked n]
    simp [Ne.symm hn]
  · subst hn
    rw [hrejected, Queue.settled, h.rejected n]
  · obtain ⟨_, _, _, hsame⟩ := Queue.books_eq_iff.1 (h'.others n hn)
    rw [hsame, h.rejected n]
  · subst hn
    rw [hinFlight]
    exact List.filter_sublist.trans (h.inFlight n)
  · obtain ⟨_, hsame, _, _⟩ := Queue.books_eq_iff.1 (h'.others n hn)
    rw [hsame]
    exact h.inFlight n

end Bus

end WorkflowEngine
