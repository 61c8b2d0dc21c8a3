import WorkflowEngine.Proofs.Bus.Steps

/-!
# Copies of one envelope

An envelope may be sent more than once. A queue knows what is in flight by identifiers, so a copy that
is handed out while another one is in flight takes its place, and one of them cannot be settled any
more. Nothing is put back here.

* `Queue.Deed`, `Queue.perform`, `Queue.run`: sending, receiving and settling, and what comes of it;
* `Queue.Accounts`: what the events of a run say about the queue;
* `Accounts.perform`, `Accounts.run`: one deed and all deeds keep the accounts;
* `settleAll_ok_iff`: how often an identifier can be settled;
* **`copies_of_run`**: what was sent is accounted for, but for the copies that were displaced.
-/

namespace WorkflowEngine

namespace Queue

/-! ## Deeds -/

inductive Answer where
  | ack
  | reject
  deriving DecidableEq, Repr

/-- **Settle an envelope in flight** as the answer says. -/
def settle (q : Queue) (id : EnvelopeId) : Answer → Except BusError Queue
  | .ack => q.ack id
  | .reject => q.reject id

/-- Settle an envelope again and again; this fails when one of the answers does. -/
def settleAll (q : Queue) (id : EnvelopeId) : List Answer → Except BusError Queue
  | [] => .ok q
  | answer :: answers =>
    match q.settle id answer with
    | .ok q => q.settleAll id answers
    | .error cause => .error cause

/-- **What may be done with a queue**, but for putting back what is in flight. -/
inductive Deed where
  | send (e : Envelope)
  | receive
  | settle (id : EnvelopeId) (answer : Answer)
  deriving DecidableEq, Repr

/-- **What comes of a deed.** An envelope that is handed out may displace one in flight. -/
inductive Event where
  | sent (id : EnvelopeId)
  | handed (id : EnvelopeId) (displacing : Bool)
  | settled (id : EnvelopeId)
  | nothing
  deriving DecidableEq, Repr

def inFlightIds (q : Queue) : List EnvelopeId := q.inFlight.map (·.id)

/-- **Do one thing** with a queue. A deed that fails leaves the queue as it was. -/
def perform (q : Queue) : Deed → Queue × Event
  | .send e => (q.send e, .sent e.id)
  | .receive =>
    match q.receive with
    | (none, q') => (q', .nothing)
    | (some e, q') => (q', .handed e.id (decide (e.id ∈ q.inFlightIds)))
  | .settle id answer =>
    match q.settle id answer with
    | .ok q' => (q', .settled id)
    | .error _ => (q, .nothing)

/-- **Do one thing after the other**; all that came of it, in order. -/
def run (q : Queue) : List Deed → Queue × List Event
  | [] => (q, [])
  | deed :: deeds =>
    let (q, event) := q.perform deed
    let (q, events) := q.run deeds
    (q, event :: events)

/-! ## What a deed does -/

theorem map_id_without (id : EnvelopeId) (es : List Envelope) :
    (without id es).map (·.id) = (es.map (·.id)).filter (· ≠ id) := by
  rw [without, List.filter_map]
  rfl

theorem length_without (id : EnvelopeId) (es : List Envelope) :
    (without id es).length + (es.map (·.id)).count id = es.length := by
  induction es with
  | nil => rfl
  | cons e es ih =>
    by_cases h : e.id = id
    · have hrest : without id (e :: es) = without id es := by simp [without, h]
      rw [hrest, List.map_cons, h, List.count_cons_self, List.length_cons]
      omega
    · have hrest : without id (e :: es) = e :: without id es := by simp [without, h]
      rw [hrest, List.map_cons, List.count_cons_of_ne h, List.length_cons, List.length_cons]
      omega

theorem count_ids_without (q : Queue) (id x : EnvelopeId) :
    ((without id q.inFlight).map (·.id)).count x = if x = id then 0 else q.inFlightIds.count x := by
  rw [map_id_without]
  split
  · next h =>
    subst h
    exact List.count_eq_zero.2 (by simp)
  · next h => exact List.count_filter (by simpa using h)

theorem settle_cases (q : Queue) (id : EnvelopeId) (answer : Answer) :
    (id ∉ q.inFlightIds ∧ q.settle id answer = .error (.notInFlight q.name id)) ∨
      ∃ e ∈ q.inFlight, e.id = id ∧
        (q.settle id answer = .ok (q.settled e) ∨ q.settle id answer = .ok (q.returned e)) := by
  cases answer with
  | ack =>
    obtain h | ⟨e, he, hid, h⟩ := q.ack_cases id
    · exact .inl h
    · exact .inr ⟨e, he, hid, .inl h⟩
  | reject =>
    obtain h | ⟨e, he, hid, h⟩ := q.reject_cases id
    · exact .inl h
    · exact .inr ⟨e, he, hid, .inr h⟩

/-! ## Accounts -/

namespace Event

def isSent : Event → Bool
  | .sent _ => true
  | _ => false

/-- An envelope was handed out while another one of its identifier was in flight. -/
def isDisplacing : Event → Bool
  | .handed _ displacing => displacing
  | _ => false

def hands (id : EnvelopeId) : Event → Bool
  | .handed id' _ => id' = id
  | _ => false

def displaces (id : EnvelopeId) : Event → Bool
  | .handed id' displacing => id' = id && displacing
  | _ => false

def settles (id : EnvelopeId) : Event → Bool
  | .settled id' => id' = id
  | _ => false

end Event

/-- **The accounts of a queue** after some events.

Every envelope that was sent is ready, in flight or settled, unless it was displaced. Of the envelopes
of an identifier that were handed out, one at most is in flight, and the others were settled or
displaced. -/
structure Accounts (q : Queue) (events : List Event) : Prop where
  total : events.countP Event.isSent = q.ready.length + q.inFlight.length + q.acked.length +
    q.rejected.length + events.countP Event.isDisplacing
  copies : ∀ id, events.countP (Event.hands id) = events.countP (Event.settles id) +
    q.inFlightIds.count id + events.countP (Event.displaces id)
  distinct : q.inFlightIds.Nodup

variable {q : Queue} {events : List Event}

namespace Accounts

theorem start (name : String) : Accounts { name } [] where
  total := rfl
  copies _ := rfl
  distinct := .nil

theorem send (h : Accounts q events) (e : Envelope) :
    Accounts (q.send e) (events ++ [.sent e.id]) where
  total := by
    have htotal := h.total
    simp only [Queue.send, List.countP_append, List.countP_singleton, Event.isSent,
      Event.isDisplacing, List.length_append, List.length_singleton, if_true, Bool.false_eq_true,
      if_false]
    omega
  copies id := by
    have hcopies := h.copies id
    simpa [Queue.send, inFlightIds, List.countP_append, Event.hands, Event.settles,
      Event.displaces] using hcopies
  distinct := h.distinct

theorem nothing (h : Accounts q events) : Accounts q (events ++ [.nothing]) where
  total := by
    have htotal := h.total
    simpa [List.countP_append, Event.isSent, Event.isDisplacing] using htotal
  copies id := by
    have hcopies := h.copies id
    simpa [List.countP_append, Event.hands, Event.settles, Event.displaces] using hcopies
  distinct := h.distinct

theorem taken (h : Accounts q events) {e : Envelope} {rest : List Envelope}
    (ready : q.ready = e :: rest) :
    Accounts (q.taken e rest) (events ++ [.handed e.id (decide (e.id ∈ q.inFlightIds))]) := by
  -- of the identifier, one was in flight if it is displaced now, and else none was
  have hcount : q.inFlightIds.count e.id = if e.id ∈ q.inFlightIds then 1 else 0 := by
    split
    · next hmem => exact List.count_eq_one_of_mem h.distinct hmem
    · next hmem => exact List.count_eq_zero.2 hmem
  have hlength : (without e.id q.inFlight).length + q.inFlightIds.count e.id = q.inFlight.length :=
    length_without e.id q.inFlight
  have hids : (q.taken e rest).inFlightIds = (without e.id q.inFlight).map (·.id) ++ [e.id] := by
    simp [inFlightIds, Queue.taken]
  exact
    { total := by
        have htotal := h.total
        simp only [Queue.taken, ready, List.countP_append, List.countP_singleton, Event.isSent,
          Event.isDisplacing, List.length_append, List.length_cons, List.length_nil,
          decide_eq_true_eq, Bool.false_eq_true, if_false] at htotal ⊢
        omega
      copies := by
        intro id
        have hcopies := h.copies id
        rw [hids, List.count_append, q.count_ids_without, List.count_singleton]
        simp only [List.countP_append, List.countP_singleton, Event.hands, Event.settles,
          Event.displaces, Bool.false_eq_true, if_false, Bool.and_eq_true, decide_eq_true_eq]
        by_cases hid : e.id = id
        · subst hid
          simp only [if_true, true_and, beq_self_eq_true]
          omega
        · have hid' : id ≠ e.id := fun heq => hid heq.symm
          simp only [hid, hid', if_false, false_and, beq_iff_eq]
          omega
      distinct := by
        rw [hids, map_id_without]
        refine List.nodup_append.2 ⟨h.distinct.filter _, List.nodup_singleton _, ?_⟩
        rintro x hx y hy rfl
        rw [List.mem_singleton.1 hy] at hx
        simp at hx }

theorem landed (h : Accounts q events) {e : Envelope} {q' : Queue} (inFlight : e ∈ q.inFlight)
    (ready : q'.ready = q.ready) (rest : q'.inFlight = without e.id q.inFlight)
    (booked : q'.acked.length + q'.rejected.length = q.acked.length + q.rejected.length + 1) :
    Accounts q' (events ++ [.settled e.id]) := by
  have hmem : e.id ∈ q.inFlightIds := List.mem_map_of_mem inFlight
  have hcount : q.inFlightIds.count e.id = 1 := List.count_eq_one_of_mem h.distinct hmem
  have hlength : (without e.id q.inFlight).length + q.inFlightIds.count e.id = q.inFlight.length :=
    length_without e.id q.inFlight
  have hids : q'.inFlightIds = (without e.id q.inFlight).map (·.id) := by rw [inFlightIds, rest]
  exact
    { total := by
        have htotal := h.total
        simp only [ready, rest, List.countP_append, List.countP_singleton, Event.isSent,
          Event.isDisplacing, Bool.false_eq_true, if_false]
        omega
      copies := by
        intro id
        have hcopies := h.copies id
        rw [hids, q.count_ids_without]
        simp only [List.countP_append, List.countP_singleton, Event.hands, Event.settles,
          Event.displaces, Bool.false_eq_true, if_false, decide_eq_true_eq]
        by_cases hid : e.id = id
        · subst hid
          simp only [if_true]
          omega
        · have hid' : id ≠ e.id := fun heq => hid heq.symm
          simp only [hid, hid', if_false]
          omega
      distinct := by
        rw [hids, map_id_without]
        exact h.distinct.filter _ }

theorem perform (h : Accounts q events) (deed : Deed) :
    Accounts (q.perform deed).1 (events ++ [(q.perform deed).2]) := by
  cases deed with
  | send e => exact h.send e
  | receive =>
    cases hready : q.ready with
    | nil =>
      have hperform : q.perform .receive = (q, .nothing) := by
        simp only [Queue.perform, receive, hready]
      rw [hperform]
      exact h.nothing
    | cons e rest =>
      have hperform : q.perform .receive =
          (q.taken e rest, .handed e.id (decide (e.id ∈ q.inFlightIds))) := by
        simp only [Queue.perform, receive_cons hready]
      rw [hperform]
      exact h.taken hready
  | settle id answer =>
    obtain ⟨-, hsettle⟩ | ⟨e, he, rfl, hsettle | hsettle⟩ := q.settle_cases id answer
    · simp only [Queue.perform, hsettle]
      exact h.nothing
    -- acknowledged or rejected, the envelope is written into one of the two books
    · have hbooked : (q.settled e).acked.length + (q.settled e).rejected.length =
          q.acked.length + q.rejected.length + 1 := by
        simp only [settled, List.length_append, List.length_singleton]
        omega
      simp only [Queue.perform, hsettle]
      exact h.landed he rfl rfl hbooked
    · have hbooked : (q.returned e).acked.length + (q.returned e).rejected.length =
          q.acked.length + q.rejected.length + 1 := by
        simp only [returned, List.length_append, List.length_singleton]
        omega
      simp only [Queue.perform, hsettle]
      exact h.landed he rfl rfl hbooked

theorem run (h : Accounts q events) (deeds : List Deed) :
    Accounts (q.run deeds).1 (events ++ (q.run deeds).2) := by
  induction deeds generalizing q events with
  | nil => simpa [Queue.run] using h
  | cons deed deeds ih =>
    have hrest := ih (h.perform deed)
    rwa [List.append_assoc, List.singleton_append] at hrest

end Accounts

/-! ## How often an identifier can be settled -/

theorem settleAll_of_notMem {id : EnvelopeId} {answers : List Answer}
    (gone : id ∉ q.inFlightIds) : (∃ q', q.settleAll id answers = .ok q') ↔ answers = [] := by
  cases answers with
  | nil => simp [settleAll]
  | cons answer answers =>
    obtain ⟨-, hsettle⟩ | ⟨e, he, rfl, -⟩ := q.settle_cases id answer
    · simp [settleAll, hsettle]
    · exact absurd (List.mem_map_of_mem he) gone

/-- **An identifier can be settled as often as it is in flight**, which is once at most. -/
theorem settleAll_ok_iff {id : EnvelopeId} {answers : List Answer}
    (single : q.inFlightIds.count id ≤ 1) :
    (∃ q', q.settleAll id answers = .ok q') ↔ answers.length ≤ q.inFlightIds.count id := by
  by_cases hmem : id ∈ q.inFlightIds
  · have hcount : q.inFlightIds.count id = 1 :=
      Nat.le_antisymm single (List.count_pos_iff.2 hmem)
    rw [hcount]
    cases answers with
    | nil => simp [settleAll]
    | cons answer answers =>
      -- after the first answer, the identifier is not in flight any more
      obtain ⟨gone, -⟩ | ⟨e, -, rfl, hsettle⟩ := q.settle_cases id answer
      · exact absurd hmem gone
      · have hgone : e.id ∉ (without e.id q.inFlight).map (·.id) := by simp [map_id_without]
        have hrest : (∃ q', q.settleAll e.id (answer :: answers) = .ok q') ↔ answers = [] := by
          obtain hsettle | hsettle := hsettle
          · simp only [settleAll, hsettle]
            exact settleAll_of_notMem hgone
          · simp only [settleAll, hsettle]
            exact settleAll_of_notMem hgone
        rw [hrest, List.length_cons, ← List.length_eq_zero_iff]
        omega
  · rw [settleAll_of_notMem hmem, List.count_eq_zero.2 hmem, Nat.le_zero, List.length_eq_zero_iff]

/-- **What was sent is accounted for, but for the copies that were displaced.**

After any deeds, every envelope that was sent is ready, in flight, acknowledged or rejected, but for
those that were in flight when another one of their identifier was handed out. The copies of an
envelope that were handed out and not settled yet can all be settled, in whatever way, exactly when no
copy of it was displaced. -/
theorem copies_of_run (name : String) (deeds : List Deed) :
    let q := (run { name } deeds).1
    let events := (run { name } deeds).2
    events.countP Event.isSent = q.ready.length + q.inFlight.length + q.acked.length +
        q.rejected.length + events.countP Event.isDisplacing ∧
      ∀ (id : EnvelopeId) (answers : List Answer),
        events.countP (Event.hands id) = events.countP (Event.settles id) + answers.length →
          ((∃ q', q.settleAll id answers = .ok q') ↔ events.countP (Event.displaces id) = 0) := by
  intro q events
  have h : Accounts q events := by
    have hrun := (Accounts.start name).run deeds
    rwa [List.nil_append] at hrun
  refine ⟨h.total, fun id answers hopen => ?_⟩
  have hsingle := List.nodup_iff_count_le_one.1 h.distinct id
  have hcopies := h.copies id
  rw [settleAll_ok_iff hsingle]
  omega

/-- An envelope is sent again before it is acknowledged, and received again afterwards. Then the second
copy can be rejected. -/
theorem copies_of_run_inTurn :
    let e := Worker.loadIn "aac" 1
    let deeds : List Deed := [.send e, .receive, .send e, .settle e.id .ack, .receive]
    let q := (run { name := "load" } deeds).1
    let events := (run { name := "load" } deeds).2
    events.countP (Event.hands e.id) = events.countP (Event.settles e.id) + [Answer.reject].length ∧
      ∃ q', q.settleAll e.id [.reject] = .ok q' := by
  intro e deeds q events
  have hopen : events.countP (Event.hands e.id) =
      events.countP (Event.settles e.id) + [Answer.reject].length := by decide +kernel
  exact ⟨hopen, ((copies_of_run "load" deeds).2 e.id [.reject] hopen).2 (by decide +kernel)⟩

/-- Two copies of an envelope are received, and one of them is lost: one is accounted for, and only one
acknowledgement succeeds. -/
theorem run_displaces_copy :
    let e := Worker.loadIn "aac" 1
    let q := (run { name := "load" } [.send e, .send e, .receive, .receive]).1
    let events := (run { name := "load" } [.send e, .send e, .receive, .receive]).2
    events = [.sent e.id, .sent e.id, .handed e.id false, .handed e.id true] ∧
      q.ready.length + q.inFlight.length + q.acked.length + q.rejected.length = 1 ∧
      ∃ q', q.ack e.id = .ok q' ∧ q'.ack e.id = .error (.notInFlight "load" e.id) ∧
        q'.reject e.id = .error (.notInFlight "load" e.id) := by
  intro e q events
  exact ⟨by decide +kernel, by decide +kernel,
    { name := "load", acked := [e] }, by decide +kernel, by decide +kernel, by decide +kernel⟩

end Queue

end WorkflowEngine
