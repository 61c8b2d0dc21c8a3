import WorkflowEngine.Proofs.Bus.Queues
import WorkflowEngine.Proofs.Bus.Stages

/-!
# Delivered once, or not at all

A bus has a berth for every queue: the names of its queues, and one for a fallback queue of its own.
An envelope is put behind what is ready at one berth, or nowhere.

* `Bus.ofQueues`: a bus with some queues, each under its own name;
* `Berth`, `Bus.at?`, `Bus.berth?`: the queues of a bus, and where an envelope belongs;
* `Bus.push`, `at?_push`: putting an envelope behind the others at a berth changes that berth only;
* `destination?`, `refusal`: the berth where an envelope can go, and what is said if there is none;
* `send_eq`, `dispatch_eq`: sending and dispatching are putting the envelope there, or refusing it;
* **`dispatch_delivers_once`**: what a dispatch does to the bus, and to the envelope.
-/

namespace WorkflowEngine

/-! ## Berths -/

/-- **Where a queue stands on a bus**: under a name, or as a fallback that no route can name. -/
inductive Berth where
  | named (name : String)
  | own
  deriving DecidableEq, Repr

def Fallback.berth? : Fallback → Option Berth
  | .none => Option.none
  | .shared name => some (.named name)
  | .own _ => some .own

namespace Bus

/-- **A bus with some queues**, each under its own name; of queues with one name, it has the last. -/
def ofQueues (queues : List Queue) (fallback : Fallback) : Bus :=
  { queues := .ofList (queues.map fun q => (q.name, q)), fallback }

def at? (b : Bus) : Berth → Option Queue
  | .named name => b.queue? name
  | .own =>
    match b.fallback with
    | .own q => some q
    | _ => none

/-- **Where an envelope belongs**: under the address of its route, or without route at the fallback. -/
def berth? (b : Bus) (e : Envelope) : Option Berth :=
  match e.route? with
  | some address => some (.named address)
  | none => b.fallback.berth?

/-- **Put an envelope behind the others** at a berth. -/
def push (b : Bus) (e : Envelope) : Berth → Bus
  | .named name =>
    match b.queue? name with
    | some q => { b with queues := b.queues.insert name (q.send e) }
    | none => b
  | .own =>
    match b.fallback with
    | .own q => { b with fallback := .own (q.send e) }
    | _ => b

variable {b : Bus} {e : Envelope} {queues : List Queue} {fallback : Fallback}

theorem name_of_queue?_ofQueues {name : String} {q : Queue}
    (h : (ofQueues queues fallback).queue? name = some q) : q.name = name := by
  obtain ⟨q', -, heq⟩ := List.mem_map.1 (SortedMap.mem_of_get?_ofList h)
  cases heq
  rfl

theorem at?_push (b : Bus) (e : Envelope) (berth other : Berth) :
    (b.push e berth).at? other =
      if other = berth then (b.at? berth).map (·.send e) else b.at? other := by
  cases berth with
  | named name =>
    cases hq : b.queue? name with
    | none =>
      have hpush : b.push e (.named name) = b := by simp only [push, hq]
      rw [hpush]
      split
      · next h => rw [h, at?, hq, Option.map_none]
      · rfl
    | some q =>
      have hpush : b.push e (.named name) =
          { b with queues := b.queues.insert name (q.send e) } := by simp only [push, hq]
      rw [hpush]
      cases other with
      | own => rfl
      | named other =>
        by_cases h : other = name
        · rw [if_pos (congrArg Berth.named h), h, at?, at?, hq, Option.map_some]
          exact SortedMap.get?_insert_self ..
        · rw [if_neg (fun heq => h (Berth.named.inj heq))]
          exact SortedMap.get?_insert_of_ne _ h _
  | own =>
    cases other with
    | named other => cases hf : b.fallback <;> simp [push, hf, at?, queue?]
    | own => cases hf : b.fallback <;> simp [push, hf, at?]

theorem berth?_fallback_push (b : Bus) (e : Envelope) (berth : Berth) :
    (b.push e berth).fallback.berth? = b.fallback.berth? := by
  cases berth with
  | named name => cases hq : b.queue? name <;> simp only [push, hq]
  | own => cases hf : b.fallback <;> simp only [push, hf, Fallback.berth?]

/-! ## The way of an envelope -/

/-- The berth where an envelope belongs, if there is a queue at it. -/
def destination? (b : Bus) (e : Envelope) : Option Berth :=
  (b.berth? e).filter fun berth => (b.at? berth).isSome

/-- What is said of an envelope that has nowhere to go. -/
def refusal (e : Envelope) : BusError :=
  match e.route? with
  | some address => .unknownTransport address
  | none => .noRoute e.message.workflow e.message.transition

theorem destination?_of_at? {berth : Berth} {q : Queue} (belongs : b.berth? e = some berth)
    (h : b.at? berth = some q) : b.destination? e = some berth := by
  rw [destination?, belongs, Option.filter_some, h]
  rfl

theorem destination?_of_at?_none {berth : Berth} (belongs : b.berth? e = some berth)
    (h : b.at? berth = none) : b.destination? e = none := by
  rw [destination?, belongs, Option.filter_some, h]
  rfl

/-- **Sending is putting the envelope to its berth**, or refusing it. -/
theorem send_eq (named : ∀ {name q}, b.queue? name = some q → q.name = name) (e : Envelope) :
    b.send e = match b.destination? e with
      | some berth => (.ok (), b.push e berth)
      | none => (.error (refusal e), b) := by
  -- a queue that is sent to keeps its name, so it is put back where it was
  have hupdate : ∀ {name q}, b.queue? name = some q →
      b.update (q.send e) = b.push e (.named name) := by
    intro name q hq
    have hname : (q.send e).name = name := named (q := q) hq
    simp only [update, hname, hq, push]
  cases hroute : e.route? with
  | some address =>
    have hberth : b.berth? e = some (.named address) := by simp only [berth?, hroute]
    cases hq : b.queue? address with
    | some q =>
      rw [destination?_of_at? hberth hq]
      simp only [send, hroute, hq, hupdate hq]
    | none =>
      rw [destination?_of_at?_none hberth hq]
      simp only [send, hroute, hq, refusal]
  | none =>
    have hberth : b.berth? e = b.fallback.berth? := by simp only [berth?, hroute]
    cases hf : b.fallback with
    | none =>
      have hnone : b.destination? e = none := by rw [destination?, hberth, hf]; rfl
      rw [hnone]
      simp only [send, hroute, hf, refusal]
    | own q =>
      rw [hf] at hberth
      rw [destination?_of_at? hberth (q := q) (by simp only [at?, hf])]
      simp only [send, hroute, hf, push]
    | shared name =>
      rw [hf] at hberth
      cases hq : b.queue? name with
      | some q =>
        rw [destination?_of_at? hberth hq]
        simp only [send, hroute, hf, hq, hupdate hq]
      | none =>
        rw [destination?_of_at?_none hberth hq]
        simp only [send, hroute, hf, hq, refusal]

/-- **Dispatching comes down to the end of the way**: the envelope as it leaves the stages comes to its
berth, or is refused. -/
theorem dispatch_eq (named : ∀ {name q}, b.queue? name = some q → q.name = name)
    (locators : List Locator) (e : Envelope) :
    b.dispatch (locators.map routingStage) e = match b.destination? (e.through locators) with
      | some berth => (.ok (e.through locators), b.push (e.through locators) berth)
      | none => (.error (refusal (e.through locators)), b) := by
  change ((b.send (e.through locators)).1.map fun _ => e.through locators,
    (b.send (e.through locators)).2) = _
  rw [send_eq named]
  cases b.destination? (e.through locators) <;> rfl

/-- **An envelope was delivered**: as it was but for a route put on at the end, if it had none and was
not under way before; and behind what was ready at the one berth where it belongs. -/
structure Delivered (b b' : Bus) (e e' : Envelope) : Prop where
  id : e'.id = e.id
  message : e'.message = e.message
  stamps : ∃ address? : Option String, e'.stamps = e.stamps ++ address?.toList.map .route ∧
    ((e.hasLifecycleMarker || e.hasRoute) = true → address? = none)
  berth : ∃ berth q, b.berth? e' = some berth ∧ b.at? berth = some q ∧ b' = b.push e' berth ∧
    b'.at? berth = some { q with ready := q.ready ++ [e'] } ∧
    ∀ other, other ≠ berth → b'.at? other = b.at? other
  fallback : b'.fallback.berth? = b.fallback.berth?

theorem exists_stamps_through (e : Envelope) (locators : List Locator) :
    ∃ address? : Option String,
      (e.through locators).stamps = e.stamps ++ address?.toList.map .route ∧
        ((e.hasLifecycleMarker || e.hasRoute) = true → address? = none) := by
  rcases through_cases e locators with heq | ⟨hundirected, address, heq⟩
  · exact ⟨none, by simp [heq], fun _ => rfl⟩
  · refine ⟨some address, ?_, fun h => by simp [hundirected] at h⟩
    rw [heq, Envelope.stamps_stamp_of_context?_none rfl]
    rfl

theorem delivered_of_destination? {locators : List Locator} {berth : Berth}
    (h : b.destination? (e.through locators) = some berth) :
    b.Delivered (b.push (e.through locators) berth) e (e.through locators) where
  id := by rcases through_cases e locators with heq | ⟨-, address, heq⟩ <;> simp [heq]
  message := by rcases through_cases e locators with heq | ⟨-, address, heq⟩ <;> simp [heq]
  stamps := exists_stamps_through e locators
  berth := by
    obtain ⟨hberth, hsome⟩ := Option.filter_eq_some_iff.1 h
    obtain ⟨q, hq⟩ := Option.isSome_iff_exists.1 hsome
    refine ⟨berth, q, hberth, hq, rfl, ?_, fun other hne => ?_⟩
    · rw [at?_push, if_pos rfl, hq]
      rfl
    · rw [at?_push, if_neg hne]
  fallback := berth?_fallback_push b _ berth

/-- **A dispatch delivers an envelope once, or not at all.** When it fails, the bus is as it was, and
the envelope that left the stages has nowhere to go. -/
theorem dispatch_delivers_once (queues : List Queue) (fallback : Fallback) (locators : List Locator)
    (e : Envelope) :
    let b := ofQueues queues fallback
    match b.dispatch (locators.map routingStage) e with
    | (.ok e', b') => e' = e.through locators ∧ b.Delivered b' e e'
    | (.error cause, b') => b' = b ∧ cause = refusal (e.through locators) ∧
      b.destination? (e.through locators) = none := by
  intro b
  rw [dispatch_eq name_of_queue?_ofQueues]
  cases hdestination : b.destination? (e.through locators) with
  | none => exact ⟨rfl, rfl, rfl⟩
  | some berth => exact ⟨rfl, delivered_of_destination? hdestination⟩

end Bus

end WorkflowEngine
