import WorkflowEngine.Collection.Distinct
import WorkflowEngine.Guard.Cache

/-!
# The books of the cache of guards

A cache that is asked for the programs of guards, and cleared now and then, keeps those that were asked
for last, and its counts add up with what its callers were told.

* `Cache.Call`, `Cache.Event`: what a cache is called for, and what comes back;
* `Cache.run`: calls one after the other;
* `recent`: the texts that were served since the last clearing, the last one first;
* `Cache.Books`: a cache whose entries and counts are those of a history;
* `Books.hit`, `Books.miss`, `Books.refused`, `Books.clear`: each way a call may go keeps the books;
* **`books_run`**: the books hold after any calls, whatever the capacity.
-/

namespace WorkflowEngine.Guard

namespace Cache

/-- **What a cache is called for.** -/
inductive Call where
  | fetch (text : String)
  | clear

/-- **What a call comes to**: the answer to a text, or the number of entries that were dropped. -/
inductive Event (P : Type) where
  | answered (text : String) (answer : Except GuardError P)
  | cleared (dropped : Nat)

variable {P : Type}

/-- The text of an answer that is a program. -/
def Event.served? : Event P → Option String
  | .answered text (.ok _) => some text
  | _ => none

/-- The number of entries dropped. -/
def Event.dropped : Event P → Nat
  | .cleared dropped => dropped
  | .answered _ _ => 0

/-- An answer, not a clearing. -/
def Event.isAnswer : Event P → Bool
  | .answered _ _ => true
  | .cleared _ => false

/-- One call, and the cache after it. -/
def turn (l : Language P) (c : Cache P) : Call → Event P × Cache P
  | .fetch text => (.answered text (c.fetch l text).1, (c.fetch l text).2)
  | .clear => (.cleared c.entries.length, c.clear)

/-- **Calls one after the other**: what they came to, and the cache after all of them. -/
def run (l : Language P) (c : Cache P) : List Call → List (Event P) × Cache P
  | [] => ([], c)
  | call :: calls =>
    let rest := (c.turn l call).2.run l calls
    ((c.turn l call).1 :: rest.1, rest.2)

/-! ## The history of a cache -/

/-- **The texts served since the last clearing**, each once, the last one first. -/
def recent (log : List (Event P)) : List String :=
  distinct ((log.reverse.takeWhile Event.isAnswer).filterMap Event.served?)

/-- The answers that were programs. -/
def served (log : List (Event P)) : Nat := log.countP fun event => event.served?.isSome

/-- The entries that were dropped by clearing, all together. -/
def dropped : List (Event P) → Nat
  | [] => 0
  | event :: log => event.dropped + dropped log

variable {l : Language P} {c : Cache P} {log : List (Event P)} {text : String} {e : P}

theorem recent_served (log : List (Event P)) (text : String) (e : P) :
    recent (log ++ [.answered text (.ok e)]) = text :: (recent log).filter (· ≠ text) := by
  rw [recent, List.reverse_append]
  rfl

theorem recent_refused (log : List (Event P)) (text : String) (cause : GuardError) :
    recent (log ++ [.answered text (.error cause)]) = recent log := by
  rw [recent, List.reverse_append]
  rfl

theorem recent_cleared (log : List (Event P)) (n : Nat) : recent (log ++ [.cleared n]) = [] := by
  rw [recent, List.reverse_append]
  rfl

theorem nodup_recent (log : List (Event P)) : (recent log).Nodup := nodup_distinct _

theorem served_append (log : List (Event P)) (event : Event P) :
    served (log ++ [event]) = served log + if event.served?.isSome then 1 else 0 := by
  rw [served, List.countP_append, List.countP_singleton]
  rfl

theorem dropped_append (log : List (Event P)) (event : Event P) :
    dropped (log ++ [event]) = dropped log + event.dropped := by
  induction log with
  | nil => exact Nat.add_comm _ _
  | cons first log ih => rw [List.cons_append, dropped, ih, dropped, Nat.add_assoc]

/-! ## Taking from a list without one entry -/

variable {α : Type} [DecidableEq α] {x : α} {xs : List α}

theorem filter_ne_of_notMem (h : x ∉ xs) : xs.filter (· ≠ x) = xs :=
  List.filter_eq_self.2 fun y hy => by simpa using fun heq : y = x => h (heq ▸ hy)

theorem take_filter_of_mem (nodup : xs.Nodup) {n : Nat} (h : x ∈ xs.take (n + 1)) :
    (xs.filter (· ≠ x)).take n = (xs.take (n + 1)).filter (· ≠ x) := by
  induction xs generalizing n with
  | nil => cases h
  | cons y ys ih =>
    obtain ⟨hy, hys⟩ := List.nodup_cons.1 nodup
    by_cases hxy : y = x
    · subst hxy
      have htaken : y ∉ ys.take n := fun hmem => hy (List.mem_of_mem_take hmem)
      rw [List.take_succ_cons, List.filter_cons_of_neg (by simp), List.filter_cons_of_neg (by simp),
        filter_ne_of_notMem hy, filter_ne_of_notMem htaken]
    · have hmem : x ∈ ys.take n := by
        rw [List.take_succ_cons] at h
        exact (List.mem_cons.1 h).resolve_left fun heq => hxy heq.symm
      cases n with
      | zero => simp at hmem
      | succ n =>
        rw [List.take_succ_cons, List.filter_cons_of_pos (by simpa using hxy),
          List.filter_cons_of_pos (by simpa using hxy), List.take_succ_cons, ih hys hmem]

theorem take_filter_of_notMem {n : Nat} (h : x ∉ xs.take n) :
    (xs.filter (· ≠ x)).take n = xs.take n := by
  induction xs generalizing n with
  | nil => simp
  | cons y ys ih =>
    cases n with
    | zero => simp
    | succ n =>
      rw [List.take_succ_cons, List.mem_cons, not_or] at h
      rw [List.filter_cons_of_pos (by simpa using fun heq : y = x => h.1 heq.symm),
        List.take_succ_cons, List.take_succ_cons, ih h.2]

theorem length_filter_ne (nodup : xs.Nodup) (h : x ∈ xs) :
    (xs.filter (· ≠ x)).length + 1 = xs.length := by
  have herase : xs.erase x = xs.filter (· ≠ x) := by
    rw [nodup.erase_eq_filter]
    exact List.filter_congr fun y _ => Bool.eq_iff_iff.2 (by simp)
  have hpos := List.length_pos_of_mem h
  rw [← herase, List.length_erase_of_mem h]
  omega

/-! ## The books -/

/-- **The books of a cache** with a history: what is kept are the texts that were served last, and the
counts are those of the history. -/
structure Books (c : Cache P) (log : List (Event P)) : Prop where
  capacity_pos : 1 ≤ c.capacity
  texts : c.entries.map (·.1) = (recent log).take c.capacity
  size : c.size = c.entries.length
  requests : c.hits + c.misses = served log
  balance : c.misses = c.evictions + c.size + dropped log

theorem capacity_new (requested : Nat) :
    (new requested : Cache P).capacity = if requested = 0 then defaultCapacity else requested := rfl

theorem books_new (requested : Nat) : (new requested : Cache P).Books [] where
  capacity_pos := by
    rw [capacity_new]
    split
    · decide
    · omega
  texts := by simp [new, recent]
  size := rfl
  requests := rfl
  balance := rfl

theorem Books.size_eq_min (h : c.Books log) : c.size = min c.capacity (recent log).length := by
  rw [h.size, ← List.length_map (·.1), h.texts, List.length_take]

theorem isSome_find? : (c.find? text).isSome = true ↔ text ∈ c.entries.map (·.1) := by
  simp [find?, List.find?_isSome]

/-- **A hit keeps the books**: the text moves to the front of both lists. -/
theorem Books.hit (h : c.Books log) (found : c.find? text = some e) :
    (c.promote text e).Books (log ++ [.answered text (.ok e)]) := by
  obtain ⟨n, hn⟩ := Nat.exists_eq_add_of_le' h.capacity_pos
  have hkept : text ∈ c.entries.map (·.1) := isSome_find?.1 (by simp [found])
  have hnodup : (c.entries.map (·.1)).Nodup := by
    rw [h.texts]
    exact (nodup_recent log).sublist (List.take_sublist _ _)
  have hfront : (c.promote text e).entries.map (·.1) =
      text :: (c.entries.map (·.1)).filter (· ≠ text) := by
    rw [List.filter_map]
    rfl
  constructor
  · exact h.capacity_pos
  · calc (c.promote text e).entries.map (·.1)
        = text :: ((recent log).take (n + 1)).filter (· ≠ text) := by rw [hfront, h.texts, hn]
      _ = (text :: (recent log).filter (· ≠ text)).take (n + 1) := by
          rw [h.texts, hn] at hkept
          rw [List.take_succ_cons, take_filter_of_mem (nodup_recent log) hkept]
      _ = (recent (log ++ [.answered text (.ok e)])).take (c.promote text e).capacity := by
          rw [recent_served, ← hn]
          rfl
  · rw [← List.length_map (·.1), hfront, List.length_cons, length_filter_ne hnodup hkept,
      List.length_map]
    exact h.size
  · rw [served_append, ← h.requests]
    exact Nat.add_right_comm _ 1 _
  · rw [dropped_append]
    exact h.balance

/-- **A miss keeps the books**: the text comes to the front of both lists, and where the cache was
full its last text gives way. -/
theorem Books.miss (h : c.Books log) (missing : c.find? text = none) :
    (c.keep text e).Books (log ++ [.answered text (.ok e)]) := by
  obtain ⟨n, hn⟩ := Nat.exists_eq_add_of_le' h.capacity_pos
  have hnotMem : text ∉ (recent log).take n := by
    intro hmem
    have hkept : text ∈ c.entries.map (·.1) := by
      rw [h.texts, hn]
      exact (List.take_sublist_take_left (Nat.le_succ n)).subset hmem
    rw [← isSome_find?, missing] at hkept
    cases hkept
  constructor
  · exact h.capacity_pos
  · calc (c.keep text e).entries.map (·.1)
        = text :: (c.entries.map (·.1)).take n := by simp [keep, hn, List.map_take]
      _ = text :: (recent log).take n := by
          rw [h.texts, hn, List.take_take, Nat.min_eq_left (Nat.le_succ n)]
      _ = (text :: (recent log).filter (· ≠ text)).take (n + 1) := by
          rw [List.take_succ_cons, take_filter_of_notMem hnotMem]
      _ = (recent (log ++ [.answered text (.ok e)])).take (c.keep text e).capacity := by
          rw [recent_served, ← hn]
          rfl
  · rfl
  · rw [served_append, ← h.requests]
    rfl
  · -- a cache that was full drops one entry for the new one, any other grows by one
    have hbalance := h.balance
    have hsize := h.size
    have hroom : c.size ≤ c.capacity := h.size_eq_min ▸ Nat.min_le_left _ _
    rw [dropped_append]
    simp only [keep, Event.dropped, List.length_cons, List.length_take]
    split <;> omega

theorem snd_fetch_of_error {cause : GuardError} (h : (c.fetch l text).1 = .error cause) :
    (c.fetch l text).2 = c := by
  unfold fetch at *
  split at h
  · cases h
  · split at h
    · cases h
    · rfl

theorem Books.refused (h : c.Books log) (text : String) (cause : GuardError) :
    c.Books (log ++ [.answered text (.error cause)]) where
  capacity_pos := h.capacity_pos
  texts := by rw [recent_refused, h.texts]
  size := h.size
  requests := by
    rw [served_append, h.requests]
    rfl
  balance := by
    rw [dropped_append]
    exact h.balance

theorem Books.clear (h : c.Books log) : c.clear.Books (log ++ [.cleared c.entries.length]) where
  capacity_pos := h.capacity_pos
  texts := by
    rw [recent_cleared, List.take_nil]
    rfl
  size := rfl
  requests := by
    rw [served_append]
    exact h.requests
  balance := by
    have hbalance := h.balance
    rw [dropped_append, ← h.size]
    simp only [Cache.clear, Event.dropped]
    omega

theorem Books.turn (h : c.Books log) (call : Call) :
    (c.turn l call).2.Books (log ++ [(c.turn l call).1]) := by
  cases call with
  | clear => exact h.clear
  | fetch text =>
    simp only [Cache.turn]
    cases found : c.find? text with
    | some e =>
      simp only [fetch, found]
      exact h.hit found
    | none =>
      cases compiled : l.compile text with
      | ok e =>
        simp only [fetch, found, compiled]
        exact h.miss found
      | error cause =>
        simp only [fetch, found, compiled]
        exact h.refused text cause

theorem Books.run (h : c.Books log) (calls : List Call) :
    (c.run l calls).2.Books (log ++ (c.run l calls).1) := by
  induction calls generalizing c log with
  | nil => simpa [Cache.run] using h
  | cons call calls ih =>
    have hrest := ih (h.turn (l := l) call)
    rwa [List.append_assoc] at hrest

theorem capacity_turn (c : Cache P) (call : Call) : (c.turn l call).2.capacity = c.capacity := by
  cases call with
  | clear => rfl
  | fetch text =>
    simp only [Cache.turn, fetch]
    split
    · rfl
    · split <;> rfl

theorem capacity_run (c : Cache P) (calls : List Call) :
    (c.run l calls).2.capacity = c.capacity := by
  induction calls generalizing c with
  | nil => rfl
  | cons call calls ih => exact (ih _).trans (capacity_turn c call)

/-- **The books of a cache hold after any calls**, whatever the language, with the capacity that was
requested or the usual one. As many texts are kept as were served, up to the capacity, and a text that
does not compile never changes anything. -/
theorem books_run (l : Language P) (requested : Nat) (calls : List Call) :
    let (log, c) := (new requested).run l calls
    c.Books log ∧
      c.capacity = (if requested = 0 then defaultCapacity else requested) ∧
      c.size = min c.capacity (recent log).length ∧
      ∀ text cause, (c.fetch l text).1 = .error cause → (c.fetch l text).2 = c := by
  have hbooks := (books_new requested).run (l := l) calls
  exact ⟨hbooks, (capacity_run _ calls).trans (capacity_new requested), hbooks.size_eq_min,
    fun _ _ => snd_fetch_of_error⟩

/-- With room for one guard, the second one takes the place of the first. -/
example : ((new 1).run expressions
    [.fetch "1 == 1", .fetch "2 == 2", .fetch "2 =="]).2.evictions = 1 := by
  decide +kernel

end Cache

end WorkflowEngine.Guard
