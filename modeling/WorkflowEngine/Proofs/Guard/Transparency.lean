import WorkflowEngine.Guard.Cache

/-!
# The cache of guards cannot be seen

What a cache keeps under a text is what that text compiles to. So whatever a cache was asked before,
and whatever had to give way in it, it answers a guard as one that was asked nothing yet. That holds of
every language for guards.

* `Query`, `Query.answer`: a guard to be answered, and its answer without a cache;
* `Cache.ask`, `Cache.askAll`: one query, and one after the other;
* `Cache.Faithful`: every program kept is what its text compiles to;
* `Faithful.promote`, `Faithful.keep`, `Faithful.fetch`: hits, misses and texts that do not compile
  leave a cache faithful;
* **`ask_askAll`**: the answers do not depend on what was asked before, nor on the capacity.
-/

namespace WorkflowEngine.Guard

/-- **A guard to be answered**, with the attributes and the marking of the subject. -/
structure Query where
  text : String
  attributes : Json
  marking : Marking

variable {P : Type}

/-- The answer without a cache. -/
def Query.answer (l : Language P) (q : Query) : Except GuardError Bool :=
  l.evaluate q.text q.attributes q.marking

namespace Cache

/-- The answer to a query, and the cache after it. -/
def ask (l : Language P) (c : Cache P) (q : Query) : Except GuardError Bool × Cache P :=
  c.evaluate l q.text q.attributes q.marking

/-- **Queries one after the other**: their answers, and the cache after all of them. -/
def askAll (l : Language P) (c : Cache P) : List Query → List (Except GuardError Bool) × Cache P
  | [] => ([], c)
  | q :: qs =>
    let rest := (c.ask l q).2.askAll l qs
    ((c.ask l q).1 :: rest.1, rest.2)

/-- **A cache is faithful**: every program kept is what its text compiles to. -/
def Faithful (l : Language P) (c : Cache P) : Prop :=
  ∀ entry ∈ c.entries, l.compile entry.1 = .ok entry.2

variable {l : Language P} {c : Cache P} {text : String} {e : P}

theorem faithful_new (capacity : Nat) : (new capacity : Cache P).Faithful l := fun _ h => by cases h

theorem Faithful.compile_of_find? (h : c.Faithful l) (found : c.find? text = some e) :
    l.compile text = .ok e := by
  obtain ⟨⟨key, expr⟩, hentry, rfl⟩ := Option.map_eq_some_iff.1 found
  have hkey : key = text := by simpa using List.find?_some hentry
  rw [← hkey]
  exact h (key, expr) (List.mem_of_find?_eq_some hentry)

theorem Faithful.promote (h : c.Faithful l) (compiled : l.compile text = .ok e) :
    (c.promote text e).Faithful l := by
  intro entry hentry
  rcases List.mem_cons.1 hentry with rfl | hrest
  · exact compiled
  · exact h entry (List.mem_filter.1 hrest).1

theorem Faithful.keep (h : c.Faithful l) (compiled : l.compile text = .ok e) :
    (c.keep text e).Faithful l := by
  intro entry hentry
  rcases List.mem_cons.1 hentry with rfl | hrest
  · exact compiled
  · exact h entry (List.mem_of_mem_take hrest)

/-- **A faithful cache gives the program of every text**, and the error of one that does not compile,
and stays faithful. -/
theorem Faithful.fetch (h : c.Faithful l) (text : String) :
    (c.fetch l text).1 = l.compile text ∧ (c.fetch l text).2.Faithful l := by
  cases found : c.find? text with
  | some e =>
    have compiled := h.compile_of_find? found
    simp only [Cache.fetch, found, compiled]
    exact ⟨trivial, h.promote compiled⟩
  | none =>
    cases compiled : l.compile text with
    | ok e =>
      simp only [Cache.fetch, found, compiled]
      exact ⟨trivial, h.keep compiled⟩
    | error cause =>
      simp only [Cache.fetch, found, compiled]
      exact ⟨trivial, h⟩

/-- **A faithful cache answers as if nothing were kept**, and stays faithful. -/
theorem Faithful.ask (h : c.Faithful l) (q : Query) :
    (c.ask l q).1 = q.answer l ∧ (c.ask l q).2.Faithful l := by
  by_cases hblank : Text.trim q.text = ""
  · simp only [Cache.ask, Query.answer, evaluate, Language.evaluate, hblank, if_true]
    exact ⟨rfl, h⟩
  · obtain ⟨hcompiled, hfaithful⟩ := h.fetch (Text.trim q.text)
    simp only [Cache.ask, Query.answer, evaluate, Language.evaluate, hblank, if_false, hcompiled]
    exact ⟨rfl, hfaithful⟩

theorem Faithful.askAll (h : c.Faithful l) (qs : List Query) :
    (c.askAll l qs).1 = qs.map (Query.answer l) ∧ (c.askAll l qs).2.Faithful l := by
  induction qs generalizing c with
  | nil => exact ⟨rfl, h⟩
  | cons q qs ih =>
    obtain ⟨hanswer, hfaithful⟩ := h.ask q
    obtain ⟨hanswers, hend⟩ := ih hfaithful
    rw [Cache.askAll, List.map_cons, ← hanswer, ← hanswers]
    exact ⟨rfl, hend⟩

/-- **The cache cannot be seen**, whatever the language. After any queries, with any capacity, a query
is answered as by a fresh cache of any capacity, which is as without a cache; and so were the queries
before it. -/
theorem ask_askAll (l : Language P) (capacity fresh : Nat) (earlier : List Query) (q : Query) :
    (((new capacity).askAll l earlier).2.ask l q).1 = ((new fresh).ask l q).1 ∧
      ((new fresh).ask l q).1 = q.answer l ∧
      ((new capacity).askAll l earlier).1 = earlier.map fun q => ((new fresh).ask l q).1 := by
  have hfresh : ∀ q, ((new fresh).ask l q).1 = q.answer l := fun q =>
    ((faithful_new fresh).ask q).1
  obtain ⟨hearlier, hfaithful⟩ := (faithful_new (l := l) capacity).askAll earlier
  refine ⟨?_, hfresh q, ?_⟩
  · rw [(hfaithful.ask q).1, hfresh]
  · rw [hearlier]
    exact List.map_congr_left fun q _ => (hfresh q).symm

end Cache

end WorkflowEngine.Guard
