import WorkflowEngine.Proofs.Json.Text
import WorkflowEngine.Proofs.Routing.RouteMap
import WorkflowEngine.Proofs.Text.Octets

/-!
# The table in a route map

A route map is a table from pairs of slugs to addresses, whatever it was read from and whatever was put
into it since; a workflow without routes in it makes no difference to the table. All that can be asked
of a map tells the same table.

* `putAll`, `putAll_append`: insertions one after the other, with what each gives back;
* `latest`, `get?_putAll`: the address that was put in last for a pair;
* `Route.ComesBefore`, `pairwise_entries`: the order of listed routes;
* `size_eq_length`, `isEmpty_iff`: how many they are;
* `ofDocument?_toJson`, `document?_text_toJson`: a map read back;
* `Shows`, `shows_get?`: a map that shows a table;
* **`shows_putAll`**: what a map shows after any insertions, and what these give back.
-/

namespace WorkflowEngine

open Document (ofJson ofFields)

/-- **The order in which routes are listed**: by the octets of the workflow slug, then by those of the
transition slug. -/
def Route.ComesBefore (r s : Route) : Prop :=
  Text.octets r.workflow < Text.octets s.workflow ∨
    r.workflow = s.workflow ∧ Text.octets r.transition < Text.octets s.transition

namespace RouteMap

variable {m : RouteMap}

/-! ## Rows of insertions -/

/-- **Insertions one after the other**: what each of them gives back, and the map after all. -/
def putAll (m : RouteMap) : List Route → List (Option String) × RouteMap
  | [] => ([], m)
  | r :: rs =>
    let first := m.put r.workflow r.transition r.address
    (first.1 :: (first.2.putAll rs).1, (first.2.putAll rs).2)

/-- The address that was put in last for a pair of slugs. -/
def latest (routes : List Route) (workflow transition : String) : Option String :=
  (routes.filter fun r => r.workflow = workflow ∧ r.transition = transition).getLast?.map (·.address)

theorem latest_cons (r : Route) (routes : List Route) (workflow transition : String) :
    latest (r :: routes) workflow transition = (latest routes workflow transition).or
      (if r.workflow = workflow ∧ r.transition = transition then some r.address else none) := by
  unfold latest
  rw [List.filter_cons]
  by_cases h : r.workflow = workflow ∧ r.transition = transition
  · rw [if_pos (decide_eq_true h), if_pos h, List.getLast?_cons]
    cases (routes.filter fun r => r.workflow = workflow ∧ r.transition = transition).getLast? <;> rfl
  · rw [if_neg (by simpa using h), if_neg h, Option.or_none]

theorem length_putAll (m : RouteMap) (routes : List Route) :
    (m.putAll routes).1.length = routes.length := by
  induction routes generalizing m with
  | nil => rfl
  | cons r routes ih => rw [putAll, List.length_cons, ih, List.length_cons]

/-- **What a row of insertions gives back** is what its parts do, one after the other. -/
theorem putAll_append (m : RouteMap) (before after : List Route) :
    m.putAll (before ++ after) =
      ((m.putAll before).1 ++ ((m.putAll before).2.putAll after).1,
        ((m.putAll before).2.putAll after).2) := by
  induction before generalizing m with
  | nil => rfl
  | cons r before ih => rw [List.cons_append, putAll, putAll, ih, List.cons_append]

/-- **After any insertions** a pair has the address that was put in last, or the one it had before. -/
theorem get?_putAll (m : RouteMap) (routes : List Route) (workflow transition : String) :
    (m.putAll routes).2.get? workflow transition =
      (latest routes workflow transition).or (m.get? workflow transition) := by
  induction routes generalizing m with
  | nil => rfl
  | cons r routes ih =>
    have hpair : (workflow = r.workflow ∧ transition = r.transition) =
        (r.workflow = workflow ∧ r.transition = transition) := by
      rw [eq_comm (a := workflow), eq_comm (a := transition)]
    rw [putAll, ih, latest_cons, Option.or_assoc, put_snd, get?_insert, ite_cond_congr hpair]
    split <;> rfl

/-! ## The order of routes -/

theorem pairwise_entries (m : RouteMap) : m.entries.Pairwise Route.ComesBefore := by
  rw [entries, List.pairwise_flatMap]
  constructor
  · rintro ⟨workflow, transitions⟩ _
    refine List.pairwise_map.2 (transitions.sorted.imp fun {a b} h => ?_)
    exact .inr ⟨rfl, Text.octets_lt_iff.2 h⟩
  · refine m.routes.sorted.imp fun {a b} h => ?_
    intro r hr s hs
    obtain ⟨_, _, rfl⟩ := List.mem_map.1 hr
    obtain ⟨_, _, rfl⟩ := List.mem_map.1 hs
    exact .inl (Text.octets_lt_iff.2 h)

theorem nodup_pairs (m : RouteMap) : (m.entries.map fun r => (r.workflow, r.transition)).Nodup := by
  refine List.pairwise_map.2 (m.pairwise_entries.imp fun {r s} h heq => ?_)
  obtain ⟨hworkflow, htransition⟩ := Prod.mk.inj heq
  rcases h with hlt | ⟨_, hlt⟩
  · exact String.lt_irrefl _ (Text.octets_lt_iff.1 (hworkflow ▸ hlt))
  · exact String.lt_irrefl _ (Text.octets_lt_iff.1 (htransition ▸ hlt))

/-! ## The number of routes -/

/-- **The number of routes** is the number of those listed; a workflow without routes adds nothing. -/
theorem size_eq_length (m : RouteMap) : m.size = m.entries.length := by
  have hparts : ∀ parts : List (String × SortedMap String),
      (parts.map (·.2)).foldr (fun transitions n => transitions.size + n) 0 =
        (parts.flatMap fun part =>
          part.2.entries.map fun e => (⟨part.1, e.1, e.2⟩ : Route)).length := by
    intro parts
    induction parts with
    | nil => rfl
    | cons part parts ih =>
      rw [List.map_cons, List.foldr_cons, ih, List.flatMap_cons, List.length_append, List.length_map]
      rfl
  exact hparts m.routes.entries

theorem isEmpty_iff : m.isEmpty = true ↔ ∀ workflow transition, m.get? workflow transition = none := by
  rw [isEmpty, decide_eq_true_iff, size_eq_length, List.length_eq_zero_iff,
    List.eq_nil_iff_forall_not_mem]
  constructor
  · intro h workflow transition
    refine Option.eq_none_iff_forall_ne_some.2 fun address haddress => ?_
    exact h ⟨workflow, transition, address⟩ (mem_entries_iff.2 haddress)
  · intro h r hr
    rw [mem_entries_iff, h] at hr
    cases hr

/-! ## Reading back -/

section Reading

variable {α : Type} {read : Document → Option α} {write : α → Json}

theorem mapM_ofFields (h : ∀ a, read (ofJson (write a)) = some a) (entries : List (String × α)) :
    (ofFields (entries.map fun e => (e.1, write e.2))).mapM
      (fun (key, value) => do return (← key.text?, ← read value)) = some entries := by
  induction entries with
  | nil => rfl
  | cons e entries ih =>
    rw [List.map_cons, ofFields, List.mapM_cons, ih]
    dsimp only
    rw [h]
    rfl

end Reading

/-- The addresses of a workflow as they are written. -/
def partJson (transitions : SortedMap String) : Json := .ofMap (transitions.mapValues .string)

theorem textMap?_partJson (transitions : SortedMap String) :
    textMap? (ofJson (partJson transitions)) = some transitions := by
  have hentries : (ofJson (partJson transitions)).entries? =
      some (ofFields (transitions.entries.map fun e => (e.1, .string e.2))) := rfl
  have htext : ∀ address, Document.text? (ofJson (.string address)) = some address := fun _ => rfl
  have hpairs := mapM_ofFields htext transitions.entries
  rw [textMap?, hentries, Option.bind_eq_bind, Option.bind_some, hpairs, Option.bind_eq_bind,
    Option.bind_some, SortedMap.ofList_entries]
  rfl

/-- **A route map is read as it was written**, workflows without routes included. -/
theorem ofDocument?_toJson (m : RouteMap) : ofDocument? (ofJson m.toJson) = some m := by
  have hentries : (ofJson m.toJson).entries? =
      some (ofFields (m.routes.entries.map fun e => (e.1, partJson e.2))) := rfl
  have hpairs := mapM_ofFields textMap?_partJson m.routes.entries
  rw [ofDocument?, hentries, Option.bind_eq_bind, Option.bind_some, hpairs, Option.bind_eq_bind,
    Option.bind_some, SortedMap.ofList_entries]
  rfl

theorem limitEntries_texts (depth : Nat) (entries : List (String × String)) :
    Document.limitEntries depth (Json.writtenFields (entries.map fun e => (e.1, .string e.2))) =
      ofFields (entries.map fun e => (e.1, .string e.2)) := by
  induction entries with
  | nil => rfl
  | cons e entries ih =>
    rw [List.map_cons, Json.writtenFields, Document.limitEntries, ih]
    rfl

theorem limitEntries_parts (depth : Nat) (parts : List (String × SortedMap String)) :
    Document.limitEntries (depth + 1) (Json.writtenFields (parts.map fun e => (e.1, partJson e.2))) =
      ofFields (parts.map fun e => (e.1, partJson e.2)) := by
  induction parts with
  | nil => rfl
  | cons part parts ih =>
    have hpart : Document.limitDepth (depth + 1) (partJson part.2).written = ofJson (partJson part.2) :=
      congrArg Document.mapping (limitEntries_texts depth part.2.entries)
    rw [List.map_cons, Json.writtenFields, Document.limitEntries, ih, hpart]
    rfl

theorem document?_text_toJson (m : RouteMap) :
    (Json.document? m.toJson.text).bind ofDocument? = some m := by
  have hdocument : Document.limitDepth Json.depthLimit m.toJson.written = ofJson m.toJson :=
    congrArg Document.mapping (limitEntries_parts _ m.routes.entries)
  rw [Json.document?_text, Option.bind_some, hdocument, ofDocument?_toJson]

/-! ## What a map shows -/

/-- **A map shows a table** from pairs of slugs to addresses, whatever is asked of it: looking a pair up,
listing the routes, counting them, collecting the addresses, and writing the map down. -/
structure Shows (m : RouteMap) (table : String → String → Option String) : Prop where
  get : ∀ workflow transition, m.get? workflow transition = table workflow transition
  mem_entries : ∀ r, r ∈ m.entries ↔ table r.workflow r.transition = some r.address
  ordered : m.entries.Pairwise Route.ComesBefore
  once : (m.entries.map fun r => (r.workflow, r.transition)).Nodup
  size : m.size = m.entries.length
  isEmpty : m.isEmpty = true ↔ ∀ workflow transition, table workflow transition = none
  mem_addresses : ∀ a, a ∈ m.addresses ↔ ∃ r ∈ m.entries, r.address = a
  addresses_ordered : m.addresses.Pairwise fun a b => Text.octets a < Text.octets b
  readsBack : ofDocument? (ofJson m.toJson) = some m
  text_readsBack : (Json.document? m.toJson.text).bind ofDocument? = some m

theorem shows_get? (m : RouteMap) : m.Shows m.get? where
  get _ _ := rfl
  mem_entries _ := mem_entries_iff
  ordered := m.pairwise_entries
  once := m.nodup_pairs
  size := m.size_eq_length
  isEmpty := isEmpty_iff
  mem_addresses _ := mem_addresses_iff
  addresses_ordered := m.pairwise_addresses.imp Text.octets_lt_iff.2
  readsBack := m.ofDocument?_toJson
  text_readsBack := m.document?_text_toJson

/-- **The laws of a route map.** Whatever map one starts from, after any insertions it shows under every
pair the address that was put in last, or the one of the start; and every insertion gives back what
stood under its pair before. -/
theorem shows_putAll (start : RouteMap) :
    (∀ routes, (start.putAll routes).2.Shows fun workflow transition =>
      (latest routes workflow transition).or (start.get? workflow transition)) ∧
    ∀ before r after, (start.putAll (before ++ r :: after)).1[before.length]? =
      some ((latest before r.workflow r.transition).or (start.get? r.workflow r.transition)) := by
  refine ⟨fun routes => ?_, fun before r after => ?_⟩
  · have htable : (start.putAll routes).2.get? = fun workflow transition =>
        (latest routes workflow transition).or (start.get? workflow transition) :=
      funext fun workflow => funext fun transition => get?_putAll start routes workflow transition
    exact htable ▸ shows_get? (start.putAll routes).2
  · have hlength := length_putAll start before
    calc (start.putAll (before ++ r :: after)).1[before.length]?
        = ((start.putAll before).1 ++
            ((start.putAll before).2.putAll (r :: after)).1)[before.length]? := by
          rw [putAll_append]
      _ = some ((start.putAll before).2.get? r.workflow r.transition) := by
          rw [List.getElem?_append_right (Nat.le_of_eq hlength), hlength, Nat.sub_self, putAll,
            List.getElem?_cons_zero, put_fst]
      _ = some ((latest before r.workflow r.transition).or
            (start.get? r.workflow r.transition)) := by rw [get?_putAll]

/-- A map that was read with a workflow without routes, after three insertions. -/
example :
    let start : RouteMap := ⟨.ofList [("media", .empty), ("asset", .ofList [("load", "slow")])]⟩
    let routes : List Route := [⟨"asset", "load", "fast"⟩, ⟨"press", "print", "p"⟩, ⟨"asset", "load", "q"⟩]
    (start.putAll routes).1 = [some "slow", none, some "fast"] ∧
      (start.putAll routes).2.entries = [⟨"asset", "load", "q"⟩, ⟨"press", "print", "p"⟩] := by
  decide +kernel

end RouteMap

end WorkflowEngine
