import Mathlib.Data.List.Nodup
import WorkflowEngine.Collection.SortedMap

/-!
# Looking up what a map was made of

* `mem_keys_iff`, `pairwise_keys`: the keys are what has a value, in increasing order;
* `mem_entries_iff`: the entries are what is found;
* `get?_ofList_of_mem`, `get?_ofList_of_notMem`: a map made of pairs with different keys;
* `mem_keys_ofList`: the keys of a map made of pairs;
* `mem_of_get?_ofList`: what a map made of pairs has is one of them;
* `entries_ofList`, `perm_entries_ofList`, `ofList_entries`: a map made of its entries;
* `get?_ofList_filter`: a map made of some of its entries;
* `get?_foldl_insert`, `get?_overlay`, `get?_erase`: maps put on top of others, and without a key.
-/

namespace WorkflowEngine.SortedMap

variable {α : Type}

theorem lookupEntry_isSome_iff {k : String} {l : List (String × α)} :
    (lookupEntry k l).isSome = true ↔ k ∈ l.map (·.1) := by
  induction l with
  | nil => simp [lookupEntry]
  | cons e rest ih =>
    rw [lookupEntry, List.map_cons, List.mem_cons, ← ih]
    by_cases h : k = e.1 <;> simp [h]

theorem mem_keys_iff {m : SortedMap α} {k : String} : k ∈ m.keys ↔ (m.get? k).isSome = true :=
  lookupEntry_isSome_iff.symm

theorem pairwise_keys (m : SortedMap α) : m.keys.Pairwise (· < ·) :=
  List.pairwise_map.2 m.sorted

theorem mem_of_lookupEntry {k : String} {v : α} {l : List (String × α)}
    (h : lookupEntry k l = some v) : (k, v) ∈ l := by
  induction l with
  | nil => cases h
  | cons e rest ih =>
    rw [lookupEntry] at h
    split at h
    · next hk =>
      cases h
      exact hk ▸ List.mem_cons_self
    · exact List.mem_cons_of_mem _ (ih h)

theorem sorted_of_keys {l : List (String × α)} {keys : List String} (h : l.map (·.1) = keys)
    (sorted : keys.Pairwise (· < ·)) : l.Pairwise fun a b => a.1 < b.1 :=
  List.pairwise_map.1 (h ▸ sorted)

theorem nodup_keys_of_sorted {l : List (String × α)} (h : l.Pairwise fun a b => a.1 < b.1) :
    (l.map (·.1)).Nodup := by
  refine (List.pairwise_map.2 h).imp ?_
  rintro a _ hlt rfl
  exact String.lt_irrefl a hlt

theorem lookupEntry_of_mem {k : String} {v : α} {l : List (String × α)}
    (hl : (l.map (·.1)).Nodup) (h : (k, v) ∈ l) : lookupEntry k l = some v := by
  induction l with
  | nil => cases h
  | cons e rest ih =>
    rw [List.map_cons, List.nodup_cons] at hl
    rcases List.mem_cons.1 h with rfl | h
    · simp [lookupEntry]
    · have hk : k ≠ e.1 := fun hk => hl.1 (hk ▸ List.mem_map_of_mem h)
      rw [lookupEntry, if_neg hk, ih hl.2 h]

theorem mem_entries_iff {m : SortedMap α} {k : String} {v : α} :
    (k, v) ∈ m.entries ↔ m.get? k = some v :=
  ⟨lookupEntry_of_mem (nodup_keys_of_sorted m.sorted), mem_of_lookupEntry⟩

theorem get?_foldl_insert_of_notMem {k : String} {pairs : List (String × α)}
    (h : k ∉ pairs.map (·.1)) (m : SortedMap α) :
    (pairs.foldl (fun m e => m.insert e.1 e.2) m).get? k = m.get? k := by
  induction pairs generalizing m with
  | nil => rfl
  | cons e pairs ih =>
    rw [List.map_cons, List.mem_cons, not_or] at h
    rw [List.foldl_cons, ih h.2, get?_insert_of_ne m h.1]

theorem get?_ofList_of_notMem {k : String} {pairs : List (String × α)}
    (h : k ∉ pairs.map (·.1)) : (ofList pairs).get? k = none := by
  rw [ofList, get?_foldl_insert_of_notMem h, get?_empty]

theorem mem_keys_ofList {k : String} {pairs : List (String × α)} :
    k ∈ (ofList pairs).keys ↔ k ∈ pairs.map (·.1) := by
  have hgeneral : ∀ m : SortedMap α,
      ((pairs.foldl (fun m e => m.insert e.1 e.2) m).get? k).isSome = true ↔
        k ∈ pairs.map (·.1) ∨ (m.get? k).isSome = true := by
    induction pairs with
    | nil => simp
    | cons e pairs ih =>
      intro m
      rw [List.foldl_cons, ih, List.map_cons, List.mem_cons]
      by_cases hk : k = e.1
      · simp [hk, get?_insert_self]
      · simp [hk, get?_insert_of_ne m hk]
  rw [mem_keys_iff, ofList, hgeneral]
  simp

/-- **A map made of pairs with different keys has the value of every pair.** -/
theorem get?_ofList_of_mem {k : String} {v : α} {pairs : List (String × α)}
    (hn : (pairs.map (·.1)).Nodup) (h : (k, v) ∈ pairs) : (ofList pairs).get? k = some v := by
  unfold ofList
  generalize (empty : SortedMap α) = m
  induction pairs generalizing m with
  | nil => cases h
  | cons e pairs ih =>
    rw [List.map_cons, List.nodup_cons] at hn
    rw [List.foldl_cons]
    rcases List.mem_cons.1 h with rfl | h
    · rw [get?_foldl_insert_of_notMem hn.1, get?_insert_self]
    · exact ih hn.2 h _

theorem mem_of_get?_ofList {k : String} {v : α} {pairs : List (String × α)}
    (h : (ofList pairs).get? k = some v) : (k, v) ∈ pairs := by
  have hgeneral : ∀ m : SortedMap α,
      (pairs.foldl (fun m e => m.insert e.1 e.2) m).get? k = some v →
        (k, v) ∈ pairs ∨ m.get? k = some v := by
    clear h
    induction pairs with
    | nil => exact fun m h => .inr h
    | cons e pairs ih =>
      intro m h
      rcases ih _ h with hmem | hget
      · exact .inl (List.mem_cons_of_mem _ hmem)
      · by_cases hk : k = e.1
        · subst hk
          rw [get?_insert_self] at hget
          cases hget
          exact .inl List.mem_cons_self
        · rw [get?_insert_of_ne m hk] at hget
          exact .inr hget
  rcases hgeneral empty h with hmem | hnone
  · exact hmem
  · rw [get?_empty] at hnone
    cases hnone

theorem entries_ofList {pairs : List (String × α)} (sorted : pairs.Pairwise fun a b => a.1 < b.1) :
    (ofList pairs).entries = pairs := by
  have hmap : ofList pairs = ⟨pairs, sorted⟩ := by
    refine ext_get? fun k => ?_
    change _ = lookupEntry k pairs
    cases h : lookupEntry k pairs with
    | some v => exact get?_ofList_of_mem (nodup_keys_of_sorted sorted) (mem_of_lookupEntry h)
    | none =>
      refine get?_ofList_of_notMem fun hmem => ?_
      rw [← lookupEntry_isSome_iff, h] at hmem
      cases hmem
  rw [hmap]

/-- **A map made of pairs with different keys has them as its entries**, in key order. -/
theorem perm_entries_ofList {pairs : List (String × α)} (hn : (pairs.map (·.1)).Nodup) :
    (ofList pairs).entries.Perm pairs := by
  have hentries : (ofList pairs).entries.Nodup :=
    (nodup_keys_of_sorted (ofList pairs).sorted).of_map _
  refine (List.perm_ext_iff_of_nodup hentries (hn.of_map _)).2 fun e => ?_
  exact mem_entries_iff.trans ⟨mem_of_get?_ofList, get?_ofList_of_mem hn⟩

theorem ofList_entries (m : SortedMap α) : ofList m.entries = m := by
  have h := entries_ofList m.sorted
  exact ext_get? fun k => congrArg (lookupEntry k) h

theorem eq_of_entries_ofList {pairs fields : List (String × α)}
    (keys : pairs.map (·.1) = fields.map (·.1)) (h : (ofList pairs).entries = fields) :
    pairs = fields := by
  have hsorted : (fields.map (·.1)).Pairwise (· < ·) := by
    rw [← h]
    exact pairwise_keys _
  rw [← keys] at hsorted
  rw [← h, entries_ofList (List.pairwise_map.1 hsorted)]

theorem lookupEntry_filter (p : String → Bool) (k : String) (l : List (String × α)) :
    lookupEntry k (l.filter (p ·.1)) = if p k then lookupEntry k l else none := by
  induction l with
  | nil => exact (ite_self none).symm
  | cons e l ih =>
    rw [List.filter_cons, lookupEntry]
    by_cases hk : k = e.1
    · subst hk
      cases hp : p e.1 with
      | true => simp [lookupEntry]
      | false => simpa [hp] using ih
    · cases hp : p e.1 with
      | true => simpa [lookupEntry, hk] using ih
      | false => simpa [hk] using ih

theorem get?_ofList_filter (m : SortedMap α) (p : String → Bool) (k : String) :
    (ofList (m.entries.filter (p ·.1))).get? k = if p k then m.get? k else none := by
  rw [get?, entries_ofList (m.sorted.filter _), lookupEntry_filter]
  rfl

/-! ## Changed maps -/

theorem get?_foldl_insert (m : SortedMap α) (pairs : List (String × α)) (k : String) :
    (pairs.foldl (fun m e => m.insert e.1 e.2) m).get? k =
      ((ofList pairs).get? k).or (m.get? k) := by
  induction pairs generalizing m with
  | nil => rfl
  | cons e pairs ih =>
    rw [ofList, List.foldl_cons, List.foldl_cons, ih, ih (empty.insert e.1 e.2)]
    by_cases hk : k = e.1
    · subst hk
      rw [get?_insert_self, get?_insert_self, Option.or_assoc, Option.some_or]
    · rw [get?_insert_of_ne m hk, get?_insert_of_ne empty hk, get?_empty, Option.or_none]

theorem get?_overlay (m other : SortedMap α) (k : String) :
    (m.overlay other).get? k = (other.get? k).or (m.get? k) := by
  rw [overlay, get?_foldl_insert, ofList_entries]

theorem get?_erase (m : SortedMap α) (k k' : String) :
    (m.erase k).get? k' = if k' = k then none else m.get? k' := by
  refine (lookupEntry_filter (fun key => decide (key ≠ k)) k' m.entries).trans ?_
  by_cases hk : k' = k <;> simp [hk, get?]

end WorkflowEngine.SortedMap
