/-!
# Maps in key order

A map from text to values, kept as its entries in strictly increasing key order, so that two maps
with the same entries are equal and every listing comes out sorted. Keys compare by code points,
which is the order of their UTF-8 bytes.

* `SortedMap`: the entries with the proof that they are in order;
* `get?`, `insert`, `erase`, `ofList`, `keys`, `values`, `mapValues`;
* `get?_insert_self`, `get?_insert_of_ne`: what an insertion changes;
* `ext_get?`: a map is determined by its look-ups.
-/

namespace WorkflowEngine

/-- **A map from text to values**, its entries in strictly increasing key order. -/
structure SortedMap (α : Type) where
  entries : List (String × α)
  sorted : entries.Pairwise fun a b => a.1 < b.1

namespace SortedMap

variable {α β : Type}

instance [DecidableEq α] : DecidableEq (SortedMap α) := fun a b =>
  if h : a.entries = b.entries then
    isTrue (by cases a; cases b; cases h; rfl)
  else
    isFalse fun e => h (congrArg SortedMap.entries e)

instance : Inhabited (SortedMap α) := ⟨⟨[], .nil⟩⟩

/-- The map without entries. -/
def empty : SortedMap α := ⟨[], .nil⟩

/-- True when the map has no entry. -/
def isEmpty (m : SortedMap α) : Bool := m.entries.isEmpty

/-- The number of entries. -/
def size (m : SortedMap α) : Nat := m.entries.length

/-- The keys in increasing order. -/
def keys (m : SortedMap α) : List String := m.entries.map (·.1)

/-- The values in the order of their keys. -/
def values (m : SortedMap α) : List α := m.entries.map (·.2)

/-! ## Entry lists -/

/-- Put a value under a key into an ordered entry list, replacing an entry of the same key. -/
def insertEntry (k : String) (v : α) : List (String × α) → List (String × α)
  | [] => [(k, v)]
  | e :: rest =>
    if k < e.1 then (k, v) :: e :: rest
    else if k = e.1 then (k, v) :: rest
    else e :: insertEntry k v rest

/-- The value under a key in an entry list. -/
def lookupEntry (k : String) : List (String × α) → Option α
  | [] => none
  | e :: rest => if k = e.1 then some e.2 else lookupEntry k rest

theorem mem_insertEntry {k : String} {v : α} {e : String × α} {l : List (String × α)}
    (h : e ∈ insertEntry k v l) : e = (k, v) ∨ e ∈ l := by
  induction l with
  | nil => simpa [insertEntry] using h
  | cons x xs ih =>
    rw [insertEntry] at h
    split at h
    · simpa using h
    · split at h
      · rcases List.mem_cons.1 h with h | h
        · exact .inl h
        · exact .inr (List.mem_cons_of_mem _ h)
      · rcases List.mem_cons.1 h with h | h
        · exact .inr (h ▸ List.mem_cons_self)
        · exact (ih h).imp_right (List.mem_cons_of_mem _)

theorem lt_of_not_lt_of_ne {a b : String} (h : ¬ a < b) (hne : a ≠ b) : b < a := by
  rcases Std.Trichotomous.rel_or_eq_or_rel_swap (r := (· < · : String → String → Prop)) (a := a)
    (b := b) with h' | h' | h'
  · exact absurd h' h
  · exact absurd h' hne
  · exact h'

theorem pairwise_insertEntry (k : String) (v : α) {l : List (String × α)}
    (h : l.Pairwise fun a b => a.1 < b.1) :
    (insertEntry k v l).Pairwise fun a b => a.1 < b.1 := by
  induction l with
  | nil => simp [insertEntry]
  | cons e rest ih =>
    obtain ⟨he, hr⟩ := List.pairwise_cons.1 h
    rw [insertEntry]
    split
    · next hk =>
      refine List.pairwise_cons.2 ⟨fun b hb => ?_, h⟩
      rcases List.mem_cons.1 hb with rfl | hb
      · exact hk
      · exact String.lt_trans hk (he b hb)
    · split
      · next _ hk => exact List.pairwise_cons.2 ⟨fun b hb => hk ▸ he b hb, hr⟩
      · next hlt hne =>
        refine List.pairwise_cons.2 ⟨fun b hb => ?_, ih hr⟩
        rcases mem_insertEntry hb with rfl | hb
        · exact lt_of_not_lt_of_ne hlt hne
        · exact he b hb

theorem lookupEntry_eq_none {k : String} {l : List (String × α)}
    (h : ∀ e ∈ l, k < e.1) : lookupEntry k l = none := by
  induction l with
  | nil => rfl
  | cons e rest ih =>
    have hk : k ≠ e.1 := fun he => String.lt_irrefl k (he ▸ h e List.mem_cons_self)
    rw [lookupEntry, if_neg hk]
    exact ih fun x hx => h x (List.mem_cons_of_mem _ hx)

/-! ## Operations -/

/-- The value under a key. -/
def get? (m : SortedMap α) (k : String) : Option α := lookupEntry k m.entries

/-- True when the key has a value. -/
def contains (m : SortedMap α) (k : String) : Bool := (m.get? k).isSome

/-- The map with a value put under a key, in place of an earlier one. -/
def insert (m : SortedMap α) (k : String) (v : α) : SortedMap α :=
  ⟨insertEntry k v m.entries, pairwise_insertEntry k v m.sorted⟩

/-- The map without a key. -/
def erase (m : SortedMap α) (k : String) : SortedMap α :=
  ⟨m.entries.filter (·.1 ≠ k), m.sorted.filter _⟩

/-- The map of a list of pairs; of pairs with the same key the last one stays. -/
def ofList (pairs : List (String × α)) : SortedMap α :=
  pairs.foldl (fun m e => m.insert e.1 e.2) empty

/-- The map with every value replaced by its image. -/
def mapValues (f : α → β) (m : SortedMap α) : SortedMap β :=
  ⟨m.entries.map fun e => (e.1, f e.2), List.pairwise_map.2 m.sorted⟩

/-- The map with the entries of `other` put on top. -/
def overlay (m other : SortedMap α) : SortedMap α :=
  other.entries.foldl (fun m e => m.insert e.1 e.2) m

/-! ## Laws -/

@[simp] theorem get?_empty (k : String) : (empty : SortedMap α).get? k = none := rfl

theorem lookupEntry_insertEntry_self (k : String) (v : α) (l : List (String × α)) :
    lookupEntry k (insertEntry k v l) = some v := by
  induction l with
  | nil => simp [insertEntry, lookupEntry]
  | cons e rest ih =>
    rw [insertEntry]
    split
    · simp [lookupEntry]
    · split
      · simp [lookupEntry]
      · next _ hne => rw [lookupEntry, if_neg hne, ih]

theorem lookupEntry_insertEntry_of_ne {k k' : String} (h : k' ≠ k) (v : α)
    (l : List (String × α)) : lookupEntry k' (insertEntry k v l) = lookupEntry k' l := by
  induction l with
  | nil => simp [insertEntry, lookupEntry, h]
  | cons e rest ih =>
    rw [insertEntry]
    split
    · simp [lookupEntry, h]
    · split
      · next _ he => subst he; simp [lookupEntry, h]
      · simp [lookupEntry, ih]

/-- An insertion is found under its key. -/
@[simp] theorem get?_insert_self (m : SortedMap α) (k : String) (v : α) :
    (m.insert k v).get? k = some v := lookupEntry_insertEntry_self k v m.entries

/-- An insertion leaves the other keys alone. -/
theorem get?_insert_of_ne (m : SortedMap α) {k k' : String} (h : k' ≠ k) (v : α) :
    (m.insert k v).get? k' = m.get? k' := lookupEntry_insertEntry_of_ne h v m.entries

theorem entries_eq_of_lookupEntry {l l' : List (String × α)}
    (hl : l.Pairwise fun a b => a.1 < b.1) (hl' : l'.Pairwise fun a b => a.1 < b.1)
    (h : ∀ k, lookupEntry k l = lookupEntry k l') : l = l' := by
  induction l generalizing l' with
  | nil =>
    cases l' with
    | nil => rfl
    | cons e rest => simpa [lookupEntry] using h e.1
  | cons e rest ih =>
    cases l' with
    | nil => simpa [lookupEntry] using h e.1
    | cons e' rest' =>
      obtain ⟨he, hr⟩ := List.pairwise_cons.1 hl
      obtain ⟨he', hr'⟩ := List.pairwise_cons.1 hl'
      have hkey : e.1 = e'.1 := by
        rcases Std.Trichotomous.rel_or_eq_or_rel_swap (r := (· < · : String → String → Prop))
          (a := e.1) (b := e'.1) with hlt | heq | hlt
        · have : lookupEntry e.1 (e' :: rest') = none := lookupEntry_eq_none fun x hx => by
            rcases List.mem_cons.1 hx with rfl | hx
            · exact hlt
            · exact String.lt_trans hlt (he' x hx)
          have h₁ := h e.1
          rw [this] at h₁
          simp [lookupEntry] at h₁
        · exact heq
        · have : lookupEntry e'.1 (e :: rest) = none := lookupEntry_eq_none fun x hx => by
            rcases List.mem_cons.1 hx with rfl | hx
            · exact hlt
            · exact String.lt_trans hlt (he x hx)
          have h₁ := h e'.1
          rw [this] at h₁
          simp [lookupEntry] at h₁
      have hval : e.2 = e'.2 := by
        have h₁ := h e.1
        simp only [lookupEntry, hkey, if_true, Option.some.injEq] at h₁
        exact h₁
      have hrest : rest = rest' := ih hr hr' fun k => by
        by_cases hk : k = e.1
        · have h₁ : lookupEntry k rest = none := lookupEntry_eq_none fun x hx => hk ▸ he x hx
          have h₂ : lookupEntry k rest' = none :=
            lookupEntry_eq_none fun x hx => (hk.trans hkey) ▸ he' x hx
          rw [h₁, h₂]
        · have h₁ := h k
          rwa [lookupEntry, lookupEntry, if_neg hk, if_neg (hkey ▸ hk)] at h₁
      rw [hrest, show e = e' from Prod.ext hkey hval]

/-- A map is determined by its look-ups. -/
theorem ext_get? {m m' : SortedMap α} (h : ∀ k, m.get? k = m'.get? k) : m = m' := by
  obtain ⟨l, hl⟩ := m
  obtain ⟨l', hl'⟩ := m'
  have := entries_eq_of_lookupEntry hl hl' h
  subst this
  rfl

end SortedMap

end WorkflowEngine
