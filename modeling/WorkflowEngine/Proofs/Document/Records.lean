import WorkflowEngine.Document.Record
import WorkflowEngine.Proofs.Document.Values

/-!
# Records of written maps

A record that was written as an object, or as a map, is read with every declared field as the map has
it, and with the rest of the map as its other entries.

* `Record.ofObject`, **`ofMapping?_ofObject`**, `required?_ofObject`: the record of an object, whose
  fields may stand in any order;
* `Record.ofMap`, `ofMapping?_ofMap`: the record of a map;
* `required?_ofMap`, `withDefault?_ofMap`, `optional?_ofMap`, `optional?_ofOption`,
  `withDefault?_omitted`: its fields;
* `others?_ofMap`, `others?_loose`, `ofList_loose_comm`: its other entries;
* `mapM_ofItems`, `Document.texts?_ofStrings`: a list of written parts;
* `get?_ofList_append`, `get?_ofList_toList_map`: where a written map has its values from.
-/

namespace WorkflowEngine

/-! ## Maps put together -/

namespace SortedMap

variable {α β : Type}

theorem get?_ofList_append (as bs : List (String × α)) (k : String) :
    (ofList (as ++ bs)).get? k = ((ofList bs).get? k).or ((ofList as).get? k) := by
  rw [ofList, List.foldl_append, get?_foldl_insert]
  rfl

theorem get?_ofList_cons (e : String × α) (es : List (String × α)) (k : String) :
    (ofList (e :: es)).get? k =
      ((ofList es).get? k).or (if k = e.1 then some e.2 else none) := by
  have hone : (ofList [e]).get? k = if k = e.1 then some e.2 else none := by
    change (empty.insert e.1 e.2).get? k = _
    by_cases h : k = e.1
    · rw [if_pos h, h, get?_insert_self]
    · rw [if_neg h, get?_insert_of_ne _ h, get?_empty]
  rw [← List.singleton_append, get?_ofList_append, hone]

theorem get?_ofList_nil (k : String) : (ofList ([] : List (String × α))).get? k = none := rfl

theorem get?_ofList_toList_map (key : String) (f : β → α) (o : Option β) (k : String) :
    (ofList (o.toList.map fun b => (key, f b))).get? k = if k = key then o.map f else none := by
  cases o with
  | none => exact (ite_self none).symm
  | some b => exact (get?_ofList_cons _ _ k).trans (Option.none_or)

theorem get?_ofList_ite (c : Prop) [Decidable c] (as bs : List (String × α)) (k : String) :
    (ofList (if c then as else bs)).get? k =
      if c then (ofList as).get? k else (ofList bs).get? k := by
  split <;> rfl

theorem eq_empty_of_isEmpty {m : SortedMap α} (h : m.isEmpty = true) : m = empty := by
  rw [← ofList_entries m, List.isEmpty_iff.1 h]
  rfl

end SortedMap

namespace Record

open Document (ofJson ofFields ofItems)

/-- **The record of the fields of an object**, by the declared names. -/
def ofObject (names : List String) (fields : List (String × Json)) : Record where
  fields := (fields.filter (names.contains ·.1)).map fun e => (e.1, ofJson e.2)
  others := (fields.filter (!names.contains ·.1)).map fun e => (e.1, ofJson e.2)

/-- **The record of a map**, by the declared names. -/
def ofMap (names : List String) (m : SortedMap Json) : Record := ofObject names m.entries

variable {names : List String} {m : SortedMap Json} {k : String} {fields : List (String × Json)}

theorem ofEntries?_ofFields (nodup : (fields.map (·.1)).Nodup) :
    ofEntries? names (ofFields fields) = some (ofObject names fields) := by
  induction fields with
  | nil => rfl
  | cons field fields ih =>
    obtain ⟨key, value⟩ := field
    rw [List.map_cons] at nodup
    obtain ⟨hfirst, hrest⟩ := List.nodup_cons.1 nodup
    have hfresh : ((fields.filter (names.contains ·.1)).map fun e => (e.1, ofJson e.2)).any
        (·.1 = key) = false := by
      rw [List.any_eq_false]
      intro e he
      obtain ⟨f, hf, rfl⟩ := List.mem_map.1 he
      simp only [decide_eq_true_eq]
      rintro rfl
      exact hfirst (List.mem_map.2 ⟨f, (List.mem_filter.1 hf).1, rfl⟩)
    rw [ofFields, ofEntries?, ih hrest]
    cases hknown : names.contains key with
    | true =>
      simp only [ofObject, Document.text?, Option.bind_eq_bind, Option.bind_some, hknown, if_true,
        hfresh, Bool.false_eq_true, if_false, List.filter_cons, Bool.not_true, List.map_cons]
    | false =>
      simp only [ofObject, Document.text?, Option.bind_eq_bind, Option.bind_some, hknown, if_true,
        Bool.false_eq_true, if_false, List.filter_cons, Bool.not_false, List.map_cons]

/-- **A record written as an object** with different keys is read as the record of its fields. -/
theorem ofMapping?_ofObject (names : List String) (nodup : (fields.map (·.1)).Nodup) :
    ofMapping? names (ofJson (.object fields)) = some (ofObject names fields) := by
  rw [ofJson, ofMapping?]
  exact ofEntries?_ofFields nodup

theorem read?_ofObject (lists : Bool) (names : List String) (least : Nat)
    (nodup : (fields.map (·.1)).Nodup) :
    read? lists names least (ofJson (.object fields)) = some (ofObject names fields) := by
  cases lists <;> exact ofMapping?_ofObject names nodup

theorem read?_ofMap (lists : Bool) (names : List String) (least : Nat) (m : SortedMap Json) :
    read? lists names least (ofJson (.ofMap m)) = some (ofMap names m) :=
  read?_ofObject lists names least (SortedMap.nodup_keys_of_sorted m.sorted)

theorem ofMapping?_ofMap (names : List String) (m : SortedMap Json) :
    ofMapping? names (ofJson (.ofMap m)) = some (ofMap names m) :=
  ofMapping?_ofObject names (SortedMap.nodup_keys_of_sorted m.sorted)

/-! ## Fields -/

theorem field?_ofObject (known : k ∈ names) (fields : List (String × Json)) :
    (ofObject names fields).field? k = (SortedMap.lookupEntry k fields).map ofJson := by
  have known : names.contains k = true := by simpa using known
  rw [field?, ofObject]
  dsimp only
  induction fields with
  | nil => rfl
  | cons e es ih =>
    by_cases hk : k = e.1
    · subst hk
      rw [List.filter_cons, if_pos known, List.map_cons, List.find?_cons_of_pos (by simp),
        SortedMap.lookupEntry, if_pos rfl]
      rfl
    · rw [SortedMap.lookupEntry, if_neg hk, ← ih]
      cases hknown : names.contains e.1 with
      | true =>
        rw [List.filter_cons, if_pos hknown, List.map_cons,
          List.find?_cons_of_neg (by simp [Ne.symm hk])]
      | false => rw [List.filter_cons, if_neg (by rw [hknown]; exact Bool.false_ne_true)]

theorem field?_ofMap (known : k ∈ names) (m : SortedMap Json) :
    (ofMap names m).field? k = (m.get? k).map ofJson :=
  field?_ofObject known m.entries

section Objects

variable {α : Type} {read : Document → Option α} (known : k ∈ names)
  (nodup : (fields.map (·.1)).Nodup) {v : Json} (h : (k, v) ∈ fields)

include known nodup h

/-- **A field of an object** with different keys, wherever it stands. -/
theorem required?_ofObject : (ofObject names fields).required? k read = read (ofJson v) := by
  rw [required?, field?_ofObject known, SortedMap.lookupEntry_of_mem nodup h]
  rfl

theorem withDefault?_ofObject (default : α) :
    (ofObject names fields).withDefault? k default read = read (ofJson v) := by
  rw [withDefault?, field?_ofObject known, SortedMap.lookupEntry_of_mem nodup h]
  rfl

end Objects

section Fields

variable {α : Type} {read : Document → Option α} (known : k ∈ names)

include known

theorem required?_ofMap {v : Json} (h : m.get? k = some v) :
    (ofMap names m).required? k read = read (ofJson v) := by
  rw [required?, field?_ofMap known, h]
  rfl

theorem withDefault?_ofMap {v : Json} (default : α) (h : m.get? k = some v) :
    (ofMap names m).withDefault? k default read = read (ofJson v) := by
  rw [withDefault?, field?_ofMap known, h]
  rfl

theorem optional?_ofMap {write : α → Json} {o : Option α} (h : m.get? k = o.map write)
    (reads : ∀ a ∈ o, read (ofJson (write a)) = some a)
    (present : ∀ a, (ofJson (write a)).isNull = false) :
    (ofMap names m).optional? k read = some o := by
  rw [optional?, field?_ofMap known, h]
  cases o with
  | none => rfl
  | some a => simp [present a, reads a rfl]

theorem optional?_text {o : Option String} (h : m.get? k = o.map .string) :
    (ofMap names m).optional? k Document.text? = some o :=
  optional?_ofMap known h (fun _ _ => rfl) fun _ => rfl

theorem withDefault?_omitted {write : α → Json} {default a : α} {c : Prop} [Decidable c]
    (h : m.get? k = if c then none else some (write a)) (omitted : c → a = default)
    (reads : read (ofJson (write a)) = some a) :
    (ofMap names m).withDefault? k default read = some a := by
  by_cases hc : c
  · rw [withDefault?, field?_ofMap known, h, if_pos hc, omitted hc]
    rfl
  · rw [if_neg hc] at h
    exact (withDefault?_ofMap known default h).trans reads

theorem optional?_ofOption {write : α → Json} {o : Option α}
    (h : m.get? k = some (.ofOption write o))
    (reads : ∀ a ∈ o, read (ofJson (write a)) = some a)
    (present : ∀ a, (ofJson (write a)).isNull = false) :
    (ofMap names m).optional? k read = some o := by
  rw [optional?, field?_ofMap known, h]
  cases o with
  | none => rfl
  | some a => simp [Json.ofOption, present a, reads a rfl]

end Fields

/-! ## Other entries -/

theorem others?_ofMap (kept : (Json.ofMap m).Kept) :
    (ofMap names m).others? = some (.ofList (m.entries.filter (!names.contains ·.1))) := by
  have hkept : ∀ f ∈ m.entries.filter (!names.contains ·.1), f.2.Kept := fun f hf =>
    Json.kept_of_mem_fields kept f (List.mem_filter.1 hf).1
  have hvalues : ∀ fields : List (String × Json), (∀ f ∈ fields, f.2.Kept) →
      ((fields.map fun e => (e.1, ofJson e.2)).mapM fun p => do
        return (p.1, ← (← p.2.typed?).value?)) = some fields := by
    intro fields h
    induction fields with
    | nil => rfl
    | cons f fields ih =>
      have hf : (ofJson f.2).value? = some f.2 := h f List.mem_cons_self
      rw [List.map_cons, List.mapM_cons, ih fun g hg => h g (List.mem_cons_of_mem _ hg)]
      simp only [Document.typed?_ofJson, hf, Option.bind_eq_bind, Option.bind_some, Option.pure_def]
  exact congrArg (·.bind fun pairs => some (SortedMap.ofList pairs)) (hvalues _ hkept)

theorem get?_ofList_known {known : List (String × Json)} (named : ∀ e ∈ known, e.1 ∈ names)
    (hk : k ∉ names) : (SortedMap.ofList known).get? k = none := by
  refine SortedMap.get?_ofList_of_notMem fun hmem => ?_
  obtain ⟨e, he, rfl⟩ := List.mem_map.1 hmem
  exact hk (named e he)

section Loose

variable {loose : SortedMap Json} {known : List (String × Json)}
  (apart : ∀ k ∈ loose.keys, k ∉ names)

include apart

theorem get?_loose (hk : k ∈ names) : loose.get? k = none := by
  rw [← Option.not_isSome_iff_eq_none, ← SortedMap.mem_keys_iff]
  exact fun hmem => apart k hmem hk

theorem get?_known (hk : k ∈ names) :
    (SortedMap.ofList (loose.entries ++ known)).get? k = (SortedMap.ofList known).get? k := by
  rw [SortedMap.get?_ofList_append, SortedMap.ofList_entries, get?_loose apart hk, Option.or_none]

theorem others?_loose (kept : (Json.ofPairs (loose.entries ++ known)).Kept)
    (named : ∀ e ∈ known, e.1 ∈ names) :
    (ofMap names (.ofList (loose.entries ++ known))).others? = some loose := by
  rw [others?_ofMap kept]
  refine congrArg some (SortedMap.ext_get? fun k => ?_)
  rw [SortedMap.get?_ofList_filter _ fun k => !names.contains k]
  by_cases hk : k ∈ names
  · rw [get?_loose apart hk, if_neg (by simp [hk])]
  · rw [if_pos (by simp [hk]), SortedMap.get?_ofList_append, SortedMap.ofList_entries,
      get?_ofList_known named hk, Option.none_or]

theorem others?_loose_of_kept (loose_kept : (Json.ofMap loose).Kept)
    (hknown : ∀ e ∈ known, e.1 ∈ names ∧ e.2.Kept) :
    (ofMap names (.ofList (loose.entries ++ known))).others? = some loose := by
  have known_kept : ∀ e ∈ known, e.2.Kept := fun e he => (hknown e he).2
  have kept : (Json.ofPairs (loose.entries ++ known)).Kept :=
    Json.kept_ofPairs (List.forall_mem_append.2 ⟨Json.kept_of_mem_fields loose_kept, known_kept⟩)
  exact others?_loose apart kept fun e he => (hknown e he).1

theorem ofList_loose_comm (named : ∀ e ∈ known, e.1 ∈ names) :
    SortedMap.ofList (known ++ loose.entries) = SortedMap.ofList (loose.entries ++ known) := by
  refine SortedMap.ext_get? fun k => ?_
  rw [SortedMap.get?_ofList_append, SortedMap.get?_ofList_append, SortedMap.ofList_entries]
  by_cases hk : k ∈ names
  · rw [get?_loose apart hk, Option.none_or, Option.or_none]
  · rw [get?_ofList_known named hk, Option.or_none, Option.none_or]

end Loose

/-! ## Lists -/

theorem mapM_ofItems {α : Type} {write : α → Json} {read : Document → Option α} {as : List α}
    (h : ∀ a ∈ as, read (ofJson (write a)) = some a) :
    (ofItems (as.map write)).mapM read = some as := by
  induction as with
  | nil => rfl
  | cons a as ih =>
    rw [List.map_cons, ofItems, List.mapM_cons, h a List.mem_cons_self,
      ih fun b hb => h b (List.mem_cons_of_mem _ hb)]
    rfl

end Record

theorem Document.texts?_ofStrings (texts : List String) :
    (ofJson (.ofStrings texts)).texts? = some texts :=
  Record.mapM_ofItems fun _ _ => rfl

end WorkflowEngine
