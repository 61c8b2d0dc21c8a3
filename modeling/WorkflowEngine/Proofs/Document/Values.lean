import WorkflowEngine.Document.Basic
import WorkflowEngine.Proofs.Collection.SortedMap

/-!
# Documents of values

The document of a value has types for its scalars and entries with different keys. What is kept of it
is the value, unless there is a number in it that is not finite.

* `itemValues?_cons_iff`, `entryValues?_cons_iff`: what is kept of a part after another;
* `ofItems_eq_map`, `ofFields_eq_map`: the documents of items and fields, one by one;
* `typed?_ofJson`: scalars of a value have their types;
* `keys_of_entryValues?`: what is kept of entries has their keys;
* `Json.Kept`: values that are kept as they are;
* `kept_of_mem_items`, `kept_of_mem_fields`, `valueMap?_ofMap`: so are their parts;
* `kept_object`, `kept_array`, **`kept_ofMap_iff`**, `kept_ofPairs`, `kept_overlay`, `kept_erase`: lists,
  objects and maps of such parts;
* **`kept_iff`**: which values are kept.
-/

namespace WorkflowEngine

namespace Document

theorem itemValues?_cons_iff {d : Document} {ds : List Document} {vs : List Json} :
    itemValues? (d :: ds) = some vs ↔
      ∃ v rest, d.value? = some v ∧ itemValues? ds = some rest ∧ vs = v :: rest := by
  rw [itemValues?]
  cases d.value? <;> cases itemValues? ds <;> simp [eq_comm]

theorem entryValues?_cons_iff {k d : Document} {es : List (Document × Document)}
    {pairs : List (String × Json)} :
    entryValues? ((k, d) :: es) = some pairs ↔
      ∃ name v rest, k.text? = some name ∧ d.value? = some v ∧ entryValues? es = some rest ∧
        pairs = (name, v) :: rest := by
  rw [entryValues?]
  cases k.text? <;> cases d.value? <;> cases entryValues? es <;> simp [eq_comm]

theorem value?_list_iff {ds : List Document} {v : Json} :
    (list ds).value? = some v ↔ ∃ vs, itemValues? ds = some vs ∧ v = .array vs := by
  rw [value?]
  cases itemValues? ds <;> simp [eq_comm]

theorem value?_mapping_iff {es : List (Document × Document)} {v : Json} :
    (mapping es).value? = some v ↔ ∃ pairs, entryValues? es = some pairs ∧ v = .ofPairs pairs := by
  rw [value?]
  cases entryValues? es <;> simp [eq_comm]

theorem ofItems_eq_map (items : List Json) : ofItems items = items.map ofJson := by
  induction items with
  | nil => rfl
  | cons item items ih => rw [ofItems, ih, List.map_cons]

theorem ofFields_eq_map (fields : List (String × Json)) : ofFields fields =
    fields.map fun f => (.scalar (some f.1) (some (.string f.1)), ofJson f.2) := by
  induction fields with
  | nil => rfl
  | cons field fields ih => rw [ofFields, ih, List.map_cons]

/-! ## Types -/

mutual

theorem typed?_ofJson : ∀ v : Json, (ofJson v).typed? = some (ofJson v)
  | .null | .bool _ | .number _ | .string _ => rfl
  | .array items => by
    rw [ofJson, typed?, typedItems?_ofItems items]
    rfl
  | .object fields => by
    rw [ofJson, typed?, typedEntries?_ofFields fields]
    rfl

theorem typedItems?_ofItems : ∀ items : List Json, typedItems? (ofItems items) = some (ofItems items)
  | [] => rfl
  | item :: items => by
    rw [ofItems, typedItems?, typed?_ofJson item, typedItems?_ofItems items]
    rfl

theorem typedEntries?_ofFields : ∀ fields : List (String × Json),
    typedEntries? (ofFields fields) = some (ofFields fields)
  | [] => rfl
  | (key, value) :: fields => by
    rw [ofFields, typedEntries?, typed?_ofJson value, typedEntries?_ofFields fields]
    rfl

end

/-! ## Keys -/

theorem keys_of_entryValues? {es : List (Document × Document)} {keys : List String}
    {pairs : List (String × Json)} (hkeys : es.map (·.1.text?) = keys.map some)
    (h : entryValues? es = some pairs) : pairs.map (·.1) = keys := by
  induction es generalizing keys pairs with
  | nil =>
    cases h
    exact (List.map_eq_nil_iff.1 hkeys.symm).symm
  | cons e es ih =>
    obtain ⟨name, v, rest, hname, _, hrest, rfl⟩ := entryValues?_cons_iff.1 h
    obtain ⟨key, keys, rfl, hkey, htail⟩ := List.map_eq_cons_iff.1 hkeys.symm
    cases hkey.trans hname
    rw [List.map_cons, ih htail.symm hrest]

theorem map_text?_ofFields (fields : List (String × Json)) :
    (ofFields fields).map (·.1.text?) = (fields.map (·.1)).map some := by
  rw [ofFields_eq_map, List.map_map, List.map_map]
  rfl

end Document

/-! ## What is kept -/

/-- **A value that is kept as it is.** -/
def Json.Kept (v : Json) : Prop := (Document.ofJson v).value? = some v

instance (v : Json) : Decidable v.Kept := inferInstanceAs (Decidable (_ = _))

namespace Document

theorem kept_of_itemValues? {items : List Json} (h : itemValues? (ofItems items) = some items) :
    ∀ v ∈ items, v.Kept := by
  induction items with
  | nil => simp
  | cons item items ih =>
    obtain ⟨v, rest, hv, hrest, heq⟩ := itemValues?_cons_iff.1 h
    cases heq
    exact List.forall_mem_cons.2 ⟨hv, ih hrest⟩

theorem kept_of_entryValues? {fields : List (String × Json)}
    (h : entryValues? (ofFields fields) = some fields) : ∀ f ∈ fields, f.2.Kept := by
  induction fields with
  | nil => simp
  | cons field fields ih =>
    obtain ⟨name, v, rest, _, hv, hrest, heq⟩ := entryValues?_cons_iff.1 h
    cases heq
    exact List.forall_mem_cons.2 ⟨hv, ih hrest⟩

theorem entryValues?_of_kept {fields : List (String × Json)} (h : ∀ f ∈ fields, f.2.Kept) :
    entryValues? (ofFields fields) = some fields := by
  induction fields with
  | nil => rfl
  | cons field fields ih =>
    obtain ⟨hfield, hrest⟩ := List.forall_mem_cons.1 h
    exact entryValues?_cons_iff.2 ⟨field.1, field.2, fields, rfl, hfield, ih hrest, rfl⟩

theorem itemValues?_map {α : Type} {part : α → Document} {kept : α → Json} {as : List α}
    (h : ∀ a ∈ as, (part a).value? = some (kept a)) :
    itemValues? (as.map part) = some (as.map kept) := by
  induction as with
  | nil => rfl
  | cons a as ih =>
    obtain ⟨ha, hrest⟩ := List.forall_mem_cons.1 h
    exact itemValues?_cons_iff.2 ⟨kept a, as.map kept, ha, ih hrest, rfl⟩

theorem entryValues?_ofFields {fields : List (String × Json)} (h : (Json.object fields).Kept) :
    entryValues? (ofFields fields) = some fields := by
  obtain ⟨pairs, hpairs, heq⟩ := value?_mapping_iff.1 h
  have hentries : (SortedMap.ofList pairs).entries = fields := (Json.object.inj heq).symm
  have hkeys := keys_of_entryValues? (map_text?_ofFields fields) hpairs
  rw [hpairs, SortedMap.eq_of_entries_ofList hkeys hentries]

end Document

namespace Json

open Document (ofItems ofFields itemValues? entryValues?)

theorem kept_of_mem_items {items : List Json} (h : (array items).Kept) : ∀ v ∈ items, v.Kept := by
  obtain ⟨vs, hvs, heq⟩ := Document.value?_list_iff.1 h
  cases heq
  exact Document.kept_of_itemValues? hvs

theorem kept_of_mem_fields {fields : List (String × Json)} (h : (object fields).Kept) :
    ∀ f ∈ fields, f.2.Kept :=
  Document.kept_of_entryValues? (Document.entryValues?_ofFields h)

theorem kept_object {fields : List (String × Json)} (sorted : fields.Pairwise fun a b => a.1 < b.1)
    (h : ∀ f ∈ fields, f.2.Kept) : (object fields).Kept := by
  refine Document.value?_mapping_iff.2 ⟨fields, Document.entryValues?_of_kept h, ?_⟩
  rw [ofPairs, ofMap, SortedMap.entries_ofList sorted]

theorem kept_string (s : String) : (string s).Kept := rfl

theorem kept_array {items : List Json} (h : ∀ v ∈ items, v.Kept) : (array items).Kept := by
  have hitems : itemValues? (items.map Document.ofJson) = some (items.map id) :=
    Document.itemValues?_map h
  rw [List.map_id, ← Document.ofItems_eq_map] at hitems
  exact Document.value?_list_iff.2 ⟨items, hitems, rfl⟩

theorem kept_ofStrings (names : List String) : (ofStrings names).Kept := by
  refine kept_array fun v hv => ?_
  obtain ⟨name, _, rfl⟩ := List.mem_map.1 hv
  exact kept_string name

theorem kept_of_get? {m : SortedMap Json} (kept : (ofMap m).Kept) {k : String} {v : Json}
    (h : m.get? k = some v) : v.Kept :=
  kept_of_mem_fields kept (k, v) (SortedMap.mem_entries_iff.2 h)

/-- **A map is kept** exactly if its values are. -/
theorem kept_ofMap_iff {m : SortedMap Json} :
    (ofMap m).Kept ↔ ∀ k v, m.get? k = some v → v.Kept :=
  ⟨fun kept _ _ => kept_of_get? kept,
    fun h => kept_object m.sorted fun f hf => h f.1 f.2 (SortedMap.mem_entries_iff.1 hf)⟩

/-- **The values that are kept** are those whose numbers are finite, with the fields of every object
in key order. -/
theorem kept_iff (v : Json) : v.Kept ↔
    match v with
    | .number (.float x) => x.isFinite = true
    | .array items => ∀ item ∈ items, item.Kept
    | .object fields => (fields.Pairwise fun a b => a.1 < b.1) ∧ ∀ f ∈ fields, f.2.Kept
    | _ => True := by
  cases v with
  | null | bool | string => exact ⟨fun _ => trivial, fun _ => rfl⟩
  | number n =>
    cases n with
    | integer => exact ⟨fun _ => trivial, fun _ => rfl⟩
    | float x =>
      change some (Document.keptScalar (.number (.float x))) = some (.number (.float x)) ↔ _
      cases hfinite : x.isFinite <;> simp [Document.keptScalar, hfinite]
  | array items => exact ⟨kept_of_mem_items, kept_array⟩
  | object fields =>
    refine ⟨fun h => ⟨?_, kept_of_mem_fields h⟩, fun h => kept_object h.1 h.2⟩
    obtain ⟨pairs, _, heq⟩ := Document.value?_mapping_iff.1 h
    have hentries : (SortedMap.ofList pairs).entries = fields := (Json.object.inj heq).symm
    exact hentries ▸ (SortedMap.ofList pairs).sorted

theorem kept_ofPairs {pairs : List (String × Json)} (h : ∀ p ∈ pairs, p.2.Kept) :
    (ofPairs pairs).Kept :=
  kept_ofMap_iff.2 fun k _ hget => h (k, _) (SortedMap.mem_of_get?_ofList hget)

theorem kept_overlay {m n : SortedMap Json} (hm : (ofMap m).Kept) (hn : (ofMap n).Kept) :
    (ofMap (m.overlay n)).Kept := by
  refine kept_ofMap_iff.2 fun k v hv => ?_
  rw [SortedMap.get?_overlay, Option.or_eq_some_iff] at hv
  rcases hv with hv | ⟨_, hv⟩
  · exact kept_of_get? hn hv
  · exact kept_of_get? hm hv

theorem kept_erase {m : SortedMap Json} (h : (ofMap m).Kept) (key : String) :
    (ofMap (m.erase key)).Kept := by
  refine kept_ofMap_iff.2 fun k v hv => ?_
  rw [SortedMap.get?_erase] at hv
  split at hv
  · cases hv
  · exact kept_of_get? h hv

end Json

theorem Document.valueMap?_ofMap {m : SortedMap Json} (h : (Json.ofMap m).Kept) :
    (Document.ofJson (.ofMap m)).valueMap? = some m := by
  rw [Json.ofMap, Document.ofJson, valueMap?]
  simp only [entries?, Option.bind_eq_bind, Option.bind_some, Document.entryValues?_ofFields h,
    Option.pure_def, SortedMap.ofList_entries]

end WorkflowEngine
