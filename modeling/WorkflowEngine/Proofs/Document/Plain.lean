import WorkflowEngine.Document.Record
import WorkflowEngine.Json.Reader
import WorkflowEngine.Proofs.Collection.Outcome
import WorkflowEngine.Proofs.Document.Values
import WorkflowEngine.Yaml.Reader

/-!
# What readers give

In the documents that come from values and from texts, a scalar stands for a simple value. What is
kept of such a document is kept as it is when it is written and read again.

* `Json.isScalar`, `Document.Plain`: documents with simple scalars;
* **`Document.Plain.kept_of_value?`**: what is kept of a plain document;
* `Document.Plain.typed`, `Document.Plain.limitDepth`, `Document.plain_ofJson`;
* `Document.Plain.exists_item`, `Document.Plain.kept_of_valueMap?`: what is read from their parts;
* `Record.Plain`, `Record.plain_read?`, **`Record.Plain.others?`**: the records of plain documents;
* **`Json.plain_of_document?`**, **`Yaml.plain_of_document?`**: readers give plain documents.
-/

namespace WorkflowEngine

/-- True of null, truth values, numbers and texts. -/
def Json.isScalar : Json → Bool
  | .array _ | .object _ => false
  | _ => true

namespace Document

/-- **A document whose scalars stand for simple values.** -/
inductive Plain : Document → Prop
  | scalar {written : Option String} {value : Option Json}
      (simple : ∀ v ∈ value, v.isScalar = true) : Plain (.scalar written value)
  | list {items : List Document} (parts : ∀ d ∈ items, Plain d) : Plain (.list items)
  | mapping {entries : List (Document × Document)} (keys : ∀ e ∈ entries, Plain e.1)
      (values : ∀ e ∈ entries, Plain e.2) : Plain (.mapping entries)
  | tagged {body : Document} (part : Plain body) : Plain (.tagged body)

theorem plain_unreadable : unreadable.Plain := .scalar (by simp)

/-! ## What is kept -/

theorem kept_keptScalar {v : Json} (h : v.isScalar = true) : (keptScalar v).Kept := by
  cases v with
  | null | bool | string => rfl
  | number n =>
    cases n with
    | integer => rfl
    | float x =>
      rw [keptScalar]
      split
      · next finite =>
        change some (keptScalar (.number (.float x))) = _
        rw [keptScalar, if_pos finite]
      · rfl
  | array | object => cases h

theorem exists_of_itemValues? {ds : List Document} {vs : List Json} (h : itemValues? ds = some vs) :
    ∀ v ∈ vs, ∃ d ∈ ds, d.value? = some v := by
  induction ds generalizing vs with
  | nil =>
    cases h
    simp
  | cons d ds ih =>
    obtain ⟨v, rest, hv, hrest, rfl⟩ := itemValues?_cons_iff.1 h
    refine List.forall_mem_cons.2 ⟨⟨d, List.mem_cons_self, hv⟩, fun w hw => ?_⟩
    obtain ⟨d', hd', hw'⟩ := ih hrest w hw
    exact ⟨d', List.mem_cons_of_mem _ hd', hw'⟩

theorem exists_of_entryValues? {es : List (Document × Document)} {pairs : List (String × Json)}
    (h : entryValues? es = some pairs) : ∀ p ∈ pairs, ∃ e ∈ es, e.2.value? = some p.2 := by
  induction es generalizing pairs with
  | nil =>
    cases h
    simp
  | cons e es ih =>
    obtain ⟨name, v, rest, _, hv, hrest, rfl⟩ := entryValues?_cons_iff.1 h
    refine List.forall_mem_cons.2 ⟨⟨e, List.mem_cons_self, hv⟩, fun p hp => ?_⟩
    obtain ⟨e', he', hp'⟩ := ih hrest p hp
    exact ⟨e', List.mem_cons_of_mem _ he', hp'⟩

/-- **What is kept of a plain document** is kept as it is. -/
theorem Plain.kept_of_value? {d : Document} (h : d.Plain) {v : Json} (hv : d.value? = some v) :
    v.Kept := by
  induction h generalizing v with
  | scalar simple =>
    obtain ⟨w, hw, rfl⟩ := Option.map_eq_some_iff.1 hv
    exact kept_keptScalar (simple w hw)
  | list _ ih =>
    obtain ⟨vs, hvs, rfl⟩ := value?_list_iff.1 hv
    refine Json.kept_array fun w hw => ?_
    obtain ⟨d, hd, hdw⟩ := exists_of_itemValues? hvs w hw
    exact ih d hd hdw
  | mapping _ _ _ ih =>
    obtain ⟨pairs, hpairs, rfl⟩ := value?_mapping_iff.1 hv
    refine Json.kept_ofPairs fun p hp => ?_
    obtain ⟨e, he, hep⟩ := exists_of_entryValues? hpairs p hp
    exact ih e he hep
  | tagged => cases hv

/-! ## Plain documents made of others -/

theorem exists_of_typedItems? {ds ds' : List Document} (h : typedItems? ds = some ds') :
    ∀ d' ∈ ds', ∃ d ∈ ds, d.typed? = some d' := by
  induction ds generalizing ds' with
  | nil =>
    cases h
    simp
  | cons d ds ih =>
    obtain ⟨d₁, hd₁, h⟩ := Option.bind_eq_some_iff.1 h
    obtain ⟨rest, hrest, h⟩ := Option.bind_eq_some_iff.1 h
    cases h
    refine List.forall_mem_cons.2 ⟨⟨d, List.mem_cons_self, hd₁⟩, fun d' hd' => ?_⟩
    obtain ⟨d₂, hd₂, h₂⟩ := ih hrest d' hd'
    exact ⟨d₂, List.mem_cons_of_mem _ hd₂, h₂⟩

theorem exists_of_typedEntries? {es es' : List (Document × Document)}
    (h : typedEntries? es = some es') :
    ∀ e' ∈ es', ∃ e ∈ es, e.1.typed? = some e'.1 ∧ e.2.typed? = some e'.2 := by
  induction es generalizing es' with
  | nil =>
    cases h
    simp
  | cons e es ih =>
    obtain ⟨key, hkey, h⟩ := Option.bind_eq_some_iff.1 h
    obtain ⟨value, hvalue, h⟩ := Option.bind_eq_some_iff.1 h
    obtain ⟨rest, hrest, h⟩ := Option.bind_eq_some_iff.1 h
    cases h
    refine List.forall_mem_cons.2 ⟨⟨e, List.mem_cons_self, hkey, hvalue⟩, fun e' he' => ?_⟩
    obtain ⟨e₂, he₂, h₂⟩ := ih hrest e' he'
    exact ⟨e₂, List.mem_cons_of_mem _ he₂, h₂⟩

theorem Plain.typed {d : Document} (h : d.Plain) {d' : Document} (hd' : d.typed? = some d') :
    d'.Plain := by
  induction h generalizing d' with
  | @scalar _ value simple =>
    cases value with
    | none => cases hd'
    | some v =>
      have hv := simple v rfl
      cases v <;> cases hd' <;> exact .scalar (by rintro _ ⟨⟩; exact hv)
  | list _ ih =>
    obtain ⟨items, hitems, h⟩ := Option.bind_eq_some_iff.1 hd'
    cases h
    refine .list fun d₁ hd₁ => ?_
    obtain ⟨d, hd, hd₁⟩ := exists_of_typedItems? hitems d₁ hd₁
    exact ih d hd hd₁
  | mapping _ _ ihkeys ihvalues =>
    obtain ⟨entries, hentries, h⟩ := Option.bind_eq_some_iff.1 hd'
    cases h
    refine .mapping (fun e₁ he₁ => ?_) fun e₁ he₁ => ?_
    · obtain ⟨e, he, hkey, _⟩ := exists_of_typedEntries? hentries e₁ he₁
      exact ihkeys e he hkey
    · obtain ⟨e, he, _, hvalue⟩ := exists_of_typedEntries? hentries e₁ he₁
      exact ihvalues e he hvalue
  | tagged => cases hd'

theorem limitItems_eq_map (depth : Nat) (items : List Document) :
    limitItems depth items = items.map (limitDepth depth) := by
  induction items with
  | nil => rw [limitItems, List.map_nil]
  | cons item items ih => rw [limitItems, ih, List.map_cons]

theorem limitEntries_eq_map (depth : Nat) (entries : List (Document × Document)) :
    limitEntries depth entries =
      entries.map fun e => (limitDepth depth e.1, limitDepth depth e.2) := by
  induction entries with
  | nil => rw [limitEntries, List.map_nil]
  | cons e entries ih => rw [limitEntries, ih, List.map_cons]

theorem Plain.limitDepth {d : Document} (h : d.Plain) (depth : Nat) : (d.limitDepth depth).Plain := by
  induction h generalizing depth with
  | scalar simple =>
    rw [Document.limitDepth]
    exact .scalar simple
  | list _ ih =>
    cases depth with
    | zero => exact plain_unreadable
    | succ depth =>
      rw [Document.limitDepth, limitItems_eq_map]
      exact .list (List.forall_mem_map.2 fun d hd => ih d hd depth)
  | mapping _ _ ihkeys ihvalues =>
    cases depth with
    | zero => exact plain_unreadable
    | succ depth =>
      rw [Document.limitDepth, limitEntries_eq_map]
      exact .mapping (List.forall_mem_map.2 fun e he => ihkeys e he depth)
        (List.forall_mem_map.2 fun e he => ihvalues e he depth)
  | tagged _ ih =>
    cases depth with
    | zero => exact plain_unreadable
    | succ depth =>
      rw [Document.limitDepth]
      exact .tagged (ih (depth + 1))

mutual

theorem plain_ofJson : ∀ v : Json, (ofJson v).Plain
  | .null | .bool _ | .number _ | .string _ => .scalar (by simp [Json.isScalar])
  | .array items => .list (plain_ofItems items)
  | .object fields =>
    .mapping (fun e he => (plain_ofFields fields e he).1) fun e he => (plain_ofFields fields e he).2

theorem plain_ofItems : ∀ items : List Json, ∀ d ∈ ofItems items, d.Plain
  | [] => by simp [ofItems]
  | item :: items => List.forall_mem_cons.2 ⟨plain_ofJson item, plain_ofItems items⟩

theorem plain_ofFields : ∀ fields : List (String × Json),
    ∀ e ∈ ofFields fields, e.1.Plain ∧ e.2.Plain
  | [] => by simp [ofFields]
  | (_, value) :: fields => List.forall_mem_cons.2
    ⟨⟨.scalar (by simp [Json.isScalar]), plain_ofJson value⟩, plain_ofFields fields⟩

end

/-! ## Parts of plain documents -/

theorem scalar_items? {written : Option String} {value : Option Json} {items : List Document}
    (h : (scalar written value).items? = some items) : items = [] := by
  unfold Document.items? at h
  split at h <;> first | contradiction | (cases h; rfl)

theorem scalar_entries? {written : Option String} {value : Option Json}
    {entries : List (Document × Document)}
    (h : (scalar written value).entries? = some entries) : entries = [] := by
  unfold Document.entries? at h
  split at h <;> first | contradiction | (cases h; rfl)

theorem Plain.items? {d : Document} (h : d.Plain) {items : List Document}
    (hitems : d.items? = some items) : ∀ item ∈ items, item.Plain := by
  induction h with
  | scalar =>
    obtain rfl := scalar_items? hitems
    simp
  | list parts =>
    cases hitems
    exact parts
  | mapping => cases hitems
  | tagged _ ih => exact ih hitems

theorem Plain.entries? {d : Document} (h : d.Plain) {entries : List (Document × Document)}
    (hentries : d.entries? = some entries) : ∀ e ∈ entries, e.2.Plain := by
  induction h with
  | scalar =>
    obtain rfl := scalar_entries? hentries
    simp
  | list => cases hentries
  | mapping _ values =>
    cases hentries
    exact values
  | tagged _ ih => exact ih hentries

/-- **What is read part by part from a plain list** is read from plain parts. -/
theorem Plain.exists_item {α : Type} {read : Document → Option α} {d : Document} (h : d.Plain)
    {as : List α} (has : (do (← d.items?).mapM read) = some as) :
    ∀ a ∈ as, ∃ item, item.Plain ∧ read item = some a := by
  intro a ha
  obtain ⟨items, hitems, has⟩ := Option.bind_eq_some_iff.1 has
  obtain ⟨item, hitem, hread⟩ := exists_of_mapM_some has a ha
  exact ⟨item, h.items? hitems item hitem, hread⟩

theorem Plain.kept_of_valueMap? {d : Document} (h : d.Plain) {m : SortedMap Json}
    (hm : d.valueMap? = some m) : (Json.ofMap m).Kept := by
  obtain ⟨entries, hentries, hm⟩ := Option.bind_eq_some_iff.1 hm
  obtain ⟨pairs, hpairs, hm⟩ := Option.bind_eq_some_iff.1 hm
  cases hm
  refine Json.kept_ofPairs fun p hp => ?_
  obtain ⟨e, he, hep⟩ := exists_of_entryValues? hpairs p hp
  exact (h.entries? hentries e he).kept_of_value? hep

end Document

/-! ## Records -/

namespace Record

/-- **A record of plain parts**, its other entries under names that are not declared. -/
structure Plain (names : List String) (r : Record) : Prop where
  fields : ∀ f ∈ r.fields, f.2.Plain
  others : ∀ f ∈ r.others, f.1 ∉ names ∧ f.2.Plain

variable {names : List String} {r : Record}

theorem plain_ofEntries? {entries : List (Document × Document)} (h : ∀ e ∈ entries, e.2.Plain)
    (hr : ofEntries? names entries = some r) : r.Plain names := by
  induction entries generalizing r with
  | nil =>
    cases hr
    exact ⟨by simp, by simp⟩
  | cons e entries ih =>
    obtain ⟨hfirst, hrest⟩ := List.forall_mem_cons.1 h
    obtain ⟨name, _, hr⟩ := Option.bind_eq_some_iff.1 hr
    obtain ⟨record, hrecord, hr⟩ := Option.bind_eq_some_iff.1 hr
    obtain ⟨fields, others⟩ := ih hrest hrecord
    split at hr
    · split at hr <;> cases hr
      exact ⟨List.forall_mem_cons.2 ⟨hfirst, fields⟩, others⟩
    · next hname =>
      cases hr
      refine ⟨fields, List.forall_mem_cons.2 ⟨⟨?_, hfirst⟩, others⟩⟩
      simpa using hname

theorem plain_ofMapping? {d : Document} (h : d.Plain) (hr : ofMapping? names d = some r) :
    r.Plain names := by
  obtain ⟨entries, hentries, hr⟩ := Option.bind_eq_some_iff.1 hr
  exact plain_ofEntries? (h.entries? hentries) hr

/-- **The record of a plain document**, a list of fields or a mapping. -/
theorem plain_read? {lists : Bool} {least : Nat} {d : Document} (h : d.Plain)
    (hr : read? lists names least d = some r) : r.Plain names := by
  unfold read? at hr
  split at hr
  · next items =>
    unfold ofItems? at hr
    split at hr <;> cases hr
    cases h with
    | list parts => exact ⟨fun f hf => parts f.2 (List.of_mem_zip hf).2, by simp⟩
  · exact plain_ofMapping? h hr

namespace Plain

variable {α : Type} {read : Document → Option α} {name : String} {a : α} (h : r.Plain names)

include h

theorem field? {d : Document} (hd : r.field? name = some d) : d.Plain := by
  obtain ⟨f, hf, rfl⟩ := Option.map_eq_some_iff.1 hd
  exact h.fields f (List.mem_of_find?_eq_some hf)

theorem required? (ha : r.required? name read = some a) : ∃ d, d.Plain ∧ read d = some a := by
  obtain ⟨d, hd, ha⟩ := Option.bind_eq_some_iff.1 ha
  exact ⟨d, h.field? hd, ha⟩

theorem withDefault? {default : α} (ha : r.withDefault? name default read = some a) :
    a = default ∨ ∃ d, d.Plain ∧ read d = some a := by
  unfold Record.withDefault? at ha
  split at ha
  · exact .inl (Option.some.inj ha).symm
  · next d hd => exact .inr ⟨d, h.field? hd, ha⟩

theorem kept_of_valueMap? {m : SortedMap Json}
    (hm : r.withDefault? name .empty Document.valueMap? = some m) : (Json.ofMap m).Kept := by
  rcases h.withDefault? hm with rfl | ⟨d, plain, hd⟩
  · rfl
  · exact plain.kept_of_valueMap? hd

theorem optional? {o : Option α} (ho : r.optional? name read = some o) :
    ∀ a ∈ o, ∃ d, d.Plain ∧ read d = some a := by
  rintro a rfl
  unfold Record.optional? at ho
  split at ho
  · cases ho
  · next d hd =>
    split at ho
    · cases ho
    · obtain ⟨a', ha', ho⟩ := Option.map_eq_some_iff.1 ho
      cases ho
      exact ⟨d, h.field? hd, ha'⟩

/-- **The other entries of a plain record**: they are kept, and no declared name is among them. -/
theorem others? {m : SortedMap Json} (hm : r.others? = some m) :
    (∀ k ∈ m.keys, k ∉ names) ∧ (Json.ofMap m).Kept := by
  obtain ⟨pairs, hpairs, hm⟩ := Option.bind_eq_some_iff.1 hm
  cases hm
  have hpair : ∀ p ∈ pairs, p.1 ∉ names ∧ p.2.Kept := by
    intro p hp
    obtain ⟨f, hf, hp⟩ := exists_of_mapM_some hpairs p hp
    obtain ⟨typed, htyped, hp⟩ := Option.bind_eq_some_iff.1 hp
    obtain ⟨v, hv, hp⟩ := Option.bind_eq_some_iff.1 hp
    cases hp
    obtain ⟨hname, hplain⟩ := h.others f hf
    exact ⟨hname, (hplain.typed htyped).kept_of_value? hv⟩
  refine ⟨fun k hk => ?_, Json.kept_ofPairs fun p hp => (hpair p hp).2⟩
  obtain ⟨p, hp, rfl⟩ := List.mem_map.1 (SortedMap.mem_keys_ofList.1 hk)
  exact (hpair p hp).1

end Plain

end Record

/-! ## Texts -/

namespace Json

theorem plain_textDocument (s : Option String) : (textDocument s).Plain := by
  cases s <;> exact .scalar (by simp [isScalar])

theorem plain_number (n : Option Number) : (Document.scalar none (n.map .number)).Plain :=
  .scalar fun v hv => by
    obtain ⟨m, _, rfl⟩ := Option.map_eq_some_iff.1 hv
    rfl

theorem plain_readNumber {cs rest : List Char} {d : Document} (h : readNumber cs = some (d, rest)) :
    d.Plain := by
  unfold readNumber at h
  split at h
  dsimp only at h
  split at h
  · cases h
  · obtain ⟨⟨fraction, _⟩, _, h⟩ := Option.bind_eq_some_iff.1 h
    obtain ⟨⟨exponent, _⟩, _, h⟩ := Option.bind_eq_some_iff.1 h
    cases h
    exact plain_number _

section Steps

variable {fuel : Nat} {cs rest : List Char}
  (ihvalue : ∀ {cs d rest}, readValue fuel cs = some (d, rest) → d.Plain)
  (ihitems : ∀ {cs ds rest}, readItems fuel cs = some (ds, rest) → ∀ d ∈ ds, d.Plain)
  (ihentries : ∀ {cs es rest}, readEntries fuel cs = some (es, rest) →
    ∀ e ∈ es, e.1.Plain ∧ e.2.Plain)

include ihitems ihentries in
theorem plain_readValue_succ {d : Document} (h : readValue (fuel + 1) cs = some (d, rest)) :
    d.Plain := by
  have hscalar : ∀ v : Json, v.isScalar = true → (Document.scalar none (some v)).Plain :=
    fun v hv => .scalar (by rintro _ ⟨⟩; exact hv)
  rw [readValue] at h
  split at h
  · obtain ⟨⟨s, _⟩, _, h⟩ := Option.bind_eq_some_iff.1 h
    cases h
    exact plain_textDocument s
  · split at h
    · cases h
      exact .list (by simp)
    · obtain ⟨⟨items, _⟩, hitems, h⟩ := Option.bind_eq_some_iff.1 h
      cases h
      exact .list (ihitems hitems)
  · split at h
    · cases h
      exact .mapping (by simp) (by simp)
    · obtain ⟨⟨entries, _⟩, hentries, h⟩ := Option.bind_eq_some_iff.1 h
      cases h
      exact .mapping (fun e he => (ihentries hentries e he).1) fun e he =>
        (ihentries hentries e he).2
  · obtain ⟨_, _, h⟩ := Option.map_eq_some_iff.1 h
    cases h
    exact hscalar _ rfl
  · obtain ⟨_, _, h⟩ := Option.map_eq_some_iff.1 h
    cases h
    exact hscalar _ rfl
  · obtain ⟨_, _, h⟩ := Option.map_eq_some_iff.1 h
    cases h
    exact hscalar _ rfl
  · exact plain_readNumber h

include ihvalue ihitems in
theorem plain_readItems_succ {ds : List Document}
    (h : readItems (fuel + 1) cs = some (ds, rest)) : ∀ d ∈ ds, d.Plain := by
  rw [readItems] at h
  obtain ⟨⟨item, after⟩, hitem, h⟩ := Option.bind_eq_some_iff.1 h
  dsimp only at h
  split at h
  · cases h
    exact List.forall_mem_singleton.2 (ihvalue hitem)
  · obtain ⟨⟨items, _⟩, hitems, h⟩ := Option.bind_eq_some_iff.1 h
    cases h
    exact List.forall_mem_cons.2 ⟨ihvalue hitem, ihitems hitems⟩
  · cases h

include ihvalue ihentries in
theorem plain_readEntries_succ {es : List (Document × Document)}
    (h : readEntries (fuel + 1) cs = some (es, rest)) : ∀ e ∈ es, e.1.Plain ∧ e.2.Plain := by
  rw [readEntries] at h
  split at h
  · obtain ⟨⟨key, _⟩, _, h⟩ := Option.bind_eq_some_iff.1 h
    dsimp only at h
    split at h
    · obtain ⟨⟨value, _⟩, hvalue, h⟩ := Option.bind_eq_some_iff.1 h
      dsimp only at h
      split at h
      · cases h
        exact List.forall_mem_singleton.2 ⟨plain_textDocument key, ihvalue hvalue⟩
      · obtain ⟨⟨entries, _⟩, hentries, h⟩ := Option.bind_eq_some_iff.1 h
        cases h
        exact List.forall_mem_cons.2
          ⟨⟨plain_textDocument key, ihvalue hvalue⟩, ihentries hentries⟩
      · cases h
    · cases h
  · cases h

end Steps

theorem plain_read (fuel : Nat) :
    (∀ {cs d rest}, readValue fuel cs = some (d, rest) → d.Plain) ∧
    (∀ {cs ds rest}, readItems fuel cs = some (ds, rest) → ∀ d ∈ ds, d.Plain) ∧
    ∀ {cs es rest}, readEntries fuel cs = some (es, rest) → ∀ e ∈ es, e.1.Plain ∧ e.2.Plain := by
  -- the three readers call each other with less fuel, so they are taken together
  induction fuel with
  | zero => exact ⟨nofun, nofun, nofun⟩
  | succ fuel ih =>
    obtain ⟨ihvalue, ihitems, ihentries⟩ := ih
    exact ⟨plain_readValue_succ ihitems ihentries, plain_readItems_succ ihvalue ihitems,
      plain_readEntries_succ ihvalue ihentries⟩

/-- **A text is read as a plain document.** -/
theorem plain_of_document? {text : String} {d : Document} (h : document? text = some d) : d.Plain := by
  obtain ⟨⟨read, rest⟩, hread, h⟩ := Option.bind_eq_some_iff.1 h
  dsimp only at h
  split at h
  · cases h
    exact ((plain_read _).1 hread).limitDepth _
  · cases h

end Json

namespace Yaml

open Document (Plain plain_unreadable)

theorem isScalar_integerValue? {n : Int} {v : Json} (h : integerValue? n = some v) :
    v.isScalar = true := by
  unfold integerValue? at h
  split at h <;> cases h
  rfl

theorem isScalar_numberValue? {text : String} {value : Option Json}
    (h : numberValue? text = some value) : ∀ v ∈ value, v.isScalar = true := by
  intro v hv
  subst hv
  unfold numberValue? at h
  split at h
  · exact isScalar_integerValue? (Option.some.inj h)
  · split at h
    · cases h
    · obtain ⟨_, _, h⟩ := Option.map_eq_some_iff.1 h
      cases h
      rfl

theorem isScalar_plainValue? {text : String} {v : Json} (h : plainValue? text = some v) :
    v.isScalar = true := by
  unfold plainValue? at h
  split at h
  · cases h
    rfl
  · split at h
    · cases h
      rfl
    · cases hnumber : numberValue? text with
      | none =>
        rw [hnumber] at h
        cases h
        rfl
      | some value =>
        rw [hnumber] at h
        exact isScalar_numberValue? hnumber v h

theorem isScalar_taggedValue? {tag text : String} {v : Json} (h : taggedValue? tag text = some v) :
    v.isScalar = true := by
  unfold taggedValue? at h
  split at h
  · obtain ⟨_, _, rfl⟩ := Option.map_eq_some_iff.1 h
    rfl
  · split at h
    · obtain ⟨_, _, h⟩ := Option.bind_eq_some_iff.1 h
      exact isScalar_integerValue? h
    · split at h
      · obtain ⟨_, _, rfl⟩ := Option.map_eq_some_iff.1 h
        rfl
      · split at h
        · split at h <;> cases h
          rfl
        · cases h
          rfl

theorem plain_tagged {d : Document} (h : d.Plain) (tag : Option String) : (tagged tag d).Plain := by
  unfold tagged
  split
  · exact .tagged h
  · exact h

theorem plain_scalarDocument (tag : Option String) (plain : Bool) (text : String) :
    (scalarDocument tag plain text).Plain := by
  refine plain_tagged (.scalar fun v hv => ?_) tag
  split at hv
  · split at hv
    · exact isScalar_plainValue? hv
    · cases hv
      rfl
  · split at hv
    · exact isScalar_plainValue? hv
    · exact isScalar_taggedValue? hv

theorem plain_documentTo (targets : List (Nat × Node Nat)) (depth : Nat) (node : Node Nat)
    (left : Nat) : (documentTo targets depth node left).1.Plain := by
  induction depth generalizing node left with
  | zero =>
    rw [documentTo]
    simp only [bind, StateT.bind]
    rcases follow targets node left with ⟨_ | followed, left⟩
    · exact plain_unreadable
    · cases followed with
      | scalar p plain text => exact plain_scalarDocument p.tag plain text
      | «alias» | sequence | mapping => exact plain_unreadable
  | succ depth ih =>
    rw [documentTo]
    simp only [bind, StateT.bind]
    rcases follow targets node left with ⟨_ | followed, left⟩
    · exact plain_unreadable
    · cases followed with
      | «alias» => exact plain_unreadable
      | scalar p plain text => exact plain_scalarDocument p.tag plain text
      | sequence p items =>
        refine plain_tagged (.list fun d hd => ?_) p.tag
        obtain ⟨item, _, left', rfl⟩ := exists_of_mem_mapM hd
        exact ih item left'
      | mapping p entries =>
        refine plain_tagged (.mapping (fun e he => ?_) fun e he => ?_) p.tag
        · obtain ⟨entry, _, left', rfl⟩ := exists_of_mem_mapM he
          exact ih entry.1 _
        · obtain ⟨entry, _, left', rfl⟩ := exists_of_mem_mapM he
          exact ih entry.2 _

theorem plain_document (targets : List (Nat × Node Nat)) (node : Node Nat) :
    (node.document targets).Plain := by
  cases node with
  | «alias» | scalar | sequence => exact plain_documentTo targets depthLimit _ _
  | mapping p entries =>
    exact plain_tagged (.mapping (List.forall_mem_map.2 fun _ _ => plain_documentTo ..)
      (List.forall_mem_map.2 fun _ _ => plain_documentTo ..)) p.tag

/-- **A text is read as a plain document.** -/
theorem plain_of_document? {text : String} {d : Document} (h : document? text = some d) :
    d.Plain := by
  obtain ⟨_, _, h⟩ := Option.bind_eq_some_iff.1 h
  obtain ⟨_, _, h⟩ := Option.bind_eq_some_iff.1 h
  obtain ⟨⟨node, anchors⟩, _, h⟩ := Option.bind_eq_some_iff.1 h
  cases h
  exact plain_document anchors.nodes node

end Yaml

end WorkflowEngine
