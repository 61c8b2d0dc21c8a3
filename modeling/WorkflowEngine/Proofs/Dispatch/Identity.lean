import WorkflowEngine.Dispatch.Identity
import WorkflowEngine.Proofs.Json.Text

/-!
# What the identifier of a key tells

The identifier of a key with several columns is the text of an object. Where the values of the columns are
read back from their texts, so is the object, whatever the columns are called; so two keys have the same
identifier only if they have the same columns.

* `Json.ReadsBack`, `readsBack_iff`: values that are read back from their texts;
* `readsBack_string`, `readsBack_integer`: texts and whole numbers are;
* `entryValues?_written_iff`, `parse?_text_object_iff`: an object is, exactly if each of its values is;
* `PrimaryKey.Composite`: keys with several columns, none of them without a value;
* `identifier?_of_several`, `identifier?_of_null`, `Composite.identifier?_eq`, `Composite.parse?_text`,
  `Composite.ofPairs_eq_iff`: what their identifiers are, and what they are read back as;
* **`identifier?_identifies`**: the identifiers of two keys.
-/

namespace WorkflowEngine

open Document (limitDepth limitEntries entryValues?)

/-! ## Values that are read back -/

namespace Json

/-- **A value that is read back from its text**, where the text stands in a container as the values of a
key do. A text is read to a limited depth, to which the container counts. -/
def ReadsBack (v : Json) : Prop := parse? (array [v]).text = some (array [v])

instance (v : Json) : Decidable v.ReadsBack := inferInstanceAs (Decidable (_ = _))

theorem readsBack_iff {v : Json} :
    v.ReadsBack ↔ (v.written.limitDepth (depthLimit - 1)).value? = some v := by
  have hlist : (array [v]).written.limitDepth depthLimit =
      .list [v.written.limitDepth (depthLimit - 1)] := rfl
  rw [ReadsBack, parse?_text, hlist, Document.value?_list_iff]
  constructor
  · rintro ⟨vs, hvs, heq⟩
    cases heq
    obtain ⟨w, rest, hw, -, heq⟩ := Document.itemValues?_cons_iff.1 hvs
    cases heq
    exact hw
  · intro h
    exact ⟨[v], Document.itemValues?_cons_iff.2 ⟨v, [], h, rfl, rfl⟩, rfl⟩

theorem readsBack_string (s : String) : (string s).ReadsBack := readsBack_iff.2 rfl

theorem readsBack_integer {n : Int} (lower : -2 ^ 63 ≤ n) (upper : n < 2 ^ 64) :
    (ofInt n).ReadsBack := by
  have hvalue : (Document.scalar none (Number.integer n).readBack?).value? = some (ofInt n) := by
    rw [readBack?_integer lower upper]
    rfl
  exact readsBack_iff.2 hvalue

theorem entryValues?_written_iff {fields : List (String × Json)} :
    entryValues? (limitEntries (depthLimit - 1) (writtenFields fields)) = some fields ↔
      ∀ f ∈ fields, f.2.ReadsBack := by
  induction fields with
  | nil => simp [writtenFields, limitEntries, entryValues?]
  | cons field fields ih =>
    rw [List.forall_mem_cons, ← ih, readsBack_iff, writtenFields, textDocument, limitEntries, limitDepth,
      Document.entryValues?_cons_iff]
    constructor
    · rintro ⟨name, v, rest, -, hv, hrest, heq⟩
      cases heq
      exact ⟨hv, hrest⟩
    · rintro ⟨hv, hrest⟩
      exact ⟨field.1, field.2, fields, rfl, hv, hrest, rfl⟩

/-- **An object is read back from its text** exactly if its values are. -/
theorem parse?_text_object_iff {fields : List (String × Json)}
    (sorted : fields.Pairwise fun a b => a.1 < b.1) :
    parse? (object fields).text = some (object fields) ↔ ∀ f ∈ fields, f.2.ReadsBack := by
  let entries := limitEntries (depthLimit - 1) (writtenFields fields)
  have hobject : (object fields).written.limitDepth depthLimit = .mapping entries := rfl
  have hparse : parse? (object fields).text = some (object fields) ↔ entryValues? entries = some fields := by
    rw [parse?_text, hobject, Document.value?_mapping_iff]
    constructor
    · rintro ⟨pairs, hpairs, heq⟩
      have hkeys := Document.keys_of_entryValues? (map_text?_limitEntries _ fields) hpairs
      rw [hpairs, SortedMap.eq_of_entries_ofList hkeys (object.inj heq).symm]
    · intro h
      exact ⟨fields, h, by rw [ofPairs, ofMap, SortedMap.entries_ofList sorted]⟩
  rw [hparse]
  exact entryValues?_written_iff

end Json

/-! ## Keys with several columns -/

namespace PrimaryKey

/-- **A key with several columns**, their names different and none of them null. -/
structure Composite (k : PrimaryKey) : Prop where
  several : 2 ≤ k.columns.length
  names_nodup : (k.columns.map (·.1)).Nodup
  not_null : ∀ c ∈ k.columns, c.2 ≠ .null

variable {k l : PrimaryKey}

theorem identifier?_of_several (h : 2 ≤ k.columns.length) : k.identifier? =
    if k.columns.any (·.2 = .null) then none else some (Json.ofPairs k.columns).text := by
  obtain ⟨_ | ⟨c, _ | ⟨d, rest⟩⟩⟩ := k
  · exact absurd h (by decide)
  · exact absurd h (Nat.not_le.2 Nat.one_lt_two)
  · rfl

theorem identifier?_of_null (h : ∃ c ∈ k.columns, c.2 = .null) : k.identifier? = none := by
  obtain ⟨c, hc, hnull⟩ := h
  by_cases hseveral : 2 ≤ k.columns.length
  · rw [identifier?_of_several hseveral, if_pos (List.any_eq_true.2 ⟨c, hc, by simp [hnull]⟩)]
  · obtain ⟨_ | ⟨d, _ | ⟨e, rest⟩⟩⟩ := k
    · cases hc
    · cases List.mem_singleton.1 hc
      obtain ⟨name, value⟩ := c
      cases hnull
      rfl
    · simp at hseveral

namespace Composite

/-- **The identifier of a key with several columns** is the text of the object of its columns. -/
theorem identifier?_eq (h : k.Composite) : k.identifier? = some (Json.ofPairs k.columns).text := by
  rw [identifier?_of_several h.several, if_neg]
  intro hany
  obtain ⟨c, hc, hnull⟩ := List.any_eq_true.1 hany
  exact h.not_null c hc (by simpa using hnull)

theorem perm_fields (h : k.Composite) : (SortedMap.ofList k.columns).entries.Perm k.columns :=
  SortedMap.perm_entries_ofList h.names_nodup

/-- **The identifier is read back** as the object of the columns, if their values are. -/
theorem parse?_text (h : k.Composite) (reads : ∀ c ∈ k.columns, c.2.ReadsBack) :
    Json.parse? (Json.ofPairs k.columns).text = some (Json.ofPairs k.columns) :=
  (Json.parse?_text_object_iff (SortedMap.ofList k.columns).sorted).2 fun f hf =>
    reads f (h.perm_fields.mem_iff.1 hf)

theorem ofPairs_eq_iff (hk : k.Composite) (hl : l.Composite) :
    Json.ofPairs k.columns = Json.ofPairs l.columns ↔ ∀ c, c ∈ k.columns ↔ c ∈ l.columns := by
  constructor
  · intro h c
    have hfields : (SortedMap.ofList k.columns).entries = (SortedMap.ofList l.columns).entries :=
      Json.object.inj h
    rw [← hk.perm_fields.mem_iff, hfields, hl.perm_fields.mem_iff]
  · intro h
    refine congrArg Json.ofMap (SortedMap.ext_get? fun name => Option.ext fun value => ?_)
    rw [← SortedMap.mem_entries_iff, ← SortedMap.mem_entries_iff, hk.perm_fields.mem_iff,
      hl.perm_fields.mem_iff, h]

end Composite

/-- **Identifiers identify.** Two keys with several columns have identifiers, which are read back as the
objects of their columns, and which are the same exactly if the keys have the same columns with the same
values, in whatever order. A key with a null column has none. -/
theorem identifier?_identifies (hk : k.Composite) (hl : l.Composite)
    (reads : ∀ c ∈ k.columns ++ l.columns, c.2.ReadsBack) :
    (∃ s t, k.identifier? = some s ∧ l.identifier? = some t ∧
      (∃ fields, fields.Perm k.columns ∧ Json.parse? s = some (.object fields)) ∧
      (∃ fields, fields.Perm l.columns ∧ Json.parse? t = some (.object fields)) ∧
      (s = t ↔ ∀ c, c ∈ k.columns ↔ c ∈ l.columns)) ∧
    ∀ key : PrimaryKey, (∃ c ∈ key.columns, c.2 = .null) → key.identifier? = none := by
  have hks := hk.parse?_text fun c hc => reads c (List.mem_append_left _ hc)
  have hlt := hl.parse?_text fun c hc => reads c (List.mem_append_right _ hc)
  refine ⟨⟨_, _, hk.identifier?_eq, hl.identifier?_eq, ⟨_, hk.perm_fields, hks⟩,
    ⟨_, hl.perm_fields, hlt⟩, ?_⟩, fun key => identifier?_of_null⟩
  rw [← hk.ofPairs_eq_iff hl]
  refine ⟨fun h => ?_, congrArg Json.text⟩
  rw [h, hlt] at hks
  exact (Option.some.inj hks).symm

/-- A key whose columns are not in the order of their names, with a minus zero among its values. -/
def branchKey : PrimaryKey :=
  ⟨[("shift", .number (.float (.ofMagnitude true 0))), ("branch\"", .string "1"), ("branch", .ofInt 1)]⟩

/-- A key with the same columns in another order, and zero for minus zero. -/
def otherBranchKey : PrimaryKey :=
  ⟨[("branch", .ofInt 1), ("shift", .number (.float (.ofMagnitude false 0))), ("branch\"", .string "1")]⟩

theorem identifier?_identifies_branches :
    (branchKey.Composite ∧ otherBranchKey.Composite ∧
        ∀ c ∈ branchKey.columns ++ otherBranchKey.columns, c.2.ReadsBack) ∧
      ∃ s t, branchKey.identifier? = some s ∧ otherBranchKey.identifier? = some t ∧
        (∃ fields, fields.Perm branchKey.columns ∧ Json.parse? s = some (.object fields)) ∧
        (∃ fields, fields.Perm otherBranchKey.columns ∧ Json.parse? t = some (.object fields)) ∧
        s ≠ t := by
  have hk : branchKey.Composite := ⟨by decide, by decide, by decide⟩
  have hl : otherBranchKey.Composite := ⟨by decide, by decide, by decide⟩
  have reads : ∀ c ∈ branchKey.columns ++ otherBranchKey.columns, c.2.ReadsBack := by
    have hfloat : ∀ negative, (Json.number (.float (.ofMagnitude negative 0))).ReadsBack := by
      decide +kernel
    have hone : (Json.ofInt 1).ReadsBack := Json.readsBack_integer (by decide) (by decide)
    simp [branchKey, otherBranchKey, hfloat, hone, Json.readsBack_string]
  obtain ⟨⟨s, t, hs, ht, hsread, htread, hiff⟩, -⟩ := identifier?_identifies hk hl reads
  refine ⟨⟨hk, hl, reads⟩, s, t, hs, ht, hsread, htread, fun h => ?_⟩
  exact absurd ((hiff.1 h) ("shift", .number (.float (.ofMagnitude true 0)))) (by decide)

end PrimaryKey

end WorkflowEngine
