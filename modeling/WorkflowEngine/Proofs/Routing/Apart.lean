import WorkflowEngine.Proofs.Routing.Conflicts
import WorkflowEngine.Proofs.Routing.SlugForm

/-!
# Queues of different routes

The dot that joins two slugs also stands within slugs, and so an address does not tell its slugs. Yet
no two routes share an address that was made for them: planning refuses transitions of two names in
one address, and with one transition slug the address tells the workflow slug. Their tables differ as
well, since the dots of an address become underscores and slugs have none.

* `mem_slug`, `mem_address`: the characters of slugs, and of an address behind its prefix;
* `queueAddress_inj`: with one transition slug, addresses tell the workflow slugs;
* `tableChar`, **`tableName_inj`**: behind one prefix, tables tell the addresses;
* `addressOf_ne`: routes with other slugs have other addresses;
* **`queues_apart_of_planQueues`**: their queues and tables in a plan.
-/

namespace WorkflowEngine

namespace Routing

variable {c : Char} {cs : List Char} {queuePrefix a b w w' t t' : String}

theorem mem_slug (name : String) : ∀ c ∈ (slug name).toList, isSlugChar c = true ∨ c = '.' := by
  obtain ⟨_, _, _, _, _, stripped⟩ := exists_rounds (isDotted_collapse name.toList)
  intro c hc
  rw [slug, String.toList_ofList] at hc
  exact stripped.dotted.mem hc

theorem queueAddress_inj (h : queueAddress queuePrefix w t = queueAddress queuePrefix w' t) :
    w = w' := by
  have hchars := congrArg String.toList h
  simp only [queueAddress, String.toList_append, List.append_assoc] at hchars
  exact String.toList_inj.1 (List.append_cancel_right (List.append_cancel_left hchars))

/-! ## Tables -/

/-- What becomes of a character of an address in the name of its table. -/
def tableChar (c : Char) : Char := (if c.isAlphanum then c else '_').toLower

theorem tableName_eq (address : String) :
    tableName address = "messenger_" ++ String.ofList (address.toList.map tableChar) := by
  rw [tableName, Text.lowerAscii, String.toList_ofList, List.map_map]
  rfl

theorem isAlphanum_of_isSlugChar (h : isSlugChar c = true) : c.isAlphanum = true := by
  have hsplit : c.isAlphanum = (c.isUpper || isSlugChar c) := Bool.or_assoc ..
  rw [hsplit, h, Bool.or_true]

theorem tableChar_undo (h : isSlugChar c = true ∨ c = '.') :
    (if tableChar c = '_' then '.' else tableChar c) = c := by
  rcases h with h | rfl
  · have hsame : tableChar c = c := by
      rw [tableChar, if_pos (isAlphanum_of_isSlugChar h), toLower_of_isSlugChar h]
    have hne : c ≠ '_' := by
      rintro rfl
      exact absurd h (by decide)
    rw [hsame, if_neg hne]
  · decide

theorem map_tableChar_undo (h : ∀ c ∈ cs, isSlugChar c = true ∨ c = '.') :
    (cs.map tableChar).map (fun c => if c = '_' then '.' else c) = cs := by
  rw [List.map_map]
  calc cs.map _
    _ = cs.map id := List.map_congr_left fun c hc => tableChar_undo (h c hc)
    _ = cs := List.map_id cs

/-- **Behind one prefix, tables tell the addresses.** -/
theorem tableName_inj (ha : ∀ c ∈ a.toList, isSlugChar c = true ∨ c = '.')
    (hb : ∀ c ∈ b.toList, isSlugChar c = true ∨ c = '.')
    (h : tableName (queuePrefix ++ a) = tableName (queuePrefix ++ b)) : a = b := by
  have hchars := congrArg String.toList h
  simp only [tableName_eq, String.toList_append, String.toList_ofList, List.map_append] at hchars
  have hmap : a.toList.map tableChar = b.toList.map tableChar :=
    List.append_cancel_left (List.append_cancel_left hchars)
  apply String.toList_inj.1
  rw [← map_tableChar_undo ha, ← map_tableChar_undo hb, hmap]

end Routing

section Plans

variable {config : RouterConfig} {definitions external : List Definition} {plan : RoutePlan}
  {d d' : Definition} {t t' : Transition}

theorem addressOf_computed (computed : t.metadata.transport = none) :
    config.addressOf d t =
      config.effectivePrefix ++ (Routing.slug d.name ++ "." ++ Routing.slug t.name) := by
  rw [RouterConfig.addressOf, computed, Option.getD_none, String.append_assoc, String.append_assoc,
    String.append_assoc]

theorem mem_address (d : Definition) (t : Transition) :
    ∀ c ∈ (Routing.slug d.name ++ "." ++ Routing.slug t.name).toList,
      Routing.isSlugChar c = true ∨ c = '.' := by
  intro c hc
  rw [String.toList_append, String.toList_append, List.mem_append, List.mem_append] at hc
  rcases hc with (hc | hc) | hc
  · exact Routing.mem_slug d.name c hc
  · exact .inr (by simpa using hc)
  · exact Routing.mem_slug t.name c hc

/-- **Routes with other slugs have other addresses**, among requests that can be planned. -/
theorem addressOf_ne
    (plannable : Plannable config.effectivePrefix (definitions.flatMap Definition.queueRequests))
    (asks : Queues definitions d t) (asks' : Queues definitions d' t')
    (computed : t.metadata.transport = none) (computed' : t'.metadata.transport = none)
    (differ : (Routing.slug d.name, Routing.slug t.name) ≠
      (Routing.slug d'.name, Routing.slug t'.name)) :
    config.addressOf d t ≠ config.addressOf d' t' := by
  intro same
  have request : d.requestOf t ∈ definitions.flatMap Definition.queueRequests :=
    mem_queueRequests_iff.2 ⟨d, t, asks, rfl⟩
  have request' : d'.requestOf t' ∈ definitions.flatMap Definition.queueRequests :=
    mem_queueRequests_iff.2 ⟨d', t', asks', rfl⟩
  -- the address does not tell where one slug ends, but its owner has one transition name
  have hname : t.name = t'.name := by
    refine (plannable.compatible _ request _ request').owner computed computed' ?_
    rwa [computed_requestOf computed, computed_requestOf computed']
  rw [RouterConfig.addressOf, RouterConfig.addressOf, computed, computed', ← hname] at same
  have hworkflow : Routing.slug d.name = Routing.slug d'.name := Routing.queueAddress_inj same
  exact differ (by rw [hworkflow, hname])

theorem nodup_transports (planned : planQueues config definitions external = .ok plan) :
    (plan.transports.map (·.name)).Nodup := by
  obtain ⟨r, _, rfl⟩ := planQueues_eq_ok planned
  have hnodup : r.map.addresses.Nodup := by
    refine r.map.pairwise_addresses.imp ?_
    rintro address _ hlt rfl
    exact String.lt_irrefl address hlt
  simpa [RoutePlan.ofRoutes, TransportDescriptor.ofAddress, Function.comp_def] using hnodup

theorem mem_transports (planned : planQueues config definitions external = .ok plan)
    {w s address : String} (routed : plan.routes.get? w s = some address) :
    TransportDescriptor.ofAddress config.dsn address ∈ plan.transports := by
  obtain ⟨r, _, rfl⟩ := planQueues_eq_ok planned
  exact List.mem_map_of_mem (RouteMap.mem_addresses_iff.2
    ⟨⟨w, s, address⟩, RouteMap.mem_entries_iff.2 routed, rfl⟩)

/-- **Queues that were made for different routes are never shared.** Two transitions without transport
of their own and with other slugs are routed to two queues of the plan, which has one queue of each
name; and outside of a shared store these have two tables. -/
theorem queues_apart_of_planQueues (planned : planQueues config definitions external = .ok plan)
    (asks : Queues (withExternal definitions external) d t)
    (asks' : Queues (withExternal definitions external) d' t')
    (computed : t.metadata.transport = none) (computed' : t'.metadata.transport = none)
    (differ : (Routing.slug d.name, Routing.slug t.name) ≠
      (Routing.slug d'.name, Routing.slug t'.name)) :
    (plan.transports.map (·.name)).Nodup ∧
    ∃ q ∈ plan.transports, ∃ q' ∈ plan.transports,
      plan.routes.lookup? d.name t.name = some q.name ∧
      plan.routes.lookup? d'.name t'.name = some q'.name ∧
      q.name ≠ q'.name ∧
      (Routing.isSharedStore config.dsn = false → q.tableName ≠ q'.tableName) := by
  have plannable := exists_planQueues_iff.1 ⟨plan, planned⟩
  have routed : plan.routes.lookup? d.name t.name = some (config.addressOf d t) :=
    (get?_of_planQueues planned).2 ⟨d, t, asks, rfl, rfl, rfl⟩
  have routed' : plan.routes.lookup? d'.name t'.name = some (config.addressOf d' t') :=
    (get?_of_planQueues planned).2 ⟨d', t', asks', rfl, rfl, rfl⟩
  have apart : config.addressOf d t ≠ config.addressOf d' t' :=
    addressOf_ne plannable asks asks' computed computed' differ
  refine ⟨nodup_transports planned, _, mem_transports planned routed, _,
    mem_transports planned routed', routed, routed', apart, fun own same => ?_⟩
  simp only [TransportDescriptor.ofAddress, own, Bool.false_eq_true, if_false] at same
  rw [addressOf_computed computed, addressOf_computed computed'] at same apart
  exact apart (congrArg _ (Routing.tableName_inj (mem_address d t) (mem_address d' t') same))

end Plans

/-! ## An example -/

/-- A flow of shelves whose slug goes on where that of `assetFlow` ends. -/
def shelfFlow : Definition := { assetFlow with name := "AssetFlow Shelf" }

/-- A configuration with a prefix outside ASCII. -/
def kioskRouter : RouterConfig := { queuePrefix := " Kïosk.. ", dsn := "redis://localhost" }

/-- The plan of both flows. -/
def kioskPlan : RoutePlan :=
  .ofRoutes kioskRouter.dsn (.ofList [⟨"assetflow", "load", "Kïosk.assetflow.load"⟩,
    ⟨"assetflow.shelf", "load", "Kïosk.assetflow.shelf.load"⟩])

/-- Both flows load, each by a queue and a table of its own. -/
theorem queues_apart_of_planQueues_kiosk :
    planQueues kioskRouter [assetFlow, shelfFlow] [] = .ok kioskPlan ∧
      Routing.isSharedStore kioskRouter.dsn = false ∧
      ∃ q ∈ kioskPlan.transports, ∃ q' ∈ kioskPlan.transports,
        kioskPlan.routes.lookup? "AssetFlow" "load" = some q.name ∧
        kioskPlan.routes.lookup? "AssetFlow Shelf" "load" = some q'.name ∧
        q.name ≠ q'.name ∧ q.tableName ≠ q'.tableName := by
  have planned : planQueues kioskRouter [assetFlow, shelfFlow] [] = .ok kioskPlan := by
    decide +kernel
  have own : Routing.isSharedStore kioskRouter.dsn = false := by decide
  have asks : Queues [assetFlow, shelfFlow] assetFlow loadAsset := ⟨by decide, by decide, by decide⟩
  have asks' : Queues [assetFlow, shelfFlow] shelfFlow loadAsset := ⟨by decide, by decide, by decide⟩
  have differ : (Routing.slug assetFlow.name, Routing.slug loadAsset.name) ≠
      (Routing.slug shelfFlow.name, Routing.slug loadAsset.name) := by
    decide +kernel
  obtain ⟨_, q, hq, q', hq', routed, routed', apart, tables⟩ :=
    queues_apart_of_planQueues planned asks asks' rfl rfl differ
  exact ⟨planned, own, q, hq, q', hq', routed, routed', apart, tables own⟩

end WorkflowEngine
