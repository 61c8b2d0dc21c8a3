import Mathlib.Data.List.DropRight
import WorkflowEngine.Routing.Plan

/-!
# Queue prefixes

A queue prefix is a name closed by one dot. What is found of a name between blanks and dots has neither
a blank in front nor a dot behind, and closing it with a dot protects a blank at its end, so a prefix in
normal form is its own normal form.

* `Text.head_trimChars`, `Text.trimChars_infix`, `Text.trimChars_eq_self`: what trimming leaves;
* `prefixName`, `normalizePrefix_eq`: the name in a prefix;
* `IsPrefixName`, `isPrefixName_prefixName`: its form;
* `prefixName_closed`: it is found again in the prefix that it makes;
* **`normalizePrefix_normalForm`**: what the normal form of a prefix is.
-/

namespace WorkflowEngine

namespace Text

variable {cs : List Char}

theorem trimChars_infix (cs : List Char) : trimChars cs <:+: cs :=
  (List.rdropWhile_prefix isBlank _).isInfix.trans (List.dropWhile_suffix isBlank).isInfix

theorem head_trimChars (h : trimChars cs ≠ []) : isBlank ((trimChars cs).head h) = false := by
  have start : trimChars cs <+: dropBlanks cs := List.rdropWhile_prefix isBlank _
  rw [start.head h]
  exact List.head_dropWhile_not isBlank _

theorem trimChars_eq_self (h : cs ≠ []) (begins : isBlank (cs.head h) = false)
    (ends : isBlank (cs.getLast h) = false) : trimChars cs = cs := by
  have hstart : cs.dropWhile isBlank = cs := by
    refine List.dropWhile_eq_self_iff.2 fun hpos => ?_
    rw [← List.head_eq_getElem h, begins]
    exact Bool.false_ne_true
  have hend : cs.rdropWhile isBlank = cs :=
    List.rdropWhile_eq_self_iff.2 fun _ => by rw [ends]; exact Bool.false_ne_true
  calc trimChars cs = (cs.dropWhile isBlank).rdropWhile isBlank := rfl
    _ = cs := by rw [hstart, hend]

end Text

namespace Routing

variable {p : String} {name : List Char}

/-! ## The name in a prefix -/

/-- The name in a prefix: what stands between the blanks around it, without the dots behind. -/
def prefixName (p : String) : List Char := dropLastDots (Text.trimChars p.toList)

/-- **The normal form of a prefix** is its name, if there is one, closed by a dot. -/
theorem normalizePrefix_eq (p : String) : normalizePrefix p =
    if prefixName p = [] then "" else String.ofList (prefixName p ++ ['.']) := by
  change (if (prefixName p).isEmpty then "" else String.ofList (prefixName p ++ ['.'])) = _
  cases prefixName p <;> rfl

theorem prefixName_isPrefix (p : String) : prefixName p <+: Text.trimChars p.toList :=
  List.rdropWhile_prefix (· = '.') _

theorem prefixName_eq_nil_iff :
    prefixName p = [] ↔ ∀ c ∈ Text.trimChars p.toList, c = '.' := by
  refine (List.rdropWhile_eq_nil_iff (p := (· = '.'))).trans ?_
  simp only [decide_eq_true_eq]

/-- **The form of a name in a prefix**: no blank in front, and no dot behind. -/
structure IsPrefixName (name : List Char) : Prop where
  begins : ∃ c, name.head? = some c ∧ Text.isBlank c = false
  ends : name.getLast? ≠ some '.'

theorem IsPrefixName.ne_nil (h : IsPrefixName name) : name ≠ [] := by
  rintro rfl
  obtain ⟨_, hc, _⟩ := h.begins
  cases hc

theorem isPrefixName_prefixName (h : prefixName p ≠ []) : IsPrefixName (prefixName p) where
  begins := by
    have start := prefixName_isPrefix p
    refine ⟨(prefixName p).head h, List.head?_eq_some_head h, ?_⟩
    rw [start.head h]
    exact Text.head_trimChars _
  ends := by
    have hlast := List.rdropWhile_last_not (· = '.') (Text.trimChars p.toList) h
    rw [List.getLast?_eq_some_getLast h]
    intro heq
    exact hlast (decide_eq_true (Option.some.inj heq))

/-- **A name is found again in the prefix that it makes.** A blank at its end stays, because the dot
stands behind it when the prefix is trimmed. -/
theorem prefixName_closed (h : IsPrefixName name) :
    prefixName (String.ofList (name ++ ['.'])) = name := by
  have hne : name ++ ['.'] ≠ [] := by simp
  have hbegins : Text.isBlank ((name ++ ['.']).head hne) = false := by
    obtain ⟨c, hc, notBlank⟩ := h.begins
    rw [List.head?_eq_some_head h.ne_nil] at hc
    rw [List.head_append_of_ne_nil h.ne_nil, Option.some.inj hc]
    exact notBlank
  have hends : Text.isBlank ((name ++ ['.']).getLast hne) = false := by
    rw [List.getLast_append_singleton]
    rfl
  have htrim : Text.trimChars (name ++ ['.']) = name ++ ['.'] :=
    Text.trimChars_eq_self hne hbegins hends
  have hdots : name.rdropWhile (· = '.') = name := by
    refine List.rdropWhile_eq_self_iff.2 fun hname hdot => h.ends ?_
    rw [List.getLast?_eq_some_getLast hname, of_decide_eq_true hdot]
  calc prefixName (String.ofList (name ++ ['.']))
      = (name ++ ['.']).rdropWhile (· = '.') := by
        rw [prefixName, String.toList_ofList, htrim]
        rfl
    _ = name := by rw [List.rdropWhile_concat_pos (· = '.') name '.' (decide_eq_true rfl), hdots]

theorem normalizePrefix_eq_empty_iff : normalizePrefix p = "" ↔ prefixName p = [] := by
  rw [normalizePrefix_eq]
  split
  · next h => exact iff_of_true rfl h
  · next h =>
    refine iff_of_false (fun heq => ?_) h
    have hlist := congrArg String.toList heq
    rw [String.toList_ofList] at hlist
    exact List.append_ne_nil_of_right_ne_nil _ (List.cons_ne_nil _ _) hlist

theorem normalizePrefix_normalizePrefix (p : String) :
    normalizePrefix (normalizePrefix p) = normalizePrefix p := by
  rw [normalizePrefix_eq p]
  split
  · rfl
  · next h =>
    have hname := isPrefixName_prefixName h
    rw [normalizePrefix_eq, prefixName_closed hname, if_neg h]

theorem effectivePrefix_effectivePrefix (p dsn : String) :
    effectivePrefix (effectivePrefix p dsn) dsn = effectivePrefix p dsn := by
  unfold effectivePrefix
  split
  · rfl
  · exact normalizePrefix_normalizePrefix p

/-- **The normal form of a prefix.** It is empty, which is the case if there are only dots between the
blanks around it, or a part of the given prefix that begins with no blank, closed by one dot. So it is
its own normal form, and whoever gives the prefix that addresses get already plans the same queues. -/
theorem normalizePrefix_normalForm (p : String) :
    normalizePrefix (normalizePrefix p) = normalizePrefix p ∧
    (normalizePrefix p = "" ↔ ∀ c ∈ Text.trimChars p.toList, c = '.') ∧
    (normalizePrefix p = "" ∨ ∃ name : List Char, (normalizePrefix p).toList = name ++ ['.'] ∧
      (∃ c, name.head? = some c ∧ Text.isBlank c = false) ∧ name.getLast? ≠ some '.' ∧
      name <:+: p.toList) ∧
    ∀ dsn, effectivePrefix (effectivePrefix p dsn) dsn = effectivePrefix p dsn ∧
      ∀ definitions external, planQueues ⟨effectivePrefix p dsn, dsn⟩ definitions external =
        planQueues ⟨p, dsn⟩ definitions external := by
  refine ⟨normalizePrefix_normalizePrefix p,
    normalizePrefix_eq_empty_iff.trans prefixName_eq_nil_iff, ?_, fun dsn => ?_⟩
  · by_cases h : prefixName p = []
    · exact .inl (normalizePrefix_eq_empty_iff.2 h)
    · obtain ⟨begins, ends⟩ := isPrefixName_prefixName h
      have hpart : prefixName p <:+: p.toList :=
        (prefixName_isPrefix p).isInfix.trans (Text.trimChars_infix _)
      refine .inr ⟨prefixName p, ?_, begins, ends, hpart⟩
      rw [normalizePrefix_eq, if_neg h, String.toList_ofList]
  · have heffective := effectivePrefix_effectivePrefix p dsn
    refine ⟨heffective, fun definitions external => ?_⟩
    -- a plan is made with the effective prefix and the data source, and with nothing else of the settings
    simp only [planQueues, RouterConfig.effectivePrefix, heffective]

/-- Dots between blanks belong to the name; the dots and blanks around it do not. -/
example : normalizePrefix "\u3000..app . .\u0085" = "..app . ." := by decide +kernel

end Routing

end WorkflowEngine
