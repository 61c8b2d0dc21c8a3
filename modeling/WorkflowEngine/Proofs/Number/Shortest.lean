import Mathlib.Data.Nat.Cast.Order.Field
import Mathlib.Tactic.NormNum.Pow
import WorkflowEngine.Proofs.Number.Interval

/-!
# Shortest digits and their number

The shortest digits of a number lie in its interval. On the finest grid that is looked at, the neighbour
below the number does, because seventeen digits are finer than fifty-three bits; and taking zeros off the
end changes no value. So the digits, with the sign, determine the number.

* `Decimal.pow_roofExponent_le`: how great a number is at least;
* `Decimal.readsBack_below`: on a fine grid the neighbour below reads back;
* `Decimal.readsBack_firstOnGrid`, `Decimal.value_stripZeros`: the digits that are found;
* **`Binary64.readsBack_shortest`**, `shortest_normal`: what the shortest digits are;
* **`Binary64.eq_of_shortest`**: they determine the number.
-/

namespace WorkflowEngine

namespace Decimal

variable {m : Nat} {q t : Int} {d d' : Decimal}

/-! ## How great a number is -/

theorem lt_pow_digitCount (n : Nat) : n < 10 ^ digitCount n :=
  (Nat.length_toDigits_le_iff (by decide) Nat.length_toDigits_pos).1 (le_refl _)

theorem pow_digitCount_le {n : Nat} (hn : n ≠ 0) : 10 ^ (digitCount n - 1) ≤ n := by
  by_cases hone : digitCount n - 1 = 0
  · rw [hone]
    omega
  · refine Nat.le_of_not_lt fun hlt => ?_
    have hcount : digitCount n ≤ digitCount n - 1 :=
      (Nat.length_toDigits_le_iff (by decide) (by omega)).2 hlt
    omega

theorem scaled_fst_pos {n : Nat} (hn : n ≠ 0) (p t : Int) : 0 < (scaled n p t).1 :=
  Nat.mul_pos (Nat.mul_pos (Nat.pos_of_ne_zero hn) (Nat.pow_pos (by decide)))
    (Nat.pow_pos (by decide))

/-- **A number is not below the power of ten** that is one less than its roof. -/
theorem pow_roofExponent_le (hm : m ≠ 0) (q : Int) :
    (10 : ℚ) ^ (roofExponent m q - 1) ≤ m * 2 ^ q := by
  have hvalue : ((scaled m q 0).1 : ℚ) / (scaled m q 0).2 = m * 2 ^ q := by
    have h := quotient_scaled m q 0
    rwa [zpow_zero, mul_one] at h
  have hsnd := scaled_snd_pos m q 0
  have hfst := scaled_fst_pos hm q 0
  rw [← hvalue, roofExponent]
  generalize scaled m q 0 = v at hsnd hfst
  split
  · next hle =>
    have hquotient : v.1 / v.2 ≠ 0 := (Nat.div_pos hle hsnd).ne'
    have hcount : 0 < digitCount (v.1 / v.2) := Nat.length_toDigits_pos
    have hpow : ((10 ^ (digitCount (v.1 / v.2) - 1) : Nat) : ℚ) ≤ (v.1 / v.2 : Nat) :=
      Nat.cast_le.2 (pow_digitCount_le hquotient)
    rw [← Nat.cast_one, ← Nat.cast_sub hcount, zpow_natCast]
    exact (by exact_mod_cast hpow : (10 : ℚ) ^ _ ≤ _).trans Nat.cast_div_le
  · have hlt : v.2 < 10 ^ digitCount (v.2 / v.1) * v.1 :=
      (Nat.div_lt_iff_lt_mul hfst).1 (lt_pow_digitCount _)
    have hexponent : 1 - (digitCount (v.2 / v.1) : Int) - 1 = -(digitCount (v.2 / v.1) : Int) := by
      omega
    rw [hexponent, zpow_neg, zpow_natCast, inv_eq_one_div,
      div_le_div_iff₀ (by positivity) (Nat.cast_pos.2 hsnd), one_mul, mul_comm]
    exact_mod_cast hlt.le

/-! ## Grids -/

theorem readsBack_congr (hm : m ≠ 0) (same : d.value = d'.value) :
    readsBack m q d = true ↔ readsBack m q d' = true := by
  rw [readsBack_iff hm, readsBack_iff hm, same]

theorem readsBack_of_between (hm : m ≠ 0) (above : lower m q < d.value)
    (below : d.value < upper m q) : readsBack m q d = true := by
  rw [readsBack_iff hm]
  split
  · exact ⟨above.le, below.le⟩
  · exact ⟨above, below⟩

theorem zpow_quarters (q : Int) :
    (2 : ℚ) ^ q = 4 * 2 ^ (q - 2) ∧ (2 : ℚ) ^ (q - 1) = 2 * 2 ^ (q - 2) := by
  have htwo : (2 : ℚ) ≠ 0 := by norm_num
  constructor
  · rw [zpow_sub₀ htwo]
    norm_num
    field_simp
  · rw [show q - 1 = q - 2 + 1 by omega, zpow_add_one₀ htwo, mul_comm]

theorem lower_le (m : Nat) (q : Int) : lower m q ≤ m * 2 ^ q - 2 ^ (q - 2) := by
  have hpos : (0 : ℚ) < 2 ^ (q - 2) := by positivity
  obtain ⟨hwhole, hhalf⟩ := zpow_quarters q
  unfold lower
  split
  · rw [hwhole]
    linarith
  · rw [hhalf, hwhole]
    linarith

theorem lt_upper (m : Nat) (q : Int) : m * 2 ^ q < upper m q := by
  have hpos : (0 : ℚ) < 2 ^ (q - 2) := by positivity
  obtain ⟨hwhole, hhalf⟩ := zpow_quarters q
  rw [upper, hwhole, hhalf]
  linarith

theorem lower_pos (hm : m ≠ 0) (q : Int) : 0 < lower m q := by
  have hone : (1 : ℚ) ≤ m := by exact_mod_cast Nat.pos_of_ne_zero hm
  unfold lower
  split <;> exact mul_pos (by linarith) (by positivity)

/-- **The neighbour below on a fine grid** reads back: it is nearer to the number than the end of the
interval. -/
theorem readsBack_below (h : Canonical m q) (hm : m ≠ 0)
    (fine : (10 : ℚ) ^ t * 10 ^ 17 ≤ m * 2 ^ q) :
    readsBack m q ⟨(scaled m q (-t)).1 / (scaled m q (-t)).2, t⟩ = true := by
  have hten : (0 : ℚ) < 10 ^ t := by positivity
  have hsnd : (0 : ℚ) < (scaled m q (-t)).2 := Nat.cast_pos.2 (scaled_snd_pos m q (-t))
  have hvalue : ((scaled m q (-t)).1 : ℚ) / (scaled m q (-t)).2 = m * 2 ^ q / 10 ^ t := by
    have hscaled := quotient_scaled m q (-t)
    rwa [zpow_neg, ← div_eq_mul_inv] at hscaled
  let n := (scaled m q (-t)).1 / (scaled m q (-t)).2
  have hfloor : (n : ℚ) * 10 ^ t ≤ m * 2 ^ q := by
    rw [← le_div_iff₀ hten, ← hvalue]
    exact Nat.cast_div_le
  have hnext : (m : ℚ) * 2 ^ q < (n + 1) * 10 ^ t := by
    rw [← div_lt_iff₀ hten, ← hvalue, div_lt_iff₀ hsnd, mul_comm]
    exact_mod_cast Nat.lt_mul_div_succ _ (scaled_snd_pos m q (-t))
  -- a step of the grid is less than a quarter of a step of the scale
  have hstep : (10 : ℚ) ^ t < 2 ^ (q - 2) := by
    have hscale : (0 : ℚ) < 2 ^ (q - 2) := by positivity
    have hbounded : (m : ℚ) < 2 ^ 53 := by exact_mod_cast h.bounded
    have hquarters : (m : ℚ) * 2 ^ q < 2 ^ 55 * 2 ^ (q - 2) := by
      rw [(zpow_quarters q).1, ← mul_assoc]
      exact mul_lt_mul_of_pos_right (by linarith) hscale
    have hfine : (10 : ℚ) ^ t * 10 ^ 17 < 2 ^ (q - 2) * 10 ^ 17 := by
      refine (fine.trans_lt hquarters).trans_le ?_
      rw [mul_comm]
      exact mul_le_mul_of_nonneg_left (by norm_num) hscale.le
    exact lt_of_mul_lt_mul_right hfine (by norm_num)
  refine readsBack_of_between hm ?_ (hfloor.trans_lt (lt_upper m q))
  have hlower := lower_le m q
  change lower m q < n * 10 ^ t
  linarith

theorem readsBack_onGrid (h : onGrid? m q t = some d) : readsBack m q d = true := by
  simp only [onGrid?] at h
  split at h
  · cases h
  · next hlow _ =>
    cases h
    exact hlow
  · next hhigh =>
    cases h
    exact hhigh
  · next hlow hhigh =>
    split at h
    · cases h
      exact hlow
    split at h
    · cases h
      exact hhigh
    split at h
    · cases h
      exact hlow
    · cases h
      exact hhigh

theorem onGrid?_ne_none
    (h : readsBack m q ⟨(scaled m q (-t)).1 / (scaled m q (-t)).2, t⟩ = true) :
    onGrid? m q t ≠ none := by
  simp only [onGrid?, h]
  split <;> grind

/-- **What is found on the first grid** reads back, if the last one is fine enough. -/
theorem readsBack_firstOnGrid (h : Canonical m q) (hm : m ≠ 0) {fuel : Nat}
    (fine : (10 : ℚ) ^ (t - fuel) * 10 ^ 17 ≤ m * 2 ^ q) :
    readsBack m q (firstOnGrid m q fuel t) = true := by
  induction fuel generalizing t with
  | zero =>
    rw [Nat.cast_zero, sub_zero] at fine
    obtain ⟨d, hd⟩ := Option.ne_none_iff_exists'.1 (onGrid?_ne_none (readsBack_below h hm fine))
    rw [firstOnGrid, hd]
    exact readsBack_onGrid hd
  | succ fuel ih =>
    rw [firstOnGrid]
    cases hd : onGrid? m q t with
    | some d => exact readsBack_onGrid hd
    | none =>
      refine ih ?_
      rwa [show t - 1 - (fuel : Int) = t - ((fuel + 1 : Nat) : Int) by omega]

theorem value_stripZeros (fuel : Nat) (d : Decimal) : (stripZeros fuel d).value = d.value := by
  induction fuel generalizing d with
  | zero => rfl
  | succ fuel ih =>
    rw [stripZeros]
    split
    · next hzero =>
      rw [ih]
      have hdigits : (d.digits : ℚ) = (d.digits / 10 : Nat) * 10 := by
        exact_mod_cast (Nat.div_mul_cancel (Nat.dvd_of_mod_eq_zero hzero.2)).symm
      rw [value, value, zpow_add_one₀ (by norm_num), hdigits, mul_assoc, mul_comm (10 : ℚ)]
    · rfl

theorem value_pos_of_readsBack (hm : m ≠ 0) (h : readsBack m q d = true) : 0 < d.value :=
  (lower_pos hm q).trans_le (lower_le_of_readsBack hm h).1

end Decimal

/-! ## Shortest digits -/

namespace Binary64

open Decimal

variable {x y : Binary64}

/-- **The shortest digits of a number read back.** -/
theorem readsBack_shortest (hx : x.significand ≠ 0) :
    readsBack x.significand x.scale x.shortest = true := by
  have fine : (10 : ℚ) ^ (roofExponent x.significand x.scale - (18 : Nat)) * 10 ^ 17 ≤
      x.significand * 2 ^ x.scale := by
    refine le_of_eq_of_le ?_ (pow_roofExponent_le hx x.scale)
    rw [← zpow_natCast, ← zpow_add₀ (by norm_num)]
    congr 1
    omega
  rw [shortest, if_neg hx]
  exact (readsBack_congr hx (value_stripZeros 20 _)).2 (readsBack_firstOnGrid x.canonical hx fine)

/-- **Shortest digits are zero for the zeros only**, and then without an exponent. -/
theorem shortest_normal (x : Binary64) : x.shortest.digits ≠ 0 ∨ x.shortest = ⟨0, 0⟩ := by
  by_cases hx : x.significand = 0
  · exact .inr (if_pos hx)
  · refine .inl fun hdigits => ?_
    have hpos := value_pos_of_readsBack hx (readsBack_shortest hx)
    rw [value, hdigits, Nat.cast_zero, zero_mul] at hpos
    exact lt_irrefl _ hpos

theorem scale_of_significand (hx : x.significand = 0) : x.scale = -1074 := by
  unfold significand at hx
  split at hx
  · next hbits => exact if_pos hbits
  · have hpow : 0 < Nat.pow 2 52 := by decide
    omega

theorem eq_of_parts (sign : x.isNegative = y.isNegative)
    (hsignificand : x.significand = y.significand) (hscale : x.scale = y.scale) : x = y := by
  have hx := x.bits.toNat_lt
  have hy := y.bits.toNat_lt
  have hbits : x.exponentBits = y.exponentBits ∧ x.fractionBits = y.fractionBits := by
    have hxfraction : x.fractionBits < 2 ^ 52 := Nat.mod_lt _ (by decide)
    have hyfraction : y.fractionBits < 2 ^ 52 := Nat.mod_lt _ (by decide)
    by_cases hxzero : x.exponentBits = 0 <;> by_cases hyzero : y.exponentBits = 0 <;>
    · simp only [significand, scale, hxzero, hyzero, if_true, if_false, Nat.pow_eq]
        at hsignificand hscale
      omega
  have hsign : x.bits.toNat / 2 ^ 63 = y.bits.toNat / 2 ^ 63 := by
    simp only [isNegative, Nat.pow_eq, decide_eq_decide] at sign
    omega
  have htoNat : x.bits.toNat = y.bits.toNat := by
    simp only [exponentBits, fractionBits, Nat.pow_eq] at hbits
    omega
  cases x
  cases y
  exact congrArg mk (UInt64.toNat_inj.1 htoNat)

/-- **The shortest digits and the sign determine a number.** -/
theorem eq_of_shortest (sign : x.isNegative = y.isNegative)
    (same : x.shortest.value = y.shortest.value) : x = y := by
  have hvalue : ∀ {z : Binary64}, z.significand = 0 → z.shortest.value = 0 := fun hz => by
    rw [shortest, if_pos hz, value, Nat.cast_zero, zero_mul]
  have hpos : ∀ {z : Binary64}, z.significand ≠ 0 → 0 < z.shortest.value := fun hz =>
    value_pos_of_readsBack hz (readsBack_shortest hz)
  by_cases hx : x.significand = 0
  · by_cases hy : y.significand = 0
    · exact eq_of_parts sign (hx.trans hy.symm)
        ((scale_of_significand hx).trans (scale_of_significand hy).symm)
    · exact absurd same ((hvalue hx).trans_lt (hpos hy)).ne
  · by_cases hy : y.significand = 0
    · exact absurd same ((hvalue hy).trans_lt (hpos hx)).ne'
    · obtain ⟨hsignificand, hscale⟩ := readsBack_unique x.canonical y.canonical hx hy
        (readsBack_shortest hx) (readsBack_shortest hy) same
      exact eq_of_parts sign hsignificand hscale

/-- A tenth, and the next number. -/
example : (⟨0x3fb999999999999a⟩ : Binary64).shortest = ⟨1, -1⟩ ∧
    (⟨0x3fb999999999999b⟩ : Binary64).shortest = ⟨10000000000000002, -17⟩ := by
  decide +kernel

end Binary64

end WorkflowEngine
