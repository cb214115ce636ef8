import Mathlib.Algebra.Order.Field.Power
import Mathlib.Tactic.GCongr
import TypedScalar.Proofs.Floating.Nearest

/-! The conversions round. A decimal becomes the number that its exact value
rounds to, however long it is and however far its exponent lies outside the
format; a number of another format becomes the number that its value rounds to. -/

namespace TypedScalar.Floating

theorem lt_pow_decimalLength (n : ℕ) : n < 10 ^ decimalLength n := by
  induction n using decimalLength.induct with
  | case1 n h =>
    rw [decimalLength, dif_pos h, pow_one]
    exact h
  | case2 n h ih =>
    rw [decimalLength, dif_neg h, pow_succ]
    omega

theorem pow_decimalLength_le {n : ℕ} (h : 0 < n) : 10 ^ (decimalLength n - 1) ≤ n := by
  induction n using decimalLength.induct with
  | case1 n h10 =>
    rw [decimalLength, dif_pos h10]
    exact h
  | case2 n h10 ih =>
    obtain ⟨l, hl⟩ : ∃ l, decimalLength (n / 10) = l + 1 := by
      refine Nat.exists_eq_succ_of_ne_zero ?_
      rw [decimalLength]
      split_ifs <;> omega
    have := ih (by omega)
    rw [hl, Nat.add_sub_cancel] at this
    rw [decimalLength, dif_neg h10, Nat.add_sub_cancel, hl, pow_succ]
    omega

theorem ten_pow_mul_zpow {n : ℕ} {e g : ℤ} (h : n + e = g) : (10 : ℚ) ^ n * 10 ^ e = 10 ^ g := by
  rw [← zpow_natCast, ← zpow_add₀ (by norm_num), h]

theorem zpow_eq_div (e : ℤ) : (10 : ℚ) ^ e = 10 ^ e.toNat / 10 ^ (-e).toNat := by
  rw [eq_div_iff (by positivity), mul_comm, ← zpow_natCast 10 e.toNat]
  exact ten_pow_mul_zpow (by omega)

namespace Format

/-- The formats in use have a fraction field, and an exponent field of at least
two bits. -/
class Regular (f : Format) : Prop where
  fractionBits_pos : 0 < f.fractionBits
  two_le_exponentBits : 2 ≤ f.exponentBits

instance : Regular half := ⟨by decide, by decide⟩
instance : Regular single := ⟨by decide, by decide⟩
instance : Regular double := ⟨by decide, by decide⟩

variable {f : Format}

theorem one_pos : 0 < f.one := Nat.two_pow_pos _

variable [hf : f.Regular]

theorem four_le_two_pow : 4 ≤ 2 ^ f.exponentBits :=
  Nat.pow_le_pow_right (by norm_num : 0 < 2) hf.two_le_exponentBits

theorem two_pow_exponentBits : 2 ^ f.exponentBits = 2 * 2 ^ (f.exponentBits - 1) := by
  rw [← pow_succ', Nat.sub_add_cancel (hf.two_le_exponentBits.trans' (by norm_num))]

theorem unitExponent_add_two : f.unitExponent + 2 = 2 ^ (f.exponentBits - 1) + f.fractionBits := by
  have hfour := four_le_two_pow (f := f)
  rw [two_pow_exponentBits] at hfour
  rw [unitExponent]
  omega

theorem infinity_pos : 0 < f.infinity := by
  have := four_le_two_pow (f := f)
  exact Nat.mul_pos (by omega) (Nat.two_pow_pos _)

theorem units_infinity : f.units f.infinity = 2 ^ (f.fractionBits + (2 ^ f.exponentBits - 2)) := by
  have h4 := four_le_two_pow (f := f)
  have hinf : f.infinity = (2 ^ f.exponentBits - 2) * 2 ^ f.fractionBits + 2 ^ f.fractionBits := by
    rw [infinity, ← Nat.succ_mul]
    congr 1
    omega
  rw [hinf, units_block (.inr le_rfl) (by omega), pow_add]

theorem fractionBits_le_unitExponent : f.fractionBits ≤ f.unitExponent := by
  have hfour := four_le_two_pow (f := f)
  have hunit := unitExponent_add_two (f := f)
  rw [two_pow_exponentBits] at hfour
  omega

/-- Below ten to the power of minus the span everything rounds to zero. -/
theorem rounds_zero_of_lt {v : ℚ} (hv : 0 ≤ v) (h : v < 10 ^ (-(Number.decimalSpan f : ℤ))) :
    f.Rounds (v * f.one) 0 := by
  refine ⟨Nat.zero_le _, reaches_zero (by positivity), fun _ hr => ?_⟩
  refine hr.le.not_gt ?_
  have hspan : (10 : ℚ) ^ (-(Number.decimalSpan f : ℤ)) * f.one ≤ 10⁻¹ ^ 2 ^ f.exponentBits := by
    rw [Number.decimalSpan, one, zpow_neg, zpow_natCast, pow_add, mul_inv, ← inv_pow, ← inv_pow, mul_right_comm]
    push_cast
    rw [← mul_pow]
    exact mul_le_of_le_one_left (by positivity) (pow_le_one₀ (by norm_num) (by norm_num))
  calc v * f.one < 10 ^ (-(Number.decimalSpan f : ℤ)) * f.one := by
        have : (0 : ℚ) < f.one := by exact_mod_cast one_pos
        gcongr
    _ ≤ 10⁻¹ ^ 2 ^ f.exponentBits := hspan
    _ ≤ 10⁻¹ ^ 1 := by
        have := four_le_two_pow (f := f)
        exact pow_le_pow_of_le_one (by norm_num) (by norm_num) (by omega)
    _ < f.lower (0 + 1) := by norm_num [lower]

/-- From ten to the power of the span on everything rounds to infinity. -/
theorem rounds_infinity_of_le {v : ℚ} (h : 10 ^ Number.decimalSpan f ≤ v) :
    f.Rounds (v * f.one) f.infinity := by
  refine ⟨le_rfl, (reaches_units _).mono ?_, fun h => absurd h (lt_irrefl _)⟩
  have h4 := four_le_two_pow (f := f)
  have hU := fractionBits_le_unitExponent (f := f)
  calc (f.units f.infinity : ℚ) = 2 ^ (f.fractionBits + (2 ^ f.exponentBits - 2)) := by
        rw [units_infinity]
        push_cast
        rfl
    _ ≤ 2 ^ Number.decimalSpan f := pow_le_pow_right₀ (by norm_num) (by rw [Number.decimalSpan]; omega)
    _ ≤ 10 ^ Number.decimalSpan f := by gcongr; norm_num
    _ ≤ v := h
    _ ≤ v * f.one := by
        have : (0 : ℚ) ≤ v := le_trans (by positivity) h
        have h1 : (1 : ℚ) ≤ f.one := by exact_mod_cast one_pos
        exact le_mul_of_one_le_right this h1

end Format

namespace Number

variable {f : Format} [hf : f.Regular]

/-- A ratio becomes the number that its value rounds to. -/
theorem ofUnits_eq_iff {negative : Bool} {num den : ℕ} (hd : 0 < den) {m : Fin (f.infinity + 1)} :
    ofUnits f negative num den = .signed negative m ↔ f.Rounds (num / den) m := by
  rw [← Format.nearest_eq_iff hf.fractionBits_pos hd]
  simp [ofUnits, Fin.ext_iff]

/-- A decimal becomes the number that its value rounds to. -/
theorem ofDecimal_eq_iff {negative : Bool} {c : ℕ} {e : ℤ} {m : Fin (f.infinity + 1)} :
    ofDecimal f negative c e = .signed negative m ↔ f.Rounds (c * 10 ^ e * f.one) m := by
  have hle : (c : ℚ) * 10 ^ e ≤ 10 ^ (decimalLength c + e) := by
    rw [zpow_add₀ (by norm_num), zpow_natCast]
    have : (c : ℚ) ≤ 10 ^ decimalLength c := by exact_mod_cast (lt_pow_decimalLength c).le
    gcongr
  rw [ofDecimal]
  split_ifs with h₁ h₂
  · have hz : f.Rounds (c * 10 ^ e * f.one) 0 := by
      refine Format.rounds_zero_of_lt (by positivity) ?_
      rcases h₁ with rfl | h₁
      · simp
      · exact hle.trans_lt (zpow_lt_zpow_right₀ (by norm_num) h₁)
    simp only [zero, signed.injEq, true_and, Fin.ext_iff]
    exact ⟨fun h => h ▸ hz, fun h => hz.unique h⟩
  · rw [not_or] at h₁
    have hi : f.Rounds (c * 10 ^ e * f.one) f.infinity := by
      refine Format.rounds_infinity_of_le ?_
      have hc : (10 : ℚ) ^ (decimalLength c - 1) ≤ c := by
        exact_mod_cast pow_decimalLength_le (Nat.pos_of_ne_zero h₁.1)
      calc (10 : ℚ) ^ decimalSpan f ≤ 10 ^ (((decimalLength c - 1 : ℕ) : ℤ) + e) := by
            rw [← zpow_natCast]
            exact zpow_le_zpow_right₀ (by norm_num) (by omega)
        _ ≤ c * 10 ^ e := by
            rw [zpow_add₀ (by norm_num), zpow_natCast]
            gcongr
    simp only [infinite, signed.injEq, true_and, Fin.ext_iff]
    exact ⟨fun h => h ▸ hi, fun h => hi.unique h⟩
  · rw [ofRatio, ofUnits_eq_iff (by positivity)]
    push_cast
    rw [zpow_eq_div, ← mul_div_assoc, mul_div_right_comm]

theorem exists_ofDecimal (f : Format) [f.Regular] (negative : Bool) (c : ℕ) (e : ℤ) :
    ∃ m, ofDecimal f negative c e = .signed negative m := by
  rw [ofDecimal]
  split_ifs <;> exact ⟨_, rfl⟩

/-- An integer becomes the number that it rounds to. -/
theorem ofInt_eq_iff {n : ℤ} {m : Fin (f.infinity + 1)} :
    ofInt f n = .signed (decide (n < 0)) m ↔ f.Rounds (n.natAbs * f.one) m := by
  rw [ofInt, ofRatio, ofUnits_eq_iff Nat.one_pos]
  push_cast
  rw [div_one]

theorem ofInt_of_le {n : ℤ} (h : 10 ^ decimalSpan f ≤ n.natAbs) : ofInt f n = infinite (decide (n < 0)) :=
  ofInt_eq_iff.2 (Format.rounds_infinity_of_le (by exact_mod_cast h))

/-- A finite number of another format becomes the number that its value rounds to. -/
theorem convert_eq_iff {g : Format} {negative : Bool} {n : Fin (g.infinity + 1)} (hn : n.val < g.infinity)
    {m : Fin (f.infinity + 1)} :
    (signed negative n : Number g).convert f = .signed negative m ↔ f.Rounds (g.units n * f.one / g.one) m := by
  rw [convert, if_neg hn.ne, ofUnits_eq_iff Format.one_pos]
  push_cast
  rfl

end Number

end TypedScalar.Floating
