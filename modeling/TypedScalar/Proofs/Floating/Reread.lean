import TypedScalar.Proofs.Floating.DoubleRounding

/-! Single numbers read back by way of a double. The shortest decimal of a
magnitude has nine digits at most, so it is among those that were scanned, and all
magnitudes but one come back as they were. -/

namespace TypedScalar.Floating

open Format

variable {m : ℕ}

theorem leadingExponent_single (hpos : 0 < m) (hm : m < single.infinity) :
    -45 ≤ single.leadingExponent m ∧ single.leadingExponent m ≤ 38 := by
  obtain ⟨hlow, hupp⟩ := leadingExponent_bounds (f := single) hpos
  have hone : (single.one : ℚ) = 2 ^ 149 := by exact_mod_cast (by decide : single.one = 2 ^ 149)
  have hunits : (1 : ℚ) ≤ single.units m := by exact_mod_cast units_pos (f := single) hpos
  have hunits' : (single.units m : ℚ) ≤ 2 ^ 128 * 2 ^ 149 := by
    have hle : single.units m ≤ single.units single.infinity := units_strictMono.monotone hm.le
    have hbits : single.fractionBits + (2 ^ single.exponentBits - 2) = 128 + 149 := rfl
    rw [units_infinity, hbits, pow_add] at hle
    exact_mod_cast hle
  rw [hone] at hlow hupp
  constructor
  · by_contra hlt
    have hpow : (10 : ℚ) ^ (single.leadingExponent m + 1) ≤ 10 ^ (-45 : ℤ) :=
      zpow_le_zpow_right₀ (by norm_num) (by omega)
    have : (10 : ℚ) ^ (-45 : ℤ) * 2 ^ 149 < 1 := by norm_num
    linarith
  · by_contra hlt
    have hpow : (10 : ℚ) ^ (39 : ℤ) ≤ 10 ^ single.leadingExponent m :=
      zpow_le_zpow_right₀ (by norm_num) (by omega)
    have : (2 : ℚ) ^ 128 * 2 ^ 149 < 10 ^ (39 : ℤ) * 2 ^ 149 := by norm_num
    linarith

/-- The ninth digit of a single number weighs less than half the distance to its
neighbours. -/
theorem le_exponent_shortest_single (hpos : 0 < m) (hm : m < single.infinity) :
    single.leadingExponent m - 8 ≤ (single.shortest m).exponent := by
  refine le_exponent_shortest hm (by omega) ?_
  have hlow := (leadingExponent_bounds (f := single) hpos).1
  have hupp := (units_lt_lower_succ m).trans (lower_succ_lt (f := single) m)
  have hbits : single.fractionBits + 1 = 24 := rfl
  rw [hbits, pow_add] at hupp
  have hpow : (0 : ℚ) < 2 ^ single.binade m := by positivity
  have hle := lower_le_units (f := single) m
  rw [lower_succ, zpow_sub₀ (by norm_num), div_mul_eq_mul_div]
  have : (10 : ℚ) ^ single.leadingExponent m * single.one / 10 ^ (8 : ℤ) < 2 ^ single.binade m / 2 := by
    rw [div_lt_iff₀ (by norm_num)]
    norm_num at hupp ⊢
    linarith
  linarith

theorem mul_ten_pow_bounds {a b d j : ℕ} (hlow : 10 ^ a ≤ d) (hupp : d ≤ 10 ^ b) :
    10 ^ (a + j) ≤ d * 10 ^ j ∧ d * 10 ^ j ≤ 10 ^ (b + j) := by
  rw [pow_add, pow_add]
  exact ⟨Nat.mul_le_mul_right _ hlow, Nat.mul_le_mul_right _ hupp⟩

/-- The shortest decimal of a single number, written with nine digits. -/
theorem exists_nine_digits (hpos : 0 < m) (hm : m < single.infinity) :
    ∃ t : ℕ, t < 84 ∧ ∃ digits : ℕ, 10 ^ 8 ≤ digits ∧ digits ≤ 10 ^ 9 ∧ single.leadingExponent m = t - 45 ∧
      (single.shortest m).digits * 10 ^ ((single.shortest m).exponent - (t - 53)).toNat = digits ∧
      (single.shortest m).value = digits * 10 ^ ((t : ℤ) - 53) := by
  obtain ⟨hlow, hupp⟩ := leadingExponent_single hpos hm
  have hexponent := le_exponent_shortest_single hpos hm
  have hle := (shortest_found hm).exponent_le
  obtain ⟨t, ht, hlt⟩ : ∃ t : ℕ, single.leadingExponent m = t - 45 ∧ t < 84 := by
    refine ⟨(single.leadingExponent m + 45).toNat, ?_⟩
    -- `omega` would write out the bound in `hm`
    clear hm
    omega
  obtain ⟨j, hj, hj', hplaces⟩ : ∃ j : ℕ, (single.shortest m).exponent = t - 53 + j ∧
      ((single.shortest m).exponent - (t - 53)).toNat = j ∧
      (single.leadingExponent m - (single.shortest m).exponent).toNat + j = 8 ∧
      (single.leadingExponent m - (single.shortest m).exponent + 1).toNat + j = 9 := by
    refine ⟨((single.shortest m).exponent - (t - 53)).toNat, ?_⟩
    clear hm
    omega
  obtain ⟨hbelow, habove⟩ :=
    mul_ten_pow_bounds (j := j) (le_shortest_digits hpos hm) (shortest_digits_le hpos hm)
  rw [hplaces.1] at hbelow
  rw [hplaces.2] at habove
  refine ⟨t, hlt, (single.shortest m).digits * 10 ^ j, hbelow, habove, ht, by rw [hj'], ?_⟩
  rw [Decimal.value, hj, zpow_add₀ (by norm_num), zpow_natCast]
  push_cast
  ring

theorem ten_zpow_sub (t : ℕ) : (10 : ℚ) ^ ((t : ℤ) - 53) = 10 ^ (t - 53) / 10 ^ (53 - t) := by
  have hup : ((t : ℤ) - 53).toNat = t - 53 := by omega
  have hdown : (-((t : ℤ) - 53)).toNat = 53 - t := by omega
  rw [zpow_eq_div, hup, hdown]

/-- A decimal that passed the scan is read back. -/
theorem eq_reread_of_reads {t digits y z : ℕ} (h : reads t digits = true)
    (hm : single.Rounds (digits * 10 ^ ((t : ℤ) - 53) * single.one) m)
    (hy : double.Rounds (digits * 10 ^ ((t : ℤ) - 53) * double.one) y)
    (hz : single.Rounds (double.units y * single.one / double.one) z)
    (htop : single.leadingExponent m = t - 45)
    (hdigits : (single.shortest m).digits * 10 ^ ((single.shortest m).exponent - (t - 53)).toNat = digits) :
    z = reread m := by
  have hden : 0 < 10 ^ (53 - t) := by positivity
  have hvalue (f : Format) : (digits : ℚ) * 10 ^ ((t : ℤ) - 53) * f.one =
      ((digits * 10 ^ (t - 53) * f.one : ℕ) : ℚ) / (10 ^ (53 - t) : ℕ) := by
    rw [ten_zpow_sub]
    push_cast
    ring
  have hm' : single.nearest (digits * 10 ^ (t - 53) * single.one) (10 ^ (53 - t)) = m :=
    (nearest_eq_iff (by decide) hden).2 (hvalue single ▸ hm)
  have hy' : double.nearest (digits * 10 ^ (t - 53) * double.one) (10 ^ (53 - t)) = y :=
    (nearest_eq_iff (by decide) hden).2 (hvalue double ▸ hy)
  have hz' : single.nearest (double.units y * single.one) double.one = z :=
    (nearest_eq_iff (f := single) (by decide) Format.one_pos).2 (by exact_mod_cast hz)
  have hsteps : (single.leadingExponent m + single.unitExponent).toNat = t + 104 := by
    have hexponent : single.unitExponent = 149 := rfl
    rw [htop, hexponent]
    omega
  rw [shortest, hsteps, htop] at hdigits
  simpa [reads, hm', hy', hz', hdigits] using h

theorem binade_lt_single (hm : m < single.infinity) : single.binade m < 254 := by
  have hlt : m / 2 ^ single.fractionBits < 255 := Nat.div_lt_of_lt_mul (hm.trans_eq rfl)
  rw [binade]
  clear hm
  omega

/-- Close to a midpoint, the nine digits were scanned. -/
theorem reads_of_near {t digits n : ℕ} (ht : t < 84) (hlow : 10 ^ 8 ≤ digits) (hupp : digits ≤ 10 ^ 9)
    (hn : n < single.infinity) {v : ℚ} (hv : v = digits * 10 ^ ((t : ℤ) - 53) * single.one)
    (hne : v ≠ single.lower (n + 1)) (hnear : |v - single.lower (n + 1)| ≤ 2 ^ single.binade n / 2 ^ 30) :
    reads t digits = true := by
  obtain ⟨r, hr, hk, hlt⟩ := exists_block (f := single) n
  have hunits := units_block (f := single) hk hlt.le
  rw [← hr] at hunits
  set k := single.binade n with hkn
  have hk254 : k < 254 := binade_lt_single hn
  have hscan : scans t k = true :=
    List.all_eq_true.1 (List.all_eq_true.1 all_scans t (List.mem_range.2 ht)) k (List.mem_range.2 hk254)
  -- everything is multiplied by `2 ^ 30` and by the denominator of the decimal
  have hscale : (0 : ℚ) < 2 ^ 30 * 10 ^ (53 - t) := by positivity
  have hpoint : v * (2 ^ 30 * 10 ^ (53 - t)) = (2 ^ 30 * (10 ^ (t - 53) * single.one) * digits : ℕ) := by
    rw [hv, ten_zpow_sub]
    push_cast
    field_simp
    norm_num
  have hmid : single.lower (n + 1) * (2 ^ 30 * 10 ^ (53 - t)) =
      ((2 * r + 1) * 2 ^ 29 * (2 ^ k * 10 ^ (53 - t)) : ℕ) := by
    rw [lower_succ, hunits]
    push_cast
    ring
  have hwidth : (2 : ℚ) ^ k / 2 ^ 30 * (2 ^ 30 * 10 ^ (53 - t)) = (2 ^ k * 10 ^ (53 - t) : ℕ) := by
    push_cast
    field_simp
  obtain ⟨habove, hbelow⟩ := abs_sub_le_iff.1 hnear
  rw [← mul_le_mul_iff_left₀ hscale, sub_mul, hpoint, hmid, hwidth, sub_le_iff_le_add'] at habove hbelow
  refine reads_of_scans hscan hlow hupp hk hlt rfl rfl ?_ ?_ ?_
  · exact_mod_cast hbelow
  · exact_mod_cast habove
  · intro heq
    refine hne (mul_right_cancel₀ hscale.ne' ?_)
    rw [hpoint, hmid, heq]

theorem leadingExponent_strayMagnitude : single.leadingExponent strayMagnitude = -26 := by decide +kernel

theorem shortest_strayMagnitude : single.shortest strayMagnitude = ⟨7038531, -32⟩ := by
  rw [shortest, leadingExponent_strayMagnitude]
  decide +kernel

/-- Reading the shortest decimal of a single number by way of a double gives the
number, or the one next to it in the one case. -/
theorem eq_reread {y z : ℕ} (hm : m < single.infinity)
    (hy : double.Rounds ((single.shortest m).value * double.one) y)
    (hz : single.Rounds (double.units y * single.one / double.one) z) : z = reread m := by
  rcases Nat.eq_zero_or_pos m with rfl | hpos
  · rw [shortest_zero_value, zero_mul] at hy
    obtain rfl : y = 0 := hy.unique (by simpa using rounds_units (f := double) (Nat.zero_le _))
    rw [units_zero, Nat.cast_zero, zero_mul, zero_div] at hz
    rw [show reread 0 = 0 by decide]
    exact hz.unique (by simpa using rounds_units (f := single) (Nat.zero_le _))
  have hm' := shortest_rounds hm
  obtain ⟨t, ht, digits, hlow, hupp, htop, hdigits, hvalue⟩ := exists_nine_digits hpos hm
  have hreads (h : reads t digits = true) : z = reread m :=
    eq_reread_of_reads h (hvalue ▸ hm') (hvalue ▸ hy) hz htop hdigits
  by_cases hstray : m = strayMagnitude
  · subst hstray
    rw [leadingExponent_strayMagnitude] at htop
    obtain rfl : t = 19 := by omega
    rw [shortest_strayMagnitude] at hdigits
    refine hreads ?_
    rw [← hdigits]
    decide +kernel
  · have hone : (single.one : ℚ) ≠ 0 := by exact_mod_cast (Format.one_pos (f := single)).ne'
    rw [double_one_eq, ← mul_assoc] at hy
    rw [double_one_eq, mul_comm (single.one : ℚ), mul_div_mul_right _ _ hone] at hz
    rcases eq_or_near_midpoint hpos hm hm' hy hz with rfl | ⟨n, hn, hne, hnear⟩
    · rw [reread, if_neg hstray]
    · exact hreads (reads_of_near ht hlow hupp hn (by rw [hvalue]) hne hnear)

/-- The double on the way is finite. -/
theorem double_lt_infinity {y : ℕ} (hm : m < single.infinity)
    (hy : double.Rounds ((single.shortest m).value * double.one) y) : y < double.infinity := by
  rw [double_one_eq, ← mul_assoc] at hy
  obtain ⟨yu, hlt, -, hle⟩ := exists_double_ge hm (shortest_rounds hm) hy
  exact hle.trans_lt hlt

end TypedScalar.Floating
