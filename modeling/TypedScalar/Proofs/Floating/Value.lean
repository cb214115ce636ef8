import TypedScalar.Floating.Order
import TypedScalar.Proofs.Floating.Conversion

/-! The exact values of numbers. Numbers are numerically the same when they are finite
and have one value, or infinite and have one sign; so the two zeros are, and apart from
them only a number and itself. An integer that is the value of some number becomes that
number, or the other zero. -/

namespace TypedScalar.Floating.Number

open Format

variable {f : Format} {x y : Number f}

/-- The value of a finite number. -/
def value (x : Number f) : ℚ := x.signedUnits / f.one

theorem abs_value (negative : Bool) (m : Fin (f.infinity + 1)) :
    |(signed negative m : Number f).value| = f.units m / f.one := by
  have hpos : (0 : ℚ) ≤ f.units m / f.one := by positivity
  cases negative
  · rw [value, signedUnits, Int.cast_natCast, abs_of_nonneg hpos]
  · rw [value, signedUnits, Int.cast_neg, Int.cast_natCast, neg_div, abs_neg, abs_of_nonneg hpos]

/-- Whether a number is exact in a format: its value, if it is finite, has no more significant
bits than a fraction field with the leading bit, and lies in the range of the exponents. -/
def Fits (g : Format) (x : Number f) : Prop :=
  x.isFinite = true → ∃ (c : ℕ) (e : ℤ), |x.value| = c * 2 ^ e ∧ c < 2 ^ (g.fractionBits + 1) ∧
    -(g.unitExponent : ℤ) ≤ e ∧ e + g.fractionBits < 2 ^ (g.exponentBits - 1)

/-- Numerical sameness of numbers. -/
inductive SameValue : Number f → Number f → Prop
  | finite {x y : Number f} (hx : x.isFinite = true) (hy : y.isFinite = true) (h : x.value = y.value) :
    SameValue x y
  | infinite (negative : Bool) : SameValue (infinite negative) (infinite negative)

/-! ### Equality -/

@[simp] theorem natAbs_signedUnits (negative : Bool) (m : Fin (f.infinity + 1)) :
    (signed negative m).signedUnits.natAbs = f.units m := by
  cases negative <;> simp [signedUnits]

theorem signedUnits_eq_iff {s t : Bool} {m n : Fin (f.infinity + 1)} :
    (signed s m).signedUnits = (signed t n).signedUnits ↔ (s = t ∧ m = n) ∨ (m.val = 0 ∧ n.val = 0) := by
  constructor
  · intro h
    have hunits : f.units m = f.units n := by
      rw [← natAbs_signedUnits s m, ← natAbs_signedUnits t n, h]
    have hmn : m = n := Fin.ext (units_strictMono.injective hunits)
    subst hmn
    by_cases hm : m.val = 0
    · exact .inr ⟨hm, hm⟩
    · have := units_pos (f := f) (Nat.pos_of_ne_zero hm)
      refine .inl ⟨?_, rfl⟩
      cases s <;> cases t
      · rfl
      · simp only [signedUnits] at h
        omega
      · simp only [signedUnits] at h
        omega
      · rfl
  · rintro (⟨rfl, rfl⟩ | ⟨hm, hn⟩)
    · rfl
    · cases s <;> cases t <;> simp [signedUnits, hm, hn]

/-- Numbers are equal if they are one and the same other than NaN, or both zero. -/
theorem equals_iff : x.equals y = true ↔ x.isNaN = false ∧ (x = y ∨ x.isZero = true ∧ y.isZero = true) := by
  cases x with
  | nan => simp [equals, isNaN]
  | signed s m =>
    cases y with
    | nan =>
      have hequals : (signed s m).equals nan = false := rfl
      simp [hequals, isZero]
    | signed t n =>
      have hequals : (signed s m).equals (signed t n) = true ↔
          (signed s m).signedUnits = (signed t n).signedUnits := beq_iff_eq
      rw [hequals, signedUnits_eq_iff, signed.injEq]
      simp [isNaN, isZero]

theorem equals_self (h : x.isNaN = false) : x.equals x = true := equals_iff.2 ⟨h, .inl rfl⟩

theorem isZero_iff : x.isZero = true ↔ ∃ negative, x = zero negative := by
  constructor
  · intro h
    cases x with
    | nan => simp [isZero] at h
    | signed negative m => exact ⟨negative, congrArg (signed negative) (Fin.ext (beq_iff_eq.1 h))⟩
  · rintro ⟨negative, rfl⟩
    rfl

theorem isInfinite_iff : x.isInfinite = true ↔ ∃ negative, x = infinite negative := by
  constructor
  · intro h
    cases x with
    | nan => simp [isInfinite] at h
    | signed negative m => exact ⟨negative, congrArg (signed negative) (Fin.ext (beq_iff_eq.1 h))⟩
  · rintro ⟨negative, rfl⟩
    exact beq_self_eq_true f.infinity

theorem isFinite_signed {negative : Bool} {m : Fin (f.infinity + 1)} :
    (signed negative m : Number f).isFinite = true ↔ m.val < f.infinity := by
  have := m.isLt
  simp [isFinite, isNaN, isInfinite]
  omega

theorem exists_signed (h : x.isFinite = true) :
    ∃ negative, ∃ m : Fin (f.infinity + 1), m.val < f.infinity ∧ x = signed negative m := by
  cases x with
  | nan => simp [isFinite, isNaN] at h
  | signed negative m => exact ⟨negative, m, isFinite_signed.1 h, rfl⟩

theorem eq_of_not_isFinite (h : x.isFinite = false) : x = nan ∨ ∃ negative, x = infinite negative := by
  cases x with
  | nan => exact .inl rfl
  | signed negative m =>
    refine .inr (isInfinite_iff.1 ?_)
    simpa [isFinite, isNaN] using h

theorem isFinite_of_isZero [f.Regular] (h : x.isZero = true) : x.isFinite = true := by
  obtain ⟨negative, rfl⟩ := isZero_iff.1 h
  exact isFinite_signed.2 infinity_pos

/-- What equals a finite number is not infinite. -/
theorem isInfinite_of_equals [f.Regular] (h : x.equals y = true) (hy : y.isFinite = true) :
    x.isInfinite = false := by
  have hx : x.isFinite = true := by
    obtain ⟨-, rfl | ⟨hzero, -⟩⟩ := equals_iff.1 h
    · exact hy
    · exact isFinite_of_isZero hzero
  simp only [isFinite, Bool.and_eq_true, Bool.not_eq_true'] at hx
  exact hx.2

theorem isZero_iff_value (h : x.isFinite = true) : x.isZero = true ↔ x.value = 0 := by
  obtain ⟨negative, m, -, rfl⟩ := exists_signed h
  have hone : (f.one : ℚ) ≠ 0 := by exact_mod_cast one_pos.ne'
  have hunits : f.units m = f.units 0 ↔ m.val = 0 := units_strictMono.injective.eq_iff
  rw [units_zero] at hunits
  rw [value, div_eq_zero_iff, or_iff_left hone, Int.cast_eq_zero, ← Int.natAbs_eq_zero,
    natAbs_signedUnits, hunits]
  exact beq_iff_eq

theorem value_eq_iff : x.value = y.value ↔ x.signedUnits = y.signedUnits := by
  have hone : (f.one : ℚ) ≠ 0 := by exact_mod_cast one_pos.ne'
  rw [value, value, div_left_inj' hone]
  exact Int.cast_inj

/-- Equality is numerical sameness. -/
theorem equals_iff_sameValue [f.Regular] : x.equals y = true ↔ SameValue x y := by
  constructor
  · intro h
    have hunits : x.signedUnits = y.signedUnits := by
      simp only [equals, Bool.and_eq_true, beq_iff_eq] at h
      exact h.2
    obtain ⟨hx, rfl | ⟨hx', hy'⟩⟩ := equals_iff.1 h
    · cases hinfinite : x.isInfinite with
      | false => exact .finite (by simp [isFinite, hx, hinfinite]) (by simp [isFinite, hx, hinfinite]) rfl
      | true =>
        obtain ⟨negative, rfl⟩ := isInfinite_iff.1 hinfinite
        exact .infinite negative
    · exact .finite (isFinite_of_isZero hx') (isFinite_of_isZero hy') (value_eq_iff.2 hunits)
  · intro h
    cases h with
    | infinite negative => exact equals_self rfl
    | finite hx hy h =>
      obtain ⟨s, m, -, rfl⟩ := exists_signed hx
      obtain ⟨t, n, -, rfl⟩ := exists_signed hy
      rw [equals, value_eq_iff.1 h]
      exact beq_self_eq_true _

theorem SameValue.symm (h : SameValue x y) : SameValue y x := by
  cases h with
  | finite hx hy h => exact .finite hy hx h.symm
  | infinite negative => exact .infinite negative

theorem SameValue.trans [f.Regular] {z : Number f} (h : SameValue x y) (h' : SameValue y z) :
    SameValue x z := by
  rw [← equals_iff_sameValue] at *
  simp only [equals, Bool.and_eq_true, beq_iff_eq] at *
  exact ⟨⟨h.1.1, h'.1.2⟩, h.2.trans h'.2⟩

theorem sameValue_self_iff [f.Regular] : SameValue x x ↔ x ≠ nan := by
  rw [← equals_iff_sameValue, equals_iff]
  cases x <;> simp [isNaN]

/-! ### Exactness -/

theorem fits [f.Regular] (x : Number f) : x.Fits f := by
  intro hfinite
  obtain ⟨negative, m, hm, rfl⟩ := exists_signed hfinite
  obtain ⟨r, hn, hblock, hr⟩ := exists_block (f := f) m.val
  have hunits := units_block (f := f) hblock hr.le
  rw [← hn] at hunits
  have hbinade : f.binade m < 2 ^ f.exponentBits - 2 := by
    have hdiv : m.val / 2 ^ f.fractionBits < 2 ^ f.exponentBits - 1 :=
      Nat.div_lt_of_lt_mul (by rwa [mul_comm])
    have hfour := four_le_two_pow (f := f)
    rw [binade]
    omega
  have hdouble := two_pow_exponentBits (f := f)
  have hunit := unitExponent_add_two (f := f)
  refine ⟨r, f.binade m - f.unitExponent, ?_, by rwa [pow_succ'], by omega, ?_⟩
  · rw [abs_value, hunits, one, zpow_sub₀ (by norm_num), zpow_natCast, zpow_natCast]
    push_cast
    ring
  · have hlt : f.binade m + f.fractionBits < 2 ^ (f.exponentBits - 1) + f.unitExponent := by omega
    have hcast : ((2 ^ (f.exponentBits - 1) : ℕ) : ℤ) = 2 ^ (f.exponentBits - 1) := by push_cast; rfl
    omega

/-! ### Integers -/

theorem value_eq_intCast_iff {n : ℤ} : x.value = n ↔ x.signedUnits = n * f.one := by
  have hone : (f.one : ℚ) ≠ 0 := by exact_mod_cast one_pos.ne'
  rw [value, div_eq_iff hone]
  exact_mod_cast Iff.rfl

theorem units_eq_of_signedUnits {negative : Bool} {m : Fin (f.infinity + 1)} {n : ℤ}
    (h : (signed negative m).signedUnits = n * f.one) : f.units m = n.natAbs * f.one := by
  rw [← natAbs_signedUnits negative m, h, Int.natAbs_mul, Int.natAbs_natCast]

/-- Infinity stands at the power of two from which on everything overflows. -/
theorem units_infinity_eq [f.Regular] :
    f.units f.infinity = 2 ^ 2 ^ (f.exponentBits - 1) * f.one := by
  have hfour := four_le_two_pow (f := f)
  have hdouble := two_pow_exponentBits (f := f)
  have hunit := unitExponent_add_two (f := f)
  have hexponents : f.fractionBits + (2 ^ f.exponentBits - 2) = 2 ^ (f.exponentBits - 1) + f.unitExponent := by
    omega
  rw [units_infinity, hexponents, pow_add, one]

/-- Integers among the finite numbers are smaller than that power. -/
theorem natAbs_lt_of_value [f.Regular] {n : ℤ} (hx : x.isFinite = true) (hn : x.value = n) :
    n.natAbs < 2 ^ 2 ^ (f.exponentBits - 1) := by
  obtain ⟨negative, m, hm, rfl⟩ := exists_signed hx
  rw [value_eq_intCast_iff] at hn
  have hlt : f.units m < f.units f.infinity := units_strictMono hm
  rw [units_infinity_eq, units_eq_of_signedUnits hn] at hlt
  exact Nat.lt_of_mul_lt_mul_right hlt

/-- A number is the integer that its value is. -/
theorem toInt?_eq_some_iff {n : ℤ} : x.toInt? = some n ↔ x.isFinite = true ∧ x.value = n := by
  rw [value_eq_intCast_iff]
  cases x with
  | nan => simp [toInt?, isFinite, isNaN]
  | signed negative m =>
    have hone : (f.one : ℤ) ≠ 0 := by exact_mod_cast one_pos.ne'
    rw [isFinite_signed, toInt?]
    split_ifs with hm hnegative
    · -- infinite, or between integers
      simp only [false_iff, not_and]
      intro hlt hn
      have habs := units_eq_of_signedUnits hn
      exact hm.resolve_left hlt.ne (by rw [habs, Nat.mul_mod_left])
    all_goals
      rw [not_or, not_not] at hm
      have hlt : m.val < f.infinity := lt_of_le_of_ne m.le_last hm.1
      have hunits : (f.units m : ℤ) = (f.units m / f.one : ℕ) * f.one := by
        exact_mod_cast (Nat.div_mul_cancel (Nat.dvd_of_mod_eq_zero hm.2)).symm
    · obtain rfl := hnegative
      rw [signedUnits, hunits, ← neg_mul, mul_left_inj' hone]
      simp [hlt]
    · obtain rfl := Bool.eq_false_iff.2 hnegative
      rw [signedUnits, hunits, mul_left_inj' hone]
      simp [hlt]

/-- An integer becomes the number that has its value. -/
theorem ofInt_equals [f.Regular] {n : ℤ} (hx : x.isFinite = true) (hn : x.value = n) :
    (ofInt f n).equals x = true := by
  obtain ⟨negative, m, hm, rfl⟩ := exists_signed hx
  rw [value_eq_intCast_iff] at hn
  have habs := units_eq_of_signedUnits hn
  have hround : ofInt f n = signed (decide (n < 0)) m := by
    have hunits : (f.units m : ℚ) = n.natAbs * f.one := by exact_mod_cast habs
    rw [ofInt_eq_iff, ← hunits]
    exact rounds_units hm.le
  have hunits : (signed (decide (n < 0)) m).signedUnits = (signed negative m).signedUnits := by
    rw [hn]
    by_cases hneg : n < 0
    · rw [decide_eq_true hneg, signedUnits, habs]
      push_cast
      rw [abs_of_neg hneg]
      ring
    · rw [decide_eq_false hneg, signedUnits, habs]
      push_cast
      rw [abs_of_nonneg (by omega)]
  rw [hround, equals, hunits]
  exact beq_self_eq_true _

/-- The powers of two below that one are magnitudes. -/
theorem exists_units_two_pow [f.Regular] {b : ℕ} (hb : b < 2 ^ (f.exponentBits - 1)) :
    ∃ m, m < f.infinity ∧ f.units m = 2 ^ b * f.one := by
  obtain ⟨m, hm⟩ : ∃ m, f.units m = 1 * 2 ^ (b + f.unitExponent) :=
    exists_units_eq 1 _ (Nat.one_le_two_pow.trans (Nat.le_mul_of_pos_left _ (by norm_num)))
  rw [one_mul, pow_add] at hm
  refine ⟨m, (units_strictMono (f := f)).lt_iff_lt.1 ?_, hm⟩
  rw [hm, units_infinity_eq]
  exact Nat.mul_lt_mul_of_pos_right (Nat.pow_lt_pow_right (by norm_num) hb) one_pos

/-- Values up to such a power are not rounded to more. -/
theorem units_le_of_rounds [f.Regular] {b m : ℕ} (hb : b < 2 ^ (f.exponentBits - 1)) {v : ℚ}
    (hv : v ≤ 2 ^ b * f.one) (hm : f.Rounds v m) : m < f.infinity ∧ f.units m ≤ 2 ^ b * f.one := by
  obtain ⟨k, hk, hunits⟩ := exists_units_two_pow hb
  have hle : v ≤ f.units k := by
    rw [hunits]
    exact_mod_cast hv
  have hmk : m ≤ k := hm.le (rounds_units hk.le) hle
  rw [← hunits]
  exact ⟨hmk.trans_lt hk, (units_strictMono (f := f)).monotone hmk⟩

theorem exists_ofInt [f.Regular] {n : ℤ} {b : ℕ} (hn : n.natAbs ≤ 2 ^ b) (hb : b < 2 ^ (f.exponentBits - 1)) :
    ∃ m : Fin (f.infinity + 1), ofInt f n = signed (decide (n < 0)) m ∧ m.val < f.infinity ∧
      f.units m ≤ 2 ^ b * f.one := by
  obtain ⟨m, hm⟩ : ∃ m, ofInt f n = signed (decide (n < 0)) m := ⟨_, rfl⟩
  refine ⟨m, hm, units_le_of_rounds hb ?_ (ofInt_eq_iff.1 hm)⟩
  exact_mod_cast Nat.mul_le_mul_right _ hn

/-- Integers up to a smaller power of two do not overflow. -/
theorem isFinite_ofInt [f.Regular] {n : ℤ} {b : ℕ} (hn : n.natAbs ≤ 2 ^ b)
    (hb : b < 2 ^ (f.exponentBits - 1)) : (ofInt f n).isFinite = true := by
  obtain ⟨m, hm, hlt, -⟩ := exists_ofInt hn hb
  rw [hm]
  exact isFinite_signed.2 hlt

/-- Nor do they by way of another format. -/
theorem isFinite_convert_ofInt {g : Format} [f.Regular] [g.Regular] {n : ℤ} {b : ℕ} (hn : n.natAbs ≤ 2 ^ b)
    (hg : b < 2 ^ (g.exponentBits - 1)) (hf : b < 2 ^ (f.exponentBits - 1)) :
    ((ofInt g n).convert f).isFinite = true := by
  obtain ⟨m, hm, hlt, hle⟩ := exists_ofInt hn hg
  obtain ⟨k, hk⟩ : ∃ k, (signed (decide (n < 0)) m : Number g).convert f = signed (decide (n < 0)) k := by
    rw [convert, if_neg hlt.ne]
    exact ⟨_, rfl⟩
  have hvalue : (g.units m * f.one / g.one : ℚ) ≤ 2 ^ b * f.one := by
    have hone : (0 : ℚ) < g.one := by exact_mod_cast one_pos
    rw [div_le_iff₀ hone, mul_right_comm]
    exact_mod_cast Nat.mul_le_mul_right _ hle
  rw [hm, hk]
  exact isFinite_signed.2 (units_le_of_rounds hf hvalue ((convert_eq_iff hlt).1 hk)).1

end TypedScalar.Floating.Number
