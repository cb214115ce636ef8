import Mathlib.Algebra.Order.Group.Abs
import TypedScalar.Proofs.Floating.DoubleRounding
import TypedScalar.Proofs.Floating.Widening

/-! The numbers closest to a value. Rounding finds a finite number to which no other lies closer, and
of two that are as close it finds the even one. By way of a double, an integer becomes the single
number closest to that double, and this is the one closest to the integer itself unless the double is
a midpoint between two single numbers and the integer lies beyond it. -/

namespace TypedScalar.Floating

theorem eq_midpoint_of_abs_sub_eq {w a b : ℚ} (hne : a ≠ b) (h : |w - a| = |w - b|) : w = (a + b) / 2 := by
  rcases abs_eq_abs.1 h with h | h
  · exact absurd (sub_right_injective h) hne
  · linarith

theorem abs_sub_le_of_le_midpoint {w a b : ℚ} (hab : a ≤ b) (h : w ≤ (a + b) / 2) : |w - a| ≤ |w - b| := by
  rw [abs_le]
  have := neg_abs_le (w - b)
  constructor <;> linarith

theorem abs_sub_le_of_midpoint_le {w a b : ℚ} (hab : a ≤ b) (h : (a + b) / 2 ≤ w) : |w - b| ≤ |w - a| := by
  rw [abs_le]
  have := le_abs_self (w - a)
  constructor <;> linarith

namespace Format

variable {f : Format} {w : ℚ} {m k : ℕ}

theorem midpoint_le_lower (h : k < m) : ((f.units k : ℚ) + f.units m) / 2 ≤ f.lower m := by
  have hmono : (f.units k : ℚ) ≤ f.units (m - 1) := by
    exact_mod_cast units_strictMono.monotone (Nat.le_sub_one_of_lt h)
  rw [lower]
  linarith

theorem lower_succ_le_midpoint (h : m < k) : f.lower (m + 1) ≤ ((f.units m : ℚ) + f.units k) / 2 := by
  have hmono : (f.units (m + 1) : ℚ) ≤ f.units k := by
    exact_mod_cast units_strictMono.monotone (Nat.succ_le_of_lt h)
  rw [lower, Nat.add_sub_cancel]
  linarith

theorem units_cast_le (h : m ≤ k) : (f.units m : ℚ) ≤ f.units k := by
  exact_mod_cast units_strictMono.monotone h

/-- No magnitude lies closer to a value than the one that it rounds to. -/
theorem Rounds.abs_sub_le_abs_sub (h : f.Rounds w m) (hm : m < f.infinity) (k : ℕ) :
    |w - f.units m| ≤ |w - f.units k| := by
  rcases Nat.lt_trichotomy m k with hlt | rfl | hlt
  · exact abs_sub_le_of_le_midpoint (units_cast_le hlt.le)
      ((h.le_lower_succ hm).trans (lower_succ_le_midpoint hlt))
  · exact le_rfl
  · exact abs_sub_le_of_midpoint_le (units_cast_le hlt.le) ((midpoint_le_lower hlt).trans h.reaches.le)

/-- Of two that are as close, it is the even one. -/
theorem Rounds.even_of_tie (h : f.Rounds w m) (hm : m < f.infinity) (hk : k ≠ m)
    (htie : |w - f.units k| = |w - f.units m|) : Even m := by
  have hne : (f.units k : ℚ) ≠ f.units m := by exact_mod_cast units_strictMono.injective.ne hk
  have hmid := eq_midpoint_of_abs_sub_eq hne htie
  rcases hk.lt_or_gt with hlt | hlt
  · rcases h.reaches with hbeyond | ⟨-, heven⟩
    · exact absurd hbeyond (hmid ▸ (midpoint_le_lower hlt).not_gt)
    · exact heven
  · rw [add_comm] at hmid
    have hlower : f.lower (m + 1) = w :=
      le_antisymm (hmid ▸ lower_succ_le_midpoint hlt) (h.le_lower_succ hm)
    by_contra hodd
    exact h.stops hm (.inr ⟨hlower, Nat.even_add_one.2 hodd⟩)

/-- A value that is a magnitude's is not moved. -/
theorem Rounds.eq_units (h : f.Rounds w m) (hm : m < f.infinity) (hk : w = f.units k) : w = f.units m := by
  have hle := h.abs_sub_le_abs_sub hm k
  rw [hk, sub_self, abs_zero] at hle
  rw [hk]
  exact sub_eq_zero.1 (abs_nonpos_iff.1 hle)

end Format

open Format

namespace Number

variable {f g : Format} {v : ℚ}

def IsEven : Number f → Prop
  | nan => False
  | signed _ m => Even m.val

/-- Whether a number is a finite one closest to a value: no finite number is closer, and it is even
where another value is as close. -/
structure Closest (v : ℚ) (x : Number f) : Prop where
  isFinite : x.isFinite = true
  le {y : Number f} (hy : y.isFinite = true) : |v - x.value| ≤ |v - y.value|
  even {y : Number f} (hy : y.isFinite = true) (hne : y.value ≠ x.value)
    (htie : |v - y.value| = |v - x.value|) : x.IsEven

/-- A finite number is closest to its own value. -/
theorem closest_value {x : Number f} (hx : x.isFinite = true) : x.Closest x.value where
  isFinite := hx
  le _ := by
    rw [sub_self, abs_zero]
    exact abs_nonneg _
  even _ hne htie := by
    rw [sub_self, abs_zero, abs_eq_zero, sub_eq_zero] at htie
    exact absurd htie.symm hne

/-! ### Signs -/

/-- The factor of a sign. -/
def factor (negative : Bool) : ℚ := if negative then -1 else 1

theorem abs_factor (negative : Bool) : |factor negative| = 1 := by
  cases negative <;> simp [factor]

theorem factor_natAbs (n : ℤ) : factor (decide (n < 0)) * n.natAbs = n := by
  rw [Nat.cast_natAbs, factor]
  split_ifs with hneg
  · rw [decide_eq_true_eq] at hneg
    rw [abs_of_neg hneg]
    push_cast
    ring
  · rw [decide_eq_true_eq, not_lt] at hneg
    rw [abs_of_nonneg hneg, one_mul]

theorem value_signed (negative : Bool) (m : Fin (f.infinity + 1)) :
    (signed negative m : Number f).value = factor negative * (f.units m / f.one) := by
  cases negative <;> simp [value, signedUnits, factor, neg_div]

/-- On one side of zero, distances do not depend on the side. -/
theorem abs_factor_mul_sub (negative : Bool) (v : ℚ) (m : Fin (f.infinity + 1)) :
    |factor negative * v - (signed negative m : Number f).value| = |v - f.units m / f.one| := by
  rw [value_signed, ← mul_sub, abs_mul, abs_factor, one_mul]

/-- Across zero, distances add up. -/
theorem abs_factor_mul_sub_of_ne (hv : 0 ≤ v) {s t : Bool} (hst : s ≠ t) (m : Fin (f.infinity + 1)) :
    |factor s * v - (signed t m : Number f).value| = v + f.units m / f.one := by
  have hunits : (0 : ℚ) ≤ f.units m / f.one := by positivity
  rw [value_signed]
  cases s <;> cases t <;> simp only [factor, Bool.false_eq_true, ↓reduceIte, ne_eq, not_true_eq_false] at hst ⊢
  · rw [one_mul, neg_one_mul, sub_neg_eq_add, abs_of_nonneg (by linarith)]
  · rw [one_mul, neg_one_mul, ← neg_add', abs_neg, abs_of_nonneg (by linarith)]

/-- The other side of zero is not closer. -/
theorem abs_sub_le_abs_factor_mul_sub (hv : 0 ≤ v) (s t : Bool) (m : Fin (f.infinity + 1)) :
    |v - f.units m / f.one| ≤ |factor s * v - (signed t m : Number f).value| := by
  by_cases hst : s = t
  · rw [hst, abs_factor_mul_sub]
  · rw [abs_factor_mul_sub_of_ne hv hst]
    have hunits : (0 : ℚ) ≤ f.units m / f.one := by positivity
    rw [abs_le]
    constructor <;> linarith

/-! ### Rounding -/

theorem abs_sub_div_one (v : ℚ) (m : ℕ) : |v - f.units m / f.one| = |v * f.one - f.units m| / f.one := by
  have hone : (0 : ℚ) < f.one := by exact_mod_cast Format.one_pos
  rw [sub_div' hone.ne', abs_div, abs_of_pos hone]

/-- A value is rounded to a number closest to it. -/
theorem closest_of_rounds (hv : 0 ≤ v) {m : Fin (f.infinity + 1)} (hm : m.val < f.infinity)
    (h : f.Rounds (v * f.one) m) (s : Bool) : (signed s m : Number f).Closest (factor s * v) where
  isFinite := isFinite_signed.2 hm
  le {y} hy := by
    obtain ⟨t, k, -, rfl⟩ := exists_signed hy
    have hle : |v - f.units m / f.one| ≤ |v - f.units k / f.one| := by
      rw [abs_sub_div_one, abs_sub_div_one]
      exact div_le_div_of_nonneg_right (h.abs_sub_le_abs_sub hm k) (Nat.cast_nonneg _)
    rw [abs_factor_mul_sub]
    exact hle.trans (abs_sub_le_abs_factor_mul_sub hv s t k)
  even {y} hy hne htie := by
    obtain ⟨t, k, -, rfl⟩ := exists_signed hy
    have hone : (0 : ℚ) < f.one := by exact_mod_cast Format.one_pos
    rw [abs_factor_mul_sub] at htie
    by_cases hk : k = m
    · -- the two lie on either side of zero, as far from it, and so are zero
      subst hk
      have hst : s ≠ t := by
        rintro rfl
        exact hne rfl
      have hzero : (f.units k : ℚ) / f.one = 0 := by
        rw [abs_factor_mul_sub_of_ne hv hst] at htie
        rcases abs_choice (v - f.units k / f.one) with habs | habs
        · linarith
        · have hv0 : v = 0 := by
            have : (0 : ℚ) ≤ f.units k / f.one := by positivity
            linarith
          have hunits := h.eq_units hm (k := 0) (by simp [hv0])
          rw [← hunits, hv0, zero_mul, zero_div]
      exact absurd (by rw [value_signed, value_signed, hzero, mul_zero, mul_zero]) hne
    · refine h.even_of_tie hm (fun hval => hk (Fin.ext hval)) ?_
      have hle : |v - f.units k / f.one| ≤ |v - f.units m / f.one| :=
        htie ▸ abs_sub_le_abs_factor_mul_sub hv s t k
      rw [abs_sub_div_one, abs_sub_div_one, div_le_div_iff_of_pos_right hone] at hle
      exact le_antisymm hle (h.abs_sub_le_abs_sub hm k)

theorem closest_ofInt [f.Regular] {n : ℤ} {b : ℕ} (hn : n.natAbs ≤ 2 ^ b) (hb : b < 2 ^ (f.exponentBits - 1)) :
    (ofInt f n).Closest n := by
  obtain ⟨m, hm, hlt, -⟩ := exists_ofInt hn hb
  have hclosest := closest_of_rounds (Nat.cast_nonneg _) hlt (ofInt_eq_iff.1 hm) (decide (n < 0))
  rwa [factor_natAbs, ← hm] at hclosest

theorem closest_convert [f.Regular] {x : Number g} (hx : x.isFinite = true)
    (hfinite : (x.convert f).isFinite = true) : (x.convert f).Closest x.value := by
  obtain ⟨s, n, hn, rfl⟩ := exists_signed hx
  generalize hy : (signed s n : Number g).convert f = y at hfinite ⊢
  cases roundedTo_iff.2 hy with
  | infinite => exact absurd hn (lt_irrefl _)
  | @finite _ _ _ m h =>
    rw [value_signed]
    refine closest_of_rounds (by positivity) (isFinite_signed.1 hfinite) ?_ s
    rwa [div_mul_eq_mul_div]

/-- An integer of no more bits than the fraction field and the leading bit is a number. -/
theorem value_ofInt [f.Regular] {n : ℤ} {b : ℕ} (hn : n.natAbs ≤ 2 ^ b) (hb : b < 2 ^ (f.exponentBits - 1))
    (hbits : b ≤ f.fractionBits + 1) : (ofInt f n).value = n := by
  obtain ⟨m, hm, hlt, -⟩ := exists_ofInt hn hb
  have hone : (f.one : ℚ) ≠ 0 := by exact_mod_cast Format.one_pos.ne'
  obtain ⟨k, hk⟩ : ∃ k, f.units k = n.natAbs * 2 ^ f.unitExponent := by
    refine exists_units_eq _ _ (hn.trans ?_)
    rw [← pow_succ']
    exact Nat.pow_le_pow_right (by norm_num) hbits
  have hunits : (n.natAbs * f.one : ℚ) = f.units m :=
    (ofInt_eq_iff.1 hm).eq_units hlt (by exact_mod_cast hk.symm)
  rw [hm, value_signed, ← hunits, mul_div_cancel_right₀ _ hone, factor_natAbs]

end Number

/-! ### By way of a double -/

/-- Both magnitudes around a midpoint are closest to it. -/
theorem Format.abs_lower_succ_sub_le {f : Format} {m n : ℕ} (h : m = n ∨ m = n + 1) (k : ℕ) :
    |f.lower (n + 1) - f.units m| ≤ |f.lower (n + 1) - f.units k| := by
  have hlow : (f.units n : ℚ) ≤ f.lower (n + 1) := (units_lt_lower_succ n).le
  have hupp := lower_le_units (f := f) (n + 1)
  rcases Nat.lt_or_ge n k with hk | hk
  · have hle := units_cast_le (f := f) (Nat.succ_le_of_lt hk)
    rcases h with rfl | rfl
    · exact abs_sub_le_of_le_midpoint (by linarith) (lower_succ_le_midpoint hk)
    · exact abs_sub_le_of_le_midpoint hle (by linarith)
  · have hle := units_cast_le (f := f) hk
    rcases h with rfl | rfl
    · exact abs_sub_le_of_midpoint_le hle (by linarith)
    · exact abs_sub_le_of_midpoint_le (by linarith) (midpoint_le_lower (Nat.lt_succ_of_le hk))

/-- A value that goes astray by way of a double lies closer to one of two magnitudes, between which
the double is the midpoint. -/
theorem tie_of_ne {v w : ℚ} {m y z : ℕ} (hpos : 0 < m) (hm' : m < single.infinity) (hm : single.Rounds v m)
    (hy : double.Rounds (v * 2 ^ unitGap) y) (hw : w = double.units y / 2 ^ unitGap)
    (hz : single.Rounds w z) (hz' : z < single.infinity) (hne : z ≠ m) :
    |w - single.units m| = |w - single.units z| ∧ |v - single.units m| < |v - single.units z| := by
  subst hw
  obtain ⟨n, hn, hmid⟩ := (eq_or_midpoint hpos hm' hm hy hz).resolve_left hne
  have hmid : (double.units y : ℚ) / 2 ^ unitGap = single.lower (n + 1) := by
    rw [hmid, mul_div_cancel_right₀ _ (by positivity)]
  rw [hmid] at hz ⊢
  have hties : |single.lower (n + 1) - single.units m| = |single.lower (n + 1) - single.units z| :=
    le_antisymm (abs_lower_succ_sub_le (by omega) z) (hz.abs_sub_le_abs_sub hz' m)
  refine ⟨hties, (hm.abs_sub_le_abs_sub hm' z).lt_of_ne fun heq => ?_⟩
  have hunits : (single.units m : ℚ) ≠ single.units z := by
    exact_mod_cast units_strictMono.injective.ne hne.symm
  have hv : v = single.lower (n + 1) :=
    (eq_midpoint_of_abs_sub_eq hunits heq).trans (eq_midpoint_of_abs_sub_eq hunits hties).symm
  rw [hv] at hm
  exact hne (hz.unique hm)

theorem pos_of_rounds_natAbs {f : Format} [f.Regular] {n : ℤ} {m : ℕ} (hn : n ≠ 0)
    (h : f.Rounds (n.natAbs * f.one) m) : 0 < m := by
  have hone : (1 : ℚ) ≤ n.natAbs * f.one := by
    exact_mod_cast Nat.mul_pos (Int.natAbs_pos.2 hn) Format.one_pos
  have hunit : f.Rounds (f.units 1) 1 := rounds_units infinity_pos
  exact hunit.le h (by simpa using hone)

namespace Number

/-- What a double holds exactly becomes the single number closest to it. -/
theorem closest_convert_ofInt_of_le {n : ℤ} (hn : n.natAbs ≤ 2 ^ 53) :
    ((ofInt .double n).convert single).Closest n := by
  have hclosest := closest_convert (isFinite_ofInt hn (by decide))
    (isFinite_convert_ofInt (f := single) (g := double) hn (by decide) (by decide))
  rwa [value_ofInt hn (by decide) (by decide)] at hclosest

/-- The distances of single numbers from an integer and from its double, which has the same sign. -/
theorem abs_intCast_sub_value (n : ℤ) (m : Fin (single.infinity + 1)) :
    |(n : ℚ) - (signed (decide (n < 0)) m : Single).value| =
      |(n.natAbs * single.one : ℚ) - single.units m| / single.one := by
  have hdistance := abs_factor_mul_sub (decide (n < 0)) n.natAbs m
  rwa [factor_natAbs, abs_sub_div_one] at hdistance

theorem abs_value_sub_value (s : Bool) (y : Fin (double.infinity + 1)) (m : Fin (single.infinity + 1)) :
    |(signed s y : Double).value - (signed s m : Single).value| =
      |(double.units y : ℚ) / 2 ^ unitGap - single.units m| / single.one := by
  have hone : (single.one : ℚ) ≠ 0 := by exact_mod_cast Format.one_pos.ne'
  rw [value_signed s y, abs_factor_mul_sub, abs_sub_div_one, double_one_eq, mul_comm (single.one : ℚ), ← div_div,
    div_mul_cancel₀ _ hone]

/-- Where an integer goes astray by way of a double, the single number closest to the integer is as close
to the double as the one that is found. -/
theorem tie_of_not_closest {n : ℤ} {b : ℕ} (hn : n.natAbs ≤ 2 ^ b) (hb : b < 2 ^ (single.exponentBits - 1))
    (hzero : n ≠ 0) :
    let d : Double := ofInt .double n
    let y : Single := ofInt .single n
    ¬ (d.convert single).Closest n →
      |d.value - y.value| = |d.value - (d.convert single).value| ∧
      |(n : ℚ) - y.value| < |(n : ℚ) - (d.convert single).value| := by
  intro d y hastray
  have hclosest : y.Closest n := closest_ofInt hn hb
  have hb' : b < 2 ^ (double.exponentBits - 1) := hb.trans (by decide)
  obtain ⟨m, hm, hm', -⟩ := exists_ofInt (f := single) hn hb
  obtain ⟨w, hw, hw', -⟩ := exists_ofInt (f := double) hn hb'
  have hd : d = signed (decide (n < 0)) w := hw
  have hy : y = signed (decide (n < 0)) m := hm
  have hone : (0 : ℚ) < single.one := by exact_mod_cast Format.one_pos
  have hfinite : (d.convert single).isFinite = true := isFinite_convert_ofInt hn hb' hb
  obtain ⟨z, hz⟩ : ∃ z, d.convert single = signed (decide (n < 0)) z := by
    rw [hd, convert, if_neg hw'.ne]
    exact ⟨_, rfl⟩
  rw [hz] at hfinite
  have hne : z.val ≠ m.val := by
    intro heq
    rw [hz, Fin.ext heq, ← hy] at hastray
    exact hastray hclosest
  -- the magnitudes of the three numbers
  have hsingle := ofInt_eq_iff.1 hm
  have hdouble : double.Rounds (n.natAbs * single.one * 2 ^ unitGap) w := by
    rw [mul_assoc, ← double_one_eq]
    exact ofInt_eq_iff.1 hw
  have hconverted : single.Rounds (double.units w / 2 ^ unitGap) z := by
    rw [hd, convert_eq_iff hw', double_one_eq, mul_comm, mul_div_mul_left _ _ hone.ne'] at hz
    exact hz
  obtain ⟨htie, hlt⟩ := tie_of_ne (pos_of_rounds_natAbs hzero hsingle) hm' hsingle hdouble rfl hconverted
    (isFinite_signed.1 hfinite) hne
  rw [hz, hy, hd, abs_value_sub_value, abs_value_sub_value, htie, abs_intCast_sub_value, abs_intCast_sub_value]
  exact ⟨rfl, div_lt_div_of_pos_right hlt hone⟩

/-- An integer becomes the single number closest to it by way of a double, except where another single
number is as close to the double and closer to the integer. -/
theorem closest_convert_ofInt_iff {n : ℤ} {b : ℕ} (hn : n.natAbs ≤ 2 ^ b)
    (hb : b < 2 ^ (single.exponentBits - 1)) :
    let d : Double := ofInt .double n
    (d.convert single).Closest n ↔ ¬ ∃ y : Single, y.isFinite = true ∧
      |d.value - y.value| = |d.value - (d.convert single).value| ∧
      |(n : ℚ) - y.value| < |(n : ℚ) - (d.convert single).value| := by
  intro d
  constructor
  · rintro hclosest ⟨y, hy, -, hlt⟩
    exact (hclosest.le hy).not_gt hlt
  · intro hnone
    by_cases hzero : n = 0
    · subst hzero
      exact closest_convert_ofInt_of_le (by norm_num)
    · by_contra hastray
      exact hnone ⟨ofInt .single n, (closest_ofInt hn hb).isFinite, tie_of_not_closest hn hb hzero hastray⟩

end Number

end TypedScalar.Floating
