import Mathlib.Order.WithBot
import TypedScalar.Proofs.Floating.Closest

/-! The order of numbers. Comparison is that of the values, among which the infinities are the least and the
greatest; and rounding keeps it. On either side of zero a larger magnitude is rounded to no smaller one, and
what lies on different sides stays there. -/

namespace TypedScalar.Floating.Number

open Format

variable {f g : Format} {x y : Number f} {s t : Bool} {m n : Fin (f.infinity + 1)}
  {u v : WithBot (WithTop ℚ)}

/-- The value of a number among the rationals and two infinities. NaN has none. -/
def extended? : Number f → Option (WithBot (WithTop ℚ))
  | .nan => none
  | .signed negative m =>
    if m.val = f.infinity then some (if negative then ⊥ else ⊤)
    else some (((signed negative m : Number f).value : WithTop ℚ) : WithBot (WithTop ℚ))

theorem extended?_of_isFinite (hx : x.isFinite = true) :
    x.extended? = some ((x.value : WithTop ℚ) : WithBot (WithTop ℚ)) := by
  obtain ⟨s, m, hm, rfl⟩ := exists_signed hx
  exact if_neg hm.ne

theorem extended?_infinite (negative : Bool) :
    (infinite negative : Number f).extended? = some (if negative then ⊥ else ⊤) := if_pos rfl

theorem exists_extended? (hx : x.isNaN = false) : ∃ u, x.extended? = some u := by
  cases x with
  | nan => simp [isNaN] at hx
  | signed s m =>
    rw [extended?]
    split_ifs <;> exact ⟨_, rfl⟩

theorem isNaN_of_extended? (hu : x.extended? = some u) : x.isNaN = false := by
  cases x with
  | nan => simp [extended?] at hu
  | signed s m => rfl

/-- Whose value is infinite is infinite. -/
theorem eq_of_extended? (hu : x.extended? = some u) :
    x = infinite true ∧ u = ⊥ ∨ x = infinite false ∧ u = ⊤ ∨
      x.isFinite = true ∧ u = ((x.value : WithTop ℚ) : WithBot (WithTop ℚ)) := by
  cases hx : x.isFinite with
  | true =>
    rw [extended?_of_isFinite hx] at hu
    exact .inr (.inr ⟨rfl, (Option.some.inj hu).symm⟩)
  | false =>
    obtain rfl | ⟨s, rfl⟩ := eq_of_not_isFinite hx
    · simp [extended?] at hu
    · rw [extended?_infinite] at hu
      obtain rfl := Option.some.inj hu
      cases s <;> simp

/-! ### Comparison -/

theorem signedUnits_cast (s : Bool) (m : Fin (f.infinity + 1)) :
    ((signed s m : Number f).signedUnits : ℚ) = factor s * f.units m := by
  cases s <;> simp [signedUnits, factor]

theorem signedUnits_infinite (s : Bool) :
    (infinite s : Number f).signedUnits = if s then -(f.units f.infinity : ℤ) else f.units f.infinity := by
  cases s <;> rfl

/-- Finite numbers lie strictly between the infinities. -/
theorem abs_signedUnits_lt (hx : x.isFinite = true) : |x.signedUnits| < f.units f.infinity := by
  obtain ⟨s, m, hm, rfl⟩ := exists_signed hx
  rw [Int.abs_eq_natAbs, natAbs_signedUnits]
  exact_mod_cast units_strictMono hm

theorem lessEq_iff_signedUnits (hx : x.isNaN = false) (hy : y.isNaN = false) :
    x.lessEq y = true ↔ x.signedUnits ≤ y.signedUnits := by
  simp [lessEq, hx, hy]

theorem isNaN_of_isFinite (hx : x.isFinite = true) : x.isNaN = false := by
  obtain ⟨s, m, -, rfl⟩ := exists_signed hx
  rfl

theorem lessEq_iff_value (hx : x.isFinite = true) (hy : y.isFinite = true) :
    x.lessEq y = true ↔ x.value ≤ y.value := by
  have hone : (0 : ℚ) < f.one := by exact_mod_cast one_pos
  rw [lessEq_iff_signedUnits (isNaN_of_isFinite hx) (isNaN_of_isFinite hy), value, value,
    div_le_div_iff_of_pos_right hone, Int.cast_le]

theorem lessEq_infinite (hx : x.isNaN = false) : x.lessEq (infinite false) = true := by
  rw [lessEq_iff_signedUnits hx rfl, signedUnits_infinite]
  cases x with
  | nan => simp [isNaN] at hx
  | signed s m =>
    have hle : (f.units m : ℤ) ≤ f.units f.infinity := by
      exact_mod_cast units_strictMono.monotone m.le_last
    cases s <;> simp only [signedUnits, Bool.false_eq_true, ↓reduceIte] <;> omega

theorem infinite_lessEq (hx : x.isNaN = false) : (infinite true).lessEq x = true := by
  rw [lessEq_iff_signedUnits rfl hx, signedUnits_infinite]
  cases x with
  | nan => simp [isNaN] at hx
  | signed s m =>
    have hle : (f.units m : ℤ) ≤ f.units f.infinity := by
      exact_mod_cast units_strictMono.monotone m.le_last
    cases s <;> simp only [signedUnits, ↓reduceIte] <;> omega

theorem not_infinite_lessEq (hx : x.isFinite = true) : ¬ (infinite false).lessEq x = true := by
  have habs := abs_lt.1 (abs_signedUnits_lt hx)
  rw [lessEq_iff_signedUnits rfl (isNaN_of_isFinite hx), signedUnits_infinite, if_neg (by simp)]
  omega

theorem not_lessEq_infinite (hx : x.isFinite = true) : ¬ x.lessEq (infinite true) = true := by
  have habs := abs_lt.1 (abs_signedUnits_lt hx)
  rw [lessEq_iff_signedUnits (isNaN_of_isFinite hx) rfl, signedUnits_infinite, if_pos rfl]
  omega

theorem not_infinite_lessEq_infinite [f.Regular] :
    ¬ (infinite false : Number f).lessEq (infinite true) = true := by
  have hpos : 0 < f.units f.infinity := units_pos infinity_pos
  rw [lessEq_iff_signedUnits rfl rfl, signedUnits_infinite, signedUnits_infinite]
  simp only [Bool.false_eq_true, ↓reduceIte]
  omega

/-- Comparison is that of the values. -/
theorem lessEq_iff [f.Regular] (hu : x.extended? = some u) (hv : y.extended? = some v) :
    x.lessEq y = true ↔ u ≤ v := by
  obtain ⟨rfl, rfl⟩ | ⟨rfl, rfl⟩ | ⟨hx, rfl⟩ := eq_of_extended? hu
  · exact iff_of_true (infinite_lessEq (isNaN_of_extended? hv)) bot_le
  · obtain ⟨rfl, rfl⟩ | ⟨rfl, rfl⟩ | ⟨hy, rfl⟩ := eq_of_extended? hv
    · exact iff_of_false not_infinite_lessEq_infinite (by simp)
    · exact iff_of_true (lessEq_infinite rfl) le_rfl
    · exact iff_of_false (not_infinite_lessEq hy) (by simp)
  · obtain ⟨rfl, rfl⟩ | ⟨rfl, rfl⟩ | ⟨hy, rfl⟩ := eq_of_extended? hv
    · exact iff_of_false (not_lessEq_infinite hx) (by simp)
    · exact iff_of_true (lessEq_infinite (isNaN_of_isFinite hx)) le_top
    · rw [lessEq_iff_value hx hy, WithBot.coe_le_coe, WithTop.coe_le_coe]

/-- What compares has values. -/
theorem exists_le_of_lessEq [f.Regular] (h : x.lessEq y = true) :
    ∃ u v, x.extended? = some u ∧ y.extended? = some v ∧ u ≤ v := by
  have hnan : x.isNaN = false ∧ y.isNaN = false := by
    simp only [lessEq, Bool.and_eq_true, Bool.not_eq_true'] at h
    exact h.1
  obtain ⟨u, hu⟩ := exists_extended? hnan.1
  obtain ⟨v, hv⟩ := exists_extended? hnan.2
  exact ⟨u, v, hu, hv, (lessEq_iff hu hv).1 h⟩

/-! ### Rounding -/

/-- Rounding keeps the order, across zero too. -/
theorem signedUnits_le_of_rounds {a b : ℚ} (ha : 0 ≤ a) (hb : 0 ≤ b) (hm : f.Rounds a m) (hn : f.Rounds b n)
    (h : factor s * a ≤ factor t * b) :
    (signed s m : Number f).signedUnits ≤ (signed t n : Number f).signedUnits := by
  have hmono {i j : Fin (f.infinity + 1)} {a b : ℚ} (hi : f.Rounds a i) (hj : f.Rounds b j) (hab : a ≤ b) :
      (f.units i : ℤ) ≤ f.units j := by
    exact_mod_cast units_strictMono.monotone (hi.le hj hab)
  cases s <;> cases t <;> simp only [factor, signedUnits, Bool.false_eq_true, ↓reduceIte] at h ⊢
  · exact hmono hm hn (by linarith)
  · -- not negative and not positive: both are zero
    have hzero : f.Rounds 0 0 := by simpa using rounds_units (f := f) (n := 0) (Nat.zero_le _)
    obtain rfl : a = 0 := by linarith
    obtain rfl : b = 0 := by linarith
    rw [hm.unique hzero, hn.unique hzero, units_zero]
    rfl
  · exact (neg_nonpos.2 (Int.natCast_nonneg _)).trans (Int.natCast_nonneg _)
  · exact neg_le_neg (hmono hn hm (by linarith))

variable [f.Regular]

theorem lessEq_ofInt {i j : ℤ} (h : i ≤ j) : (ofInt f i).lessEq (ofInt f j) = true := by
  obtain ⟨m, hm⟩ : ∃ m, ofInt f i = signed (decide (i < 0)) m := ⟨_, rfl⟩
  obtain ⟨n, hn⟩ : ∃ n, ofInt f j = signed (decide (j < 0)) n := ⟨_, rfl⟩
  rw [hm, hn, lessEq_iff_signedUnits rfl rfl]
  refine signedUnits_le_of_rounds (by positivity) (by positivity) (ofInt_eq_iff.1 hm) (ofInt_eq_iff.1 hn) ?_
  rw [← mul_assoc, ← mul_assoc, factor_natAbs, factor_natAbs]
  gcongr

theorem lessEq_convert_of_isFinite [g.Regular] {x y : Number g} (hx : x.isFinite = true)
    (hy : y.isFinite = true) (h : x.lessEq y = true) : (x.convert f).lessEq (y.convert f) = true := by
  obtain ⟨s, i, hi, rfl⟩ := exists_signed hx
  obtain ⟨t, j, hj, rfl⟩ := exists_signed hy
  rw [lessEq_iff_signedUnits rfl rfl] at h
  obtain ⟨m, hm⟩ : ∃ m, (signed s i : Number g).convert f = signed s m := by
    rw [convert, if_neg hi.ne]
    exact ⟨_, rfl⟩
  obtain ⟨n, hn⟩ : ∃ n, (signed t j : Number g).convert f = signed t n := by
    rw [convert, if_neg hj.ne]
    exact ⟨_, rfl⟩
  have hunits : factor s * g.units i ≤ factor t * g.units j := by
    rw [← signedUnits_cast, ← signedUnits_cast]
    exact_mod_cast h
  rw [hm, hn, lessEq_iff_signedUnits rfl rfl]
  refine signedUnits_le_of_rounds (by positivity) (by positivity) ((convert_eq_iff hi).1 hm)
    ((convert_eq_iff hj).1 hn) ?_
  rw [mul_div_assoc, mul_div_assoc, ← mul_assoc, ← mul_assoc]
  gcongr

/-- Conversion keeps the order. -/
theorem lessEq_convert [g.Regular] {x y : Number g} (h : x.lessEq y = true) :
    (x.convert f).lessEq (y.convert f) = true := by
  obtain ⟨u, v, hu, hv, -⟩ := exists_le_of_lessEq h
  obtain ⟨rfl, -⟩ | ⟨rfl, -⟩ | ⟨hx, -⟩ := eq_of_extended? hu
  · rw [convert_infinite]
    exact infinite_lessEq (by rw [isNaN_convert, isNaN_of_extended? hv])
  · obtain ⟨rfl, -⟩ | ⟨rfl, -⟩ | ⟨hy, -⟩ := eq_of_extended? hv
    · exact absurd h not_infinite_lessEq_infinite
    · rw [convert_infinite]
      exact lessEq_infinite rfl
    · exact absurd h (not_infinite_lessEq hy)
  · obtain ⟨rfl, -⟩ | ⟨rfl, -⟩ | ⟨hy, -⟩ := eq_of_extended? hv
    · exact absurd h (not_lessEq_infinite hx)
    · rw [convert_infinite]
      exact lessEq_infinite (by rw [isNaN_convert, isNaN_of_extended? hu])
    · exact lessEq_convert_of_isFinite hx hy h

end TypedScalar.Floating.Number
