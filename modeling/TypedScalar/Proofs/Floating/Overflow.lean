import TypedScalar.Floating.Arithmetic
import TypedScalar.Proofs.Floating.Closest

/-! Overflow. A format overflows half a step beyond its largest finite number: infinity is an even magnitude,
so the midpoint itself rounds to it, and every smaller value rounds to a finite number, which is closest to
the value and has its sign. NaN and the infinities of another format do not overflow; they are kept. -/

namespace TypedScalar.Floating

namespace Format

variable {f : Format}

/-- The midpoint between the largest finite number and the number that would come next. -/
def overflow (f : Format) : ℚ := f.lower f.infinity / f.one

variable [hf : f.Regular]

theorem even_infinity : Even f.infinity :=
  (Nat.even_pow.2 ⟨even_two, hf.fractionBits_pos.ne'⟩).mul_left _

/-- Only what lies below the midpoint does not round to infinity. -/
theorem rounds_infinity_iff {v : ℚ} : f.Rounds (v * f.one) f.infinity ↔ f.overflow ≤ v := by
  have hone : (0 : ℚ) < f.one := by exact_mod_cast one_pos
  rw [overflow, div_le_iff₀ hone]
  constructor
  · exact fun h => h.reaches.le
  · intro h
    exact ⟨le_rfl, h.lt_or_eq.imp id fun heq => ⟨heq, even_infinity⟩, fun hlt => absurd hlt (lt_irrefl _)⟩

theorem binade_infinity_sub_one : f.binade (f.infinity - 1) = 2 ^ f.exponentBits - 3 := by
  have hfour := four_le_two_pow (f := f)
  have hpow := Nat.two_pow_pos f.fractionBits
  obtain ⟨j, hj⟩ : ∃ j, 2 ^ f.exponentBits = j + 2 := ⟨2 ^ f.exponentBits - 2, by omega⟩
  have hinfinity : f.infinity = j * 2 ^ f.fractionBits + 2 ^ f.fractionBits := by
    rw [infinity, hj, ← Nat.succ_mul]
    rfl
  rw [binade_eq (j := j) (by omega) (by rw [Nat.add_mul]; omega), hj]
  rfl

/-- Below infinity, the spacing is that of the last binade. -/
theorem overflow_eq (h : f.fractionBits + 2 ≤ 2 ^ (f.exponentBits - 1)) :
    f.overflow = 2 ^ 2 ^ (f.exponentBits - 1) - 2 ^ (2 ^ (f.exponentBits - 1) - (f.fractionBits + 2)) := by
  have hfour := four_le_two_pow (f := f)
  have hdouble := two_pow_exponentBits (f := f)
  have hunit := unitExponent_add_two (f := f)
  have hone : (f.one : ℚ) ≠ 0 := by exact_mod_cast one_pos.ne'
  have hsucc : f.infinity - 1 + 1 = f.infinity := Nat.sub_add_cancel infinity_pos
  have hunits := units_succ (f := f) (f.infinity - 1)
  have hlower := lower_succ (f := f) (f.infinity - 1)
  rw [hsucc, Number.units_infinity_eq] at hunits
  rw [hsucc] at hlower
  have hspacing : (2 : ℚ) ^ f.binade (f.infinity - 1) =
      2 * (2 ^ (2 ^ (f.exponentBits - 1) - (f.fractionBits + 2)) * f.one) := by
    rw [binade_infinity_sub_one, one]
    push_cast
    rw [← pow_add, ← pow_succ']
    congr 1
    omega
  have hlargest : (f.units (f.infinity - 1) : ℚ) =
      2 ^ 2 ^ (f.exponentBits - 1) * f.one - 2 ^ f.binade (f.infinity - 1) :=
    eq_sub_of_add_eq (by exact_mod_cast hunits.symm)
  rw [overflow, hlower, hlargest, hspacing, div_eq_iff hone]
  ring

theorem overflow_single : single.overflow = 2 ^ 128 - 2 ^ 103 := overflow_eq (by decide)

theorem overflow_double : double.overflow = 2 ^ 1024 - 2 ^ 970 := overflow_eq (by decide)

end Format

open Format

namespace Number

variable {f g : Format} {v : ℚ} {s : Bool} {m : Fin (f.infinity + 1)}

theorem isInfinite_signed : (signed s m : Number f).isInfinite = true ↔ m.val = f.infinity := beq_iff_eq

@[simp] theorem isFinite_infinite (s : Bool) : (infinite s : Number f).isFinite = false :=
  Bool.eq_false_iff.2 fun h => absurd (isFinite_signed.1 h) (lt_irrefl _)

@[simp] theorem hasMinus_ofInt (n : ℤ) : (ofInt f n).hasMinus = decide (n < 0) := rfl

@[simp] theorem hasMinus_convert (x : Number g) : (x.convert f).hasMinus = x.hasMinus := by
  cases x with
  | nan => rfl
  | signed s n =>
    rw [convert]
    split_ifs <;> rfl

variable [f.Regular]

/-- Rounding overflows from the midpoint on. -/
theorem isInfinite_of_rounds_iff (h : f.Rounds (v * f.one) m) :
    (signed s m : Number f).isInfinite = true ↔ f.overflow ≤ v := by
  rw [isInfinite_signed, ← rounds_infinity_iff]
  exact ⟨fun hm => hm ▸ h, fun hv => h.unique hv⟩

/-- What does not overflow is rounded to a closest number, with the sign. -/
theorem closest_of_lt_overflow (hv : 0 ≤ v) (h : f.Rounds (v * f.one) m) (hlt : v < f.overflow) (s : Bool) :
    (signed s m : Number f).Closest (factor s * v) := by
  refine closest_of_rounds hv (lt_of_le_of_ne m.le_last fun hm => hlt.not_ge ?_) h s
  exact (isInfinite_of_rounds_iff h).1 (isInfinite_signed (s := s).2 hm)

theorem isInfinite_ofInt_iff {n : ℤ} : (ofInt f n).isInfinite = true ↔ f.overflow ≤ |(n : ℚ)| := by
  obtain ⟨m, hm⟩ : ∃ m, ofInt f n = signed (decide (n < 0)) m := ⟨_, rfl⟩
  rw [hm, isInfinite_of_rounds_iff (ofInt_eq_iff.1 hm), Nat.cast_natAbs, Int.cast_abs]

theorem closest_ofInt_of_lt {n : ℤ} (h : |(n : ℚ)| < f.overflow) : (ofInt f n).Closest n := by
  obtain ⟨m, hm⟩ : ∃ m, ofInt f n = signed (decide (n < 0)) m := ⟨_, rfl⟩
  rw [← Int.cast_abs, ← Nat.cast_natAbs] at h
  have hclosest := closest_of_lt_overflow (Nat.cast_nonneg _) (ofInt_eq_iff.1 hm) h (decide (n < 0))
  rwa [factor_natAbs, ← hm] at hclosest

theorem isInfinite_ofDecimal_iff {c : ℕ} {e : ℤ} :
    (ofDecimal f s c e).isInfinite = true ↔ f.overflow ≤ c * 10 ^ e := by
  obtain ⟨m, hm⟩ := exists_ofDecimal f s c e
  rw [hm, isInfinite_of_rounds_iff (ofDecimal_eq_iff.1 hm)]

theorem closest_ofDecimal {c : ℕ} {e : ℤ} (h : c * 10 ^ e < f.overflow) (s : Bool) :
    (ofDecimal f s c e).Closest (factor s * (c * 10 ^ e)) := by
  obtain ⟨m, hm⟩ := exists_ofDecimal f s c e
  rw [hm]
  exact closest_of_lt_overflow (by positivity) (ofDecimal_eq_iff.1 hm) h s

@[simp] theorem hasMinus_ofDecimal (s : Bool) (c : ℕ) (e : ℤ) : (ofDecimal f s c e).hasMinus = s := by
  obtain ⟨m, hm⟩ := exists_ofDecimal f s c e
  rw [hm]
  rfl

theorem isInfinite_convert_iff {x : Number g} (hx : x.isFinite = true) :
    (x.convert f).isInfinite = true ↔ f.overflow ≤ |x.value| := by
  obtain ⟨s, n, hn, rfl⟩ := exists_signed hx
  generalize hy : (signed s n : Number g).convert f = y
  cases roundedTo_iff.2 hy with
  | infinite => exact absurd hn (lt_irrefl _)
  | @finite _ _ _ m h =>
    rw [abs_value]
    exact isInfinite_of_rounds_iff (by rwa [div_mul_eq_mul_div])

/-- What a number of another format becomes where nothing overflows: NaN and the infinities themselves, and
a finite number a closest one of the same sign. -/
inductive Nearest : Number g → Number f → Prop
  | nan : Nearest .nan .nan
  | infinite (negative : Bool) : Nearest (infinite negative) (infinite negative)
  | closest {x : Number g} {y : Number f} (hx : x.isFinite = true) (hy : y.Closest x.value)
    (hsign : y.hasMinus = x.hasMinus) : Nearest x y

omit [f.Regular] in
theorem Nearest.closest_of_isFinite {x : Number g} {y : Number f} (h : x.Nearest y) (hx : x.isFinite = true) :
    y.Closest x.value ∧ y.hasMinus = x.hasMinus := by
  cases h with
  | nan => cases hx
  | infinite negative => simp at hx
  | closest _ hy hsign => exact ⟨hy, hsign⟩

theorem nearest_convert {x : Number g} (h : x.isFinite = true → |x.value| < f.overflow) :
    x.Nearest (x.convert f) := by
  cases hx : x.isFinite with
  | true =>
    have hfinite : (x.convert f).isFinite = true := by
      have hover : (x.convert f).isInfinite = false :=
        Bool.eq_false_iff.2 fun hover => (h hx).not_ge ((isInfinite_convert_iff hx).1 hover)
      have hnan : x.isNaN = false := by
        obtain ⟨s, n, -, rfl⟩ := exists_signed hx
        rfl
      rw [isFinite, isNaN_convert, hnan, hover]
      rfl
    exact .closest hx (closest_convert hx hfinite) (hasMinus_convert x)
  | false =>
    obtain rfl | ⟨negative, rfl⟩ := eq_of_not_isFinite hx
    · exact .nan
    · rw [convert_infinite]
      exact .infinite negative

end Number

end TypedScalar.Floating
