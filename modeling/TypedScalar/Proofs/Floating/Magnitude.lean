import Mathlib.Algebra.Order.Field.Rat
import Mathlib.Data.Nat.Cast.Order.Field
import Mathlib.Order.Monotone.Basic
import Mathlib.Tactic.Linarith
import Mathlib.Tactic.NormNum
import Mathlib.Tactic.Positivity
import Mathlib.Tactic.Ring
import TypedScalar.Floating.Format

/-! The values of magnitudes. They grow with the magnitude, in steps that are the
power of two of the binade, and a power of two times a coefficient that fits the
fraction field is always one of them. The midpoints between neighbours decide
rounding: `lower n` lies between `n` and its predecessor, and a value reaches `n`
when it lies above that midpoint, or on it with `n` even. -/

namespace TypedScalar.Floating.Format

variable {f : Format}

theorem binade_eq {n j : ℕ} (h : j * 2 ^ f.fractionBits ≤ n) (h' : n < (j + 1) * 2 ^ f.fractionBits) :
    f.binade n = j - 1 := by
  rw [binade, Nat.div_eq_of_lt_le h h']

/-- Within a binade, and up to its end, the value is the coefficient times the
spacing. -/
theorem units_block {k r : ℕ} (h : k = 0 ∨ 2 ^ f.fractionBits ≤ r) (hr : r ≤ 2 * 2 ^ f.fractionBits) :
    f.units (k * 2 ^ f.fractionBits + r) = r * 2 ^ k := by
  have hB : 0 < 2 ^ f.fractionBits := by positivity
  rcases hr.lt_or_eq with hlt | rfl
  · have hb : f.binade (k * 2 ^ f.fractionBits + r) = k := by
      rcases lt_or_ge r (2 ^ f.fractionBits) with hs | hs
      · obtain rfl : k = 0 := h.resolve_right (by omega)
        rw [binade_eq (j := 0) (by omega) (by omega)]
      · rw [binade_eq (j := k + 1) (by rw [Nat.add_mul]; omega) (by simp only [Nat.add_mul]; omega),
          Nat.add_sub_cancel]
    rw [units, hb, Nat.add_sub_cancel_left]
  · have hb : f.binade (k * 2 ^ f.fractionBits + 2 * 2 ^ f.fractionBits) = k + 1 := by
      rw [binade_eq (j := k + 2) (by rw [Nat.add_mul]) (by simp only [Nat.add_mul]; omega)]
      omega
    rw [units, hb, show k * 2 ^ f.fractionBits + 2 * 2 ^ f.fractionBits - (k + 1) * 2 ^ f.fractionBits =
      2 ^ f.fractionBits by rw [Nat.add_mul]; omega, pow_succ]
    ring

/-- Every magnitude is a coefficient of the fraction field's width in its binade. -/
theorem exists_block (n : ℕ) : ∃ r, n = f.binade n * 2 ^ f.fractionBits + r ∧
    (f.binade n = 0 ∨ 2 ^ f.fractionBits ≤ r) ∧ r < 2 * 2 ^ f.fractionBits := by
  have hB : 0 < 2 ^ f.fractionBits := by positivity
  have hdiv := Nat.div_add_mod' n (2 ^ f.fractionBits)
  have hmod := Nat.mod_lt n hB
  have hb : f.binade n = n / 2 ^ f.fractionBits - 1 := rfl
  rcases Nat.eq_zero_or_pos (n / 2 ^ f.fractionBits) with h0 | hpos
  · refine ⟨n, by rw [hb, h0]; simp, .inl (by rw [hb, h0]), ?_⟩
    rw [h0] at hdiv
    omega
  · obtain ⟨j, hj⟩ := Nat.exists_eq_succ_of_ne_zero hpos.ne'
    rw [hj, Nat.succ_eq_add_one] at hdiv
    rw [hb, hj, Nat.succ_sub_one]
    refine ⟨2 ^ f.fractionBits + n % 2 ^ f.fractionBits, ?_, .inr (by omega), by omega⟩
    rw [Nat.add_mul] at hdiv
    omega

theorem units_succ (n : ℕ) : f.units (n + 1) = f.units n + 2 ^ f.binade n := by
  obtain ⟨r, hn, hk, hr⟩ := exists_block (f := f) n
  have h₁ := units_block hk hr.le
  have h₂ := units_block (f := f) (k := f.binade n) (r := r + 1) (hk.imp_right fun h => by omega) (by omega)
  rw [← hn] at h₁
  rw [← Nat.add_assoc, ← hn] at h₂
  rw [h₁, h₂]
  ring

theorem units_lt_succ (n : ℕ) : f.units n < f.units (n + 1) := by
  rw [units_succ]
  exact Nat.lt_add_of_pos_right (by positivity)

theorem units_strictMono : StrictMono f.units := strictMono_nat_of_lt_succ units_lt_succ

@[simp] theorem units_zero : f.units 0 = 0 := by simp [units, binade]

@[simp] theorem units_one : f.units 1 = 1 := by
  simpa using units_block (f := f) (k := 0) (r := 1) (.inl rfl)
    ((Nat.one_le_two_pow (n := f.fractionBits)).trans (Nat.le_mul_of_pos_left _ (by norm_num)))

theorem units_pos {n : ℕ} (h : 0 < n) : 0 < f.units n := by
  simpa using units_strictMono (f := f) h

/-- A coefficient that fits the fraction field has every power of two among its
multiples. -/
theorem exists_units_eq (j b : ℕ) (hj : j ≤ 2 * 2 ^ f.fractionBits) : ∃ n, f.units n = j * 2 ^ b := by
  induction b generalizing j with
  | zero => exact ⟨j, by simpa using units_block (f := f) (k := 0) (.inl rfl) hj⟩
  | succ b ih =>
    rcases lt_or_ge j (2 ^ f.fractionBits) with hlt | hge
    · obtain ⟨n, hn⟩ := ih (2 * j) (by omega)
      exact ⟨n, by rw [hn, pow_succ]; ring⟩
    · exact ⟨_, units_block (.inr hge) hj⟩

/-- The midpoint between a magnitude's value and that of its predecessor. -/
def lower (f : Format) (n : ℕ) : ℚ := ((f.units (n - 1) : ℚ) + f.units n) / 2

@[simp] theorem lower_zero : f.lower 0 = 0 := by simp [lower]

theorem lower_succ (n : ℕ) : f.lower (n + 1) = f.units n + 2 ^ f.binade n / 2 := by
  rw [lower, Nat.add_sub_cancel, units_succ]
  push_cast
  ring

/-- Every midpoint is a number of a format with more digits and a finer unit. -/
theorem exists_midpoint {g : Format} {gap : ℕ} (hbits : f.fractionBits < g.fractionBits) (hgap : 0 < gap) (n : ℕ) :
    ∃ y, (g.units y : ℚ) = f.lower (n + 1) * 2 ^ gap := by
  obtain ⟨r, hn, hr, hlt⟩ := exists_block (f := f) n
  have hunits := units_block (f := f) hr hlt.le
  rw [← hn] at hunits
  obtain ⟨k, rfl⟩ : ∃ k, gap = k + 1 := ⟨gap - 1, by omega⟩
  have hfits : 2 * r + 1 ≤ 2 * 2 ^ g.fractionBits := by
    have hpow : 2 * 2 ^ f.fractionBits ≤ 2 ^ g.fractionBits := by
      rw [← pow_succ']
      exact Nat.pow_le_pow_right (by norm_num) hbits
    omega
  obtain ⟨y, hy⟩ := exists_units_eq (f := g) (2 * r + 1) (f.binade n + k) hfits
  refine ⟨y, ?_⟩
  rw [hy, lower_succ, hunits]
  push_cast
  ring

/-- Above the start of a binade the midpoint is half a spacing below. -/
theorem lower_block {k r : ℕ} (h : k = 0 ∨ 2 ^ f.fractionBits < r) (hpos : 0 < r)
    (hr : r ≤ 2 * 2 ^ f.fractionBits) : f.lower (k * 2 ^ f.fractionBits + r) = ((r : ℚ) - 1 / 2) * 2 ^ k := by
  obtain ⟨r, rfl⟩ := Nat.exists_eq_succ_of_ne_zero hpos.ne'
  have hpred := units_block (f := f) (k := k) (r := r) (h.imp_right Nat.le_of_lt_succ) (Nat.le_of_succ_le hr)
  rw [lower, Nat.add_succ_sub_one, hpred, units_block (h.imp_right le_of_lt) hr]
  push_cast
  ring

theorem lower_le_units (n : ℕ) : f.lower n ≤ f.units n := by
  have : (f.units (n - 1) : ℚ) ≤ f.units n := by exact_mod_cast units_strictMono.monotone (Nat.sub_le n 1)
  rw [lower]
  linarith

theorem lower_lt_units {n : ℕ} (h : 0 < n) : f.lower n < f.units n := by
  have : (f.units (n - 1) : ℚ) < f.units n := by
    exact_mod_cast units_strictMono (f := f) (Nat.sub_lt h Nat.one_pos)
  rw [lower]
  linarith

theorem units_lt_lower_succ (n : ℕ) : (f.units n : ℚ) < f.lower (n + 1) := by
  rw [lower_succ]
  have : (0 : ℚ) < 2 ^ f.binade n := by positivity
  linarith

theorem lower_strictMono : StrictMono f.lower :=
  strictMono_nat_of_lt_succ fun n => (lower_le_units n).trans_lt (units_lt_lower_succ n)

/-- The value `v`, in units, rounds to the magnitude or beyond it. -/
def Reaches (f : Format) (v : ℚ) (n : ℕ) : Prop := f.lower n < v ∨ (f.lower n = v ∧ Even n)

theorem Reaches.le {v : ℚ} {n : ℕ} (h : f.Reaches v n) : f.lower n ≤ v := h.elim le_of_lt fun h => h.1.le

theorem Reaches.mono {v w : ℚ} {n : ℕ} (h : f.Reaches v n) (hvw : v ≤ w) : f.Reaches w n := by
  rcases h with h | ⟨rfl, he⟩
  · exact .inl (h.trans_le hvw)
  · exact hvw.lt_or_eq.imp id fun h => ⟨h, he⟩

theorem Reaches.anti {v : ℚ} {m n : ℕ} (h : f.Reaches v n) (hmn : m ≤ n) : f.Reaches v m := by
  rcases hmn.lt_or_eq with hlt | rfl
  · exact .inl ((lower_strictMono hlt).trans_le h.le)
  · exact h

theorem reaches_zero {v : ℚ} (h : 0 ≤ v) : f.Reaches v 0 := by
  rcases h.lt_or_eq with h | h
  · exact .inl (by simpa using h)
  · exact .inr ⟨by simpa using h, by simp⟩

theorem reaches_units (n : ℕ) : f.Reaches (f.units n) n := by
  rcases Nat.eq_zero_or_pos n with rfl | h
  · exact reaches_zero (by positivity)
  · exact .inl (lower_lt_units h)

theorem not_reaches_succ_units (n : ℕ) : ¬ f.Reaches (f.units n) (n + 1) := fun h =>
  (units_lt_lower_succ n).not_ge h.le

end TypedScalar.Floating.Format
