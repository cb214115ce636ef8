import TypedScalar.Proofs.Floating.DoubleRounding
import TypedScalar.Proofs.Floating.Value

/-! Single numbers among the doubles. Every finite single number is a double of the same
value, and is what that double is converted to. In general, a number is converted to what its value is
rounded to. -/

namespace TypedScalar.Floating

open Format

theorem exists_double_units {m : ℕ} (hm : m < single.infinity) :
    ∃ y < double.infinity, double.units y = single.units m * 2 ^ unitGap := by
  obtain ⟨r, hn, hr, hlt⟩ := exists_block (f := single) m
  have hunits := units_block (f := single) hr hlt.le
  rw [← hn] at hunits
  have hfits : r ≤ 2 * 2 ^ double.fractionBits := by
    have hsingle : single.fractionBits = 23 := rfl
    have hdouble : double.fractionBits = 52 := rfl
    rw [hsingle] at hlt
    rw [hdouble]
    omega
  obtain ⟨y, hy⟩ := exists_units_eq (f := double) r (single.binade m + unitGap) hfits
  have hy' : double.units y = single.units m * 2 ^ unitGap := by
    rw [hy, hunits, pow_add, mul_assoc]
  -- The midpoint above is a finite double, and larger.
  obtain ⟨z, hz⟩ := exists_double_midpoint m
  refine ⟨y, lt_of_le_of_lt ?_ (double_midpoint_lt hm hz), hy'⟩
  have hle : (double.units y : ℚ) ≤ double.units z := by
    rw [hy', hz]
    push_cast
    have := units_lt_lower_succ (f := single) m
    gcongr
  exact units_strictMono.le_iff_le.1 (by exact_mod_cast hle)

namespace Number

theorem convert_zero {f : Format} [f.Regular] (g : Format) [g.Regular] (negative : Bool) :
    (zero negative : Number f).convert g = zero negative := by
  refine (convert_eq_iff (f := g) (g := f) infinity_pos).2 ?_
  simpa using rounds_units (f := g) (n := 0) (Nat.zero_le _)

theorem convert_infinite {f : Format} (g : Format) (negative : Bool) :
    (infinite negative : Number f).convert g = infinite negative := if_pos rfl

/-- A finite single number is converted to the double of its value, and back. -/
theorem exists_convert_double (negative : Bool) {m : Fin (single.infinity + 1)} (hm : m.val < single.infinity) :
    ∃ y : Fin (double.infinity + 1), y.val < double.infinity ∧
      double.units y = single.units m * 2 ^ unitGap ∧
      (signed negative m : Single).convert .double = signed negative y ∧
      (signed negative y : Double).convert .single = signed negative m := by
  obtain ⟨y, hlt, hunits⟩ := exists_double_units hm
  have hone : (single.one : ℚ) ≠ 0 := by exact_mod_cast one_pos.ne'
  have hgap : (2 : ℚ) ^ unitGap ≠ 0 := by positivity
  refine ⟨⟨y, Nat.lt_succ_of_lt hlt⟩, hlt, hunits, (convert_eq_iff hm).2 ?_, (convert_eq_iff hlt).2 ?_⟩
  · have hvalue : (single.units m : ℚ) * double.one / single.one = double.units y := by
      rw [hunits, double_one_eq]
      push_cast
      field_simp
    rw [hvalue]
    exact rounds_units hlt.le
  · have hvalue : (double.units y : ℚ) * single.one / double.one = single.units m := by
      rw [hunits, double_one_eq]
      push_cast
      field_simp
    rw [hvalue]
    exact rounds_units hm.le

/-- Nothing is lost on the way to a double. -/
theorem convert_single_convert_double (x : Single) : (x.convert .double).convert .single = x := by
  cases hx : x.isFinite with
  | true =>
    obtain ⟨negative, m, hm, rfl⟩ := exists_signed hx
    obtain ⟨y, -, -, hwide, hnarrow⟩ := exists_convert_double negative hm
    rw [hwide, hnarrow]
  | false =>
    obtain rfl | ⟨negative, rfl⟩ := eq_of_not_isFinite hx
    · rfl
    · rw [convert_infinite, convert_infinite]

/-- The numbers of another format that numbers are rounded to: a finite one to what its value rounds
to, with the sign, and any other one to itself. -/
inductive RoundedTo {f g : Format} : Number g → Number f → Prop
  | nan : RoundedTo .nan .nan
  | infinite (negative : Bool) : RoundedTo (infinite negative) (infinite negative)
  | finite {negative : Bool} {n : Fin (g.infinity + 1)} (hn : n.val < g.infinity) {m : Fin (f.infinity + 1)}
    (h : f.Rounds (g.units n * f.one / g.one) m) : RoundedTo (signed negative n) (signed negative m)

/-- Conversion rounds. -/
theorem roundedTo_iff {f g : Format} [f.Regular] {x : Number g} {y : Number f} :
    x.RoundedTo y ↔ x.convert f = y := by
  constructor
  · intro h
    cases h with
    | nan => rfl
    | infinite negative => exact convert_infinite f negative
    | finite hn h => exact (convert_eq_iff hn).2 h
  · rintro rfl
    cases hx : x.isFinite with
    | true =>
      obtain ⟨negative, n, hn, rfl⟩ := exists_signed hx
      have hconvert : (signed negative n : Number g).convert f = ofUnits f negative (g.units n * f.one) g.one :=
        if_neg hn.ne
      rw [hconvert]
      exact .finite hn ((convert_eq_iff hn).1 hconvert)
    | false =>
      obtain rfl | ⟨negative, rfl⟩ := eq_of_not_isFinite hx
      · exact .nan
      · rw [convert_infinite]
        exact .infinite negative

/-- To its own format a number is rounded as it is. -/
theorem roundedTo_self {f : Format} (x : Number f) : x.RoundedTo x := by
  cases hx : x.isFinite with
  | true =>
    obtain ⟨negative, n, hn, rfl⟩ := exists_signed hx
    have hone : (f.one : ℚ) ≠ 0 := by exact_mod_cast one_pos.ne'
    refine .finite hn ?_
    rw [mul_div_cancel_right₀ _ hone]
    exact rounds_units hn.le
  | false =>
    obtain rfl | ⟨negative, rfl⟩ := eq_of_not_isFinite hx
    · exact .nan
    · exact .infinite negative

theorem isNaN_convert {f : Format} (g : Format) (x : Number f) : (x.convert g).isNaN = x.isNaN := by
  cases x with
  | nan => rfl
  | signed negative m =>
    rw [convert]
    split_ifs <;> rfl

theorem isFinite_convert_double (x : Single) : (x.convert .double).isFinite = x.isFinite := by
  cases hx : x.isFinite with
  | true =>
    obtain ⟨negative, m, hm, rfl⟩ := exists_signed hx
    obtain ⟨y, hy, -, hwide, -⟩ := exists_convert_double negative hm
    rw [hwide]
    exact isFinite_signed.2 hy
  | false =>
    obtain rfl | ⟨negative, rfl⟩ := eq_of_not_isFinite hx
    · rfl
    · rw [convert_infinite]
      rfl

theorem value_convert_double {x : Single} (hx : x.isFinite = true) : (x.convert .double).value = x.value := by
  obtain ⟨negative, m, hm, rfl⟩ := exists_signed hx
  obtain ⟨y, -, hunits, hwide, -⟩ := exists_convert_double negative hm
  have hsigned : (signed negative y : Double).signedUnits =
      (signed negative m : Single).signedUnits * 2 ^ unitGap := by
    cases negative
    · simp only [signedUnits, hunits]
      push_cast
      rfl
    · simp only [signedUnits, hunits]
      push_cast
      ring
  have hgap : (2 : ℚ) ^ unitGap ≠ 0 := by positivity
  rw [hwide, value, value, hsigned, double_one_eq]
  push_cast
  exact mul_div_mul_right _ _ hgap

end Number

end TypedScalar.Floating
