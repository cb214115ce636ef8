import TypedScalar.Floating.Shortest
import TypedScalar.Proofs.Floating.Conversion

/-! The search for the shortest decimal. What it finds rounds to the magnitude,
lies next to the magnitude's value on its grid, and no coarser grid holds a
decimal that rounds there; so no decimal that rounds to the magnitude has fewer
digits. The search ends at a grid whose spacing is smaller than the distance of
the midpoints around the magnitude, if not before. -/

namespace TypedScalar.Floating

def Decimal.value (d : Decimal) : ℚ := d.digits * 10 ^ d.exponent

namespace Format

variable {f : Format} {n : ℕ}

theorem roundsTo_iff (hn : n < f.infinity) (d : Decimal) :
    f.roundsTo n d = true ↔ f.Rounds (d.value * f.one) n := by
  have hs : (0 : ℚ) < 10 ^ (-d.exponent).toNat := by positivity
  have hv : d.value * f.one =
      ((2 * d.digits * 10 ^ d.exponent.toNat * f.one : ℕ) : ℚ) / 10 ^ (-d.exponent).toNat / 2 := by
    rw [Decimal.value, zpow_eq_div]
    push_cast
    ring
  have hlt : ∀ m, f.lower m < d.value * f.one ↔ (f.units (m - 1) + f.units m) * 10 ^ (-d.exponent).toNat <
      2 * d.digits * 10 ^ d.exponent.toNat * f.one := fun m => by
    rw [hv, lower, div_lt_div_iff_of_pos_right two_pos, lt_div_iff₀ hs]
    exact_mod_cast Iff.rfl
  have heq : ∀ m, f.lower m = d.value * f.one ↔ (f.units (m - 1) + f.units m) * 10 ^ (-d.exponent).toNat =
      2 * d.digits * 10 ^ d.exponent.toNat * f.one := fun m => by
    rw [hv, lower, div_left_inj' two_ne_zero, eq_div_iff hs.ne']
    exact_mod_cast Iff.rfl
  rw [rounds_iff_of_lt hn, Reaches, Reaches, hlt, hlt, heq, heq, Nat.add_sub_cancel, Nat.even_add_one,
    roundsTo]
  rcases Nat.even_or_odd n with he | ho
  · simp only [Nat.even_iff.1 he, he, ↓reduceIte, Bool.and_eq_true, decide_eq_true_eq]
    simp only [and_true, not_true, and_false, or_false, not_lt, ← Nat.le_iff_lt_or_eq]
  · simp only [Nat.odd_iff.1 ho, Nat.not_even_iff_odd.2 ho, Bool.and_eq_true, decide_eq_true_eq, one_ne_zero,
      ↓reduceIte]
    simp only [and_false, or_false, not_false_eq_true, and_true, not_or, not_lt]
    omega

theorem one_mul_five_pow : f.one * 5 ^ f.unitExponent = 10 ^ f.unitExponent := by
  rw [one, ← mul_pow]
  norm_num

theorem decimalLength_pos (n : ℕ) : 0 < decimalLength n := by
  rw [decimalLength]
  split_ifs <;> omega

theorem zpow_mul_one (e : ℤ) : (10 : ℚ) ^ (e - f.unitExponent) * f.one * 5 ^ f.unitExponent = 10 ^ e := by
  have : (f.one : ℚ) * 5 ^ f.unitExponent = 10 ^ f.unitExponent := by exact_mod_cast one_mul_five_pow
  rw [mul_assoc, this, mul_comm]
  exact ten_pow_mul_zpow (add_sub_cancel _ _)

/-- The leading exponent is that of the power of ten at a positive magnitude's
value or next below it. -/
theorem leadingExponent_bounds (hn : 0 < n) :
    (10 : ℚ) ^ f.leadingExponent n * f.one ≤ f.units n ∧
      (f.units n : ℚ) < 10 ^ (f.leadingExponent n + 1) * f.one := by
  have hpos : 0 < f.units n * 5 ^ f.unitExponent := Nat.mul_pos (units_pos hn) (by positivity)
  have h5 : (0 : ℚ) < 5 ^ f.unitExponent := by positivity
  rw [← mul_le_mul_iff_left₀ h5, ← mul_lt_mul_iff_left₀ h5, leadingExponent, zpow_mul_one, sub_add_eq_add_sub,
    zpow_mul_one, sub_add_cancel, ← Nat.cast_one, ← Nat.cast_sub (decimalLength_pos _), zpow_natCast,
    zpow_natCast]
  exact ⟨by exact_mod_cast pow_decimalLength_le hpos, by exact_mod_cast lt_pow_decimalLength _⟩

/-! ### One grid -/

/-- The grid point of `10 ^ e` at the magnitude's value or next below it. -/
def gridFloor (f : Format) (n : ℕ) (e : ℤ) : ℕ := f.units n * 10 ^ (-e).toNat / (f.one * 10 ^ e.toNat)

theorem gridFloor_bounds (n : ℕ) (e : ℤ) :
    (⟨f.gridFloor n e, e⟩ : Decimal).value * f.one ≤ f.units n ∧
      (f.units n : ℚ) < (⟨f.gridFloor n e + 1, e⟩ : Decimal).value * f.one := by
  have hden : 0 < f.one * 10 ^ e.toNat := Nat.mul_pos one_pos (by positivity)
  have hs : (0 : ℚ) < 10 ^ (-e).toNat := by positivity
  have hvalue : ∀ c : ℕ, (⟨c, e⟩ : Decimal).value * f.one =
      c * (f.one * 10 ^ e.toNat : ℕ) / 10 ^ (-e).toNat := by
    intro c
    rw [Decimal.value, zpow_eq_div]
    push_cast
    ring
  rw [hvalue, hvalue, div_le_iff₀ hs, lt_div_iff₀ hs]
  constructor
  · exact_mod_cast Nat.div_mul_le_self (f.units n * 10 ^ (-e).toNat) (f.one * 10 ^ e.toNat)
  · rw [mul_comm ((f.gridFloor n e + 1 : ℕ) : ℚ)]
    exact_mod_cast Nat.lt_mul_div_succ (f.units n * 10 ^ (-e).toNat) hden

theorem onGrid?_of_some {e : ℤ} {d : Decimal} (h : f.onGrid? n e = some d) :
    d.exponent = e ∧ f.gridFloor n e ≤ d.digits ∧ d.digits ≤ f.gridFloor n e + 1 ∧ f.roundsTo n d = true := by
  have hr := roundDiv_bounds (f.units n * 10 ^ (-e).toNat) (f.one * 10 ^ e.toNat)
  simp only [onGrid?] at h
  split at h
  next hb ha =>
    obtain rfl := Option.some.inj h
    refine ⟨rfl, hr.1, hr.2, ?_⟩
    rcases Nat.le_iff_lt_or_eq.1 hr.1 with hlt | heq
    · rwa [le_antisymm hr.2 hlt]
    · rwa [← heq]
  next hb ha =>
    obtain rfl := Option.some.inj h
    exact ⟨rfl, le_rfl, Nat.le_succ _, hb⟩
  next hb ha =>
    obtain rfl := Option.some.inj h
    exact ⟨rfl, Nat.le_succ _, le_rfl, ha⟩
  next => simp at h

theorem value_le_value {e : ℤ} {c c' : ℕ} (h : c ≤ c') :
    (⟨c, e⟩ : Decimal).value * f.one ≤ (⟨c', e⟩ : Decimal).value * f.one := by
  unfold Decimal.value
  gcongr

/-- A grid without a hit holds no decimal that rounds to the magnitude. -/
theorem onGrid?_eq_none (hn : n < f.infinity) {e : ℤ} (h : f.onGrid? n e = none) (c : ℕ) :
    f.roundsTo n ⟨c, e⟩ = false := by
  obtain ⟨hb, ha⟩ := gridFloor_bounds (f := f) n e
  rw [Bool.eq_false_iff]
  intro hc
  rw [roundsTo_iff hn] at hc
  have hu := rounds_units hn.le
  simp only [onGrid?] at h
  split at h <;> try contradiction
  next hb' ha' =>
    rcases Nat.lt_or_ge (f.gridFloor n e) c with hlt | hge
    · have habove : f.roundsTo n ⟨f.gridFloor n e + 1, e⟩ = true :=
        (roundsTo_iff hn _).2 (hu.between hc ha.le (value_le_value hlt))
      exact Bool.false_ne_true (ha'.symm.trans habove)
    · have hbelow : f.roundsTo n ⟨f.gridFloor n e, e⟩ = true :=
        (roundsTo_iff hn _).2 (hc.between hu (value_le_value hge) hb)
      exact Bool.false_ne_true (hb'.symm.trans hbelow)

/-! ### The search -/

/-- What a search downwards from the grid `10 ^ top` finds. -/
structure Found (f : Format) (n : ℕ) (top : ℤ) (d : Decimal) : Prop where
  rounds : f.Rounds (d.value * f.one) n
  exponent_le : d.exponent ≤ top
  gridFloor_le : f.gridFloor n d.exponent ≤ d.digits
  le_gridFloor : d.digits ≤ f.gridFloor n d.exponent + 1
  coarser : ∀ (e : ℤ) (c : ℕ), d.exponent < e → e ≤ top → ¬ f.Rounds (c * 10 ^ e * f.one) n

theorem searchGrids_found (hn : n < f.infinity) (steps : ℕ) {top : ℤ} (ht : top + f.unitExponent = steps) :
    f.Found n top (f.searchGrids n steps top) := by
  induction steps generalizing top with
  | zero =>
    -- on the grid of the unit the value itself lies
    obtain rfl : top = -f.unitExponent := by simpa [add_eq_zero_iff_eq_neg] using ht
    have hfive : 10 ^ f.unitExponent = 5 ^ f.unitExponent * f.one := by
      rw [← one_mul_five_pow, mul_comm]
    have hdigits : f.units n * 10 ^ f.unitExponent / f.one = f.units n * 5 ^ f.unitExponent := by
      rw [hfive, ← mul_assoc, Nat.mul_div_cancel _ one_pos]
    have hfloor : f.gridFloor n (-f.unitExponent) = f.units n * 5 ^ f.unitExponent := by
      simp [gridFloor, hdigits]
    simp only [searchGrids, neg_neg, Int.toNat_natCast, hdigits]
    refine ⟨?_, le_rfl, hfloor.le, hfloor.ge.trans (Nat.le_succ _), fun e c h h' => absurd h h'.not_gt⟩
    convert rounds_units hn.le using 1
    have h5 : (10 : ℚ) ^ f.unitExponent = 5 ^ f.unitExponent * f.one := by exact_mod_cast hfive
    rw [Decimal.value, zpow_neg, zpow_natCast, mul_assoc, inv_mul_eq_div, Nat.cast_mul, mul_assoc]
    push_cast
    rw [mul_div_assoc', ← h5, div_self (by positivity), mul_one]
  | succ steps ih =>
    rw [searchGrids]
    split
    next d hd =>
      obtain ⟨rfl, hlo, hhi, hr⟩ := onGrid?_of_some hd
      exact ⟨(roundsTo_iff hn d).1 hr, le_rfl, hlo, hhi, fun e c h h' => absurd h h'.not_gt⟩
    next hnone =>
      have hfound : f.Found n (top - 1) _ := ih (by push_cast at ht; omega)
      refine { hfound with exponent_le := hfound.exponent_le.trans (by omega), coarser := ?_ }
      intro e c hlt hle
      rcases hle.lt_or_eq with hlt' | rfl
      · exact hfound.coarser e c hlt (by omega)
      · intro hr
        have := onGrid?_eq_none hn hnone c
        rw [Bool.eq_false_iff, ne_eq, roundsTo_iff hn] at this
        exact this hr

theorem shortest_found (hn : n < f.infinity) : f.Found n (f.leadingExponent n) (f.shortest n) := by
  refine searchGrids_found hn _ ?_
  have := decimalLength_pos (f.units n * 5 ^ f.unitExponent)
  rw [leadingExponent]
  omega

theorem shortest_rounds (hn : n < f.infinity) : f.Rounds ((f.shortest n).value * f.one) n :=
  (shortest_found hn).rounds

@[simp] theorem shortest_zero_value : (f.shortest 0).value = 0 := by
  have htop : f.leadingExponent 0 = -f.unitExponent := by
    rw [leadingExponent, units_zero, Nat.zero_mul, decimalLength]
    simp
  rw [shortest, htop, neg_add_cancel, Int.toNat_zero, searchGrids, units_zero]
  simp [Decimal.value]

theorem digits_pos_of_rounds (hn : 0 < n) {c : ℕ} {e : ℤ} (h : f.Rounds (c * 10 ^ e * f.one) n) : 0 < c := by
  refine Nat.pos_of_ne_zero fun h0 => ?_
  have hle := h.reaches.le
  rw [h0, Nat.cast_zero, zero_mul, zero_mul, ← lower_zero (f := f)] at hle
  exact (lower_strictMono hn).not_ge hle

theorem shortest_digits_pos (hn : 0 < n) (hn' : n < f.infinity) : 0 < (f.shortest n).digits :=
  digits_pos_of_rounds hn (shortest_rounds hn')

/-- The digits found stand on or below the place of the leading digit. -/
theorem shortest_digits_le (hn : 0 < n) (hn' : n < f.infinity) :
    (f.shortest n).digits ≤ 10 ^ (f.leadingExponent n - (f.shortest n).exponent + 1).toNat := by
  have hfound := shortest_found (f := f) hn'
  refine hfound.le_gridFloor.trans (Nat.succ_le_of_lt ?_)
  have hone : (0 : ℚ) < f.one := by exact_mod_cast one_pos
  have hp : (0 : ℚ) < 10 ^ (f.shortest n).exponent := by positivity
  have hlt := (gridFloor_bounds n (f.shortest n).exponent).1.trans_lt (leadingExponent_bounds (f := f) hn).2
  rw [mul_lt_mul_iff_left₀ hone, Decimal.value] at hlt
  have hsplit : (10 : ℚ) ^ (f.leadingExponent n + 1) =
      10 ^ (f.leadingExponent n - (f.shortest n).exponent + 1).toNat * 10 ^ (f.shortest n).exponent := by
    have := hfound.exponent_le
    exact (ten_pow_mul_zpow (by omega)).symm
  rw [hsplit, mul_lt_mul_iff_left₀ hp] at hlt
  exact_mod_cast hlt

/-- They reach that place: the power of ten there lies on every grid that is
searched. -/
theorem le_shortest_digits (hn : 0 < n) (hn' : n < f.infinity) :
    10 ^ (f.leadingExponent n - (f.shortest n).exponent).toNat ≤ (f.shortest n).digits := by
  have hfound := shortest_found (f := f) hn'
  refine (Nat.lt_succ_iff.1 ?_).trans hfound.gridFloor_le
  have hone : (0 : ℚ) < f.one := by exact_mod_cast one_pos
  have hp : (0 : ℚ) < 10 ^ (f.shortest n).exponent := by positivity
  have hlt := (leadingExponent_bounds (f := f) hn).1.trans_lt (gridFloor_bounds n (f.shortest n).exponent).2
  rw [mul_lt_mul_iff_left₀ hone, Decimal.value] at hlt
  have hsplit : (10 : ℚ) ^ f.leadingExponent n =
      10 ^ (f.leadingExponent n - (f.shortest n).exponent).toNat * 10 ^ (f.shortest n).exponent := by
    have := hfound.exponent_le
    exact (ten_pow_mul_zpow (by omega)).symm
  rw [hsplit, mul_lt_mul_iff_left₀ hp] at hlt
  exact_mod_cast hlt

/-- A decimal of fewer digits than stand between the leading place and the last
one found does not round to the magnitude: it would lie on a coarser grid, or
leave room there for a power of ten. -/
theorem length_shortest_le (hn : 0 < n) (hn' : n < f.infinity) {c s : ℕ} {e : ℤ}
    (h : f.Rounds (c * 10 ^ e * f.one) n) (hc : c < 10 ^ s) :
    f.leadingExponent n - (f.shortest n).exponent + 1 ≤ s := by
  have hfound := shortest_found (f := f) hn'
  have hs : 0 < s := by
    have hpos := digits_pos_of_rounds hn h
    refine Nat.pos_of_ne_zero fun h0 => ?_
    rw [h0, pow_zero] at hc
    omega
  by_contra hlt
  rw [not_le] at hlt
  set g : ℤ := f.leadingExponent n - s + 1 with hg
  have hgrid : ∀ c' : ℕ, ¬ f.Rounds (c' * 10 ^ g * f.one) n := fun c' =>
    hfound.coarser g c' (by omega) (by omega)
  rcases le_or_gt g e with hge | hlt'
  · refine hgrid (c * 10 ^ (e - g).toNat) ?_
    convert h using 2
    rw [Nat.cast_mul, mul_assoc]
    push_cast
    congr 1
    exact ten_pow_mul_zpow (by omega)
  · have hpow : ((10 ^ (s - 1) : ℕ) : ℚ) * 10 ^ g = 10 ^ f.leadingExponent n := by
      push_cast
      exact ten_pow_mul_zpow (by omega)
    refine hgrid (10 ^ (s - 1)) (h.between (rounds_units hn'.le) ?_ ?_)
    · have hone : (0 : ℚ) < f.one := by exact_mod_cast one_pos
      rw [hpow, mul_le_mul_iff_left₀ hone]
      calc (c : ℚ) * 10 ^ e ≤ 10 ^ s * 10 ^ e := by
            have : (c : ℚ) ≤ 10 ^ s := by exact_mod_cast hc.le
            gcongr
        _ = 10 ^ (s + e) := ten_pow_mul_zpow rfl
        _ ≤ 10 ^ f.leadingExponent n := zpow_le_zpow_right₀ (by norm_num) (by omega)
    · rw [hpow]
      exact (leadingExponent_bounds hn).1

/-- The search stops no later than at a grid with a spacing below the distance of
the midpoints. -/
theorem le_exponent_shortest (hn' : n < f.infinity) {e : ℤ} (he : e ≤ f.leadingExponent n)
    (hwidth : 10 ^ e * f.one < f.lower (n + 1) - f.lower n) : e ≤ (f.shortest n).exponent := by
  by_contra hlt
  rw [not_le] at hlt
  have hgrid : ∀ c : ℕ, ¬ f.Rounds (c * 10 ^ e * f.one) n := fun c =>
    (shortest_found hn').coarser e c hlt he
  obtain ⟨hb, ha⟩ := gridFloor_bounds (f := f) n e
  have hbelow : (⟨f.gridFloor n e, e⟩ : Decimal).value * f.one ≤ f.lower n := by
    by_contra h
    refine hgrid (f.gridFloor n e) ((rounds_iff_of_lt hn').2 ⟨.inl (not_le.1 h), fun h' => ?_⟩)
    exact not_reaches_succ_units n (h'.mono hb)
  have habove : f.lower (n + 1) ≤ (⟨f.gridFloor n e + 1, e⟩ : Decimal).value * f.one := by
    by_contra h
    refine hgrid (f.gridFloor n e + 1)
      ((rounds_iff_of_lt hn').2 ⟨(reaches_units n).mono ha.le, fun h' => h ?_⟩)
    exact h'.le
  have hstep : (⟨f.gridFloor n e + 1, e⟩ : Decimal).value * f.one =
      (⟨f.gridFloor n e, e⟩ : Decimal).value * f.one + 10 ^ e * f.one := by
    simp only [Decimal.value]
    push_cast
    ring
  linarith

end Format

end TypedScalar.Floating
