import TypedScalar.Proofs.Floating.Order
import TypedScalar.Proofs.Floating.Widening

/-! Distances and their bounds. The distance of two numbers is the same from either side, and that of an
infinity from any other number is infinite. A bound of another format is kept by rounding to that format. -/

namespace TypedScalar.Floating

/-- What a finer format rounds to no more than a number of a coarser one, that one does too: the midpoints
that decide it are numbers of the finer format. -/
theorem Format.Rounds.le_of_finer {f g : Format} {gap : ℕ} (hbits : f.fractionBits < g.fractionBits)
    (hgap : 0 < gap) {v : ℚ} {j p q : ℕ} (hg : g.Rounds (v * 2 ^ gap) p) (hf : f.Rounds v q)
    (hp : p < g.infinity) (hle : (g.units p : ℚ) ≤ f.units j * 2 ^ gap) : q ≤ j := by
  by_contra hlt
  rw [not_le] at hlt
  obtain ⟨y, hy⟩ := exists_midpoint (f := f) (g := g) hbits hgap j
  have hreaches : g.Reaches (v * 2 ^ gap) y := by
    refine (reaches_units y).mono ?_
    rw [hy]
    gcongr
    exact (hf.reaches.anti hlt).le
  have hpy : (g.units p : ℚ) < g.units y := by
    rw [hy]
    refine hle.trans_lt ?_
    gcongr
    exact units_lt_lower_succ j
  exact hg.stops hp (hreaches.anti (units_strictMono.lt_iff_lt.1 (by exact_mod_cast hpy)))

namespace Number

open Format

variable {f g : Format} {x y z : Number f} {u w : WithBot (WithTop ℚ)}

theorem equals_comm (x y : Number f) : x.equals y = y.equals x := by
  rw [Bool.eq_iff_iff]
  simp only [equals, Bool.and_eq_true, beq_iff_eq]
  constructor <;> rintro ⟨⟨hx, hy⟩, h⟩ <;> exact ⟨⟨hy, hx⟩, h.symm⟩

/-! ### Distances -/

theorem isNegative_infinite [f.Regular] (negative : Bool) :
    (infinite negative : Number f).isNegative = negative := by
  have hpos : f.infinity ≠ 0 := infinity_pos.ne'
  cases negative <;> simp [infinite, isNegative, hpos]

/-- No number but an infinity itself is at a finite distance from it. -/
theorem distance_infinite [f.Regular] {negative : Bool} (hy : y.isNaN = false) (hne : y ≠ infinite negative) :
    (infinite negative).distance y = infinite false := by
  have hinfinite : (infinite negative : Number f).isInfinite = true := isInfinite_iff.2 ⟨negative, rfl⟩
  have hother : (y.isInfinite && (infinite negative : Number f).isNegative == y.isNegative) = false := by
    cases h : y.isInfinite with
    | false => rfl
    | true =>
      obtain ⟨s, rfl⟩ := isInfinite_iff.1 h
      rw [isNegative_infinite, isNegative_infinite]
      have hs : negative ≠ s := fun h => hne (h ▸ rfl)
      simp [hs]
  have hnan : (infinite negative : Number f).isNaN = false := rfl
  simp [distance, hnan, hy, hinfinite, hother]

/-- A distance has no minus. -/
theorem distance_eq (x y : Number f) : x.distance y = nan ∨ ∃ m, x.distance y = signed false m := by
  rw [distance]
  split_ifs
  · exact .inl rfl
  · exact .inl rfl
  · exact .inr ⟨_, rfl⟩
  · exact .inr ⟨_, rfl⟩

/-! ### Bounds -/

theorem lessEq_trans [f.Regular] (h : x.lessEq y = true) (h' : y.lessEq z = true) : x.lessEq z = true := by
  obtain ⟨u, v, hu, hv, huv⟩ := exists_le_of_lessEq h
  obtain ⟨v', w, hv', hw, hvw⟩ := exists_le_of_lessEq h'
  obtain rfl := Option.some.inj (hv.symm.trans hv')
  exact (lessEq_iff hu hw).2 (huv.trans hvw)

/-- Comparison with an integer is that of the values. -/
theorem lessEqInt_iff (hu : x.extended? = some u) {n : ℤ} :
    x.lessEqInt n = true ↔ u ≤ (((n : ℚ) : WithTop ℚ) : WithBot (WithTop ℚ)) := by
  obtain ⟨rfl, rfl⟩ | ⟨rfl, rfl⟩ | ⟨hx, rfl⟩ := eq_of_extended? hu
  · simp [lessEqInt, infinite]
  · simp [lessEqInt, infinite]
  · obtain ⟨s, m, hm, rfl⟩ := exists_signed hx
    have hone : (0 : ℚ) < f.one := by exact_mod_cast one_pos
    rw [lessEqInt, if_neg hm.ne, decide_eq_true_iff, WithBot.coe_le_coe, WithTop.coe_le_coe, value,
      div_le_iff₀ hone]
    exact_mod_cast Iff.rfl

theorem exists_convert_signed [f.Regular] {n : Fin (g.infinity + 1)} (hn : n.val ≠ g.infinity) (s : Bool) :
    ∃ m, (signed s n : Number g).convert f = signed s m ∧ f.Rounds (g.units n / g.one * f.one) m := by
  obtain ⟨m, hm⟩ : ∃ m, (signed s n : Number g).convert f = signed s m := by
    rw [convert, if_neg hn]
    exact ⟨_, rfl⟩
  have hround := (convert_eq_iff (lt_of_le_of_ne n.le_last hn)).1 hm
  rw [mul_div_right_comm] at hround
  exact ⟨m, hm, hround⟩

/-- Rounding does not pass a number of the format. -/
theorem lessEq_convert_of_le [f.Regular] [g.Regular] {d : Number g} (hd : d.extended? = some w)
    (hx : x.extended? = some u) (h : w ≤ u) : (d.convert f).lessEq x = true := by
  have hnan := isNaN_of_extended? hx
  obtain ⟨rfl, rfl⟩ | ⟨rfl, rfl⟩ | ⟨hfinite, rfl⟩ := eq_of_extended? hd
  · rw [convert_infinite]
    exact infinite_lessEq hnan
  · rw [convert_infinite]
    exact (lessEq_iff (extended?_infinite false) hx).2 h
  · obtain ⟨rfl, rfl⟩ | ⟨rfl, rfl⟩ | ⟨hfinite', rfl⟩ := eq_of_extended? hx
    · simp at h
    · exact lessEq_infinite (by rw [isNaN_convert, isNaN_of_isFinite hfinite])
    · obtain ⟨s, i, hi, rfl⟩ := exists_signed hfinite
      obtain ⟨t, j, hj, rfl⟩ := exists_signed hfinite'
      obtain ⟨m, hm, hround⟩ := exists_convert_signed (f := f) hi.ne s
      have hone : (0 : ℚ) < f.one := by exact_mod_cast one_pos
      rw [WithBot.coe_le_coe, WithTop.coe_le_coe, value, value, le_div_iff₀ hone, signedUnits_cast,
        signedUnits_cast] at h
      rw [hm, lessEq_iff_signedUnits rfl rfl]
      refine signedUnits_le_of_rounds (by positivity) (by positivity) hround (rounds_units hj.le) ?_
      calc factor s * (g.units i / g.one * f.one) = factor s * g.units i / g.one * f.one := by ring
        _ ≤ factor t * f.units j := h

theorem value_signed_false (m : Fin (f.infinity + 1)) :
    (signed false m : Number f).value = f.units m / f.one := by
  rw [value, signedUnits, Int.cast_natCast]

theorem lessEq_of_finer [f.Regular] [g.Regular] (hbits : f.fractionBits < g.fractionBits)
    (hunit : f.unitExponent < g.unitExponent) {v : ℚ} {p : Fin (g.infinity + 1)} {q : Fin (f.infinity + 1)}
    {y : Number f} (hg : g.Rounds (v * g.one) p) (hf : f.Rounds (v * f.one) q)
    (hp : (signed false p : Number g).isFinite = true) (hy : y.isFinite = true)
    (h : (signed false p : Number g).value ≤ y.value) : (signed false q).lessEq y = true := by
  obtain ⟨t, j, hj, rfl⟩ := exists_signed hy
  have hfone : (0 : ℚ) < f.one := by exact_mod_cast one_pos
  have hgone : (g.one : ℚ) = f.one * 2 ^ (g.unitExponent - f.unitExponent) := by
    rw [one, one]
    push_cast
    rw [← pow_add, Nat.add_sub_cancel' hunit.le]
  have hvalue : (signed t j : Number f).value = f.units j / f.one := by
    have hpos : (0 : ℚ) ≤ g.units p / g.one := by positivity
    rw [value_signed_false] at h
    rw [← abs_value t j, abs_of_nonneg (hpos.trans h)]
  rw [value_signed_false, hvalue, hgone, div_le_div_iff₀ (by positivity) hfone] at h
  have hqj : q.val ≤ j.val := by
    rw [hgone, ← mul_assoc] at hg
    refine Rounds.le_of_finer hbits (Nat.sub_pos_of_lt hunit) hg hf (isFinite_signed.1 hp) ?_
    refine le_of_mul_le_mul_right ?_ hfone
    linarith
  have hunits : (f.units q : ℚ) ≤ f.units j := by exact_mod_cast units_strictMono.monotone hqj
  rw [lessEq_iff_value (isFinite_signed.2 (hqj.trans_lt hj)) hy, value_signed_false, hvalue]
  gcongr

/-- What a finer format rounds to within a bound, a coarser one rounds to within any bound of its own that is
no less. -/
theorem lessEq_convert_of_finer [f.Regular] [g.Regular] (hbits : f.fractionBits < g.fractionBits)
    (hunit : f.unitExponent < g.unitExponent) {e : Format} {n : Fin (e.infinity + 1)} {x : Number g} {y : Number f}
    {v : WithBot (WithTop ℚ)} (hx : x.extended? = some u) (hy : y.extended? = some v) (huv : u ≤ v)
    (h : ((signed false n : Number e).convert g).lessEq x = true) :
    ((signed false n : Number e).convert f).lessEq y = true := by
  obtain ⟨w, u', hw, hu', hwu⟩ := exists_le_of_lessEq h
  obtain rfl := Option.some.inj (hx.symm.trans hu')
  have hwv := hwu.trans huv
  by_cases hn : n.val = e.infinity
  · have hinfinite : (signed false n : Number e) = infinite false := congrArg (signed false) (Fin.ext hn)
    rw [hinfinite, convert_infinite, extended?_infinite] at hw
    rw [hinfinite, convert_infinite, lessEq_iff (extended?_infinite false) hy]
    rwa [← Option.some.inj hw] at hwv
  · obtain ⟨p, hp, hg⟩ := exists_convert_signed (f := g) hn false
    obtain ⟨q, hq, hf⟩ := exists_convert_signed (f := f) hn false
    rw [hp] at hw
    rw [hq]
    obtain ⟨rfl, rfl⟩ | ⟨rfl, rfl⟩ | ⟨hfinite, rfl⟩ := eq_of_extended? hy
    · obtain ⟨hminus, -⟩ | ⟨-, rfl⟩ | ⟨-, rfl⟩ := eq_of_extended? hw
      · cases hminus
      · simp at hwv
      · simp at hwv
    · exact lessEq_infinite rfl
    · obtain ⟨hminus, -⟩ | ⟨-, rfl⟩ | ⟨hpfinite, rfl⟩ := eq_of_extended? hw
      · cases hminus
      · simp at hwv
      · rw [WithBot.coe_le_coe, WithTop.coe_le_coe] at hwv
        exact lessEq_of_finer hbits hunit hg hf hpfinite hfinite hwv

end Number

end TypedScalar.Floating
