import Mathlib.Algebra.Ring.Parity
import Mathlib.Tactic.FieldSimp
import TypedScalar.Floating.Rounding
import TypedScalar.Proofs.Floating.Magnitude

/-! Rounding is to the nearest magnitude, ties to the even one. `Rounds v n` says
that the value `v`, in units, rounds to `n`: it reaches `n` and not the successor
of `n`, and whatever reaches infinity stays there. The relation is functional and
monotone, `nearest` computes it, and so do the conversions from decimals and from
other formats. -/

namespace TypedScalar.Floating

theorem roundDiv_bounds (num den : ℕ) :
    num / den ≤ roundDiv num den ∧ roundDiv num den ≤ num / den + 1 := by
  have := Nat.mod_two_eq_zero_or_one (num / den)
  simp only [roundDiv]
  split_ifs <;> omega

/-- Rounding an exact quotient errs by half at most, and by half only towards an
even number. -/
theorem roundDiv_error (num : ℕ) {den : ℕ} (h : 0 < den) :
    ((roundDiv num den : ℚ) - 1 / 2 < num / den ∨
      ((roundDiv num den : ℚ) - 1 / 2 = num / den ∧ Even (roundDiv num den))) ∧
    ((num / den : ℚ) < roundDiv num den + 1 / 2 ∨
      ((num / den : ℚ) = roundDiv num den + 1 / 2 ∧ Even (roundDiv num den))) := by
  have hd : (0 : ℚ) < den := by exact_mod_cast h
  have hnum : (num : ℚ) / den = (num / den : ℕ) + (num % den : ℕ) / (den : ℚ) := by
    rw [div_eq_iff hd.ne', add_mul, div_mul_cancel₀ _ hd.ne']
    exact_mod_cast (Nat.div_add_mod' num den).symm
  have hlt : ((num % den : ℕ) : ℚ) / den < 1 := by
    rw [div_lt_one hd]
    exact_mod_cast Nat.mod_lt num h
  have hnn : (0 : ℚ) ≤ ((num % den : ℕ) : ℚ) / den := by positivity
  rw [hnum]
  unfold roundDiv
  dsimp only
  split_ifs with h₁ h₂
  · have : ((num % den : ℕ) : ℚ) / den < 1 / 2 := by
      rw [div_lt_iff₀ hd]
      have : 2 * ((num % den : ℕ) : ℚ) < den := by exact_mod_cast h₁
      linarith
    exact ⟨.inl (by linarith), .inl (by linarith)⟩
  · have : 1 / 2 < ((num % den : ℕ) : ℚ) / den := by
      rw [lt_div_iff₀ hd]
      have : (den : ℚ) < 2 * (num % den : ℕ) := by exact_mod_cast h₂
      linarith
    push_cast
    exact ⟨.inl (by linarith), .inl (by linarith)⟩
  · have htie : ((num % den : ℕ) : ℚ) / den = 1 / 2 := by
      rw [div_eq_iff hd.ne']
      have : 2 * ((num % den : ℕ) : ℚ) = den := by exact_mod_cast (show 2 * (num % den) = den by omega)
      linarith
    have heven : Even (num / den + num / den % 2) := by
      rw [Nat.even_iff]
      omega
    rw [htie]
    rcases Nat.mod_two_eq_zero_or_one (num / den) with h0 | h1
    · rw [h0] at heven ⊢
      exact ⟨.inl (by push_cast; linarith), .inr ⟨by push_cast; ring, heven⟩⟩
    · rw [h1] at heven ⊢
      exact ⟨.inr ⟨by push_cast; ring, heven⟩, .inl (by push_cast; linarith)⟩

namespace Format

variable {f : Format}

/-- The value `v`, in units, rounds to the magnitude `n`. -/
structure Rounds (f : Format) (v : ℚ) (n : ℕ) : Prop where
  le_infinity : n ≤ f.infinity
  reaches : f.Reaches v n
  stops : n < f.infinity → ¬ f.Reaches v (n + 1)

theorem rounds_iff_of_lt {v : ℚ} {n : ℕ} (h : n < f.infinity) :
    f.Rounds v n ↔ f.Reaches v n ∧ ¬ f.Reaches v (n + 1) :=
  ⟨fun hr => ⟨hr.reaches, hr.stops h⟩, fun hr => ⟨h.le, hr.1, fun _ => hr.2⟩⟩

/-- A larger value never rounds to a smaller magnitude. -/
theorem Rounds.le {v w : ℚ} {m n : ℕ} (hm : f.Rounds v m) (hn : f.Rounds w n) (h : v ≤ w) : m ≤ n := by
  by_contra hlt
  rw [not_le] at hlt
  exact hn.stops (hlt.trans_le hm.le_infinity) ((hm.reaches.anti hlt).mono h)

theorem Rounds.unique {v : ℚ} {m n : ℕ} (hm : f.Rounds v m) (hn : f.Rounds v n) : m = n :=
  le_antisymm (hm.le hn le_rfl) (hn.le hm le_rfl)

theorem rounds_units {n : ℕ} (h : n ≤ f.infinity) : f.Rounds (f.units n) n :=
  ⟨h, reaches_units n, fun _ => not_reaches_succ_units n⟩

/-- What rounds to one magnitude from both sides does so in between. -/
theorem Rounds.between {u v w : ℚ} {n : ℕ} (hu : f.Rounds u n) (hw : f.Rounds w n) (huv : u ≤ v)
    (hvw : v ≤ w) : f.Rounds v n :=
  ⟨hu.le_infinity, hu.reaches.mono huv, fun h hv => hw.stops h (hv.mono hvw)⟩

/-- Rounding the coefficient in a binade rounds to a magnitude: the spacing below
and above is that of the binade, except below its start, where it is smaller, and
above its end, which the value does not pass. -/
theorem reaches_block (hf : 0 < f.fractionBits) {k r : ℕ} {w : ℚ} (hw : 0 ≤ w)
    (hstart : k = 0 ∨ (2 ^ f.fractionBits : ℕ) ≤ w) (hend : w < (2 * 2 ^ f.fractionBits : ℕ))
    (hrk : k = 0 ∨ 2 ^ f.fractionBits ≤ r) (hr : r ≤ 2 * 2 ^ f.fractionBits)
    (hlow : (r : ℚ) - 1 / 2 < w ∨ ((r : ℚ) - 1 / 2 = w ∧ Even r))
    (hupp : w < r + 1 / 2 ∨ (w = (r : ℚ) + 1 / 2 ∧ Even r)) :
    f.Reaches (w * 2 ^ k) (k * 2 ^ f.fractionBits + r) ∧
      ¬ f.Reaches (w * 2 ^ k) (k * 2 ^ f.fractionBits + r + 1) := by
  have hW : (0 : ℚ) < 2 ^ k := by positivity
  have hun : f.units (k * 2 ^ f.fractionBits + r) = r * 2 ^ k := units_block hrk hr
  have heven : Even (k * 2 ^ f.fractionBits + r) ↔ Even r := by
    have : Even (k * 2 ^ f.fractionBits) := (Nat.even_pow.2 ⟨even_two, hf.ne'⟩).mul_left k
    simp [Nat.even_add, this]
  constructor
  · by_cases hinner : k = 0 ∨ 2 ^ f.fractionBits < r
    · rcases Nat.eq_zero_or_pos r with rfl | hpos
      · obtain rfl : k = 0 := hinner.resolve_right (by simp)
        simpa using reaches_zero hw
      · unfold Reaches
        rw [lower_block hinner hpos hr, heven]
        exact hlow.imp (fun h => by gcongr) fun h => ⟨by rw [h.1], h.2⟩
    · left
      rw [not_or, not_lt] at hinner
      have hreq : r = 2 ^ f.fractionBits := le_antisymm hinner.2 (hrk.resolve_left hinner.1)
      have hpos : 0 < k * 2 ^ f.fractionBits + r := by
        have := Nat.two_pow_pos f.fractionBits
        omega
      refine (lower_lt_units hpos).trans_le ?_
      have := hstart.resolve_left hinner.1
      rw [hun, hreq]
      push_cast at this ⊢
      gcongr
  · rcases hr.lt_or_eq with hlt | rfl
    · have hupper : f.lower (k * 2 ^ f.fractionBits + r + 1) = ((r : ℚ) + 1 / 2) * 2 ^ k := by
        rw [Nat.add_assoc, lower_block (hrk.imp_right Nat.lt_succ_of_le) (Nat.succ_pos r) hlt]
        push_cast
        ring
      unfold Reaches
      rw [hupper, Nat.even_add_one, heven]
      rintro (h | ⟨h, he⟩)
      · rw [mul_lt_mul_iff_left₀ hW] at h
        exact hupp.elim h.not_gt fun h' => h.ne' h'.1
      · rw [mul_left_inj' hW.ne'] at h
        exact hupp.elim (fun h' => h'.ne' h) fun h' => he h'.2
    · intro h
      refine (h.le.trans_lt' (units_lt_lower_succ _)).not_ge ?_
      rw [hun]
      push_cast at hend ⊢
      gcongr

/-- The leading bit of the quotient shows the binade. -/
theorem quotient_block (p q : ℕ) :
    (q.log2 - p = 0 ∨ 2 ^ p ≤ q / 2 ^ (q.log2 - p)) ∧ q / 2 ^ (q.log2 - p) < 2 * 2 ^ p := by
  rw [Nat.div_lt_iff_lt_mul (by positivity), Nat.le_div_iff_mul_le (by positivity), ← pow_succ', ← pow_add,
    ← pow_add]
  constructor
  · rcases Nat.eq_zero_or_pos (q.log2 - p) with h0 | hpos
    · exact .inl h0
    · have hq : q ≠ 0 := by
        rintro rfl
        simp at hpos
      right
      rw [← Nat.le_log2 hq]
      omega
  · exact Nat.lt_log2_self.trans_le (Nat.pow_le_pow_right (by norm_num) (by omega))

/-- The candidate of `nearest`, before it is capped at infinity, is where the
value lies. -/
theorem reaches_candidate (hf : 0 < f.fractionBits) {num den k : ℕ} (hd : 0 < den)
    (hk : k = (num / den).log2 - f.fractionBits) :
    f.Reaches (num / den) (k * 2 ^ f.fractionBits + roundDiv num (den * 2 ^ k)) ∧
      ¬ f.Reaches (num / den) (k * 2 ^ f.fractionBits + roundDiv num (den * 2 ^ k) + 1) := by
  have hD : 0 < den * 2 ^ k := by positivity
  obtain ⟨hlo, hhi⟩ := roundDiv_bounds num (den * 2 ^ k)
  obtain ⟨hlow, hupp⟩ := roundDiv_error num hD
  obtain ⟨hstart, hend⟩ := quotient_block f.fractionBits (num / den)
  rw [← hk, Nat.div_div_eq_div_mul] at hstart hend
  have hv : (num : ℚ) / den = num / (den * 2 ^ k : ℕ) * 2 ^ k := by
    push_cast
    field_simp
  rw [hv]
  refine reaches_block hf (by positivity) (hstart.imp_right fun h => ?_) ?_
    (hstart.imp_right fun h => by omega) (by omega) hlow hupp
  · exact (Nat.cast_le.2 h).trans Nat.cast_div_le
  · rw [div_lt_iff₀ (by exact_mod_cast hD)]
    exact_mod_cast (Nat.div_lt_iff_lt_mul hD).1 hend

/-- `nearest` rounds. -/
theorem rounds_nearest (hf : 0 < f.fractionBits) (num : ℕ) {den : ℕ} (hd : 0 < den) :
    f.Rounds (num / den) (f.nearest num den) := by
  obtain ⟨h₁, h₂⟩ := reaches_candidate hf hd rfl
  refine ⟨Nat.min_le_left _ _, h₁.anti (Nat.min_le_right _ _), fun hlt => ?_⟩
  rw [nearest, min_lt_iff] at hlt
  have hcap : f.nearest num den = _ := min_eq_right (hlt.resolve_left (lt_irrefl _)).le
  rwa [hcap]

theorem nearest_eq_iff (hf : 0 < f.fractionBits) {num den n : ℕ} (hd : 0 < den) :
    f.nearest num den = n ↔ f.Rounds (num / den) n :=
  ⟨fun h => h ▸ rounds_nearest hf num hd, fun h => (rounds_nearest hf num hd).unique h⟩

end Format

end TypedScalar.Floating
