import TypedScalar.Proofs.Floating.Shortest
import TypedScalar.Proofs.Floating.Window

/-! Rounding twice. A decimal that rounds to a single number is read as a double
first, which is then rounded to a single number. Every midpoint between two single
numbers is a double, so the detour can go wrong only for a decimal that becomes
such a midpoint, and the decimal is then so close to it that a scan over all
shortest decimals finds the few that come into question. One of them goes wrong. -/

namespace TypedScalar.Floating

namespace Format

variable {f : Format} {v : ℚ} {n : ℕ}

theorem binade_mono {m n : ℕ} (h : m ≤ n) : f.binade m ≤ f.binade n :=
  Nat.sub_le_sub_right (Nat.div_le_div_right h) 1

theorem two_pow_binade_le (n : ℕ) : f.binade n = 0 ∨ 2 ^ (f.fractionBits + f.binade n) ≤ f.units n := by
  obtain ⟨r, hn, hr, hlt⟩ := exists_block (f := f) n
  refine hr.imp_right fun hr => ?_
  have hunits := units_block (f := f) (.inr hr) hlt.le (k := f.binade n)
  rw [← hn] at hunits
  rw [hunits, pow_add]
  exact Nat.mul_le_mul_right _ hr

theorem lower_succ_lt (n : ℕ) : f.lower (n + 1) < 2 ^ (f.fractionBits + 1 + f.binade n) := by
  obtain ⟨r, hn, hr, hlt⟩ := exists_block (f := f) n
  have hunits := units_block hr hlt.le
  rw [← hn] at hunits
  have hle : (r : ℚ) + 1 ≤ 2 * 2 ^ f.fractionBits := by exact_mod_cast hlt
  have hpow : (0 : ℚ) < 2 ^ f.binade n := by positivity
  calc f.lower (n + 1) = (r + 1 / 2) * 2 ^ f.binade n := by
        rw [lower_succ, hunits]
        push_cast
        ring
    _ < 2 * 2 ^ f.fractionBits * 2 ^ f.binade n := by
        gcongr
        linarith
    _ = 2 ^ (f.fractionBits + 1 + f.binade n) := by ring

theorem Rounds.le_lower_succ (h : f.Rounds v n) (hn : n < f.infinity) : v ≤ f.lower (n + 1) := by
  by_contra hlt
  exact h.stops hn (.inl (not_le.1 hlt))

/-- Rounding errs by half a spacing at most. -/
theorem Rounds.abs_sub_le (h : f.Rounds v n) (hn : n < f.infinity) :
    |v - f.units n| ≤ 2 ^ f.binade n / 2 := by
  have hupp := h.le_lower_succ hn
  rw [lower_succ] at hupp
  have hlow : (f.units n : ℚ) - 2 ^ f.binade n / 2 ≤ f.lower n := by
    cases n with
    | zero =>
      have : (0 : ℚ) ≤ 2 ^ f.binade 0 / 2 := by positivity
      simpa using this
    | succ n =>
      have hpow : (2 : ℚ) ^ f.binade n ≤ 2 ^ f.binade (n + 1) :=
        pow_le_pow_right₀ (by norm_num) (binade_mono (Nat.le_succ n))
      rw [lower_succ, units_succ]
      push_cast
      linarith
  have := h.reaches.le
  rw [abs_le]
  constructor <;> linarith

end Format

open Format

/-! ### Midpoints -/

/-- A unit of the single numbers is the unit of the doubles doubled so many times. -/
def unitGap : ℕ := double.unitExponent - single.unitExponent

theorem double_one_eq : (double.one : ℚ) = single.one * 2 ^ unitGap := by
  have hle : single.unitExponent ≤ double.unitExponent := by decide
  rw [unitGap, one, one]
  push_cast
  rw [← pow_add, Nat.add_sub_cancel' hle]

/-- Every midpoint between single numbers is a double. -/
theorem exists_double_midpoint (n : ℕ) :
    ∃ y, (double.units y : ℚ) = single.lower (n + 1) * 2 ^ unitGap :=
  exists_midpoint (by decide) (by decide) n

theorem double_midpoint_lt {n y : ℕ} (hn : n < single.infinity)
    (hy : (double.units y : ℚ) = single.lower (n + 1) * 2 ^ unitGap) : y < double.infinity := by
  by_contra hge
  rw [not_lt] at hge
  have hexponent : single.fractionBits + (2 ^ single.exponentBits - 2) + unitGap <
      double.fractionBits + (2 ^ double.exponentBits - 2) := by decide
  have hsingle : (single.units (n + 1) : ℚ) ≤ 2 ^ (single.fractionBits + (2 ^ single.exponentBits - 2)) := by
    have hle : single.units (n + 1) ≤ single.units single.infinity := units_strictMono.monotone hn
    rw [units_infinity] at hle
    exact_mod_cast hle
  have hdouble : (2 : ℚ) ^ (double.fractionBits + (2 ^ double.exponentBits - 2)) ≤ double.units y := by
    have hle : double.units double.infinity ≤ double.units y := units_strictMono.monotone hge
    rw [units_infinity] at hle
    exact_mod_cast hle
  refine (pow_lt_pow_right₀ (by norm_num : (1 : ℚ) < 2) hexponent).not_ge ?_
  calc (2 : ℚ) ^ (double.fractionBits + (2 ^ double.exponentBits - 2)) ≤ double.units y := hdouble
    _ = single.lower (n + 1) * 2 ^ unitGap := hy
    _ ≤ 2 ^ (single.fractionBits + (2 ^ single.exponentBits - 2)) * 2 ^ unitGap := by
        gcongr
        exact (lower_le_units _).trans hsingle
    _ = 2 ^ (single.fractionBits + (2 ^ single.exponentBits - 2) + unitGap) := (pow_add _ _ _).symm

/-- A value that rounds to a single number becomes a double up to the midpoint
above that number. -/
theorem exists_double_ge {v : ℚ} {m y : ℕ} (hm' : m < single.infinity) (hm : single.Rounds v m)
    (hy : double.Rounds (v * 2 ^ unitGap) y) :
    ∃ yu < double.infinity, (double.units yu : ℚ) = single.lower (m + 1) * 2 ^ unitGap ∧ y ≤ yu := by
  obtain ⟨yu, hyu⟩ := exists_double_midpoint m
  have hlt := double_midpoint_lt hm' hyu
  refine ⟨yu, hlt, hyu, hy.le (rounds_units hlt.le) ?_⟩
  rw [hyu]
  gcongr
  exact hm.le_lower_succ hm'

/-- By way of a double, a value that rounds to `m` still does so, unless the
double is the midpoint to one of its neighbours. -/
theorem eq_or_midpoint {v : ℚ} {m y z : ℕ} (hpos : 0 < m) (hm' : m < single.infinity)
    (hm : single.Rounds v m)
    (hy : double.Rounds (v * 2 ^ unitGap) y) (hz : single.Rounds (double.units y / 2 ^ unitGap) z) :
    z = m ∨ ∃ n, (n = m ∨ n + 1 = m) ∧ (double.units y : ℚ) = single.lower (n + 1) * 2 ^ unitGap := by
  have hgap : (0 : ℚ) < 2 ^ unitGap := by positivity
  obtain ⟨n, rfl⟩ := Nat.exists_eq_succ_of_ne_zero hpos.ne'
  obtain ⟨yl, hyl⟩ := exists_double_midpoint n
  obtain ⟨yu, -, hyu, hle⟩ := exists_double_ge hm' hm hy
  have hlow : single.lower (n + 1) ≤ double.units y / 2 ^ unitGap := by
    rw [le_div_iff₀ hgap, ← hyl]
    have hle : yl ≤ y := (rounds_units (double_midpoint_lt (by omega) hyl).le).le hy (by
      rw [hyl]
      gcongr
      exact hm.reaches.le)
    exact_mod_cast units_strictMono.monotone hle
  have hupp : (double.units y : ℚ) / 2 ^ unitGap ≤ single.lower (n + 1 + 1) := by
    rw [div_le_iff₀ hgap, ← hyu]
    exact_mod_cast units_strictMono.monotone hle
  rcases hlow.eq_or_lt with hlow | hlow
  · exact .inr ⟨n, .inr rfl, by rw [hlow, div_mul_cancel₀ _ hgap.ne']⟩
  rcases hupp.eq_or_lt with hupp | hupp
  · exact .inr ⟨n + 1, .inl rfl, by rw [← hupp, div_mul_cancel₀ _ hgap.ne']⟩
  · left
    refine hz.unique ((rounds_iff_of_lt hm').2 ⟨.inl hlow, fun h => ?_⟩)
    exact hupp.not_ge h.le

/-- A double at a midpoint has a spacing finer by 29 bits. -/
theorem binade_le_of_midpoint {n y : ℕ} (hmid : (double.units y : ℚ) = single.lower (n + 1) * 2 ^ unitGap) :
    double.binade y + 29 ≤ single.binade n + unitGap := by
  have hgap : 29 ≤ unitGap := by decide
  rcases two_pow_binade_le (f := double) y with h0 | hle
  · omega
  · have hlt : (2 : ℚ) ^ (double.fractionBits + double.binade y) <
        2 ^ (single.fractionBits + 1 + single.binade n + unitGap) := by
      rw [pow_add _ _ unitGap]
      calc (2 : ℚ) ^ (double.fractionBits + double.binade y) ≤ double.units y := by exact_mod_cast hle
        _ = single.lower (n + 1) * 2 ^ unitGap := hmid
        _ < 2 ^ (single.fractionBits + 1 + single.binade n) * 2 ^ unitGap := by
            gcongr
            exact lower_succ_lt n
    have hexponent := (pow_lt_pow_iff_right₀ (by norm_num : (1 : ℚ) < 2)).1 hlt
    have hsingle : single.fractionBits = 23 := rfl
    have hdouble : double.fractionBits = 52 := rfl
    omega

/-- In that case the value lies close to the midpoint, though not on it. -/
theorem eq_or_near_midpoint {v : ℚ} {m y z : ℕ} (hpos : 0 < m) (hm' : m < single.infinity)
    (hm : single.Rounds v m) (hy : double.Rounds (v * 2 ^ unitGap) y)
    (hz : single.Rounds (double.units y / 2 ^ unitGap) z) :
    z = m ∨ ∃ n < single.infinity, v ≠ single.lower (n + 1) ∧
      |v - single.lower (n + 1)| ≤ 2 ^ single.binade n / 2 ^ 30 := by
  rw [or_iff_not_imp_left]
  intro hne
  obtain ⟨n, hn, hmid⟩ := (eq_or_midpoint hpos hm' hm hy hz).resolve_left hne
  have hn' : n < single.infinity := by omega
  have hgap : (0 : ℚ) < 2 ^ unitGap := by positivity
  refine ⟨n, hn', ?_, ?_⟩
  · -- on the midpoint, no rounding takes place on the way
    rintro rfl
    rw [hmid, mul_div_cancel_right₀ _ hgap.ne'] at hz
    exact hne (hz.unique hm)
  · have hy' := double_midpoint_lt hn' hmid
    have herror := hy.abs_sub_le hy'
    have hbinade := binade_le_of_midpoint hmid
    have hbinade' : (2 : ℚ) ^ double.binade y * 2 ^ 29 ≤ 2 ^ single.binade n * 2 ^ unitGap := by
      rw [← pow_add, ← pow_add]
      exact pow_le_pow_right₀ (by norm_num) hbinade
    rw [hmid, ← sub_mul, abs_mul, abs_of_pos hgap] at herror
    rw [← mul_le_mul_iff_left₀ hgap]
    refine herror.trans ?_
    rw [div_mul_eq_mul_div, le_div_iff₀ (by norm_num)]
    linarith

/-! ### The scan -/

/-- The one magnitude whose text is not read back. The decimal `7.038531e-26`
becomes the midpoint to the next magnitude, which is even, when it is read as a
double. -/
def strayMagnitude : ℕ := 0x15ae43fd

/-- What a magnitude's text is read back as, by way of a double. -/
def reread (m : ℕ) : ℕ := if m = strayMagnitude then m + 1 else m

/-- Whether the decimal `digits * 10 ^ (t - 53)` is read back, unless it is not
the shortest of the magnitude that it rounds to. With nine digits, the first of
them has the weight `10 ^ (t - 45)`. -/
def reads (t digits : ℕ) : Bool :=
  let num := digits * 10 ^ (t - 53)
  let den := 10 ^ (53 - t)
  let m := single.nearest (num * single.one) den
  let y := double.nearest (num * double.one) den
  let z := single.nearest (double.units y * single.one) double.one
  let d := single.searchGrids m (t + 104) (t - 45)
  z == reread m || d.digits * 10 ^ (d.exponent - (t - 53)).toNat != digits

/-- Whether `P` holds of all numbers of nine digits whose multiple by `factor`
lies from `bottom` to `top`, and there close to an odd multiple of half the
`unit`, though not on it. -/
def scansBlock (P : ℕ → Bool) (factor unit bottom top : ℕ) : Bool :=
  let least := max (10 ^ 8) (bottom / factor)
  let greatest := min (10 ^ 9) (top / factor)
  let scan := fun lo hi =>
    Window.clears P (2 ^ 30 * factor) (2 ^ 30 * unit) lo hi 30 least (greatest + 1 - least)
  scan (2 ^ 29 * unit - unit) (2 ^ 29 * unit - 1) && scan (2 ^ 29 * unit + 1) (2 ^ 29 * unit + unit)

theorem scansBlock_sound {P : ℕ → Bool} {factor unit bottom top digits r : ℕ}
    (h : scansBlock P factor unit bottom top = true) (hfactor : 0 < factor) (hunit : 0 < unit)
    (hlow : 10 ^ 8 ≤ digits) (hupp : digits ≤ 10 ^ 9) (hbottom : bottom ≤ factor * digits)
    (htop : factor * digits ≤ top) (hbelow : (2 * r + 1) * 2 ^ 29 * unit ≤ 2 ^ 30 * factor * digits + unit)
    (habove : 2 ^ 30 * factor * digits ≤ (2 * r + 1) * 2 ^ 29 * unit + unit)
    (hne : 2 ^ 30 * factor * digits ≠ (2 * r + 1) * 2 ^ 29 * unit) : P digits = true := by
  rw [scansBlock] at h
  set least := max (10 ^ 8) (bottom / factor) with hleast
  set greatest := min (10 ^ 9) (top / factor) with hgreatest
  have hdigits : least ≤ digits := max_le hlow (Nat.div_le_of_le_mul hbottom)
  have hdigits' : digits ≤ greatest := by
    refine le_min hupp ((Nat.le_div_iff_mul_le hfactor).2 ?_)
    rwa [mul_comm]
  have hmid : (2 * r + 1) * 2 ^ 29 * unit = 2 ^ 30 * unit * r + 2 ^ 29 * unit := by ring
  rw [hmid] at hbelow habove hne
  -- the remainder tells where the number lies between two multiples of the unit
  obtain ⟨rest, hrest⟩ : ∃ rest, 2 ^ 30 * factor * digits = 2 ^ 30 * unit * r + rest :=
    Nat.exists_eq_add_of_le (by omega)
  rw [hrest] at hbelow habove hne
  have hmod : 2 ^ 30 * factor * (least + (digits - least)) % (2 ^ 30 * unit) = rest := by
    rw [Nat.add_sub_cancel' hdigits, hrest, Nat.mul_add_mod, Nat.mod_eq_of_lt (by omega)]
  obtain ⟨hlower, hupper⟩ := Bool.and_eq_true_iff.1 h
  rw [← Nat.add_sub_cancel' hdigits]
  rcases Nat.lt_or_ge rest (2 ^ 29 * unit) with hlt | hge
  · refine Window.clears_sound ?_ hlower ?_ ?_ ?_ <;> omega
  · refine Window.clears_sound ?_ hupper ?_ ?_ ?_ <;> omega

/-- Whether all decimals `digits * 10 ^ (t - 53)` of nine digits that lie close to
a midpoint of the binade `k` are read back. In units of `2 ^ k`, a midpoint is a
number and a half. -/
def scans (t k : ℕ) : Bool :=
  let unit := 2 ^ k * 10 ^ (53 - t)
  let factor := 10 ^ (t - 53) * single.one
  let bottom := if k = 0 then 0 else 2 ^ 23 * unit
  let top := 2 ^ 24 * unit
  top < 10 ^ 8 * factor || 10 ^ 9 * factor < bottom || scansBlock (reads t) factor unit bottom top

theorem all_scans : ((List.range 84).all fun t => (List.range 254).all fun k => scans t k) = true := by
  decide +kernel

theorem reads_of_scans {t k digits r : ℕ} (h : scans t k = true) (hlow : 10 ^ 8 ≤ digits)
    (hupp : digits ≤ 10 ^ 9) (hk : k = 0 ∨ 2 ^ 23 ≤ r) (hr : r < 2 ^ 24) {unit factor : ℕ}
    (hunit : unit = 2 ^ k * 10 ^ (53 - t)) (hfactor : factor = 10 ^ (t - 53) * single.one)
    (hbelow : (2 * r + 1) * 2 ^ 29 * unit ≤ 2 ^ 30 * factor * digits + unit)
    (habove : 2 ^ 30 * factor * digits ≤ (2 * r + 1) * 2 ^ 29 * unit + unit)
    (hne : 2 ^ 30 * factor * digits ≠ (2 * r + 1) * 2 ^ 29 * unit) : reads t digits = true := by
  have hunit_pos : 0 < unit := hunit ▸ by positivity
  have hfactor_pos : 0 < factor := hfactor ▸ Nat.mul_pos (by positivity) one_pos
  have hmid : (2 * r + 1) * 2 ^ 29 * unit = 2 ^ 30 * (r * unit) + 2 ^ 29 * unit := by ring
  have hle : r * unit ≤ factor * digits := by
    rw [hmid, mul_assoc] at hbelow
    omega
  have htop : factor * digits ≤ 2 ^ 24 * unit := by
    have : (r + 1) * unit ≤ 2 ^ 24 * unit := Nat.mul_le_mul_right unit hr
    rw [Nat.add_mul] at this
    rw [hmid, mul_assoc] at habove
    omega
  have hbottom : (if k = 0 then 0 else 2 ^ 23 * unit) ≤ factor * digits := by
    split_ifs with hk0
    · exact Nat.zero_le _
    · exact (Nat.mul_le_mul_right unit (hk.resolve_left hk0)).trans hle
  have hleast : 10 ^ 8 * factor ≤ factor * digits := by
    rw [mul_comm]
    exact Nat.mul_le_mul_left factor hlow
  have hgreatest : factor * digits ≤ 10 ^ 9 * factor := by
    rw [mul_comm]
    exact Nat.mul_le_mul_right factor hupp
  rw [scans, ← hunit, ← hfactor] at h
  simp only [Bool.or_eq_true, decide_eq_true_eq] at h
  have hblock := h.resolve_left (by omega)
  exact scansBlock_sound hblock hfactor_pos hunit_pos hlow hupp hbottom htop hbelow habove hne

end TypedScalar.Floating
