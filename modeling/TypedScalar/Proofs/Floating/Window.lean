import Mathlib.Tactic.Linarith
import Mathlib.Tactic.Ring

/-! Multiples in a window. Which multiples of `a` leave a remainder from `l` to
`r` when divided by `m` is told without trying them all: the first of them is
bounded from below by the recursion of Euclid's algorithm, and a scan leaps from
one bound to the next and tests what stands there. -/

namespace TypedScalar.Floating.Window

/-- A bound from below for the first `x` at which `a * x` leaves a remainder from
`l` to `r` modulo `m`. Where no multiple of `a` itself lies in the window, the
number of times that `m` goes into `a * x` is such an `x` for the remainder of `m`
modulo `a`. -/
def firstHit : ℕ → ℕ → ℕ → ℕ → ℕ → ℕ
  | 0, _, _, _, _ => 0
  | fuel + 1, a, m, l, r =>
    if l = 0 then 0
    else if a = 0 then m
    else if a * ((l + a - 1) / a) ≤ r then (l + a - 1) / a
    else (m * firstHit fuel (m % a) a (a - r % a) (a - l % a) + l + a - 1) / a

/-- A rounded-up quotient is the least factor that reaches the number. -/
theorem ceil_le {a s x : ℕ} (ha : 0 < a) (h : s ≤ a * x) : (s + a - 1) / a ≤ x := by
  rw [← Nat.lt_succ_iff, Nat.div_lt_iff_lt_mul ha, Nat.succ_mul]
  rw [mul_comm] at h
  omega

theorem firstHit_le (fuel : ℕ) {a m l r x y t : ℕ} (h : a * x = m * y + t) (hl : l ≤ t) (hr : t ≤ r) :
    firstHit fuel a m l r ≤ x := by
  induction fuel generalizing a m l r x y t with
  | zero => exact Nat.zero_le x
  | succ fuel ih =>
    rw [firstHit]
    split_ifs with hl0 ha hc
    · exact Nat.zero_le x
    · subst ha
      omega
    · exact ceil_le (Nat.pos_of_ne_zero ha) (by omega)
    · have hpos := Nat.pos_of_ne_zero ha
      -- the window lies between two multiples of `a`
      obtain ⟨c, hc'⟩ : ∃ c, (l + a - 1) / a = c + 1 := by
        refine Nat.exists_eq_succ_of_ne_zero (Nat.div_pos ?_ hpos).ne'
        omega
      have hbelow : a * (c + 1) ≤ l + a - 1 := hc' ▸ Nat.mul_div_le (l + a - 1) a
      rw [hc', not_le] at hc
      rw [Nat.mul_succ] at hbelow hc
      obtain ⟨l', rfl⟩ : ∃ l', l = a * c + l' := Nat.exists_eq_add_of_le (by omega)
      obtain ⟨r', rfl⟩ : ∃ r', r = a * c + r' := Nat.exists_eq_add_of_le (by omega)
      obtain ⟨t', rfl⟩ : ∃ t', t = a * c + t' := Nat.exists_eq_add_of_le (by omega)
      have hl' : (a * c + l') % a = l' := by rw [Nat.mul_add_mod, Nat.mod_eq_of_lt (by omega)]
      have hr' : (a * c + r') % a = r' := by rw [Nat.mul_add_mod, Nat.mod_eq_of_lt (by omega)]
      rw [hl', hr']
      have hsplit : a * x = a * (m / a * y + c) + (m % a * y + t') := by
        rw [h]
        conv => lhs; rw [← Nat.div_add_mod m a]
        ring
      have hlt : m / a * y + c < x := by
        refine Nat.lt_of_mul_lt_mul_left (a := a) ?_
        omega
      obtain ⟨w, rfl⟩ := Nat.exists_eq_add_of_lt hlt
      have hrest : m % a * y = a * w + (a - t') := by
        have : a * (m / a * y + c + w + 1) = a * (m / a * y + c) + a * w + a := by ring
        omega
      refine ceil_le hpos (h ▸ ?_)
      have hy : firstHit fuel (m % a) a (a - r') (a - l') ≤ y := ih hrest (by omega) (by omega)
      have := Nat.mul_le_mul_left m hy
      omega

/-- How far `x` stands from `s` on, where counting starts anew at `m`. -/
def ahead (m s x : ℕ) : ℕ := if s ≤ x then x - s else x + m - s

/-- A window that does not wrap around, seen from `s`. -/
theorem ahead_window {m s t lo hi : ℕ} (hs : s < m) (ht : t < m) (hlow : lo ≤ (s + t) % m)
    (hupp : (s + t) % m ≤ hi)
    (hhi : hi < m) (hwrap : ahead m s lo ≤ ahead m s hi) : ahead m s lo ≤ t ∧ t ≤ ahead m s hi := by
  have hcases : (s + t) % m = s + t ∨ (s + t) % m + m = s + t := by
    rcases Nat.lt_or_ge (s + t) m with hlt | hge
    · exact .inl (Nat.mod_eq_of_lt hlt)
    · rw [Nat.mod_eq_sub_mod hge, Nat.mod_eq_of_lt (by omega)]
      omega
  unfold ahead at hwrap ⊢
  by_cases hslo : s ≤ lo
  · rw [if_pos hslo, if_pos (by omega)]
    omega
  · rw [if_neg hslo] at hwrap ⊢
    by_cases hshi : s ≤ hi
    · rw [if_pos hshi] at hwrap ⊢
      omega
    · rw [if_neg hshi] at hwrap ⊢
      omega

/-- Whether `P` holds of all `x + i` with `i < n` at which `a * (x + i)` leaves a
remainder from `lo` to `hi` modulo `m`; the scan has so many leaps at most. -/
def clears (P : ℕ → Bool) (a m lo hi : ℕ) : ℕ → ℕ → ℕ → Bool
  | 0, _, n => n == 0
  | leaps + 1, x, n =>
    let l := ahead m (a * x % m) lo
    let r := ahead m (a * x % m) hi
    let g := if r < l then 0 else firstHit 100 (a % m) m l r
    n ≤ g || (P (x + g) && clears P a m lo hi leaps (x + g + 1) (n - (g + 1)))

theorem clears_sound {P : ℕ → Bool} {a m lo hi : ℕ} (hm : hi < m) {leaps x n : ℕ}
    (h : clears P a m lo hi leaps x n = true) {i : ℕ} (hn : i < n) (hlow : lo ≤ a * (x + i) % m)
    (hupp : a * (x + i) % m ≤ hi) : P (x + i) = true := by
  induction leaps generalizing x n i with
  | zero =>
    rw [clears, beq_iff_eq] at h
    omega
  | succ leaps ih =>
    rw [clears] at h
    set l := ahead m (a * x % m) lo
    set r := ahead m (a * x % m) hi
    set g := if r < l then 0 else firstHit 100 (a % m) m l r with hg
    have hgi : g ≤ i := by
      rw [hg]
      split_ifs with hwrap
      · exact Nat.zero_le i
      · -- the remainder at `x + i` is the one at `x` and that of `a * i` together
        have hsum : a * (x + i) % m = (a * x % m + a % m * i % m) % m := by
          rw [Nat.mul_add, Nat.mod_mul_mod, ← Nat.add_mod]
        rw [hsum] at hlow hupp
        have hpos : 0 < m := Nat.zero_lt_of_lt hm
        obtain ⟨hl, hr⟩ := ahead_window (Nat.mod_lt _ hpos) (Nat.mod_lt _ hpos) hlow hupp hm (not_lt.1 hwrap)
        exact firstHit_le 100 (Nat.div_add_mod _ _).symm hl hr
    rw [Bool.or_eq_true, decide_eq_true_eq, Bool.and_eq_true] at h
    obtain ⟨hP, hrest⟩ := h.resolve_left (by omega)
    rcases hgi.eq_or_lt with rfl | hlt
    · exact hP
    · obtain ⟨j, rfl⟩ := Nat.exists_eq_add_of_lt hlt
      have hshift : x + g + 1 + j = x + (g + j + 1) := by omega
      rw [← hshift] at hlow hupp ⊢
      exact ih hrest (by omega) hlow hupp

end TypedScalar.Floating.Window
