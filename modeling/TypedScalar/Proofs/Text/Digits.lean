import Mathlib.Data.List.DropRight
import Mathlib.Tactic.Ring
import TypedScalar.Floating.Text
import TypedScalar.Text.Numeral

/-! ASCII digits. The decimal text of a number is made of them, starts with a zero
only if it is that of zero, and is as short as the number is small; reading it
gives the number back. -/

namespace TypedScalar.Text

theorem isAsciiDigit_iff {c : Char} : isAsciiDigit c = true ↔ 48 ≤ c.toNat ∧ c.toNat ≤ 57 := by
  simp [isAsciiDigit]

theorem isAsciiDigit_eq_isDigit (c : Char) : isAsciiDigit c = c.isDigit := by
  rw [Bool.eq_iff_iff, isAsciiDigit_iff, Char.isDigit, Bool.and_eq_true, decide_eq_true_eq, decide_eq_true_eq]
  exact Iff.rfl

/-- The digits of ASCII are those of the first run. -/
theorem digitValue?_of_isAsciiDigit {c : Char} (h : isAsciiDigit c = true) :
    digitValue? c = some (asciiDigitValue c) := by
  rw [isAsciiDigit_iff] at h
  rw [digitValue?, zeros, List.find?_cons_of_pos (by simp; omega)]
  rfl

theorem isAsciiDigit.ne {c d : Char} (h : isAsciiDigit c = true) (hd : isAsciiDigit d = false) : c ≠ d := by
  rintro rfl
  exact Bool.false_ne_true (hd.symm.trans h)

/-- Blanks are no digits. -/
theorem isBlank_of_isAsciiDigit {c : Char} (h : isAsciiDigit c = true) : isBlank c = false := by
  rw [isAsciiDigit_iff] at h
  simp only [isBlank, within, blanks, List.any_cons, List.any_nil, Bool.or_false, Bool.or_eq_false_iff,
    Bool.and_eq_false_iff, decide_eq_false_iff_not]
  omega

theorem natOfAscii_eq (ds : List Char) : natOfAscii ds = Nat.ofDigitChars 10 ds 0 := by
  rw [natOfAscii, natOfDigits, List.foldl_map, Nat.ofDigitChars_eq_foldl]
  rfl

theorem natOfAscii_append (as bs : List Char) :
    natOfAscii (as ++ bs) = natOfAscii as * 10 ^ bs.length + natOfAscii bs := by
  simp only [natOfAscii_eq]
  rw [Nat.ofDigitChars_append, Nat.ofDigitChars_eq_ofDigitChars_zero, mul_comm]

theorem natOfAscii_singleton (c : Char) : natOfAscii [c] = asciiDigitValue c := by
  simp [natOfAscii, natOfDigits]

theorem asciiDigitValue_lt {c : Char} (h : isAsciiDigit c = true) : asciiDigitValue c < 10 := by
  rw [isAsciiDigit_iff] at h
  rw [asciiDigitValue]
  omega

/-- A run of digits is as small a number as it is short. -/
theorem natOfAscii_lt {ds : List Char} (h : ∀ c ∈ ds, isAsciiDigit c = true) : natOfAscii ds < 10 ^ ds.length := by
  induction ds with
  | nil => exact Nat.one_pos
  | cons c ds ih =>
    rw [List.forall_mem_cons] at h
    have hc := asciiDigitValue_lt h.1
    have hds := ih h.2
    calc natOfAscii (c :: ds) = asciiDigitValue c * 10 ^ ds.length + natOfAscii ds := by
          rw [← natOfAscii_singleton]
          exact natOfAscii_append [c] ds
      _ < asciiDigitValue c * 10 ^ ds.length + 10 ^ ds.length := by omega
      _ = (asciiDigitValue c + 1) * 10 ^ ds.length := by ring
      _ ≤ 10 * 10 ^ ds.length := Nat.mul_le_mul_right _ hc
      _ = 10 ^ (c :: ds).length := by rw [List.length_cons, pow_succ, mul_comm]

@[simp] theorem natOfAscii_replicate_zero (n : ℕ) : natOfAscii (List.replicate n '0') = 0 := by
  simp [natOfAscii_eq]

/-- Zeros in front do not count, and each zero behind multiplies by ten. -/
theorem natOfAscii_padded (a b : ℕ) (ds : List Char) :
    natOfAscii (List.replicate a '0' ++ ds ++ List.replicate b '0') = natOfAscii ds * 10 ^ b := by
  simp [natOfAscii_append]

end TypedScalar.Text

namespace TypedScalar.Floating

open Text

theorem decimalDigits_eq (n : ℕ) : decimalDigits n = Nat.toDigits 10 n := Nat.toList_repr

theorem isAsciiDigit_of_mem_decimalDigits {n : ℕ} {c : Char} (h : c ∈ decimalDigits n) :
    isAsciiDigit c = true := by
  rw [isAsciiDigit_eq_isDigit]
  exact Nat.isDigit_of_mem_toDigits (by norm_num) le_rfl (decimalDigits_eq n ▸ h)

theorem decimalDigits_ne_nil (n : ℕ) : decimalDigits n ≠ [] := by
  rw [decimalDigits_eq]
  exact Nat.toDigits_ne_nil

@[simp] theorem natOfAscii_decimalDigits (n : ℕ) : natOfAscii (decimalDigits n) = n := by
  rw [natOfAscii_eq, decimalDigits_eq, Nat.ofDigitChars_ten_toDigits]

theorem length_decimalDigits_le {n s : ℕ} (hs : 0 < s) (h : n < 10 ^ s) : (decimalDigits n).length ≤ s := by
  rw [decimalDigits_eq]
  exact (Nat.length_toDigits_le_iff (by norm_num) hs).2 h

/-- Only zero is written with a zero in front. -/
theorem head_decimalDigits_ne_zero {n : ℕ} (h : 0 < n) :
    ∃ c rest, decimalDigits n = c :: rest ∧ c ≠ '0' := by
  induction n using Nat.strong_induction_on with
  | _ n ih =>
    rw [decimalDigits_eq]
    rcases Nat.lt_or_ge n 10 with hlt | hge
    · exact ⟨n.digitChar, [], Nat.toDigits_of_lt_base hlt, by simpa using h.ne'⟩
    · obtain ⟨c, rest, heq, hc⟩ := ih (n / 10) (by omega) (by omega)
      rw [decimalDigits_eq] at heq
      exact ⟨c, rest ++ [(n % 10).digitChar], by rw [Nat.toDigits_of_base_le (by norm_num) hge, heq]; rfl, hc⟩

/-! ### Digits without the zeros behind them -/

theorem significant_eq (ds : List Char) : significant ds = ds.rdropWhile (· == '0') := rfl

theorem significant_append_zeros (ds : List Char) : ∃ b, ds = significant ds ++ List.replicate b '0' := by
  refine ⟨(ds.rtakeWhile (· == '0')).length, ?_⟩
  have hzeros : ds.rtakeWhile (· == '0') = List.replicate (ds.rtakeWhile (· == '0')).length '0' :=
    List.eq_replicate_iff.2 ⟨rfl, fun c hc => by simpa using List.mem_rtakeWhile_imp hc⟩
  rw [← hzeros, significant_eq, List.rdropWhile_append_rtakeWhile]

theorem length_significant_le (ds : List Char) : (significant ds).length ≤ ds.length := by
  obtain ⟨b, hb⟩ := significant_append_zeros ds
  conv => rhs; rw [hb]
  simp

theorem mem_of_mem_significant {ds : List Char} {c : Char} (h : c ∈ significant ds) : c ∈ ds := by
  obtain ⟨b, hb⟩ := significant_append_zeros ds
  rw [hb]
  exact List.mem_append_left _ h

/-- The digits of a positive number, up to the last one that counts, neither start
nor end with a zero. -/
theorem significant_decimalDigits {n : ℕ} (h : 0 < n) :
    (∃ c rest, significant (decimalDigits n) = c :: rest ∧ c ≠ '0') ∧
      ∃ init c, significant (decimalDigits n) = init ++ [c] ∧ c ≠ '0' := by
  obtain ⟨c, rest, heq, hc⟩ := head_decimalDigits_ne_zero h
  obtain ⟨b, hb⟩ := significant_append_zeros (decimalDigits n)
  have hne : significant (decimalDigits n) ≠ [] := by
    intro hnil
    rw [hnil, List.nil_append, heq] at hb
    have := List.eq_of_mem_replicate (hb ▸ List.mem_cons_self : c ∈ List.replicate b '0')
    exact hc this
  constructor
  · obtain ⟨c', rest', heq'⟩ := List.exists_cons_of_ne_nil hne
    rw [heq', heq] at hb
    exact ⟨c', rest', heq', by rwa [← (List.cons_eq_cons.1 hb).1]⟩
  · refine ⟨_, _, (List.dropLast_append_getLast hne).symm, ?_⟩
    exact fun h => List.rdropWhile_last_not (· == '0') (decimalDigits n) hne (beq_iff_eq.2 h)

/-- A power of ten has one digit that counts. -/
theorem significant_decimalDigits_pow (n : ℕ) : significant (decimalDigits (10 ^ n)) = ['1'] := by
  induction n with
  | zero => decide
  | succ n ih =>
    have hge : 10 ≤ 10 ^ (n + 1) := by
      calc 10 = 10 ^ 1 := by norm_num
        _ ≤ 10 ^ (n + 1) := Nat.pow_le_pow_right (by norm_num) (by omega)
    have hdiv : 10 ^ (n + 1) / 10 = 10 ^ n := by
      rw [pow_succ, Nat.mul_div_cancel _ (by norm_num)]
    have hmod : 10 ^ (n + 1) % 10 = 0 := by
      rw [pow_succ, Nat.mul_mod_left]
    rw [decimalDigits_eq, Nat.toDigits_of_base_le (by norm_num) hge, hdiv, hmod, ← decimalDigits_eq,
      significant_eq]
    rw [significant_eq] at ih
    rw [List.rdropWhile_concat_pos _ _ _ (by decide), ih]

end TypedScalar.Floating
