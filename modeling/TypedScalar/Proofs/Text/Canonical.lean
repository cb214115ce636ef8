import TypedScalar.Proofs.Text.Written

/-! The canonical texts of integers: a zero, or digits of which the first is no zero,
possibly with a minus. They are exactly the texts that integers are written as, so
that each integer has one. -/

namespace TypedScalar.Text

open Floating (decimalDigits)

/-- The canonical texts, each with the integer it stands for. -/
inductive Canonical : List Char → ℤ → Prop
  | zero : Canonical ['0'] 0
  | signed (negative : Bool) {c : Char} {ds : List Char} (hc : isAsciiDigit c = true) (hne : c ≠ '0')
    (hds : ∀ d ∈ ds, isAsciiDigit d = true) :
    Canonical (signed negative (c :: ds)) (withSign negative (natOfAscii (c :: ds)))

theorem natAbs_withSign (negative : Bool) (m : ℕ) : (withSign negative m).natAbs = m := by
  cases negative <;> simp [withSign]

theorem decide_withSign_neg (negative : Bool) {m : ℕ} (h : 0 < m) :
    decide (withSign negative m < 0) = negative := by
  cases negative <;> simp [withSign, h]

theorem withSign_natAbs (n : ℤ) : withSign (decide (n < 0)) n.natAbs = n := by
  rw [withSign]
  split_ifs with h
  · have hneg : n < 0 := of_decide_eq_true h
    omega
  · have hpos : ¬n < 0 := of_decide_eq_false (Bool.eq_false_iff.2 h)
    omega

theorem digitChar_asciiDigitValue {c : Char} (h : isAsciiDigit c = true) :
    (asciiDigitValue c).digitChar = c := by
  rw [isAsciiDigit_iff] at h
  have hlt : asciiDigitValue c < 10 := by
    rw [asciiDigitValue]
    omega
  apply Char.toNat_inj.1
  rw [Nat.toNat_digitChar_of_lt_ten hlt, asciiDigitValue]
  omega

theorem asciiDigitValue_pos {c : Char} (h : isAsciiDigit c = true) (hne : c ≠ '0') :
    0 < asciiDigitValue c := by
  rw [isAsciiDigit_iff] at h
  have hzero : c.toNat ≠ 48 := fun heq => hne (Char.toNat_inj.1 heq)
  rw [asciiDigitValue]
  omega

/-- Digits that do not start with a zero are those of their value. -/
theorem decimalDigits_natOfAscii {c : Char} {ds : List Char} (hc : isAsciiDigit c = true) (hne : c ≠ '0')
    (hds : ∀ d ∈ ds, isAsciiDigit d = true) :
    0 < natOfAscii (c :: ds) ∧ decimalDigits (natOfAscii (c :: ds)) = c :: ds := by
  simp only [Floating.decimalDigits_eq]
  -- from the right, as a number is written with its last digit behind those of its tenth
  induction ds using List.reverseRecOn with
  | nil =>
    rw [natOfAscii_singleton, Nat.toDigits_of_lt_base (asciiDigitValue_lt hc), digitChar_asciiDigitValue hc]
    exact ⟨asciiDigitValue_pos hc hne, rfl⟩
  | append_singleton ds d ih =>
    obtain ⟨hpos, hdigits⟩ := ih fun d hd => hds d (List.mem_append_left _ hd)
    have hd : isAsciiDigit d = true := hds d (by simp)
    have hvalue : natOfAscii (c :: (ds ++ [d])) = 10 * natOfAscii (c :: ds) + asciiDigitValue d := by
      rw [← List.cons_append, natOfAscii_append, natOfAscii_singleton, List.length_singleton, pow_one,
        mul_comm]
    refine ⟨by omega, ?_⟩
    rw [hvalue, ← Nat.toDigits_append_toDigits (by norm_num) hpos (asciiDigitValue_lt hd), hdigits,
      Nat.toDigits_of_lt_base (asciiDigitValue_lt hd), digitChar_asciiDigitValue hd]
    rfl

/-- The canonical texts are those that integers are written as. -/
theorem canonical_iff {s : List Char} {n : ℤ} : Canonical s n ↔ s = (toString n).toList := by
  rw [toList_toString]
  constructor
  · intro h
    cases h with
    | zero => decide
    | @signed negative c ds hc hne hds =>
      obtain ⟨hpos, hdigits⟩ := decimalDigits_natOfAscii hc hne hds
      rw [natAbs_withSign, decide_withSign_neg negative hpos, hdigits]
  · rintro rfl
    rcases eq_or_ne n 0 with rfl | hn
    · exact .zero
    · obtain ⟨c, ds, hdigits, hc⟩ := Floating.head_decimalDigits_ne_zero (Int.natAbs_pos.2 hn)
      have hall : ∀ d ∈ c :: ds, isAsciiDigit d = true := fun d hd =>
        Floating.isAsciiDigit_of_mem_decimalDigits (hdigits ▸ hd)
      rw [List.forall_mem_cons] at hall
      have hcanonical := Canonical.signed (decide (n < 0)) hall.1 hc hall.2
      rw [← hdigits, Floating.natOfAscii_decimalDigits] at hcanonical
      rwa [withSign_natAbs] at hcanonical

/-- The reader of integers takes the text of one apart. -/
theorem integerDigits?_toString (n : ℤ) :
    integerDigits? (toString n).toList = some (decide (n < 0), decimalDigits n.natAbs) := by
  have hall : (decimalDigits n.natAbs).all isAsciiDigit = true :=
    List.all_eq_true.2 fun c => Floating.isAsciiDigit_of_mem_decimalDigits
  rw [toList_toString, ← Written.text_ofNat, integerDigits?, takeSign_signed]
  simp [hall, Floating.decimalDigits_ne_nil]

end TypedScalar.Text
