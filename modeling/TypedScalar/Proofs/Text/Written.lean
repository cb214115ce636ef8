import TypedScalar.Floating.Numeral
import TypedScalar.Proofs.Text.Blank
import TypedScalar.Proofs.Text.Runs

/-! Decimals as values are written: ASCII digits, perhaps with a point and more
digits, perhaps with a signed power of ten behind an `e`. The reader of numerals
and the test for what looks numeric differ only in how they read a run of digits;
either of them takes a decimal of this form apart into its digits and its
exponent. -/

namespace TypedScalar.Text

/-- Reads a run of ASCII digits to its end. -/
def ReadsDigits (run : List Char → List ℕ × List Char) : Prop :=
  ∀ ds rest, (∀ c ∈ ds, isAsciiDigit c = true) → Stops rest → run (ds ++ rest) = (ds.map asciiDigitValue, rest)

theorem readsDigits_plainRun : ReadsDigits plainRun := by
  intro ds rest hds hrest
  induction ds with
  | nil =>
    cases rest with
    | nil => rfl
    | cons c t => simp [plainRun, (hrest c rfl).1]
  | cons c t ih =>
    rw [List.forall_mem_cons] at hds
    simp [plainRun, digitValue?_of_isAsciiDigit hds.1, ih hds.2]

theorem readsDigits_joinedRun : ReadsDigits joinedRun := by
  intro ds rest hds hrest
  by_cases hne : ds = []
  · subst hne
    exact joinedRun_of_stops hrest
  · exact (digitRun_of_isAsciiDigit hds hne).joinedRun_append hrest

/-- A decimal as values are written. -/
structure Written where
  whole : List Char
  fraction : Option (List Char)
  /-- The sign and the digits of the power of ten. -/
  power : Option (Bool × List Char)
  whole_ne_nil : whole ≠ []
  whole_digits : ∀ c ∈ whole, isAsciiDigit c = true
  fraction_digits : ∀ ds ∈ fraction, ∀ c ∈ ds, isAsciiDigit c = true
  power_digits : ∀ p ∈ power, p.2 ≠ [] ∧ ∀ c ∈ p.2, isAsciiDigit c = true

namespace Written

def fractionText (w : Written) : List Char := w.fraction.elim [] ('.' :: ·)

def powerText (w : Written) : List Char := w.power.elim [] fun p => 'e' :: (if p.1 then '-' else '+') :: p.2

def text (w : Written) : List Char := w.whole ++ (w.fractionText ++ w.powerText)

/-- All digits but those of the power. -/
def digits (w : Written) : List Char := w.whole ++ w.fraction.getD []

def exponent (w : Written) : ℤ :=
  w.power.elim 0 (fun p => withSign p.1 (natOfAscii p.2)) - (w.fraction.getD []).length

variable (w : Written)

theorem stops_powerText : Stops w.powerText := by
  unfold powerText
  cases w.power with
  | none => exact stops_nil
  | some p => exact stops_cons _ (by decide) (by decide)

theorem stops_rest : Stops (w.fractionText ++ w.powerText) := by
  unfold fractionText
  cases w.fraction with
  | none => exact w.stops_powerText
  | some ds => exact stops_cons _ (by decide) (by decide)

theorem fraction_read {run : List Char → List ℕ × List Char} (hrun : ReadsDigits run) :
    fractionPart run (w.fractionText ++ w.powerText) =
      ((w.fraction.getD []).map asciiDigitValue, w.powerText) := by
  unfold fractionText
  cases hf : w.fraction with
  | some ds => exact hrun ds _ (w.fraction_digits ds hf) w.stops_powerText
  | none =>
    unfold powerText
    cases w.power with
    | none => rfl
    | some p => rfl

theorem power_read {run : List Char → List ℕ × List Char} (hrun : ReadsDigits run) :
    exponentPart? run w.powerText = some (w.power.elim 0 fun p => withSign p.1 (natOfAscii p.2)) := by
  unfold powerText
  cases hp : w.power with
  | none => rfl
  | some p =>
    obtain ⟨hne, hds⟩ := w.power_digits p hp
    obtain ⟨c, t, ht⟩ := List.exists_cons_of_ne_nil hne
    have hread : run p.2 = (p.2.map asciiDigitValue, []) := by
      simpa using hrun p.2 [] hds stops_nil
    have hsign : takeSign ((if p.1 then '-' else '+') :: p.2) = (p.1, p.2) := by
      cases p.1 <;> rfl
    simp only [Option.elim_some, exponentPart?, true_or, ↓reduceIte, hsign, hread]
    rw [ht]
    rfl

/-- Reading takes a written decimal apart. -/
theorem decimal?_text {run : List Char → List ℕ × List Char} (hrun : ReadsDigits run) :
    decimal? run w.text = some (natOfAscii w.digits, w.exponent) := by
  have hwhole := hrun w.whole _ w.whole_digits w.stops_rest
  have hne : (w.whole.map asciiDigitValue).isEmpty = false := by
    simpa [List.isEmpty_eq_false_iff] using w.whole_ne_nil
  simp only [decimal?, text, hwhole, w.fraction_read hrun, hne, Bool.false_and, Bool.false_eq_true, ↓reduceIte,
    w.power_read hrun, Option.map_some, List.length_map, natOfAscii, digits, exponent, List.map_append]

/-- What a written decimal, possibly with a minus, is made of. -/
theorem mem_text {c : Char} (h : c ∈ w.text) : isAsciiDigit c = true ∨ c ∈ ['.', 'e', '-', '+'] := by
  simp only [text, fractionText, powerText, List.mem_append] at h
  rcases h with h | h | h
  · exact .inl (w.whole_digits c h)
  · cases hf : w.fraction with
    | none => simp [hf] at h
    | some ds =>
      simp only [hf, Option.elim_some, List.mem_cons] at h
      rcases h with rfl | h
      · exact .inr (by simp)
      · exact .inl (w.fraction_digits ds hf c h)
  · cases hp : w.power with
    | none => simp [hp] at h
    | some p =>
      simp only [hp, Option.elim_some, List.mem_cons] at h
      rcases h with rfl | rfl | h
      · exact .inr (by simp)
      · exact .inr (by cases p.1 <;> simp)
      · exact .inl ((w.power_digits p hp).2 c h)

theorem isBlank_of_mem_text {c : Char} (h : c ∈ w.text) : isBlank c = false := by
  rcases w.mem_text h with h | h
  · exact isBlank_of_isAsciiDigit h
  · simp only [List.mem_cons, List.not_mem_nil, or_false] at h
    rcases h with rfl | rfl | rfl | rfl <;> decide

theorem text_eq_cons : ∃ c t, w.text = c :: t ∧ isAsciiDigit c = true := by
  obtain ⟨c, t, ht⟩ := List.exists_cons_of_ne_nil w.whole_ne_nil
  exact ⟨c, t ++ (w.fractionText ++ w.powerText), by rw [text, ht, List.cons_append],
    w.whole_digits c (ht ▸ List.mem_cons_self)⟩

/-- A natural number as it is written. -/
def ofNat (n : ℕ) : Written :=
  ⟨Floating.decimalDigits n, none, none, Floating.decimalDigits_ne_nil n,
    fun _ => Floating.isAsciiDigit_of_mem_decimalDigits, by simp, by simp⟩

@[simp] theorem text_ofNat (n : ℕ) : (ofNat n).text = Floating.decimalDigits n := by
  simp [ofNat, text, fractionText, powerText]

end Written

/-! ### Signs and blanks around a decimal -/

/-- A minus or nothing in front. -/
def signed (negative : Bool) (s : List Char) : List Char := (if negative then ['-'] else []) ++ s

theorem isBlank_of_mem_signed {negative : Bool} {w : Written} {c : Char} (h : c ∈ signed negative w.text) :
    isBlank c = false := by
  rw [signed, List.mem_append] at h
  rcases h with h | h
  · cases negative
    · simp at h
    · rw [List.mem_singleton.1 h]
      decide
  · exact w.isBlank_of_mem_text h

theorem takeSign_signed (negative : Bool) (w : Written) :
    takeSign (signed negative w.text) = (negative, w.text) := by
  cases negative
  · obtain ⟨c, t, ht, hc⟩ := w.text_eq_cons
    have h₁ : c ≠ '-' := isAsciiDigit.ne hc (by decide)
    have h₂ : c ≠ '+' := isAsciiDigit.ne hc (by decide)
    simp [signed, ht, takeSign, h₁, h₂]
  · rfl

theorem toLower_of_isAsciiDigit {c : Char} (h : isAsciiDigit c = true) : c.toLower = c := by
  rw [isAsciiDigit_iff] at h
  unfold Char.toLower
  rw [dif_neg]
  rintro ⟨hA, -⟩
  have : 65 ≤ c.toNat := UInt32.le_iff_toNat_le.1 hA
  omega

theorem spells_text {word : String} {c : Char} {rest : List Char} (hw : word.toList = c :: rest)
    (hc : isAsciiDigit c = false) (w : Written) : spells word w.text = false := by
  obtain ⟨d, t, ht, hd⟩ := w.text_eq_cons
  rw [spells, ht, hw, List.map_cons, toLower_of_isAsciiDigit hd]
  simp [isAsciiDigit.ne hd hc]

/-- The reader of numerals reads a written decimal as its digits and its exponent. -/
theorem read?_signed (negative : Bool) (w : Written) :
    Numeral.read? (signed negative w.text) = some (.decimal negative (natOfAscii w.digits) w.exponent) := by
  have htrim : trimBoth isNumeralBlank (signed negative w.text) = signed negative w.text :=
    trimBoth_eq_self fun c hc => Bool.eq_false_iff.2 fun hb =>
      Bool.false_ne_true ((isBlank_of_mem_signed hc).symm.trans (isBlank_of_isNumeralBlank hb))
  have hnan : spells "nan" w.text = false := spells_text rfl (by decide) w
  have hinf : spells "inf" w.text = false := spells_text rfl (by decide) w
  have hinfinity : spells "infinity" w.text = false := spells_text rfl (by decide) w
  simp [Numeral.read?, htrim, takeSign_signed, hnan, hinf, hinfinity, w.decimal?_text readsDigits_joinedRun]

/-- Integers are written as decimals without a point. -/
theorem toList_toString (n : ℤ) :
    (toString n).toList = signed (decide (n < 0)) (Floating.decimalDigits n.natAbs) := by
  cases n with
  | ofNat m => rfl
  | negSucc m => simp [signed, ToString.toString, Int.repr, Floating.decimalDigits]

end TypedScalar.Text
