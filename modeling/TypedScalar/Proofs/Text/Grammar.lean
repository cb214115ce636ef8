import Mathlib.Tactic.FieldSimp
import TypedScalar.Proofs.Text.Numeral

/-! The grammar of numerals, and that the readers read it: what follows from it they accept, with its exact
value, and what they accept follows from it. The readers take the longest run of digits they find; that none
is lost by this is because no run is followed by a digit or by an underscore. -/

namespace TypedScalar.Text

variable {s t body rest : List Char} {ds fs : List ℕ} {c : Char} {negative : Bool} {e : ℤ} {v : ℚ}

/-! ### Signs -/

/-- A sign, or none, and what stands behind it. -/
inductive Signed : List Char → Bool → List Char → Prop
  | bare (body : List Char) : Signed body false body
  | plus (body : List Char) : Signed ('+' :: body) false body
  | minus (body : List Char) : Signed ('-' :: body) true body

theorem signed_takeSign (s : List Char) : Signed s (takeSign s).1 (takeSign s).2 := by
  unfold takeSign
  split
  · exact .minus _
  · exact .plus _
  · exact .bare _

/-- What does not start with a sign. -/
def Unsigned (s : List Char) : Prop := ∀ c ∈ s.head?, c ≠ '-' ∧ c ≠ '+'

theorem Signed.takeSign_eq (h : Signed s negative body) (hbody : Unsigned body) :
    takeSign s = (negative, body) := by
  cases h with
  | plus | minus => rfl
  | bare =>
    unfold takeSign
    split
    · exact absurd rfl (hbody '-' rfl).1
    · exact absurd rfl (hbody '+' rfl).2
    · rfl

theorem unsigned_cons (h : c ≠ '-' ∧ c ≠ '+') (s : List Char) : Unsigned (c :: s) := by
  intro d hd
  obtain rfl : c = d := by simpa using hd
  exact h

/-! ### Integers -/

/-- An integer numeral: ASCII digits, at least one, that may have a sign. -/
structure IntegerNumeral (s : List Char) (negative : Bool) (digits : List Char) : Prop where
  signed : Signed s negative digits
  ne_nil : digits ≠ []
  isAsciiDigit : ∀ c ∈ digits, isAsciiDigit c = true

theorem unsigned_of_isAsciiDigit {ds : List Char} (h : ∀ c ∈ ds, isAsciiDigit c = true) : Unsigned ds := by
  intro c hc
  have hdigit := h c (List.mem_of_mem_head? hc)
  exact ⟨isAsciiDigit.ne hdigit rfl, isAsciiDigit.ne hdigit rfl⟩

theorem integerDigits?_eq_some_iff {ds : List Char} :
    integerDigits? s = some (negative, ds) ↔ IntegerNumeral s negative ds := by
  constructor
  · intro h
    have hsigned := signed_takeSign s
    simp only [integerDigits?] at h
    split_ifs at h with hds
    obtain ⟨hnegative, hdigits⟩ := Prod.mk.inj (Option.some.inj h)
    rw [hnegative, hdigits] at hsigned
    rw [hdigits, Bool.and_eq_true, List.all_eq_true] at hds
    exact ⟨hsigned, by simpa using hds.1, hds.2⟩
  · rintro ⟨hsigned, hne, hdigits⟩
    rw [integerDigits?, hsigned.takeSign_eq (unsigned_of_isAsciiDigit hdigits)]
    refine if_pos ?_
    rw [Bool.and_eq_true, List.all_eq_true]
    exact ⟨by simpa using hne, hdigits⟩

/-- A text is one integer numeral at most. -/
theorem IntegerNumeral.unique {negative' : Bool} {ds ds' : List Char} (h : IntegerNumeral s negative ds)
    (h' : IntegerNumeral s negative' ds') : negative = negative' ∧ ds = ds' := by
  rw [← integerDigits?_eq_some_iff] at h h'
  exact Prod.mk.inj (Option.some.inj (h.symm.trans h'))

/-! ### Decimals -/

/-- The digits of a decimal before and behind its point, which may be missing behind them. At least one digit
stands on either side. -/
inductive Mantissa : List Char → List ℕ → List ℕ → Prop
  | whole {s : List Char} {ds : List ℕ} (h : DigitRun s ds) : Mantissa s ds []
  | point {s : List Char} {ds : List ℕ} (h : DigitRun s ds) : Mantissa (s ++ ['.']) ds []
  | fraction {t : List Char} {fs : List ℕ} (h : DigitRun t fs) : Mantissa ('.' :: t) [] fs
  | both {s t : List Char} {ds fs : List ℕ} (h : DigitRun s ds) (h' : DigitRun t fs) :
    Mantissa (s ++ '.' :: t) ds fs

/-- The power of ten that may follow. -/
inductive Power : List Char → ℤ → Prop
  | absent : Power [] 0
  | letter {c : Char} {t s : List Char} {negative : Bool} {ds : List ℕ} (hc : c = 'e' ∨ c = 'E')
    (hsign : Signed t negative s) (h : DigitRun s ds) : Power (c :: t) (withSign negative (natOfDigits ds))

/-- A decimal without a sign, and its exact value. -/
inductive DecimalNumeral : List Char → ℚ → Prop
  | intro {s t : List Char} {ds fs : List ℕ} {e : ℤ} (hs : Mantissa s ds fs) (ht : Power t e) :
    DecimalNumeral (s ++ t) ((natOfDigits ds + natOfDigits fs / 10 ^ fs.length) * 10 ^ e)

theorem natOfDigits_append (as bs : List ℕ) :
    natOfDigits (as ++ bs) = natOfDigits as * 10 ^ bs.length + natOfDigits bs := by
  induction bs using List.reverseRecOn with
  | nil => simp [natOfDigits]
  | append_singleton bs b ih =>
    have hsnoc (cs : List ℕ) : natOfDigits (cs ++ [b]) = 10 * natOfDigits cs + b := by
      simp [natOfDigits]
    rw [← List.append_assoc, hsnoc, hsnoc, ih, List.length_append, List.length_singleton, pow_succ]
    ring

theorem DigitRun.unsigned (h : DigitRun s ds) : Unsigned s := by
  cases h with
  | intro hc h => exact unsigned_cons ⟨ne_of_digitValue? hc (by decide), ne_of_digitValue? hc (by decide)⟩ _

theorem Power.stops (h : Power t e) : Stops t := by
  cases h with
  | absent => exact stops_nil
  | letter hc =>
    rcases hc with rfl | rfl <;> exact stops_cons _ (by decide) (by decide)

theorem Power.exponentPart? (h : Power t e) : exponentPart? joinedRun t = some e := by
  cases h with
  | absent => rfl
  | letter hc hsign h =>
    obtain ⟨d, ds, rfl⟩ := List.exists_cons_of_ne_nil h.ne_nil
    have hread := h.joinedRun_append stops_nil
    rw [List.append_nil] at hread
    simp only [Text.exponentPart?, if_pos hc, hsign.takeSign_eq h.unsigned, hread]

theorem Power.fractionPart (h : Power t e) : fractionPart joinedRun t = ([], t) := by
  cases h with
  | absent => rfl
  | letter hc => rcases hc with rfl | rfl <;> rfl

theorem Mantissa.joinedRun_append (h : Mantissa s ds fs) (ht : Power t e) :
    ∃ rest, joinedRun (s ++ t) = (ds, rest) ∧ Text.fractionPart joinedRun rest = (fs, t) := by
  have hpoint (u : List Char) : Stops ('.' :: u) := stops_cons u (by decide) (by decide)
  cases h with
  | whole h => exact ⟨t, h.joinedRun_append ht.stops, ht.fractionPart⟩
  | point h =>
    rw [List.append_assoc]
    exact ⟨_, h.joinedRun_append (hpoint t), joinedRun_of_stops ht.stops⟩
  | fraction h => exact ⟨_, joinedRun_of_stops (hpoint _), h.joinedRun_append ht.stops⟩
  | both h h' =>
    rw [List.append_assoc]
    exact ⟨_, h.joinedRun_append (hpoint _), h'.joinedRun_append ht.stops⟩

theorem DigitRun.exists_cons (h : DigitRun s ds) : ∃ c rest, s = c :: rest ∧ isDigit c = true := by
  cases h with
  | intro hc h => exact ⟨_, _, rfl, by rw [isDigit, hc]; rfl⟩

theorem Mantissa.exists_cons (h : Mantissa s ds fs) :
    ∃ c rest, s = c :: rest ∧ (isDigit c = true ∨ c = '.') := by
  cases h with
  | whole h =>
    obtain ⟨c, rest, rfl, hc⟩ := h.exists_cons
    exact ⟨c, rest, rfl, .inl hc⟩
  | point h | both h =>
    obtain ⟨c, rest, rfl, hc⟩ := h.exists_cons
    exact ⟨c, _, rfl, .inl hc⟩
  | fraction h => exact ⟨_, _, rfl, .inr rfl⟩

/-- A decimal starts with a digit or the point. -/
theorem DecimalNumeral.exists_cons (h : DecimalNumeral s v) :
    ∃ c rest, s = c :: rest ∧ (isDigit c = true ∨ c = '.') := by
  cases h with
  | intro hs ht =>
    obtain ⟨c, rest, rfl, hc⟩ := hs.exists_cons
    exact ⟨c, _, rfl, hc⟩

theorem DecimalNumeral.unsigned (h : DecimalNumeral s v) : Unsigned s := by
  obtain ⟨c, rest, rfl, hdigit | rfl⟩ := h.exists_cons
  · obtain ⟨d, hd⟩ := Option.isSome_iff_exists.1 hdigit
    exact unsigned_cons ⟨ne_of_digitValue? hd (by decide), ne_of_digitValue? hd (by decide)⟩ rest
  · exact unsigned_cons ⟨by decide, by decide⟩ rest

theorem Mantissa.ne_nil (h : Mantissa s ds fs) : ds ≠ [] ∨ fs ≠ [] := by
  cases h with
  | whole h | point h | both h => exact .inl h.ne_nil
  | fraction h => exact .inr h.ne_nil

theorem value_eq (ds fs : List ℕ) (e : ℤ) :
    (natOfDigits ds + natOfDigits fs / 10 ^ fs.length : ℚ) * 10 ^ e =
      natOfDigits (ds ++ fs) * 10 ^ (e - fs.length) := by
  rw [natOfDigits_append, zpow_sub₀ (by norm_num), zpow_natCast]
  push_cast
  field_simp

/-! ### Reading decimals -/

/-- A decimal of the grammar is read, with its value. -/
theorem DecimalNumeral.exists_decimal? (h : DecimalNumeral s v) :
    ∃ c e, decimal? joinedRun s = some (c, e) ∧ v = c * 10 ^ e := by
  cases h with
  | @intro s t ds fs e hs ht =>
    obtain ⟨rest, hrun, hfraction⟩ := hs.joinedRun_append ht
    have hne : (ds.isEmpty && fs.isEmpty) = false := by
      simpa [Bool.and_eq_false_iff, List.isEmpty_eq_false_iff, or_iff_not_imp_left] using hs.ne_nil
    refine ⟨natOfDigits (ds ++ fs), e - fs.length, ?_, value_eq ds fs e⟩
    simp only [decimal?, hrun, hfraction, hne, ht.exponentPart?, Bool.false_eq_true, ↓reduceIte,
      Option.map_some]

theorem power_of_exponentPart? (h : exponentPart? joinedRun t = some e) : Power t e := by
  cases t with
  | nil =>
    obtain rfl := Option.some.inj h
    exact .absent
  | cons c t =>
    rw [exponentPart?] at h
    split_ifs at h with hc
    have hsign := signed_takeSign t
    have hrun := joinedRun_cases (takeSign t).2
    dsimp only at h
    split at h
    · next d ds hread =>
      obtain rfl := Option.some.inj h
      obtain hnone | ⟨p, hp, hrun⟩ := hrun
      · cases hnone.symm.trans hread
      · rw [hread, List.append_nil] at hp
        rw [hread, ← hp] at hrun
        exact .letter hc hsign hrun
    · cases h

theorem fractionPart_cases (s : List Char) :
    fractionPart joinedRun s = ([], s) ∨ ∃ u, s = '.' :: u ∧ fractionPart joinedRun s = joinedRun u := by
  unfold fractionPart
  split
  · exact .inr ⟨_, rfl, rfl⟩
  · exact .inl rfl

/-- What is read as digits and a point is a mantissa, unless there are no digits. -/
theorem exists_mantissa {afterWhole afterFraction : List Char} (hwhole : joinedRun s = (ds, afterWhole))
    (hfraction : fractionPart joinedRun afterWhole = (fs, afterFraction)) (hne : ds ≠ [] ∨ fs ≠ []) :
    ∃ p, s = p ++ afterFraction ∧ Mantissa p ds fs := by
  have hfirst := joinedRun_cases s
  rw [hwhole] at hfirst
  have hpoint := fractionPart_cases afterWhole
  rw [hfraction] at hpoint
  obtain heq | ⟨u, rfl, heq⟩ := hpoint
  · -- no point
    obtain ⟨rfl, rfl⟩ := Prod.mk.inj heq
    obtain hnone | ⟨p, hp, hrun⟩ := hfirst
    · exact absurd rfl (hne.resolve_left fun hds => hds (Prod.mk.inj hnone).1)
    · exact ⟨p, hp, .whole hrun⟩
  · have hsecond := joinedRun_cases u
    rw [← heq] at hsecond
    obtain hnone | ⟨p, hp, hrun⟩ := hfirst <;> obtain hnone' | ⟨q, rfl, hrun'⟩ := hsecond
    · exact absurd (Prod.mk.inj hnone').1 (hne.resolve_left fun hds => hds (Prod.mk.inj hnone).1)
    · exact ⟨'.' :: q, (Prod.mk.inj hnone).2.symm, (Prod.mk.inj hnone).1 ▸ .fraction hrun'⟩
    · obtain ⟨rfl, rfl⟩ := Prod.mk.inj hnone'
      exact ⟨p ++ ['.'], by rw [hp, List.append_assoc]; rfl, .point hrun⟩
    · exact ⟨p ++ '.' :: q, by rw [hp, List.append_assoc]; rfl, .both hrun hrun'⟩

/-- What is read as a decimal is one of the grammar. -/
theorem decimalNumeral_of_decimal? {c : ℕ} (h : decimal? joinedRun s = some (c, e)) :
    DecimalNumeral s (c * 10 ^ e) := by
  obtain ⟨⟨ds, afterWhole⟩, hwhole⟩ : ∃ run, joinedRun s = run := ⟨_, rfl⟩
  obtain ⟨⟨fs, afterFraction⟩, hfraction⟩ : ∃ run, fractionPart joinedRun afterWhole = run := ⟨_, rfl⟩
  simp only [decimal?, hwhole, hfraction] at h
  split_ifs at h with hempty
  obtain ⟨power, hpower, heq⟩ := Option.map_eq_some_iff.1 h
  obtain ⟨rfl, rfl⟩ := Prod.mk.inj heq
  rw [Bool.and_eq_true, not_and_or, List.isEmpty_iff, List.isEmpty_iff] at hempty
  obtain ⟨p, rfl, hmantissa⟩ := exists_mantissa hwhole hfraction hempty
  rw [← value_eq]
  exact .intro hmantissa (power_of_exponentPart? hpower)

end TypedScalar.Text
