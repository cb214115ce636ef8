import TypedScalar.Proofs.Floating.Shortest
import TypedScalar.Proofs.Text.Written

/-! The text of a finite number is a written decimal. Positional and scientific
layout set down the same digits, with zeros in front and behind at most, so both
have the value of the shortest decimal. -/

namespace TypedScalar.Floating

open Text

/-- A decimal that is written with the digits `ds`, of which the first has weight
`10 ^ e`. -/
def Writes (w : Written) (ds : List Char) (e : ℤ) : Prop :=
  ∃ a b : ℕ, w.digits = List.replicate a '0' ++ ds ++ List.replicate b '0' ∧ w.exponent = e - ds.length + 1 - b

variable {w : Written} {ds : List Char} {e : ℤ}

theorem Writes.value (h : Writes w ds e) :
    (natOfAscii w.digits : ℚ) * 10 ^ w.exponent = natOfAscii ds * 10 ^ (e - ds.length + 1) := by
  obtain ⟨a, b, hdigits, hexponent⟩ := h
  rw [hdigits, natOfAscii_padded, hexponent, zpow_sub₀ (by norm_num), zpow_natCast, Nat.cast_mul, Nat.cast_pow,
    Nat.cast_ofNat]
  field_simp

/-- Digits that neither start nor end with a zero are what is left without the
zeros at either end. -/
theorem Writes.trimBoth (h : Writes w ds e) (hhead : ∃ c rest, ds = c :: rest ∧ c ≠ '0')
    (hlast : ∃ init c, ds = init ++ [c] ∧ c ≠ '0') : trimBoth (· == '0') w.digits = ds := by
  obtain ⟨a, b, hdigits, -⟩ := h
  have hdrop : ∀ (n : ℕ) (c : Char) (t : List Char), c ≠ '0' →
      (List.replicate n '0' ++ c :: t).dropWhile (· == '0') = c :: t := by
    intro n c t hc
    induction n with
    | zero => simp [hc]
    | succ n ih => simpa [List.replicate_succ] using ih
  obtain ⟨c, rest, hds, hc⟩ := hhead
  obtain ⟨init, c', hds', hc'⟩ := hlast
  rw [Text.trimBoth, hdigits, List.append_assoc, hds, List.cons_append, hdrop a c _ hc,
    ← List.cons_append, ← hds,
    hds']
  simp only [List.reverse_append, List.reverse_replicate, List.reverse_cons, List.reverse_nil, List.nil_append,
    List.singleton_append, hdrop b c' _ hc', List.reverse_reverse]

theorem exists_positional (hne : ds ≠ []) (hds : ∀ c ∈ ds, isAsciiDigit c = true) (e : ℤ) :
    ∃ w : Written, w.text = positional ds e ∧ w.power = none ∧ Writes w ds e := by
  have hzero : ∀ n : ℕ, ∀ c ∈ List.replicate n '0', isAsciiDigit c = true := fun n c hc => by
    rw [List.eq_of_mem_replicate hc]
    decide
  have hlen : 0 < ds.length := List.length_pos_iff.2 hne
  unfold positional
  split_ifs with he
  · refine ⟨⟨['0'], some (List.replicate (-e - 1).toNat '0' ++ ds), none, by simp, hzero 1, ?_,
      by simp⟩, ?_, rfl,
      (-e - 1).toNat + 1, 0, ?_, ?_⟩
    · simpa [or_imp, forall_and] using ⟨fun _ => by decide, hds⟩
    · simp [Written.text, Written.fractionText, Written.powerText]
    · simp [Written.digits, List.replicate_succ]
    · simp [Written.exponent]
      omega
  · dsimp only
    rcases Nat.lt_or_ge (e.toNat + 1) ds.length with hlt | hge
    · have hdrop : ds.drop (e.toNat + 1) ≠ [] := by simpa using hlt
      refine ⟨⟨ds.take (e.toNat + 1), some (ds.drop (e.toNat + 1)), none, by simpa using hne,
        fun c hc => hds c (List.mem_of_mem_take hc), ?_, by simp⟩, ?_, rfl, 0, 0, ?_, ?_⟩
      · simpa using fun c hc => hds c (List.mem_of_mem_drop hc)
      · simp [Written.text, Written.fractionText, Written.powerText, List.isEmpty_eq_false_iff.2 hdrop,
          Nat.sub_eq_zero_of_le hlt.le]
      · simp [Written.digits]
      · simp [Written.exponent]
        omega
    · refine ⟨⟨ds ++ List.replicate (e.toNat + 1 - ds.length) '0', some ['0'], none, by simp [hne],
        ?_, ?_, by simp⟩,
        ?_, rfl, 0, e.toNat + 1 - ds.length + 1, ?_, ?_⟩
      · intro c hc
        rcases List.mem_append.1 hc with h | h
        · exact hds c h
        · exact hzero _ c h
      · simpa using hzero 1
      · simp [Written.text, Written.fractionText, Written.powerText, List.drop_eq_nil_of_le hge,
          List.take_of_length_le hge]
      · simp [Written.digits, List.replicate_succ']
      · simp [Written.exponent]
        omega

theorem exists_scientific (hne : ds ≠ []) (hds : ∀ c ∈ ds, isAsciiDigit c = true) (e : ℤ) :
    ∃ w : Written, w.text = scientific ds e ∧ w.power.isSome = true ∧ w.whole.length = 1 ∧
      Writes w ds e := by
  obtain ⟨c, t, rfl⟩ := List.exists_cons_of_ne_nil hne
  rw [List.forall_mem_cons] at hds
  have hpow : ∀ c ∈ decimalDigits e.natAbs, isAsciiDigit c = true := fun c =>
    isAsciiDigit_of_mem_decimalDigits
  set power := decimalDigits e.natAbs with hpower
  have hpad : ∀ c ∈ (if power.length < 2 then '0' :: power else power), isAsciiDigit c = true := by
    split_ifs
    · exact List.forall_mem_cons.2 ⟨by decide, hpow⟩
    · exact hpow
  have hvalue : natOfAscii (if power.length < 2 then '0' :: power else power) = e.natAbs := by
    split_ifs
    · rw [← List.singleton_append, natOfAscii_append, hpower, natOfAscii_decimalDigits]
      simp [natOfAscii, natOfDigits, asciiDigitValue]
    · rw [hpower, natOfAscii_decimalDigits]
  have hexp : withSign (decide (e < 0))
      (natOfAscii (if power.length < 2 then '0' :: power else power)) = e := by
    rw [hvalue]
    by_cases he : e < 0
    · rw [withSign, if_pos (by simpa using he)]
      omega
    · rw [withSign, if_neg (by simpa using he)]
      omega
  refine ⟨⟨[c], if t = [] then none else some t,
    some (decide (e < 0), if power.length < 2 then '0' :: power else power),
    by simp, by simpa using hds.1, ?_, ?_⟩, ?_, rfl, rfl, 0, 0, ?_, ?_⟩
  · intro t' ht'
    split_ifs at ht' with h
    · simp at ht'
    · obtain rfl := Option.some.inj ht'
      exact hds.2
  · intro p hp
    obtain rfl := Option.some.inj hp
    refine ⟨?_, hpad⟩
    have := decimalDigits_ne_nil e.natAbs
    split_ifs <;> simp [hpower, this]
  · cases t <;> by_cases he : e < 0 <;>
      simp [Written.text, Written.fractionText, Written.powerText, scientific, hpower, he]
  · cases t <;> simp [Written.digits]
  · cases t with
    | nil =>
      rw [Written.exponent, Option.elim_some, hexp]
      simp
    | cons c' t =>
      rw [Written.exponent, Option.elim_some, hexp]
      simp
      ring

/-- No decimal that rounds to a magnitude is shorter than what its shortest
decimal is written with. -/
theorem length_significant_shortest_le {f : Format} {n c s : ℕ} {e : ℤ} (hn : 0 < n) (hn' : n < f.infinity)
    (h : f.Rounds (c * 10 ^ e * f.one) n) (hc : c < 10 ^ s) :
    (significant (decimalDigits (f.shortest n).digits)).length ≤ s := by
  have hlen := Format.length_shortest_le hn hn' h hc
  have hle := (Format.shortest_found (f := f) hn').exponent_le
  have hpos := Format.shortest_digits_pos hn hn'
  set l := (f.leadingExponent n - (f.shortest n).exponent + 1).toNat with hl
  rcases (Format.shortest_digits_le hn hn').eq_or_lt with heq | hlt
  · rw [heq, significant_decimalDigits_pow, List.length_singleton]
    omega
  · calc (significant (decimalDigits (f.shortest n).digits)).length
        ≤ (decimalDigits (f.shortest n).digits).length := length_significant_le _
      _ ≤ l := length_decimalDigits_le (by omega) hlt
      _ ≤ s := by omega

namespace Number

variable {f : Format} {l : Layout} {n : ℕ}

/-- The text of a positive finite magnitude is that of its shortest decimal. -/
theorem exists_magnitudeText (hn : 0 < n) (hn' : n < f.infinity) :
    ∃ w : Written, magnitudeText f l n = w.text ∧
      (natOfAscii w.digits : ℚ) * 10 ^ w.exponent = (f.shortest n).value ∧
      (w.power.isSome = true ↔ isOrdinary f l n = false) ∧ (w.power.isSome = true → w.whole.length = 1) ∧
      trimBoth (· == '0') w.digits = significant (decimalDigits (f.shortest n).digits) := by
  have hpos := Format.shortest_digits_pos hn hn'
  set d := f.shortest n with hd
  set ds := decimalDigits d.digits with hds
  obtain ⟨hhead, hlast⟩ := significant_decimalDigits hpos
  obtain ⟨b, hb⟩ := significant_append_zeros ds
  have hne : significant ds ≠ [] := by
    obtain ⟨c, rest, heq, -⟩ := hhead
    rw [hds, heq]
    exact List.cons_ne_nil _ _
  have hdigit : ∀ c ∈ significant ds, isAsciiDigit c = true := fun c hc =>
    isAsciiDigit_of_mem_decimalDigits (mem_of_mem_significant hc)
  -- the zeros behind the digits that count are made up for by the exponent
  have hvalue : (natOfAscii (significant ds) : ℚ) *
      10 ^ (d.exponent + ds.length - 1 - (significant ds).length + 1) =
      d.value := by
    have hdigits : natOfAscii (significant ds) * 10 ^ b = d.digits := by
      rw [← natOfAscii_decimalDigits d.digits, ← hds]
      conv => rhs; rw [hb]
      simp [natOfAscii_append]
    have hlen : ds.length = (significant ds).length + b := by
      conv => lhs; rw [hb]
      simp
    rw [Decimal.value, ← hdigits, hlen, Nat.cast_mul, mul_assoc, Nat.cast_pow, Nat.cast_ofNat]
    congr 1
    refine (ten_pow_mul_zpow ?_).symm
    push_cast
    ring
  have htext : magnitudeText f l n =
      if isOrdinary f l n then positional (significant ds) (d.exponent + ds.length - 1)
      else scientific (significant ds) (d.exponent + ds.length - 1) := by
    rw [magnitudeText, if_neg hn.ne', if_neg hn'.ne]
  rw [htext]
  cases isOrdinary f l n with
  | true =>
    obtain ⟨w, hw, hpower, hwrites⟩ := exists_positional hne hdigit (d.exponent + ds.length - 1)
    exact ⟨w, hw.symm, hwrites.value.trans hvalue, by simp [hpower], by simp [hpower],
      hwrites.trimBoth hhead hlast⟩
  | false =>
    obtain ⟨w, hw, hpower, hwhole, hwrites⟩ := exists_scientific hne hdigit (d.exponent + ds.length - 1)
    exact ⟨w, hw.symm, hwrites.value.trans hvalue, by simp [hpower], fun _ => hwhole,
      hwrites.trimBoth hhead hlast⟩

theorem exists_magnitudeText_zero : ∃ w : Written, magnitudeText f l 0 = w.text ∧ natOfAscii w.digits = 0 :=
  have hzero : ∀ c ∈ ['0'], isAsciiDigit c = true := List.all_eq_true.1 (by decide)
  ⟨⟨['0'], some ['0'], none, by simp, hzero, by simpa using hzero, by simp⟩, rfl, rfl⟩

/-- The text of a finite number writes the shortest decimal that rounds to the
number. -/
theorem exists_text (negative : Bool) {m : Fin (f.infinity + 1)} (hm : m.val < f.infinity) :
    ∃ w : Written, text l (signed negative m) = Text.signed negative w.text ∧
      (natOfAscii w.digits : ℚ) * 10 ^ w.exponent = (f.shortest m).value := by
  rcases Nat.eq_zero_or_pos m.val with h0 | hpos
  · obtain ⟨w, hw, hzero⟩ := exists_magnitudeText_zero (f := f) (l := l)
    refine ⟨w, by rw [text, h0, hw]; rfl, ?_⟩
    rw [hzero, h0, Format.shortest_zero_value]
    simp
  · obtain ⟨w, hw, hvalue, -⟩ := exists_magnitudeText (l := l) hpos hm
    exact ⟨w, by rw [text, hw]; rfl, hvalue⟩

end Number

end TypedScalar.Floating
