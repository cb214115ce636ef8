import TypedScalar.Proofs.Floating.Conversion
import TypedScalar.Proofs.NullToken
import TypedScalar.Proofs.Text.LetterCase
import TypedScalar.Proofs.Text.Numeral

/-! What an accepted null token may be read as. Validation guards the texts that
values are written as, and the readers take more than these: a floating kind also
knows infinity by its long name, NaNs with a sign, and digits joined by
underscores. Nothing else slips through, and booleans and integers are guarded
altogether. -/

namespace TypedScalar

open Text

namespace Text

variable {word : String} {s : List Char} {c : Char}

/-- A word of small letters. -/
def IsWord (word : String) : Prop := word.toList.all fun c => 97 ≤ c.toNat && c.toNat ≤ 122

theorem IsWord.mem (hword : IsWord word) (h : spells word s = true) (hc : c ∈ s) :
    65 ≤ c.toNat ∧ c.toNat ≤ 90 ∨ 97 ≤ c.toNat ∧ c.toNat ≤ 122 := by
  rcases mem_of_spells h hc with hmem | hcapital
  · exact .inr (by simpa using List.all_eq_true.1 hword c hmem)
  · exact .inl hcapital

theorem IsWord.isBlank (hword : IsWord word) (h : spells word s = true) (hc : c ∈ s) :
    isBlank c = false := by
  have hblanks : ∀ b ∈ blanks, 122 < b.1 ∨ b.2 < 65 := by decide
  have hletter := hword.mem h hc
  refine List.any_eq_false.2 fun b hb => ?_
  have := hblanks b hb
  simp only [Bool.and_eq_true, decide_eq_true_eq]
  omega

theorem IsWord.lower (hword : IsWord word) (h : spells word s = true) {sign : List Char}
    (hsign : IsSign sign) :
    lower (sign ++ s) = sign ++ word.toList := by
  have hmap : sign.map Char.toLower = sign := by
    rcases hsign with rfl | rfl | rfl <;> rfl
  rw [lower_ascii, List.map_append, hmap, beq_iff_eq.1 h]
  intro c hc
  rcases List.mem_append.1 hc with hc | hc
  · rcases hsign.mem hc with rfl | rfl <;> decide
  · have := hword.mem h hc
    omega

end Text

namespace Config

variable {token : List Char}

/-- The part of a token behind the blanks and the sign. -/
def body (token : List Char) : List Char := (takeSign (trimBoth isNumeralBlank token)).2

/-- The spellings of numbers of a floating kind that validation has no objection
to. -/
def Spared (k : FloatingKind) (token : List Char) : Prop :=
  spells "infinity" (body token) = true ∨ spells "nan" (body token) = true ∨
    '_' ∈ body token ∧ ∃ n e, decimal? joinedRun (body token) = some (n, e) ∧
      (k.ofDouble (.ofDecimal .double (takeSign (trimBoth isNumeralBlank token)).1 n e)).isFinite = true

/-- Where no blank stands behind the sign, both ways of trimming agree. -/
theorem strip_eq_of_body (h : ∀ c ∈ body token, isBlank c = false) :
    strip token = trimBoth isNumeralBlank token := by
  obtain ⟨sign, htrim, hsign⟩ := exists_takeSign (trimBoth isNumeralBlank token)
  rw [← strip_trimBoth]
  apply strip_eq_self
  intro c hc
  rw [htrim] at hc
  rcases List.mem_append.1 hc with hc | hc
  · exact hsign.isBlank hc
  · exact h c hc

/-- The short name of infinity is reserved, with every sign and in every letter
case. -/
theorem collides_of_spells_inf (h : spells "inf" (body token) = true) : collides token = true := by
  have hword : IsWord "inf" := rfl
  obtain ⟨sign, htrim, hsign⟩ := exists_takeSign (trimBoth isNumeralBlank token)
  apply collides_of_reserved
  rw [strip_eq_of_body fun c hc => hword.isBlank h hc, htrim]
  show String.ofList (lower (sign ++ body token)) ∈ reservedTokens
  rw [hword.lower h hsign]
  rcases hsign with rfl | rfl | rfl <;> simp [reservedTokens]

theorem collides_of_decimal {x : ℕ × ℤ} (h : decimal? joinedRun (body token) = some x)
    (hjoin : '_' ∉ body token) :
    collides token = true := by
  apply collides_of_looksNumeric
  rw [looksNumeric, strip_eq_of_body fun c hc => isBlank_of_decimal? h hc]
  rw [decimal?_joinedRun hjoin] at h
  exact Option.isSome_iff_exists.2 ⟨x, h⟩

/-- Integer numerals are written like the texts of integers. -/
theorem readInteger?_eq_none (h : collides token = false) : Scalar.readInteger? token = none := by
  rw [Scalar.readInteger?, Option.map_eq_none_iff, integerDigits?]
  dsimp only
  split_ifs with hds
  · obtain ⟨hne, hdigits⟩ := Bool.and_eq_true_iff.1 hds
    obtain ⟨sign, htoken, hsign⟩ := exists_takeSign token
    let w : Written :=
      ⟨(takeSign token).2, none, none, by simpa using hne, by simpa using hdigits, by simp, by simp⟩
    have hw : w.text = (takeSign token).2 := by simp [w, Written.text, Written.fractionText, Written.powerText]
    have hnumeric : looksNumeric token = true := by
      rw [looksNumeric, ← hw, w.decimal?_text readsDigits_plainRun]
      rfl
    have hstrip : strip token = token := by
      apply strip_eq_self
      intro c hc
      rw [htoken] at hc
      rcases List.mem_append.1 hc with hc | hc
      · exact hsign.isBlank hc
      · exact w.isBlank_of_mem_text (hw ▸ hc)
    exact absurd (collides_of_looksNumeric (by rwa [hstrip])) (by simp [h])
  · rfl

/-- A boolean's word is lower case for itself: it has no blanks, and the digits
are the lower case of no other character. -/
theorem readBoolean?_eq_none (h : collides token = false) : Scalar.readBoolean? token = none := by
  have hword : ∀ word ∈ ["true", "false"], String.ofList (lower token) ≠ word := by
    intro word hword heq
    have hblanks : ∀ word ∈ ["true", "false"], word.toList.any isBlank = false := by decide
    have hreserved : ∀ word ∈ ["true", "false"], word ∈ reservedTokens := by simp [reservedTokens]
    have hstrip : strip token = token := by
      apply strip_eq_self
      intro c hc
      by_contra hblank
      have hmem := mem_lower_of_isBlank (Bool.not_eq_false _ ▸ hblank) hc
      rw [← String.toList_ofList (l := lower token), heq] at hmem
      exact List.any_eq_false.1 (hblanks word hword) c hmem (Bool.not_eq_false _ ▸ hblank)
    have hcollides : collides token = true := by
      apply collides_of_reserved
      rw [hstrip, heq]
      exact hreserved word hword
    exact Bool.false_ne_true (h.symm.trans hcollides)
  have hdigit : ∀ d, isAsciiDigit d = true → String.ofList (lower token) ≠ String.ofList [d] := by
    intro d hd heq
    have hlower : lower token = [d] := String.ofList_injective heq
    have htoken := eq_of_lower_eq_digit hd hlower
    let w : Written := ⟨[d], none, none, by simp, by simpa using hd, by simp, by simp⟩
    have := collides_signed false w
    rw [show signed false w.text = token by rw [htoken]; rfl] at this
    exact Bool.false_ne_true (h.symm.trans this)
  rw [Scalar.readBoolean?, if_neg, if_neg]
  · rintro (heq | heq)
    · exact hword "false" (by simp) heq
    · exact hdigit '0' (by decide) heq
  · rintro (heq | heq)
    · exact hword "true" (by simp) heq
    · exact hdigit '1' (by decide) heq

end Config

/-- A number is finite in a kind if it is finite to begin with and is accepted. -/
theorem FloatingKind.isFinite_ofDouble (k : FloatingKind) (negative : Bool)
    (m : Fin (Floating.Format.double.infinity + 1)) :
    (k.ofDouble (.signed negative m)).isFinite = true ↔
      (Floating.Number.signed negative m).isInfinite = false ∧
        ((Floating.Number.signed negative m).isFinite &&
          (k.ofDouble (.signed negative m)).isInfinite) = false := by
  cases k with
  | double =>
    have hfinite : (FloatingKind.double.ofDouble (.signed negative m)).isFinite = true ↔
        (Floating.Number.signed negative m).isInfinite = false := by
      simp only [FloatingKind.ofDouble, Floating.Number.isFinite, Floating.Number.isNaN, Bool.not_false,
        Bool.true_and, Bool.not_eq_true']
      rfl
    rw [hfinite]
    exact ⟨fun h => ⟨h, Bool.and_eq_false_iff.2 (.inr h)⟩, And.left⟩
  | single =>
    by_cases hm : m.val = Floating.Format.double.infinity
    · simp [FloatingKind.ofDouble, Floating.Number.convert, hm, Floating.Number.isFinite,
        Floating.Number.isInfinite, Floating.Number.isNaN, Floating.Number.infinite, FloatingKind.format]
    · simp [FloatingKind.ofDouble, Floating.Number.convert, hm, Floating.Number.isFinite,
        Floating.Number.isInfinite, Floating.Number.isNaN, Floating.Number.ofUnits]

namespace Config

variable {k : FloatingKind} {token : List Char}

/-- What a floating kind makes of a token that validation has no objection to. -/
theorem spared_iff (h : collides token = false) :
    Spared k token ↔ ∃ x, Scalar.readReal? token = some (some x) ∧
      (x.isFinite && (k.ofDouble x).isInfinite) = false := by
  have hread : Numeral.read? token =
      if spells "nan" (body token) then some .nan
      else if spells "inf" (body token) || spells "infinity" (body token) then
        some (.infinity (takeSign (trimBoth isNumeralBlank token)).1)
      else (decimal? joinedRun (body token)).map fun x =>
        .decimal (takeSign (trimBoth isNumeralBlank token)).1 x.1 x.2 := rfl
  rw [Spared, Scalar.readReal?, hread]
  by_cases hnan : spells "nan" (body token) = true
  · simp [hnan, Floating.Number.ofNumeral, Floating.Number.isFinite, Floating.Number.isNaN]
  by_cases hinfinity : spells "infinity" (body token) = true
  · simp [hnan, hinfinity, Floating.Number.ofNumeral, Floating.Number.isFinite, Floating.Number.isInfinite,
      Floating.Number.infinite]
  have hinf : spells "inf" (body token) ≠ true := by
    intro hinf
    exact Bool.false_ne_true (h.symm.trans (collides_of_spells_inf hinf))
  simp only [hnan, hinf, hinfinity, Bool.or_self, Bool.false_eq_true, ↓reduceIte, false_or]
  cases hdecimal : decimal? joinedRun (body token) with
  | none => simp
  | some d =>
    have hjoin : '_' ∈ body token := by
      by_contra hjoin
      exact Bool.false_ne_true (h.symm.trans (collides_of_decimal hdecimal hjoin))
    obtain ⟨m, hm⟩ :=
      Floating.Number.exists_ofDecimal .double (takeSign (trimBoth isNumeralBlank token)).1 d.1 d.2
    have hkind := k.isFinite_ofDouble (takeSign (trimBoth isNumeralBlank token)).1 m
    simpa [hjoin, Floating.Number.ofNumeral, hm, Prod.ext_iff] using hkind

end Config

/-- Under an accepted configuration, no boolean or integer class reads the null
token as a value, and a floating class does so for the spared spellings alone. All
other tokens are refused as texts of the kind. -/
theorem Scalar.parseValid_nullToken {config : Config} (hconfig : config.Accepted) (c : ScalarClass)
    (shown copied : String) :
    (∀ k, c.kind? = some k → (k = .boolean ∨ k.isInteger = true) →
      parseValid config.rendering c ⟨config.rendering.nullToken, shown, copied⟩ =
        .error (.parse shown k .malformed)) ∧
    ∀ k, c.kind? = some (.floating k) →
      Config.Spared k config.rendering.nullToken.toList ∧
          (∃ s, parseValid config.rendering c ⟨config.rendering.nullToken, shown, copied⟩ = .ok s) ∨
        ¬Config.Spared k config.rendering.nullToken.toList ∧
          ∃ fault, parseValid config.rendering c ⟨config.rendering.nullToken, shown, copied⟩ =
            .error (.parse shown (.floating k) fault) := by
  obtain ⟨-, hcollides⟩ := hconfig.token
  constructor
  · rintro k hk (rfl | hinteger)
    · simp only [parseValid, hk, Config.readBoolean?_eq_none hcollides]
    · obtain ⟨i, rfl⟩ : ∃ i, k = .integer i := by
        cases k <;> simp [Kind.isInteger] at hinteger ⊢
      simp only [parseValid, hk, Config.readInteger?_eq_none hcollides]
  · intro k hk
    rw [parseValid_floating hk, Config.spared_iff hcollides]
    dsimp only
    cases hread : readReal? config.rendering.nullToken.toList with
    | none => exact .inr ⟨by simp, _, rfl⟩
    | some read =>
      cases read with
      | none => exact .inr ⟨by simp, _, rfl⟩
      | some x =>
        dsimp only
        split_ifs with hrange
        · exact .inr ⟨by simpa using hrange, _, rfl⟩
        · exact .inl ⟨⟨x, rfl, Bool.eq_false_iff.2 hrange⟩, _, rfl⟩

/-- An underscore between the digits is enough for the floating kinds to read what
validation lets through; the integer kinds do not know it. -/
theorem Scalar.parseValid_nullToken_joined :
    let config : Config := { Config.initial with nullToken := .text "1_0" }
    config.Accepted ∧
      parseValid config.rendering (.concrete (.integer ⟨true, .w8⟩)) ⟨"1_0", "'1_0'", "1_0"⟩ =
        .error (.parse "'1_0'" (.integer ⟨true, .w8⟩) .malformed) ∧
      ∃ s, parseValid config.rendering (.concrete (.floating .single)) ⟨"1_0", "'1_0'", "1_0"⟩ = .ok s := by
  intro config
  have haccepted : config.Accepted := ⟨Config.initial.rendering, rfl⟩
  have hspared : Config.Spared .single "1_0".toList :=
    .inr (.inr ⟨by decide, 10, 0, by decide +kernel, by decide +kernel⟩)
  refine ⟨haccepted,
    (parseValid_nullToken haccepted (.concrete (.integer ⟨true, .w8⟩)) "'1_0'" "1_0").1 _ rfl (.inr rfl), ?_⟩
  rcases (parseValid_nullToken haccepted (.concrete (.floating .single)) "'1_0'" "1_0").2 .single rfl with h | h
  · exact h.2
  · exact absurd hspared h.1

/-- The long name of infinity is an accepted null token and a number to the
floating kinds, so not every accepted token is refused by all value readers. -/
theorem Scalar.not_all_nullTokens_refused :
    ¬ ∀ config : Config, config.Accepted → ∀ (c : ScalarClass) (k : Kind), c.kind? = some k →
      (k = .boolean ∨ k.isNumeric = true) → ∀ shown copied : String, ∃ fault,
        parseValid config.rendering c ⟨config.rendering.nullToken, shown, copied⟩ =
          .error (.parse shown k fault) := by
  intro h
  let config : Config := { Config.initial with nullToken := .text "infinity" }
  obtain ⟨fault, hfault⟩ := h config ⟨Config.initial.rendering, rfl⟩ (.concrete (.floating .double))
    (.floating .double) rfl (.inr rfl) "'infinity'" "infinity"
  have htoken : config.rendering.nullToken = "infinity" := rfl
  have hread : readReal? "infinity".toList = some (some (.infinite false)) := rfl
  have hfinite : Floating.Number.isFinite (.infinite false : Floating.Double) = false := by decide +kernel
  rw [parseValid_floating rfl, htoken, hread] at hfault
  simp [hfinite] at hfault

end TypedScalar
