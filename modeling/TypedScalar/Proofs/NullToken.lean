import TypedScalar.Config.Validate
import TypedScalar.Proofs.Floating.Text
import TypedScalar.Proofs.Scalar.Reading

/-! Null tokens. Validation refuses every token that a valid value of a kind other
than string is written as, so no text of a value is read back as a null. -/

namespace TypedScalar

open Text

namespace Config

/-- The configurations that validation lets through. -/
def Accepted (c : Config) : Prop := ∃ r, c.validate r = .ok ()

/-- What validation says about the token. -/
theorem Accepted.token {c : Config} (h : c.Accepted) :
    strip c.rendering.nullToken.toList ≠ [] ∧ collides c.rendering.nullToken.toList = false := by
  obtain ⟨r, h⟩ := h
  have hcheck : checkToken r c.nullToken = .ok () := by
    rw [validate] at h
    cases hcheck : checkToken r c.nullToken with
    | ok u => rfl
    | error e => simp [hcheck, Except.bind] at h
  rw [checkToken] at hcheck
  cases htext : c.nullToken.text? with
  | none => simp [htext] at hcheck
  | some token =>
    simp only [htext] at hcheck
    simp only [rendering, htext, Option.getD_some]
    split_ifs at hcheck with hempty hcollides
    · cases hshown : c.nullToken.shown r with
      | ok shown => simp [hshown, Except.bind] at hcheck
      | error e => simp [hshown, Except.bind] at hcheck
    · exact ⟨fun hnil => hempty (List.isEmpty_iff.2 hnil), Bool.eq_false_iff.2 hcollides⟩

/-! ### What collides -/

variable {token : List Char}

theorem collides_of_reserved (h : String.ofList (lower (strip token)) ∈ reservedTokens) :
    collides token = true := by
  simp [collides, h]

theorem collides_of_looksNumeric (h : looksNumeric (strip token) = true) : collides token = true := by
  simp [collides, h]

theorem collides_of_looksHex (h : looksHex token = true) : collides token = true := by
  simp [collides, h]

/-- A written decimal looks numeric, as it has no blanks. -/
theorem collides_signed (negative : Bool) (w : Written) : collides (signed negative w.text) = true := by
  apply collides_of_looksNumeric
  rw [strip_eq_self fun c hc => isBlank_of_mem_signed hc, looksNumeric, takeSign_signed,
    w.decimal?_text readsDigits_plainRun]
  rfl

end Config

/-! ### Texts of values -/

theorem length_hexBytes (bytes : List UInt8) : (hexBytes bytes).length = 2 * bytes.length := by
  induction bytes with
  | nil => rfl
  | cons b rest ih =>
    rw [hexBytes] at ih ⊢
    rw [List.flatMap_cons, List.length_append, ih, hexNumber, hexNumber, hexNumber]
    simp
    ring

theorem isHexDigit_of_mem_hexBytes {bytes : List UInt8} {c : Char} (h : c ∈ hexBytes bytes) :
    isHexDigit c = true ∧ isHexDigit (upperHexDigit c) = true := by
  have hall : ∀ n < 16, isHexDigit (hexDigit n) = true ∧ isHexDigit (upperHexDigit (hexDigit n)) = true := by
    decide
  obtain ⟨b, -, hc⟩ := List.mem_flatMap.1 h
  simp only [hexNumber, List.nil_append, List.cons_append, List.mem_cons, List.not_mem_nil, or_false] at hc
  rcases hc with rfl | rfl <;> exact hall _ (Nat.mod_lt _ (by norm_num))

/-- The text of bytes, unless there are none, is of an even number of hexadecimal
digits. -/
theorem looksHex_payloadText (r : Rendering) {bytes : List UInt8} (h : bytes ≠ []) :
    Config.looksHex (Kind.payloadText r .binary bytes).toList = true := by
  have hpos := List.length_pos_iff.2 h
  have hne : hexBytes bytes ≠ [] := List.length_pos_iff.1 (by rw [length_hexBytes]; omega)
  have hlower : ∀ c ∈ hexBytes bytes, isHexDigit c = true := fun c hc => (isHexDigit_of_mem_hexBytes hc).1
  have hupper : ∀ c ∈ hexBytes bytes, isHexDigit (upperHexDigit c) = true := fun c hc =>
    (isHexDigit_of_mem_hexBytes hc).2
  cases hcase : r.upperHex
  · simpa [Kind.payloadText, hcase, Config.looksHex, length_hexBytes, hne] using hlower
  · simpa [Kind.payloadText, hcase, Config.looksHex, length_hexBytes, hne] using hupper

theorem collides_number {k : FloatingKind} (x : Floating.Number k.format) :
    Config.collides (x.text k.layout) = true := by
  cases x with
  | nan =>
    rw [Floating.Number.text]
    exact Config.collides_of_reserved (by decide +kernel)
  | signed negative m =>
    rcases m.le_last.lt_or_eq with hlt | rfl
    · obtain ⟨w, hw, -⟩ := Floating.Number.exists_text (l := k.layout) negative hlt
      rw [hw]
      exact Config.collides_signed negative w
    · have hpos : k.format.infinity ≠ 0 := by cases k <;> decide
      rw [Floating.Number.text, Fin.val_last, Floating.Number.magnitudeText, if_neg hpos, if_pos rfl]
      exact Config.collides_of_reserved (by cases negative <;> decide +kernel)

/-- Every text of a value is refused as a null token, be it as one that is blank. -/
theorem payloadText_refused (r : Rendering) {k : Kind} (hk : k ≠ .string) (p : k.Payload) :
    strip (k.payloadText r p).toList = [] ∨ Config.collides (k.payloadText r p).toList = true := by
  cases k with
  | null => exact nomatch p
  | boolean =>
    rw [Kind.payloadText]
    exact .inr (Config.collides_of_reserved (by cases (p : Bool) <;> decide +kernel))
  | integer k =>
    rw [Kind.payloadText, toList_toString, ← Written.text_ofNat]
    exact .inr (Config.collides_signed _ _)
  | floating k => exact .inr (by simpa [Kind.payloadText] using collides_number p)
  | string => exact absurd rfl hk
  | binary =>
    by_cases hp : p = []
    · subst hp
      left
      cases hcase : r.upperHex <;> simp [Kind.payloadText, hcase, hexBytes, strip, trimBoth]
    · exact .inr (Config.collides_of_looksHex (looksHex_payloadText r hp))

/-- Under an accepted configuration no text of a value is the null token. -/
theorem payloadText_ne_nullToken {config : Config} (h : config.Accepted) {k : Kind} (hk : k ≠ .string)
    (p : k.Payload) :
    k.payloadText config.rendering p ≠ config.rendering.nullToken := by
  intro heq
  obtain ⟨hstrip, hcollides⟩ := h.token
  rw [← heq] at hstrip hcollides
  rcases payloadText_refused config.rendering hk p with h | h
  · exact hstrip h
  · exact Bool.false_ne_true (hcollides.symm.trans h)

namespace Scalar

/-- A valid scalar of a kind other than string is not written as the null token,
and no class reads what is written as a null. -/
theorem text_ne_nullToken {config : Config} (hconfig : config.Accepted) {s : Scalar}
    (hvalid : s.isValid = true)
    (hkind : s.kind ≠ .string) :
    s.text config.rendering ≠ config.rendering.nullToken ∧
      ∀ (c : ScalarClass) (shown copied : String) (s' : Scalar),
        parse config.rendering c ⟨s.text config.rendering, shown, copied⟩ = .ok s' → s'.isValid = true := by
  have hne : s.text config.rendering ≠ config.rendering.nullToken := by
    obtain ⟨p, hp⟩ := Option.isSome_iff_exists.1 hvalid
    have htext : s.text config.rendering = s.kind.payloadText config.rendering p := by
      rw [text, hp]
    rw [htext]
    exact payloadText_ne_nullToken hconfig hkind p
  exact ⟨hne, fun c shown copied s' h => isValid_of_parse hne h⟩

/-- With an odd number of hexadecimal digits a token is no text of bytes. -/
theorem text_ne_nullToken_bytes :
    let config : Config := { Config.initial with nullToken := .text "FAC" }
    let s : Scalar := ⟨.concrete .binary, .binary, rfl, some [0xfa, 0xc0]⟩
    config.Accepted ∧ s.isValid = true ∧ s.kind ≠ .string ∧ s.text config.rendering = "FAC0" ∧
      s.text config.rendering ≠ config.rendering.nullToken :=
  have haccepted : Config.Accepted { Config.initial with nullToken := .text "FAC" } :=
    ⟨Config.initial.rendering, rfl⟩
  ⟨haccepted, rfl, by decide, rfl, (text_ne_nullToken haccepted rfl (by decide)).1⟩

end Scalar

end TypedScalar
