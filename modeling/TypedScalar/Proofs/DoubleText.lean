import TypedScalar.Proofs.Floating.Value
import TypedScalar.Proofs.NullToken
import TypedScalar.Proofs.Scalar.Casting

/-! Doubles and their text. A double is read back from its text as it was,
whatever it is, and the text is the shortest that is. -/

namespace TypedScalar

open Text

namespace Floating.Number

variable {f : Format}

/-- Ordinary numbers are those from a ten-thousandth up to the layout's limit. -/
theorem isOrdinary_iff [f.Regular] (l : Layout) (negative : Bool) (m : Fin (f.infinity + 1)) :
    isOrdinary f l m = true ↔
      1 / 10 ^ 4 ≤ |(signed negative m : Number f).value| ∧
        |(signed negative m : Number f).value| < 10 ^ l.ceiling := by
  have hone : (0 : ℚ) < f.one := by exact_mod_cast Format.one_pos
  rw [abs_value, div_le_div_iff₀ (by norm_num) hone, div_lt_iff₀ hone, isOrdinary, Bool.and_eq_true,
    decide_eq_true_eq, decide_eq_true_eq]
  norm_cast
  rw [one_mul, mul_comm]

/-- How the text of a finite number other than zero is written, and that no
decimal of fewer digits becomes the number. -/
theorem exists_shortest_text [f.Regular] (l : Layout) {x : Number f} (hfinite : x.isFinite = true)
    (hzero : x.isZero = false) :
    ∃ (negative : Bool) (w : Written), x.text l = Text.signed negative w.text ∧
      (w.power.isSome = true ↔ ¬ (1 / 10 ^ 4 ≤ |x.value| ∧ |x.value| < 10 ^ l.ceiling)) ∧
      (w.power.isSome = true → w.whole.length = 1) ∧
      ∀ (negative' : Bool) (c n : ℕ) (e : ℤ), ofDecimal f negative' c e = x → c < 10 ^ n →
        (trimBoth (· == '0') w.digits).length ≤ n := by
  cases x with
  | nan => simp [isFinite, isNaN] at hfinite
  | signed negative m =>
    have hlt : m.val < f.infinity := by
      have : m.val ≠ f.infinity := by simpa [isFinite, isNaN, isInfinite] using hfinite
      omega
    have hpos : 0 < m.val := by
      have : m.val ≠ 0 := by simpa [isZero] using hzero
      omega
    obtain ⟨w, hw, -, hpower, hwhole, hdigits⟩ := exists_magnitudeText (l := l) hpos hlt
    refine ⟨negative, w, by rw [text, hw]; rfl, ?_, hwhole, ?_⟩
    · rw [hpower, ← isOrdinary_iff, Bool.not_eq_true]
    · intro negative' c n e hx hc
      obtain ⟨m', hm'⟩ := exists_ofDecimal f negative' c e
      obtain ⟨rfl, rfl⟩ : negative' = negative ∧ m' = m := by simpa [hm'] using hx
      rw [hdigits]
      exact length_significant_shortest_le hpos hlt (ofDecimal_eq_iff.1 hm') hc

end Floating.Number

namespace Scalar

/-- Reading the text of a double gives the double. -/
theorem readReal?_text (x : Floating.Double) : readReal? (x.text .double) = some (some x) := by
  cases x with
  | nan => rfl
  | signed negative m =>
    rcases m.le_last.lt_or_eq with hlt | rfl
    · have hfinite : m.val < Floating.Format.double.infinity := hlt
      obtain ⟨w, hw, hvalue⟩ := Floating.Number.exists_text (l := .double) negative hlt
      have hdecimal : Floating.Number.ofDecimal .double negative (natOfAscii w.digits) w.exponent =
          .signed negative m :=
        Floating.Number.ofDecimal_eq_iff.2 (hvalue ▸ Floating.Format.shortest_rounds hlt)
      rw [hw, readReal?, read?_signed]
      simp [Floating.Number.ofNumeral, hdecimal, Floating.Number.isInfinite, hfinite.ne]
    · cases negative <;> rfl

variable {c : ScalarClass}

theorem parseValid_text_double (r : Rendering) (hc : c.kind? = some (.floating .double))
    (x : Floating.Double) :
    parseValid r c (.ofString (Kind.payloadText r (.floating .double) x)) =
      .ok ⟨c, .floating .double, hc, some x⟩ := by
  have hrange : (x.isFinite && (FloatingKind.double.ofDouble x).isInfinite) = false := by
    show (!x.isNaN && !x.isInfinite && x.isInfinite) = false
    cases x.isInfinite <;> simp
  have hread : readReal? (Source.ofString (Kind.payloadText r (.floating .double) x)).text.toList =
      some (some x) := by
    show readReal? (String.ofList (x.text .double)).toList = _
    rw [String.toList_ofList]
    exact readReal?_text x
  exact parseValid_of_readReal? hc hread hrange

/-- Under an accepted configuration, a double is parsed from its text as it was,
NaN and the signs of zeros included, and so it is when it is cast to string and
back. The text of a finite double other than zero has the fewest digits of all
decimals that become the double, and a power of ten behind a single digit if the
double is below a ten-thousandth or from ten to the sixteenth on. -/
theorem double_roundTrip {e : Environment} (hconfig : e.config.Accepted) (hsound : e.registry.Sound)
    {cs cd : ScalarClass} (hcs : e.registry.find? (some .string) = some cs)
    (hcd : e.registry.find? (some (.floating .double)) = some cd) (hc : c.kind? = some (.floating .double))
    (x : Floating.Double) (i j : ℕ) :
    let s : Scalar := ⟨c, .floating .double, hc, some x⟩
    (parseAs c (.text (s.text e.rendering)) none).outcome e = (.ok s, e) ∧
    ((castThroughText ⟨i, s⟩ j "double").outcome e).1 =
      .ok (.fresh ⟨cd, .floating .double, hsound.kind?_eq hcd, some x⟩) ∧
    (x.isFinite = true → x.isZero = false → ∃ (negative : Bool) (w : Written),
      (s.text e.rendering).toList = Text.signed negative w.text ∧
      (w.power.isSome = true ↔ ¬ (1 / 10 ^ 4 ≤ |x.value| ∧ |x.value| < 10 ^ 16)) ∧
      (w.power.isSome = true → w.whole.length = 1) ∧
      ∀ (negative' : Bool) (c n : ℕ) (e : ℤ), Floating.Number.ofDecimal .double negative' c e = x → c < 10 ^ n →
        (trimBoth (· == '0') w.digits).length ≤ n) := by
  intro s
  have hne := payloadText_ne_nullToken hconfig (k := .floating .double) (by decide) x
  have hread (c : ScalarClass) (hc : c.kind? = some (.floating .double)) :=
    parseValid_text_double e.rendering hc x
  obtain ⟨hparse, hcast⟩ :=
    rereading_outcome (k := .floating .double) (by decide) (by decide) hne hread hsound hcs hcd hc i j
  refine ⟨hparse, hcast, ?_⟩
  intro hfinite hzero
  rw [show s.text e.rendering = String.ofList (x.text .double) from rfl, String.toList_ofList]
  exact Floating.Number.exists_shortest_text .double hfinite hzero

/-- The double next to zero from below comes back from its text. -/
theorem double_roundTrip_smallest :
    let e := Environment.initial
    let s : Scalar :=
      ⟨.concrete (.floating .double), .floating .double, rfl, some (.signed true ⟨1, by decide⟩)⟩
    e.config.Accepted ∧ e.registry.Sound ∧ e.registry.find? (some .string) = some (.concrete .string) ∧
      e.registry.find? (some (.floating .double)) = some (.concrete (.floating .double)) ∧
      (parseAs s.cls (.text (s.text e.rendering)) none).outcome e = (.ok s, e) := by
  have haccepted : Environment.initial.config.Accepted := ⟨Config.initial.rendering, rfl⟩
  have hsound : Environment.initial.registry.Sound := Registry.sound_builtIn
  have hstring : Environment.initial.registry.find? (some .string) = some (.concrete .string) := rfl
  have hdouble : Environment.initial.registry.find? (some (.floating .double)) =
      some (.concrete (.floating .double)) := rfl
  exact ⟨haccepted, hsound, hstring, hdouble,
    (double_roundTrip haccepted hsound hstring hdouble rfl (.signed true ⟨1, by decide⟩) 0 1).1⟩

end Scalar

end TypedScalar
