import TypedScalar.Proofs.Floating.Reread
import TypedScalar.Proofs.NullToken
import TypedScalar.Proofs.Scalar.Casting

/-! Single numbers and their text. The text is the shortest that becomes the
number when it is rounded once, but it is read as a double, which is rounded
again. All single numbers are read back as they were but for `7.038531e-26` and
its negative, which come back as the next number away from zero. -/

namespace TypedScalar

open Text

namespace Floating

open Format

theorem reread_lt {m : ℕ} (hm : m < single.infinity) : reread m < single.infinity := by
  rw [reread]
  split_ifs with h
  · rw [h]
    decide
  · exact hm

theorem reread_eq_iff {m : ℕ} : reread m = m ↔ m ≠ strayMagnitude := by
  rw [reread]
  split_ifs with h <;> simp [h]

namespace Number

/-- What a single number's text is read back as. -/
def reread : Single → Single
  | .nan => .nan
  | .signed negative m =>
    if h : m.val < single.infinity then
      .signed negative ⟨Floating.reread m, Nat.lt_succ_of_lt (reread_lt h)⟩
    else .signed negative m

/-- The two numbers that are not read back. -/
def stray (negative : Bool) : Single := .signed negative ⟨strayMagnitude, by decide⟩

theorem reread_eq_self_iff (x : Single) : x.reread = x ↔ ∀ negative, x ≠ stray negative := by
  cases x with
  | nan => simp [reread, stray]
  | signed negative m =>
    have hstray : (∀ negative', (signed negative m : Single) ≠ stray negative') ↔
        m.val ≠ strayMagnitude := by
      simp [stray, Fin.ext_iff]
    rw [hstray, reread]
    split_ifs with hm
    · rw [signed.injEq, Fin.ext_iff, ← reread_eq_iff]
      simp
    · refine iff_of_true rfl ?_
      rintro heq
      rw [heq] at hm
      exact hm (by decide)

/-- The text of a finite single number is read as a finite double, and this is
converted to the number again but for the stray ones. -/
theorem exists_double (negative : Bool) {m : Fin (single.infinity + 1)} (hm : m.val < single.infinity) :
    ∃ (w : Written) (y : Fin (double.infinity + 1)),
      text .single (signed negative m) = Text.signed negative w.text ∧
      ofDecimal double negative (natOfAscii w.digits) w.exponent = .signed negative y ∧
      y.val < double.infinity ∧
      (signed negative y : Double).convert .single = reread (signed negative m) := by
  obtain ⟨w, hw, hvalue⟩ := exists_text (l := .single) negative hm
  obtain ⟨y, hy⟩ := exists_ofDecimal double negative (natOfAscii w.digits) w.exponent
  have hy' := ofDecimal_eq_iff.1 hy
  rw [hvalue] at hy'
  have hlt := double_lt_infinity hm hy'
  obtain ⟨z, hz⟩ : ∃ z, (signed negative y : Double).convert .single = signed negative z := by
    rw [convert, if_neg hlt.ne]
    exact ⟨_, rfl⟩
  have hz' := eq_reread hm hy' ((convert_eq_iff hlt).1 hz)
  refine ⟨w, y, hw, hy, hlt, ?_⟩
  rw [hz, reread, dif_pos hm]
  congr 1
  exact Fin.ext hz'

theorem isInfinite_reread (negative : Bool) {m : Fin (single.infinity + 1)} (hm : m.val < single.infinity) :
    (reread (signed negative m)).isInfinite = false := by
  rw [reread, dif_pos hm]
  simpa [isInfinite] using (reread_lt hm).ne

end Number

end Floating

namespace Scalar

open Floating (Single Double Format)

/-- Reading the text of a single number gives a double, which is converted. -/
theorem exists_readReal?_text (x : Single) : ∃ y : Double, readReal? (x.text .single) = some (some y) ∧
    FloatingKind.single.ofDouble y = x.reread ∧
    (y.isFinite && (FloatingKind.single.ofDouble y).isInfinite) = false := by
  cases x with
  | nan => exact ⟨.nan, rfl, rfl, rfl⟩
  | signed negative m =>
    rcases m.le_last.lt_or_eq with hlt | rfl
    · obtain ⟨w, y, hw, hy, hfinite, hconvert⟩ := Floating.Number.exists_double negative hlt
      refine ⟨.signed negative y, ?_, hconvert, ?_⟩
      · rw [hw, readReal?, read?_signed]
        simp [Floating.Number.ofNumeral, hy, Floating.Number.isInfinite, hfinite.ne]
      · refine Bool.and_eq_false_iff.2 (.inr ?_)
        exact (congrArg Floating.Number.isInfinite hconvert).trans
          (Floating.Number.isInfinite_reread negative hlt)
    · refine ⟨.infinite negative, ?_, ?_, ?_⟩ <;> cases negative <;> rfl

variable {c : ScalarClass}

theorem parseValid_text_single (r : Rendering) (hc : c.kind? = some (.floating .single)) (x : Single) :
    parseValid r c (.ofString (Kind.payloadText r (.floating .single) x)) =
      .ok ⟨c, .floating .single, hc, some x.reread⟩ := by
  obtain ⟨y, hread, hreread, hrange⟩ := exists_readReal?_text x
  have htext : readReal? (Source.ofString (Kind.payloadText r (.floating .single) x)).text.toList =
      some (some y) := by
    show readReal? (String.ofList (x.text .single)).toList = _
    rw [String.toList_ofList]
    exact hread
  rw [parseValid_of_readReal? hc htext hrange, hreread]

/-- Under an accepted configuration, a single number is parsed from its text as it
was, NaN, the infinities and the signs of zeros included, unless it is one of the
two stray ones; these become their neighbours away from zero. The same holds where
it is cast to string and back. -/
theorem single_roundTrip {e : Environment} (hconfig : e.config.Accepted) (hsound : e.registry.Sound)
    {cs cf : ScalarClass} (hcs : e.registry.find? (some .string) = some cs)
    (hcf : e.registry.find? (some (.floating .single)) = some cf) (hc : c.kind? = some (.floating .single))
    (x : Single) (i j : ℕ) :
    let s : Scalar := ⟨c, .floating .single, hc, some x⟩
    (parseAs c (.text (s.text e.rendering)) none).outcome e =
      (.ok ⟨c, .floating .single, hc, some x.reread⟩, e) ∧
    ((castThroughText ⟨i, s⟩ j "float").outcome e).1 =
      .ok (.fresh ⟨cf, .floating .single, hsound.kind?_eq hcf, some x.reread⟩) ∧
    ((parseAs c (.text (s.text e.rendering)) none).outcome e = (.ok s, e) ↔
      ∀ negative, x ≠ .stray negative) := by
  intro s
  have hne := payloadText_ne_nullToken hconfig (k := .floating .single) (by decide) x
  have hread (c : ScalarClass) (hc : c.kind? = some (.floating .single)) :=
    parseValid_text_single e.rendering hc x
  obtain ⟨hparse, hcast⟩ :=
    rereading_outcome (k := .floating .single) (by decide) (by decide) hne hread hsound hcs hcf hc i j
  refine ⟨hparse, hcast, ?_⟩
  rw [hparse, ← x.reread_eq_self_iff]
  simp only [s, Prod.mk.injEq, Except.ok.injEq, Scalar.mk.injEq, heq_eq_eq, true_and, and_true]
  exact Option.some_inj

/-- The positive stray number is not the one that its text is parsed as. -/
theorem single_roundTrip_stray :
    let e := Environment.initial
    let s : Scalar := ⟨.concrete (.floating .single), .floating .single, rfl, some (.stray false)⟩
    e.config.Accepted ∧ e.registry.Sound ∧ e.registry.find? (some .string) = some (.concrete .string) ∧
      e.registry.find? (some (.floating .single)) = some (.concrete (.floating .single)) ∧
      s.text e.rendering = "7.038531e-26" ∧
      (parseAs s.cls (.text (s.text e.rendering)) none).outcome e =
        (.ok { s with payload := some (.signed false ⟨0x15ae43fe, by decide⟩) }, e) := by
  have haccepted : Environment.initial.config.Accepted := ⟨Config.initial.rendering, rfl⟩
  have hsound : Environment.initial.registry.Sound := Registry.sound_builtIn
  have hstring : Environment.initial.registry.find? (some .string) = some (.concrete .string) := rfl
  have hsingle : Environment.initial.registry.find? (some (.floating .single)) =
      some (.concrete (.floating .single)) := rfl
  exact ⟨haccepted, hsound, hstring, hsingle, by decide +kernel,
    (single_roundTrip haccepted hsound hstring hsingle rfl (.stray false) 0 1).1⟩

end Scalar

end TypedScalar
