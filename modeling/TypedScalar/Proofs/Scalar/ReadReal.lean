import TypedScalar.Proofs.Scalar.Casting
import TypedScalar.Proofs.Scalar.FloatingRange
import TypedScalar.Proofs.Text.RealText

/-! What the classes of the floating kinds read. A text that names infinity or NaN is read as it says; a
decimal is rounded to the nearest double and this to the nearest number of the kind, and refused if either
overflows; every other text is refused. So only a name of infinity is read as infinite. -/

namespace TypedScalar.Scalar

open Floating (Double)
open Floating.Number
open Text (Meaning RealText Numeral)

variable {r : Rendering} {c : ScalarClass} {f : FloatingKind} {e : Environment} {x : Except Error Scalar}
  {s : List Char}

/-- What a class of a floating kind reads a text as that stands for something. -/
inductive ReadingReal (hc : c.kind? = some (.floating f)) : Option Meaning → Except Error Scalar → Prop
  | malformed {x : Except Error Scalar} (hx : Unread x) : ReadingReal hc none x
  | nan : ReadingReal hc (some .nan) (.ok ⟨c, .floating f, hc, some .nan⟩)
  | infinity (negative : Bool) :
    ReadingReal hc (some (.infinity negative)) (.ok ⟨c, .floating f, hc, some (.infinite negative)⟩)
  | overflow {negative : Bool} {v : ℚ} (hv : FloatingKind.double.overflow ≤ v) {x : Except Error Scalar}
    (hx : Unread x) : ReadingReal hc (some (.decimal negative v)) x
  | finite {negative : Bool} {v : ℚ} (hv : v < FloatingKind.double.overflow) {d : Double}
    (hd : d.Closest (factor negative * v)) (hminus : d.hasMinus = negative) {x : Except Error Scalar}
    (hover : f.overflow ≤ |d.value| → Unread x)
    (hfits : |d.value| < f.overflow →
      ∃ y, x = .ok ⟨c, .floating f, hc, some y⟩ ∧ y.Closest d.value ∧ y.hasMinus = negative) :
    ReadingReal hc (some (.decimal negative v)) x

theorem readingReal_decimal (hc : c.kind? = some (.floating f)) {d : Double} {negative : Bool} {v : ℚ}
    (hv : v < FloatingKind.double.overflow) (hd : d.Closest (factor negative * v))
    (hminus : d.hasMinus = negative) (shown : String) :
    ReadingReal hc (some (.decimal negative v))
      (if d.isFinite && (f.ofDouble d).isInfinite then
        .error (.parse shown (.floating f) (.range (.real (doubleText d) f)))
      else .ok ⟨c, .floating f, hc, some (f.ofDouble d)⟩) := by
  refine .finite hv hd hminus (fun hover => ?_) fun hfits => ?_
  · rw [if_pos (f.overflows_iff.2 ⟨hd.isFinite, hover⟩)]
    exact ⟨_, rfl, rfl⟩
  · rw [if_neg fun h => hfits.not_ge (f.overflows_iff.1 h).2]
    have hnearest := (f.nearest_ofDouble fun _ => hfits).closest_of_isFinite hd.isFinite
    exact ⟨_, rfl, hnearest.1, hnearest.2.trans hminus⟩

theorem readReal?_decimal {negative : Bool} {n : ℕ} {p : ℤ}
    (h : Numeral.read? s = some (.decimal negative n p)) :
    readReal? s = some (if (ofDecimal .double negative n p).isInfinite then none
      else some (ofDecimal .double negative n p)) := by
  rw [readReal?, h]
  rfl

/-- Reading gives what the text stands for. -/
theorem readingReal_parseValid (hc : c.kind? = some (.floating f)) (t : Source) :
    ReadingReal hc ((Numeral.read? t.text.toList).map Numeral.meaning) (parseValid r c t) := by
  rw [parseValid_floating hc]
  cases hread : Numeral.read? t.text.toList with
  | none =>
    have hreal : readReal? t.text.toList = none := by rw [readReal?, hread]; rfl
    rw [hreal]
    exact .malformed ⟨_, rfl, rfl⟩
  | some n =>
    cases n with
    | nan =>
      have hreal : readReal? t.text.toList = some (some .nan) := by rw [readReal?, hread]; rfl
      have hnan : f.ofDouble .nan = .nan := by cases f <;> rfl
      have hfinite : (Floating.Number.nan : Double).isFinite = false := rfl
      rw [hreal]
      simp only [hfinite, Bool.false_and, Bool.false_eq_true, ↓reduceIte, hnan]
      exact .nan
    | infinity negative =>
      have hreal : readReal? t.text.toList = some (some (.infinite negative)) := by rw [readReal?, hread]; rfl
      have hinfinite : f.ofDouble (.infinite negative) = .infinite negative := by
        rw [FloatingKind.ofDouble_eq_convert, convert_infinite]
      rw [hreal]
      simp only [isFinite_infinite, Bool.false_and, Bool.false_eq_true, ↓reduceIte, hinfinite]
      exact .infinity negative
    | decimal negative n p =>
      have hformat := FloatingKind.double.overflow_format
      have hover :
          (ofDecimal .double negative n p).isInfinite = true ↔ FloatingKind.double.overflow ≤ n * 10 ^ p :=
        hformat ▸ isInfinite_ofDecimal_iff
      rw [readReal?_decimal hread]
      by_cases hinfinite : (ofDecimal .double negative n p).isInfinite = true
      · rw [if_pos hinfinite]
        exact .overflow (hover.1 hinfinite) ⟨_, rfl, rfl⟩
      · have hv := not_le.1 (mt hover.2 hinfinite)
        rw [if_neg hinfinite]
        exact readingReal_decimal hc hv (closest_ofDecimal (hformat ▸ hv) negative) (hasMinus_ofDecimal _ _ _) _

/-! ### Outcomes -/

namespace ReadingReal

variable {hc : c.kind? = some (.floating f)} {m : Option Meaning}

theorem unread_of_none (h : ReadingReal hc none x) : Unread x := by
  cases h with
  | malformed hx => exact hx

/-- A decimal is read as a finite number, if at all. -/
theorem isFinite_of_decimal {negative : Bool} {v : ℚ} {y : Floating.Number f.format}
    (h : ReadingReal hc (some (.decimal negative v)) (.ok ⟨c, .floating f, hc, some y⟩)) :
    y.isFinite = true := by
  cases h with
  | overflow hv hx => exact absurd hx (not_unread_ok _)
  | finite hv hd hminus hover hfits =>
    obtain ⟨z, hz, hclosest, -⟩ := hfits (not_le.1 fun h => not_unread_ok _ (hover h))
    obtain rfl : y = z := by simpa using hz
    exact hclosest.isFinite

theorem infinite_iff (h : ReadingReal hc m x) (negative : Bool) :
    x = .ok ⟨c, .floating f, hc, some (.infinite negative)⟩ ↔ m = some (.infinity negative) := by
  constructor
  · rintro rfl
    cases m with
    | none => exact absurd h.unread_of_none (not_unread_ok _)
    | some m =>
      cases m with
      | nan => cases h
      | infinity s =>
        generalize hx : (Except.ok _ : Except Error Scalar) = x at h
        cases h with
        | infinity =>
          have heq : .infinite negative = (.infinite s : Floating.Number f.format) := by simpa using hx
          rw [(Floating.Number.signed.inj heq).1]
      | decimal s v => exact absurd h.isFinite_of_decimal (by simp)
  · rintro rfl
    cases h with
    | infinity => rfl

theorem nan_iff (h : ReadingReal hc m x) : x = .ok ⟨c, .floating f, hc, some .nan⟩ ↔ m = some .nan := by
  constructor
  · rintro rfl
    cases m with
    | none => exact absurd h.unread_of_none (not_unread_ok _)
    | some m =>
      cases m with
      | nan => rfl
      | infinity s => cases h
      | decimal s v => exact absurd h.isFinite_of_decimal (by simp [isFinite, isNaN])
  · rintro rfl
    cases h with
    | nan => rfl

end ReadingReal

/-- A class of a floating kind reads a text other than the null token as infinite exactly if it names
infinity, and as NaN exactly if it names NaN. A decimal it rounds to the closest double, and this to the
closest number of the kind, and refuses it exactly if one of them overflows; any other text it refuses. -/
theorem parse_real_exact (hc : c.kind? = some (.floating f)) {text : String}
    (htoken : text ≠ e.rendering.nullToken) :
    let result := (parseAs c (.text text) none).outcome e
    let made (y : Floating.Number f.format) : Scalar := ⟨c, .floating f, hc, some y⟩
    (∀ negative, result.1 = .ok (made (.infinite negative)) ↔ RealText text.toList (.infinity negative)) ∧
    (result.1 = .ok (made .nan) ↔ RealText text.toList .nan) ∧
    (∀ negative v, RealText text.toList (.decimal negative v) →
      (FloatingKind.double.overflow ≤ v → Unread result.1) ∧
      (v < FloatingKind.double.overflow →
        ∃ d : Double, d.Closest (factor negative * v) ∧ d.hasMinus = negative ∧
          (f.overflow ≤ |d.value| → Unread result.1) ∧
          (|d.value| < f.overflow →
            ∃ y, result.1 = .ok (made y) ∧ y.Closest d.value ∧ y.hasMinus = negative))) ∧
    ((∀ m, ¬ RealText text.toList m) → Unread result.1) ∧ result.2 = e := by
  intro result made
  have hresult : result = (parseValid e.rendering c (.ofString text), e) :=
    parseAs_outcome_valid hc (by simp) (by simp) htoken
  have hread := readingReal_parseValid (r := e.rendering) hc (.ofString text)
  rw [hresult]
  refine ⟨fun negative => ?_, ?_, fun negative v hv => ?_, fun hnone => ?_, rfl⟩
  · rw [Text.realText_iff]
    exact hread.infinite_iff negative
  · rw [Text.realText_iff]
    exact hread.nan_iff
  · rw [Text.realText_iff] at hv
    rw [show (Source.ofString text).text = text from rfl, hv] at hread
    cases hread with
    | overflow hover hx => exact ⟨fun _ => hx, fun hlt => absurd hover hlt.not_ge⟩
    | finite hlt hd hminus hover hfits =>
      exact ⟨fun hover => absurd hover hlt.not_ge, fun _ => ⟨_, hd, hminus, hover, hfits⟩⟩
  · have hmeaning : (Numeral.read? (Source.ofString text).text.toList).map Numeral.meaning = none :=
      Option.eq_none_iff_forall_ne_some.2 fun m hm => hnone m (Text.realText_iff.2 hm)
    rw [hmeaning] at hread
    exact hread.unread_of_none

/-- A decimal that overflows is refused, and the name of infinity is not, between blanks of any script. -/
theorem parse_real_exact_overflow :
    let single : ScalarClass := .concrete (.floating .single)
    let result (text : String) := ((parseAs single (.text text) none).outcome .initial).1
    Unread (result "1e1024") ∧
      result "\u3000-INF" = .ok ⟨single, .floating .single, rfl, some (.infinite true)⟩ := by
  intro single result
  have hdecimal : RealText "1e1024".toList (.decimal false ((1 : ℕ) * 10 ^ (1024 : ℤ))) :=
    Text.realText_iff.2 rfl
  have hinfinity : RealText "\u3000-INF".toList (.infinity true) := Text.realText_iff.2 rfl
  have hlarge : "1e1024" ≠ Environment.initial.rendering.nullToken := by decide
  have hnamed : "\u3000-INF" ≠ Environment.initial.rendering.nullToken := by decide
  obtain ⟨-, -, hread, -⟩ := parse_real_exact (c := single) (f := .single) rfl hlarge
  obtain ⟨hinfinite, -⟩ := parse_real_exact (c := single) (f := .single) rfl hnamed
  refine ⟨(hread _ _ hdecimal).1 ?_, (hinfinite true).2 hinfinity⟩
  have hpow : (2 : ℚ) ^ 1024 ≤ 10 ^ 1024 := pow_le_pow_left₀ (by norm_num) (by norm_num) 1024
  have hpos : (0 : ℚ) < 2 ^ 970 := by positivity
  rw [FloatingKind.overflow, Nat.cast_one, one_mul]
  exact (sub_le_self _ hpos.le).trans (by exact_mod_cast hpow)

/-- The information separators are stripped off elsewhere, but not here. -/
theorem not_infinite_of_stripped :
    ¬ ∀ text : String, text ≠ Environment.initial.rendering.nullToken →
      ((∃ negative, ((parseAs (.concrete (.floating .double)) (.text text) none).outcome .initial).1 =
          .ok ⟨.concrete (.floating .double), .floating .double, rfl, some (.infinite negative)⟩) ↔
        ∃ negative body, Text.Signed (Text.strip text.toList) negative body ∧
          (Text.spells "inf" body = true ∨ Text.spells "infinity" body = true)) := by
  intro h
  have hstrip : Text.Signed (Text.strip "\x1cinf".toList) false "inf".toList := .bare _
  have hread : readReal? "\x1cinf".toList = none := by decide
  obtain ⟨negative, hmade⟩ := (h "\x1cinf" (by decide)).2 ⟨false, _, hstrip, .inl rfl⟩
  rw [parseAs_outcome_valid (k := .floating .double) rfl (by simp) (by simp) (by decide),
    parseValid_floating rfl, Source.ofString, hread] at hmade
  cases hmade

end TypedScalar.Scalar
