import TypedScalar.Proofs.Floating.Widening
import TypedScalar.Proofs.Scalar.Reading
import TypedScalar.Proofs.Value.Shown
import TypedScalar.Scalar.Cast

/-! The exact values of scalars. Booleans count as zero and one, integers are their own
values, and so are finite numbers of a floating kind, of which a double holds each
exactly. What is not finite, a text or bytes have no value. -/

namespace TypedScalar

open Floating (Double)

namespace FloatingKind

variable (k : FloatingKind)

instance regular_format : k.format.Regular := by
  cases k with
  | single => exact inferInstanceAs Floating.Format.single.Regular
  | double => exact inferInstanceAs Floating.Format.double.Regular

@[simp] theorem ofDouble_toDouble (x : Floating.Number k.format) : k.ofDouble (k.toDouble x) = x := by
  cases k with
  | single => exact Floating.Number.convert_single_convert_double x
  | double => rfl

@[simp] theorem isNaN_toDouble (x : Floating.Number k.format) : (k.toDouble x).isNaN = x.isNaN := by
  cases k with
  | single => exact Floating.Number.isNaN_convert _ x
  | double => rfl

@[simp] theorem isNaN_ofDouble (x : Double) : (k.ofDouble x).isNaN = x.isNaN := by
  cases k with
  | single => exact Floating.Number.isNaN_convert _ x
  | double => rfl

@[simp] theorem isFinite_toDouble (x : Floating.Number k.format) : (k.toDouble x).isFinite = x.isFinite := by
  cases k with
  | single => exact Floating.Number.isFinite_convert_double x
  | double => rfl

theorem value_toDouble {x : Floating.Number k.format} (hx : x.isFinite = true) :
    (k.toDouble x).value = x.value := by
  cases k with
  | single => exact Floating.Number.value_convert_double hx
  | double => rfl

@[simp] theorem toDouble_zero (negative : Bool) : k.toDouble (.zero negative) = .zero negative := by
  cases k with
  | single => exact Floating.Number.convert_zero (f := .single) .double negative
  | double => rfl

theorem toDouble_injective : Function.Injective k.toDouble :=
  Function.LeftInverse.injective k.ofDouble_toDouble

@[simp] theorem isZero_toDouble (x : Floating.Number k.format) : (k.toDouble x).isZero = x.isZero := by
  rw [Bool.eq_iff_iff, Floating.Number.isZero_iff, Floating.Number.isZero_iff]
  simp only [← k.toDouble_zero, k.toDouble_injective.eq_iff]

/-- Numbers are equal as what they are if they are as doubles. -/
@[simp] theorem equals_toDouble (x y : Floating.Number k.format) :
    (k.toDouble x).equals (k.toDouble y) = x.equals y := by
  rw [Bool.eq_iff_iff, Floating.Number.equals_iff, Floating.Number.equals_iff]
  simp [k.toDouble_injective.eq_iff]

@[simp] theorem ofDouble_zero (negative : Bool) : k.ofDouble (.zero negative) = .zero negative := by
  rw [← k.toDouble_zero, k.ofDouble_toDouble]

/-- A double becomes the number of the kind that it is rounded to. -/
theorem ofDouble_eq_iff {x : Double} {y : Floating.Number k.format} : k.ofDouble x = y ↔ x.RoundedTo y := by
  cases k with
  | single => exact Floating.Number.roundedTo_iff.symm
  | double =>
    have hself : x.convert Floating.Format.double = x :=
      Floating.Number.roundedTo_iff.1 (Floating.Number.roundedTo_self x)
    rw [ofDouble, Floating.Number.roundedTo_iff]
    exact Eq.congr_left hself.symm

/-- A double that equals a number of the kind is that number, or the other zero. -/
theorem ofDouble_equals {x : Floating.Number k.format} {y : Double} (h : y.equals (k.toDouble x) = true) :
    (k.ofDouble y).equals x = true := by
  obtain ⟨hy, rfl | ⟨hy', hx'⟩⟩ := Floating.Number.equals_iff.1 h
  · rw [ofDouble_toDouble]
    exact Floating.Number.equals_self (by simpa using hy)
  · obtain ⟨negative, rfl⟩ := Floating.Number.isZero_iff.1 hy'
    rw [ofDouble_zero]
    exact Floating.Number.equals_iff.2 ⟨rfl, .inr ⟨rfl, by simpa using hx'⟩⟩

end FloatingKind

/-! ### Exact values -/

namespace Kind

theorem isNumeric_iff {k : Kind} :
    k.isNumeric = true ↔ (∃ i, k = .integer i) ∨ ∃ f, k = .floating f := by
  cases k <;> simp [isNumeric, isInteger, isFloating]

theorem ne_of_isNumeric {k m : Kind} (hk : k.isNumeric = true) (hm : m.isNumeric = false) : k ≠ m := by
  rintro rfl
  exact Bool.false_ne_true (hm.symm.trans hk)

/-- The exact value of a boolean or a finite number. -/
def exactValue? : (k : Kind) → k.Payload → Option ℚ
  | .boolean, (b : Bool) => some (if b then 1 else 0)
  | .integer _, (n : IntegerKind.Value _) => some n.val
  | .floating _, (x : Floating.Number _) => if x.isFinite then some x.value else none
  | _, _ => none

variable {k : Kind} {p : k.Payload} {n : ℤ}

theorem exactValue?_boolean {b : Bool} :
    boolean.exactValue? b = some (n : ℚ) ↔ (if b then (1 : ℤ) else 0) = n := by
  have hvalue : boolean.exactValue? b = some (((if b then 1 else 0 : ℤ) : ℚ)) := by
    cases b <;> simp [exactValue?]
  rw [hvalue, Option.some.injEq, Int.cast_inj]

theorem exactValue?_integer {i : IntegerKind} {m : i.Value} :
    (integer i).exactValue? m = some (n : ℚ) ↔ m.val = n :=
  Option.some_inj.trans Int.cast_inj

theorem exactValue?_floating {k : FloatingKind} {x : Floating.Number k.format} :
    (floating k).exactValue? x = some (n : ℚ) ↔ (k.toDouble x).toInt? = some n := by
  rw [Floating.Number.toInt?_eq_some_iff, k.isFinite_toDouble, exactValue?]
  cases hx : x.isFinite with
  | true => simp [k.value_toDouble hx]
  | false => simp

/-- A value that is an integer is the whole number that the payload is, or that the
double is that it comes to. -/
theorem whole_of_exactValue? (h : k.exactValue? p = some (n : ℚ)) :
    k.wholeNumber? p = some n ∨
      k.wholeNumber? p = none ∧ ∃ x, k.realNumber? p = some x ∧ x.toInt? = some n := by
  cases k with
  | null => exact Empty.elim p
  | boolean => exact .inl (congrArg some (exactValue?_boolean.1 h))
  | integer i => exact .inl (congrArg some (exactValue?_integer.1 h))
  | floating f => exact .inr ⟨rfl, _, rfl, exactValue?_floating.1 h⟩
  | string | binary => simp [exactValue?] at h

end Kind

/-- The exact value of a valid boolean or finite number. -/
def Scalar.exactValue? (s : Scalar) : Option ℚ := s.payload.bind s.kind.exactValue?

theorem IntegerKind.natAbs_lt (k : IntegerKind) {n : ℤ} (h : k.min ≤ n ∧ n ≤ k.max) :
    n.natAbs < 2 ^ 64 := by
  obtain ⟨signed, width⟩ := k
  cases signed <;> cases width <;> simp [min, max, Width.bits] at h <;> omega

theorem Kind.natAbs_lt_of_exactValue? {k : Kind} {p : k.Payload} {n : ℤ}
    (h : k.exactValue? p = some (n : ℚ)) : n.natAbs < 2 ^ 2 ^ 10 := by
  have hwidth : 2 ^ 64 < 2 ^ 2 ^ 10 := Nat.pow_lt_pow_right (by norm_num) (by norm_num)
  cases k with
  | null => exact Empty.elim p
  | boolean =>
    obtain rfl := exactValue?_boolean.1 h
    refine lt_trans ?_ hwidth
    cases (p : Bool) <;> norm_num
  | integer i =>
    obtain rfl := exactValue?_integer.1 h
    exact (i.natAbs_lt p.property).trans hwidth
  | floating f =>
    obtain ⟨hfinite, hvalue⟩ := Floating.Number.toInt?_eq_some_iff.1 (exactValue?_floating.1 h)
    have hlt := Floating.Number.natAbs_lt_of_value hfinite hvalue
    have hbits : Floating.Format.double.exponentBits - 1 = 10 := rfl
    rwa [hbits] at hlt
  | string | binary => simp [exactValue?] at h

/-- Integers that are not too large have a text. -/
theorem integerText_of_lt {n : ℤ} (h : n.natAbs < 2 ^ 2 ^ 10) : integerText n = .ok (toString n) := by
  refine integerText_of_not_isLong fun hlong => absurd h (not_lt.2 ?_)
  calc 2 ^ 2 ^ 10 ≤ 10 ^ 2 ^ 10 := Nat.pow_le_pow_left (by norm_num) _
    _ ≤ 10 ^ Text.digitLimit := Nat.pow_le_pow_right (by norm_num) (by decide)
    _ ≤ n.natAbs := hlong

end TypedScalar
