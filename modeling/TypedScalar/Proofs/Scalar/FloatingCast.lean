import TypedScalar.Proofs.Floating.Closest
import TypedScalar.Proofs.Scalar.CastTotal

/-! Casts of integers to floating kinds. An integer is made a double first, which is the one closest to
it, and the double is rounded to the kind. So it becomes a double closest to it, but not always a single
number closest to it: the double may be a midpoint between two of those, and the integer lie beyond. -/

namespace TypedScalar

open Floating (Double Single)
open Floating.Number

namespace FloatingKind

variable (f : FloatingKind) {n : ℤ}

theorem isFinite_ofDouble_ofInt (hn : n.natAbs ≤ 2 ^ 64) : (f.ofDouble (.ofInt .double n)).isFinite = true := by
  cases f with
  | single => exact isFinite_convert_ofInt hn (by decide) (by decide)
  | double => exact isFinite_ofInt hn (by decide)

/-- A double is rounded to the number of a kind that is closest to it. -/
theorem closest_ofDouble {x : Double} (hx : x.isFinite = true) (hfinite : (f.ofDouble x).isFinite = true) :
    (f.ofDouble x).Closest x.value := by
  cases f with
  | single => exact closest_convert hx hfinite
  | double => exact closest_value hx

/-- What an integer becomes by way of a double is closest to the integer, unless another number of the
kind is as close to the double and closer to the integer. -/
theorem closest_ofDouble_ofInt_iff (hn : n.natAbs ≤ 2 ^ 64) :
    let d : Double := .ofInt .double n
    (f.ofDouble d).Closest n ↔ ¬ ∃ y : Floating.Number f.format, y.isFinite = true ∧
      |d.value - y.value| = |d.value - (f.ofDouble d).value| ∧
      |(n : ℚ) - y.value| < |(n : ℚ) - (f.ofDouble d).value| := by
  intro d
  cases f with
  | single => exact closest_convert_ofInt_iff hn (by decide)
  | double =>
    have hclosest : d.Closest n := closest_ofInt hn (by decide)
    refine iff_of_true hclosest ?_
    rintro ⟨y, hy, -, hlt⟩
    exact (hclosest.le hy).not_gt hlt

theorem closest_ofDouble_ofInt (hn : n.natAbs ≤ 2 ^ 64) (h : f = .double ∨ n.natAbs ≤ 2 ^ 53) :
    (f.ofDouble (.ofInt .double n)).Closest n := by
  cases f with
  | single => exact closest_convert_ofInt_of_le (h.resolve_left (by simp))
  | double => exact closest_ofInt hn (by decide)

end FloatingKind

namespace Scalar

variable {e : Environment} {r : Rendering} {c : ScalarClass} {f : FloatingKind} {i : IntegerKind} {s : Scalar}
  {n : ℤ} {t : Value}

theorem castPayload_integer_floating (hc : c.kind? = some (.floating f)) (n : i.Value) :
    castPayload r c (.integer i) n = .ok ⟨c, .floating f, hc, some (f.ofDouble (.ofInt .double n.val))⟩ := by
  rw [castPayload_ofInt hc]
  exact make_real_ofInt hc (i.natAbs_lt n.property).le

theorem cast_integer_outcome (hi : s.kind.isInteger = true) (hn : s.exactValue? = some (n : ℚ))
    (ht : DataType.resolve e.rendering t = .ok (.concrete (.floating f)))
    (hfind : e.registry.find? (some (.floating f)) = some c) (hc : c.kind? = some (.floating f)) (number : ℕ) :
    n.natAbs ≤ 2 ^ 64 ∧ ((Scalar.cast ⟨number, s⟩ t).outcome e).1 =
      .ok (.fresh ⟨c, .floating f, hc, some (f.ofDouble (.ofInt .double n))⟩) := by
  obtain ⟨d, k, hd, _ | p⟩ := s
  · simp [exactValue?] at hn
  cases k with
  | integer i =>
    obtain rfl := Kind.exactValue?_integer.1 hn
    refine ⟨(i.natAbs_lt p.property).le, ?_⟩
    rw [cast_outcome ht hfind rfl (by simp) (by simp)]
    exact congrArg (Except.map Made.fresh) (castPayload_integer_floating hc p)
  | _ => simp [Kind.isInteger] at hi

/-- An integer is cast to a floating kind by way of the double closest to it, which is rounded to the
closest number of the kind. That is the number closest to the integer itself unless another one is as
close to the double and closer to the integer; so it is for doubles, and up to 53 bits. -/
theorem integer_cast_closest (hreachable : e.registry.Reachable) (hi : s.kind.isInteger = true)
    (hn : s.exactValue? = some (n : ℚ)) (ht : DataType.resolve e.rendering t = .ok (.concrete (.floating f)))
    (hfind : e.registry.find? (some (.floating f)) = some c) (number : ℕ) :
    ∃ (hc : c.kind? = some (.floating f)) (d : Double) (x : Floating.Number f.format),
      ((Scalar.cast ⟨number, s⟩ t).outcome e).1 = .ok (.fresh ⟨c, .floating f, hc, some x⟩) ∧
      d.Closest n ∧ x.Closest d.value ∧ (f = .double ∨ n.natAbs ≤ 2 ^ 53 → x.Closest n) ∧
      (x.Closest n ↔ ¬ ∃ y : Floating.Number f.format, y.isFinite = true ∧
        |d.value - y.value| = |d.value - x.value| ∧ |(n : ℚ) - y.value| < |(n : ℚ) - x.value|) := by
  have hc := hreachable.sound.kind?_eq hfind
  obtain ⟨hbound, hcast⟩ := cast_integer_outcome hi hn ht hfind hc number
  have hfinite : (Floating.Number.ofInt .double n).isFinite = true := isFinite_ofInt hbound (by decide)
  exact ⟨hc, .ofInt .double n, _, hcast, closest_ofInt hbound (by decide),
    f.closest_ofDouble hfinite (f.isFinite_ofDouble_ofInt hbound), f.closest_ofDouble_ofInt hbound,
    f.closest_ofDouble_ofInt_iff hbound⟩

/-- The first integer that has no single number of its value. -/
theorem integer_cast_closest_odd :
    let int32 : Kind := .integer ⟨true, .w32⟩
    let s : Scalar := ⟨.concrete int32, int32, rfl, some ⟨2 ^ 24 + 1, by decide⟩⟩
    ∃ x : Single, ((Scalar.cast ⟨0, s⟩ (.text "float")).outcome .initial).1 =
        .ok (.fresh ⟨.concrete (.floating .single), .floating .single, rfl, some x⟩) ∧
      x.Closest ((2 ^ 24 + 1 : ℤ) : ℚ) := by
  intro int32 s
  have hvalue : s.exactValue? = some ((2 ^ 24 + 1 : ℤ) : ℚ) := rfl
  obtain ⟨hc, d, x, hcast, -, -, hclosest, -⟩ := integer_cast_closest (f := .single) (s := s) (e := .initial)
    .builtIn rfl hvalue (DataType.resolve_name _ (.floating .single)) rfl 0
  exact ⟨x, hcast, hclosest (.inr (by decide))⟩

/-- An integer of 54 bits whose double is the midpoint between two single numbers. The upper one is
closer to the integer, but it becomes the lower one, which is even. -/
theorem integer_cast_astray :
    let int64 : Kind := .integer ⟨true, .w64⟩
    let s : Scalar := ⟨.concrete int64, int64, rfl, some ⟨2 ^ 53 + 2 ^ 29 + 1, by decide⟩⟩
    ∃ x : Single, ((Scalar.cast ⟨0, s⟩ (.text "float")).outcome .initial).1 =
        .ok (.fresh ⟨.concrete (.floating .single), .floating .single, rfl, some x⟩) ∧
      ¬ x.Closest ((2 ^ 53 + 2 ^ 29 + 1 : ℤ) : ℚ) := by
  intro int64 s
  have hvalue : s.exactValue? = some ((2 ^ 53 + 2 ^ 29 + 1 : ℤ) : ℚ) := rfl
  let lower : Single := .signed false ⟨0x5A000000, by decide⟩
  let upper : Single := .signed false ⟨0x5A000001, by decide⟩
  have hlower : (Floating.Number.ofInt .double (2 ^ 53 + 2 ^ 29 + 1)).convert Floating.Format.single = lower := by
    decide +kernel
  obtain ⟨-, hcast⟩ := cast_integer_outcome (f := .single) (s := s) (e := .initial) rfl hvalue
    (DataType.resolve_name _ (.floating .single)) rfl rfl 0
  refine ⟨lower, hcast.trans (by rw [← hlower]; rfl), fun hclosest => ?_⟩
  have hvalues : lower.value = ((2 ^ 53 : ℤ) : ℚ) ∧ upper.value = ((2 ^ 53 + 2 ^ 30 : ℤ) : ℚ) := by
    rw [value_eq_intCast_iff, value_eq_intCast_iff]
    decide +kernel
  have hle := hclosest.le (y := upper) rfl
  rw [hvalues.1, hvalues.2] at hle
  norm_num at hle

end Scalar

end TypedScalar
