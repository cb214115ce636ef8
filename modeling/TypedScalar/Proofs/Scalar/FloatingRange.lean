import TypedScalar.Proofs.Floating.Overflow
import TypedScalar.Proofs.Scalar.FloatingCast
import TypedScalar.Proofs.Scalar.Making

/-! The range of the floating kinds. It is decided after rounding, so numbers a little beyond the largest one
of a kind are still accepted, as that one, and refused only from the midpoint on that rounds to infinity.
Infinities and NaNs are numbers of the kind themselves, and are never refused. -/

namespace TypedScalar

open Floating (Double Single)
open Floating.Number

namespace FloatingKind

/-- Where a kind overflows. -/
def overflow : FloatingKind → ℚ
  | .single => 2 ^ 128 - 2 ^ 103
  | .double => 2 ^ 1024 - 2 ^ 970

variable (f : FloatingKind) {x : Double}

theorem overflow_format : f.format.overflow = f.overflow := by
  cases f with
  | single => exact Floating.Format.overflow_single
  | double => exact Floating.Format.overflow_double

theorem ofDouble_eq_convert (x : Double) : f.ofDouble x = x.convert f.format :=
  f.ofDouble_eq_iff.2 (roundedTo_iff.2 rfl)

theorem isInfinite_ofDouble_iff (hx : x.isFinite = true) :
    (f.ofDouble x).isInfinite = true ↔ f.overflow ≤ |x.value| := by
  rw [ofDouble_eq_convert, isInfinite_convert_iff hx, overflow_format]

theorem overflows_iff :
    (x.isFinite && (f.ofDouble x).isInfinite) = true ↔ x.isFinite = true ∧ f.overflow ≤ |x.value| := by
  rw [Bool.and_eq_true]
  exact and_congr_right f.isInfinite_ofDouble_iff

theorem nearest_ofDouble (h : x.isFinite = true → |x.value| < f.overflow) : x.Nearest (f.ofDouble x) := by
  rw [← overflow_format] at h
  rw [ofDouble_eq_convert]
  exact nearest_convert h

end FloatingKind

namespace Scalar

variable {r : Rendering} {b c d : ScalarClass} {k : Kind} {f : FloatingKind} {v : Value} {x : Double} {n : ℤ}

/-- Whether something is refused as out of range exactly if it lies beyond, and otherwise becomes a scalar
of the class with a number of some sort. -/
structure Ranged (hc : c.kind? = some (.floating f)) (beyond : Prop) (good : Floating.Number f.format → Prop)
    (result : Except Error Scalar) : Prop where
  range_iff : (∃ err, result = .error err ∧ err.errorClass = .scalarRange) ↔ beyond
  exists_ok (h : ¬ beyond) : ∃ y, result = .ok ⟨c, .floating f, hc, some y⟩ ∧ good y

variable {beyond : Prop} {good : Floating.Number f.format → Prop} {hc : c.kind? = some (.floating f)}

theorem Ranged.refused {err : Error} (h : beyond) (herr : err.errorClass = .scalarRange) :
    Ranged hc beyond good (.error err) :=
  ⟨iff_of_true ⟨err, rfl, herr⟩ h, fun hnot => absurd h hnot⟩

theorem Ranged.taken {y : Floating.Number f.format} (h : ¬ beyond) (hy : good y) :
    Ranged hc beyond good (.ok ⟨c, .floating f, hc, some y⟩) :=
  ⟨iff_of_false (by rintro ⟨err, herr, -⟩; cases herr) h, fun _ => ⟨y, rfl, hy⟩⟩

/-! ### Building -/

theorem ranged_make_real (hc : c.kind? = some (.floating f)) (x : Double) :
    Ranged hc (x.isFinite = true ∧ f.overflow ≤ |x.value|) (x.Nearest ·) (make r c (.real x)) := by
  rw [make_real hc]
  split_ifs with h
  · exact .refused (f.overflows_iff.1 h) rfl
  · rw [f.overflows_iff] at h
    exact .taken h (f.nearest_ofDouble fun hx => not_le.1 fun hover => h ⟨hx, hover⟩)

/-- A value is taken for a double, of which the number is made. -/
theorem make_eq_acceptDouble (hc : c.kind? = some (.floating f)) (hv : v.isNone = false) :
    make r c v = (Kind.acceptDouble f c.name v).bind fun x => make r c (.real x) := by
  have haccept : make r c v = (Kind.acceptFloating f c.name v).map fun p => ⟨c, .floating f, hc, some p⟩ := by
    rw [make_eq hc, hv]
    rfl
  rw [haccept, Kind.acceptFloating]
  cases Kind.acceptDouble f c.name v with
  | error err => rfl
  | ok x =>
    simp only [Except.bind, make_real hc]
    split_ifs <;> rfl

theorem make_of_real? (hc : c.kind? = some (.floating f)) (hv : v.real? = some x) :
    make r c v = make r c (.real x) := by
  have hnone : v.isNone = false := by
    cases v with
    | none => simp [Value.real?] at hv
    | _ => rfl
  have hdouble : Kind.acceptDouble f c.name v = .ok x := by
    unfold Value.real? at hv
    split at hv
    case h_5 => simp at hv
    all_goals
      obtain rfl := Option.some.inj hv
      rfl
  rw [make_eq_acceptDouble hc hnone, hdouble]
  rfl

theorem make_of_isInteger (hc : c.kind? = some (.floating f)) (hv : v.IsInteger n) (hn : ¬ IsLong n) :
    make r c v =
      if (ofInt .double n).isInfinite then .error (.range (.real (toString n) f))
      else make r c (.real (ofInt .double n)) := by
  have hnone : v.isNone = false := by cases hv <;> rfl
  have hduration : ¬ v.IsDuration := by
    rintro ⟨seconds, rfl⟩
    nomatch hv
  rw [make_eq_acceptDouble hc hnone, Kind.acceptDouble_eq hduration, Value.isInteger_iff.1 hv]
  simp only [integerText_of_not_isLong hn]
  split_ifs <;> rfl

theorem ranged_make_integer (hc : c.kind? = some (.floating .double)) (hv : v.IsInteger n) (hn : ¬ IsLong n) :
    Ranged hc (FloatingKind.double.overflow ≤ |(n : ℚ)|) (fun y => y.Closest n ∧ y.hasMinus = decide (n < 0))
      (make r c v) := by
  have hover : (ofInt .double n).isInfinite = true ↔ FloatingKind.double.overflow ≤ |(n : ℚ)| :=
    FloatingKind.double.overflow_format ▸ isInfinite_ofInt_iff
  rw [make_of_isInteger hc hv hn]
  split_ifs with hinfinite
  · exact .refused (hover.1 hinfinite) rfl
  · have hbeyond : ¬ FloatingKind.double.overflow ≤ |(n : ℚ)| := mt hover.2 hinfinite
    have hclosest : (ofInt .double n).Closest (n : ℚ) :=
      closest_ofInt_of_lt (FloatingKind.double.overflow_format ▸ not_le.1 hbeyond)
    have hrange :
        ((ofInt .double n).isFinite && (FloatingKind.double.ofDouble (ofInt .double n)).isInfinite) = false :=
      (congrArg _ (Bool.eq_false_iff.2 hinfinite)).trans (Bool.and_false _)
    rw [make_real hc, hrange]
    exact .taken hbeyond ⟨hclosest, hasMinus_ofInt n⟩

/-! ### Outcomes -/

variable {e : Environment} {t : Value}

theorem ranged_cast (ht : DataType.resolve e.rendering t = .ok (.concrete (.floating .single)))
    (hfind : e.registry.find? (some (.floating .single)) = some c) (hc : c.kind? = some (.floating .single))
    (hd : d.kind? = some (.floating .double)) (x : Double) (number : ℕ) :
    Ranged hc (x.isFinite = true ∧ FloatingKind.single.overflow ≤ |x.value|) (x.Nearest ·)
      (((cast ⟨number, d, .floating .double, hd, some x⟩ t).outcome e).1.map Made.scalar) := by
  have hmade : castPayload e.rendering c (.floating .double) x = make e.rendering c (.real x) :=
    castPayload_toDouble (g := .double) hc x
  rw [cast_outcome ht hfind rfl (by simp) (by simp)]
  simp only [hmade]
  have hmake := ranged_make_real (r := e.rendering) hc x
  cases h : make e.rendering c (.real x) <;> rwa [h] at hmake

/-- A double is refused by the classes of single numbers, and by a cast to float, exactly if it is finite
and lies half a step or more beyond the largest single number, and otherwise becomes the nearest single
number; and so does an integer of up to 4300 digits become a double. -/
theorem floating_range (hreachable : e.registry.Reachable)
    (ht : DataType.resolve e.rendering t = .ok (.concrete (.floating .single)))
    (hfind : e.registry.find? (some (.floating .single)) = some c) (number : ℕ) :
    (∀ {b} (hb : b.kind? = some (.floating .single)) {v : Value} {x : Double}, v.real? = some x →
      Ranged hb (x.isFinite = true ∧ 2 ^ 128 - 2 ^ 103 ≤ |x.value|) (x.Nearest ·) ((build b v).outcome e).1) ∧
    (∃ hc : c.kind? = some (.floating .single),
      ∀ {d} (hd : d.kind? = some (.floating .double)) (x : Double),
        Ranged hc (x.isFinite = true ∧ 2 ^ 128 - 2 ^ 103 ≤ |x.value|) (x.Nearest ·)
          (((cast ⟨number, d, .floating .double, hd, some x⟩ t).outcome e).1.map Made.scalar)) ∧
    ∀ {b} (hb : b.kind? = some (.floating .double)) {v : Value} {n : ℤ}, v.IsInteger n → ¬ IsLong n →
      Ranged hb (2 ^ 1024 - 2 ^ 970 ≤ |(n : ℚ)|) (fun y => y.Closest n ∧ y.hasMinus = decide (n < 0))
        ((build b v).outcome e).1 := by
  have hc := hreachable.sound.kind?_eq hfind
  refine ⟨fun hb v x hv => ?_, ⟨hc, fun hd x => ranged_cast ht hfind hc hd x number⟩, fun hb v n hv hn => ?_⟩
  · rw [build_outcome, make_of_real? hb hv]
    exact ranged_make_real hb x
  · rw [build_outcome]
    exact ranged_make_integer hb hv hn

/-- The midpoint beyond the largest single number is refused, and the largest double below it is not. -/
theorem floating_range_edge :
    let double (m : ℕ) (h : m < Floating.Format.double.infinity + 1) : Double := .signed false ⟨m, h⟩
    let midpoint := double 0x47EFFFFFF0000000 (by decide)
    let below := double 0x47EFFFFFEFFFFFFF (by decide)
    let s (x : Double) : Held := ⟨0, .concrete (.floating .double), .floating .double, rfl, some x⟩
    (∃ err, ((build (.concrete (.floating .single)) (.real midpoint)).outcome .initial).1 = .error err ∧
      err.errorClass = .scalarRange) ∧
    ∃ y : Single, ((cast (s below) (.text "float")).outcome .initial).1.map Made.scalar =
      .ok ⟨.concrete (.floating .single), .floating .single, rfl, some y⟩ ∧ below.Nearest y := by
  intro double midpoint below s
  obtain ⟨hbuild, ⟨hc, hcast⟩, -⟩ := floating_range (e := .initial) .builtIn
    (DataType.resolve_name _ (.floating .single)) rfl 0
  have hmidpoint : midpoint.value = ((2 ^ 128 - 2 ^ 103 : ℤ) : ℚ) := by
    rw [value_eq_intCast_iff]
    decide +kernel
  have hbelow : below.value = ((2 ^ 128 - 2 ^ 103 - 2 ^ 75 : ℤ) : ℚ) := by
    rw [value_eq_intCast_iff]
    decide +kernel
  constructor
  · refine (hbuild rfl rfl).range_iff.2 ⟨by decide, ?_⟩
    rw [hmidpoint]
    norm_num
  · refine (hcast (d := .concrete (.floating .double)) rfl below).exists_ok ?_
    rw [hbelow]
    norm_num

end Scalar

end TypedScalar
