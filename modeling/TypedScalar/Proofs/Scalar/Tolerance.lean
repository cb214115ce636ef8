import TypedScalar.Proofs.Floating.Distance
import TypedScalar.Proofs.Floating.Overflow
import TypedScalar.Proofs.Scalar.Equality

/-! Equality of scalars under options. Beside the scalars that are equal anyhow, options may count as equal
two NaNs of one kind, and two numbers of one kind that are within the tolerance of each other. So options
that permit more find more scalars equal, and they bear on nothing but numbers of floating kinds. -/

namespace TypedScalar

open Floating (Half Single Double)
open Floating.Number

/-! ### Tolerances -/

namespace Tolerance

/-- The value of a tolerance that is a real number, among the rationals and two infinities. -/
def value? : Tolerance → Option (WithBot (WithTop ℚ))
  | whole n => some (((n : ℚ) : WithTop ℚ) : WithBot (WithTop ℚ))
  | real x => x.extended?
  | half x => x.extended?
  | single x => x.extended?
  | _ => none

/-- The format that distances are rounded to before they are compared with a tolerance. -/
def format : Tolerance → Floating.Format
  | half _ => .half
  | single _ | complex64 _ _ => .single
  | whole _ | real _ | complex128 _ _ | duration _ => .double

/-- Whether a tolerance is no greater than another one. -/
def AtMost (s t : Tolerance) : Prop :=
  ∃ u v, s.value? = some u ∧ t.value? = some v ∧ u ≤ v

/-- Whether a tolerance admits a distance that another one, of a finer format, is exceeded by: the distance is
rounded down to it. -/
structure RoundsDown (s t : Tolerance) (d : Double) : Prop where
  coarser : s.format.fractionBits < t.format.fractionBits
  admits : s.admits d = .ok true
  exceeds : ∃ v w, t.value? = some v ∧ d.extended? = some w ∧ v < w

variable {s t : Tolerance} {d : Double} {u v w : WithBot (WithTop ℚ)}

theorem admits_of_le (hd : d.extended? = some w) (ht : t.value? = some u) (h : w ≤ u) :
    t.admits d = .ok true := by
  cases t with
  | whole n =>
    obtain rfl := Option.some.inj ht
    exact congrArg Except.ok ((lessEqInt_iff hd).2 h)
  | real x => exact congrArg Except.ok ((lessEq_iff hd ht).2 h)
  | half x => exact congrArg Except.ok (lessEq_convert_of_le hd ht h)
  | single x => exact congrArg Except.ok (lessEq_convert_of_le hd ht h)
  | complex64 | complex128 | duration => simp [value?] at ht

/-- What a tolerance admits is a number. -/
theorem exists_extended?_of_admits (hs : s.value? = some u) (h : s.admits d = .ok true) :
    ∃ w, d.extended? = some w := by
  refine exists_extended? ?_
  cases d with
  | signed => rfl
  | nan =>
    cases s with
    | whole | real | half | single => exact absurd (Except.ok.inj h) Bool.false_ne_true
    | complex64 | complex128 | duration => simp [value?] at hs

/-- A distance that is not rounded is admitted only up to the tolerance. -/
theorem le_of_admits (hformat : s.format = .double) (hs : s.value? = some u) (hd : d.extended? = some w)
    (h : s.admits d = .ok true) : w ≤ u := by
  cases s with
  | whole n =>
    obtain rfl := Option.some.inj hs
    exact (lessEqInt_iff hd).1 (Except.ok.inj h)
  | real x => exact (lessEq_iff hd hs).1 (Except.ok.inj h)
  | half | single => cases hformat
  | complex64 | complex128 | duration => simp [value?] at hs

/-- Of two tolerances that round to one format, or of which the greater one rounds to a coarser format, the
greater one admits what the other one does. -/
theorem admits_of_not_coarser (h : s.AtMost t) {n : Fin (Floating.Format.double.infinity + 1)}
    (hs : s.admits (.signed false n) = .ok true)
    (hformat : t.format.fractionBits ≤ s.format.fractionBits) : t.admits (.signed false n) = .ok true := by
  obtain ⟨u, v, hu, hv, huv⟩ := h
  obtain ⟨w, hw⟩ := exists_extended?_of_admits hu hs
  cases s with
  | whole | real => exact admits_of_le hw hv ((le_of_admits rfl hu hw hs).trans huv)
  | single x =>
    cases t with
    | single y => exact congrArg Except.ok (lessEq_trans (Except.ok.inj hs) ((lessEq_iff hu hv).2 huv))
    | half y =>
      exact congrArg Except.ok (lessEq_convert_of_finer (by decide) (by decide) hu hv huv (Except.ok.inj hs))
    | whole | real => exact absurd hformat (by simp [format, Floating.Format.single, Floating.Format.double])
    | complex64 | complex128 | duration => simp [value?] at hv
  | half x =>
    cases t with
    | half y => exact congrArg Except.ok (lessEq_trans (Except.ok.inj hs) ((lessEq_iff hu hv).2 huv))
    | whole | real | single =>
      exact absurd hformat (by simp [format, Floating.Format.half, Floating.Format.single, Floating.Format.double])
    | complex64 | complex128 | duration => simp [value?] at hv
  | complex64 | complex128 | duration => simp [value?] at hu

/-- A tolerance admits what one that is no greater admits, unless that one has rounded it down. -/
theorem AtMost.admits_or_roundsDown (h : s.AtMost t) {x y : Double} (hs : s.admits (x.distance y) = .ok true) :
    t.admits (x.distance y) = .ok true ∨ s.RoundsDown t (x.distance y) := by
  obtain ⟨u, v, hu, hv, huv⟩ := id h
  obtain ⟨w, hw⟩ := exists_extended?_of_admits hu hs
  rcases le_or_gt w v with hle | hlt
  · exact .inl (admits_of_le hw hv hle)
  rcases Nat.lt_or_ge s.format.fractionBits t.format.fractionBits with hcoarser | hformat
  · exact .inr ⟨hcoarser, hs, v, w, hv, hw, hlt⟩
  · obtain hnan | ⟨n, hn⟩ := distance_eq x y
    · simp [hnan, extended?] at hw
    · rw [hn] at hs ⊢
      exact .inl (admits_of_not_coarser h hs hformat)

/-- No finite tolerance admits an infinite distance. -/
theorem admits_infinite {q : ℚ} (ht : t.value? = some ((q : WithTop ℚ) : WithBot (WithTop ℚ))) :
    t.admits (infinite false) ≠ .ok true := by
  have hplain : t.format = .double → t.admits (infinite false) ≠ .ok true := fun hformat h => by
    simpa using le_of_admits hformat ht (extended?_infinite false) h
  cases t with
  | whole | real => exact hplain rfl
  | half x | single x =>
    intro h
    have hle := (lessEq_iff (extended?_infinite false) ht).1 (Except.ok.inj h)
    simp at hle
  | complex64 | complex128 | duration => simp [value?] at ht

end Tolerance

/-! ### Options -/

namespace EqualOptions

/-- Whether options permit no more than others. -/
structure AtMost (o p : EqualOptions) : Prop where
  approximate (h : o.approximate.isTruthy = true) : p.approximate.isTruthy = true
  nansEqual (h : o.nansEqual.isTruthy = true) : p.nansEqual.isTruthy = true
  tolerance : o.tolerance.AtMost p.tolerance

/-- Whether the flags are booleans and the tolerance is a real number. -/
structure Plain (o : EqualOptions) : Prop where
  approximate : ∃ b, o.approximate = .boolean b
  nansEqual : ∃ b, o.nansEqual = .boolean b
  tolerance : ∃ u, o.tolerance.value? = some u

variable {o p : EqualOptions} {x y : Double}

@[simp] theorem isTruthy_boolean (b : Bool) : (Value.boolean b).isTruthy = b := rfl

end EqualOptions

/-! ### Scalars -/

theorem FloatingKind.toDouble_infinite (f : FloatingKind) (negative : Bool) :
    f.toDouble (.infinite negative) = .infinite negative := by
  cases f with
  | single => exact convert_infinite (f := .single) .double negative
  | double => rfl

/-- Whether a payload is the infinity of a sign. -/
def Kind.IsInfinity (negative : Bool) : (k : Kind) → k.Payload → Prop
  | .floating _, x => x = Floating.Number.infinite negative
  | _, _ => False

namespace Scalar

/-- Whether a scalar is a valid infinity of a sign. -/
def IsInfinity (s : Scalar) (negative : Bool) : Prop :=
  ∃ p, s.payload = some p ∧ s.kind.IsInfinity negative p

/-- When scalars count as equal: they are equal anyhow, or numbers of one floating kind that are both NaN
or near to each other, as far as the options permit it. -/
inductive EqualWithin (o : EqualOptions) : Scalar → Scalar → Prop
  | equal {a b : Scalar} (h : Equal a b) : EqualWithin o a b
  | nan {f : FloatingKind} {c d : ScalarClass} (hc : c.kind? = some (.floating f))
    (hd : d.kind? = some (.floating f)) (hflag : o.nansEqual.isTruthy = true) :
    EqualWithin o ⟨c, .floating f, hc, some .nan⟩ ⟨d, .floating f, hd, some .nan⟩
  | near {f : FloatingKind} {c d : ScalarClass} (hc : c.kind? = some (.floating f))
    (hd : d.kind? = some (.floating f)) {x y : Floating.Number f.format} (hx : x.isNaN = false)
    (hy : y.isNaN = false) (hflag : o.approximate.isTruthy = true)
    (hnear : o.tolerance.admits ((f.toDouble x).distance (f.toDouble y)) = .ok true) :
    EqualWithin o ⟨c, .floating f, hc, some x⟩ ⟨d, .floating f, hd, some y⟩

/-- Scalars are numbers of one floating kind, at a distance. -/
inductive Apart : Scalar → Scalar → Double → Prop
  | reals {f : FloatingKind} {c d : ScalarClass} (hc : c.kind? = some (.floating f))
    (hd : d.kind? = some (.floating f)) (x y : Floating.Number f.format) :
    Apart ⟨c, .floating f, hc, some x⟩ ⟨d, .floating f, hd, some y⟩ ((f.toDouble x).distance (f.toDouble y))

variable {o p : EqualOptions} {a b : Scalar}

section

variable {k : Kind} {f : FloatingKind} {c d : ScalarClass}

theorem equalUnder_payloads (hc : c.kind? = some k) (hd : d.kind? = some k) (x y : Option k.Payload) :
    equalUnder o ⟨c, k, hc, x⟩ ⟨d, k, hd, y⟩ =
      match x, y with
      | none, none => .ok (.boolean true)
      | some p, some q => o.equalPayloads k p q
      | _, _ => .ok (.boolean false) := by
  rw [equalUnder, dif_pos rfl]
  cases x <;> cases y <;> rfl

theorem equalUnder_reals (hc : c.kind? = some (.floating f)) (hd : d.kind? = some (.floating f))
    (x y : Floating.Number f.format) :
    equalUnder o ⟨c, .floating f, hc, some x⟩ ⟨d, .floating f, hd, some y⟩ =
      o.equalReals (f.toDouble x) (f.toDouble y) := equalUnder_payloads hc hd _ _

theorem equalUnder_of_kind_ne (h : a.kind ≠ b.kind) : equalUnder o a b = .ok (.boolean false) := dif_neg h.symm

end

/-- Two scalars are two numbers of one floating kind, or the options do not matter. -/
inductive Comparing : Scalar → Scalar → Prop
  | reals {f : FloatingKind} {c d : ScalarClass} (hc : c.kind? = some (.floating f))
    (hd : d.kind? = some (.floating f)) (x y : Floating.Number f.format) :
    Comparing ⟨c, .floating f, hc, some x⟩ ⟨d, .floating f, hd, some y⟩
  | others {a b : Scalar} (h : ∀ o, equalUnder o a b = .ok (.boolean (a.equal b))) : Comparing a b

theorem comparing (a b : Scalar) : Comparing a b := by
  by_cases hkind : a.kind = b.kind
  · obtain ⟨c, k, hc, x⟩ := a
    obtain ⟨d, k', hd, y⟩ := b
    obtain rfl : k = k' := hkind
    cases x with
    | none => exact .others fun o => by rw [equalUnder_payloads, equal_payloads]; cases y <;> rfl
    | some x =>
      cases y with
      | none => exact .others fun o => by rw [equalUnder_payloads, equal_payloads]
      | some y =>
        cases k with
        | floating f => exact .reals hc hd x y
        | null | boolean | integer | string | binary =>
          exact .others fun o => by rw [equalUnder_payloads, equal_payloads]; rfl
  · exact .others fun o => by rw [equalUnder_of_kind_ne hkind, equal_of_kind_ne hkind]

/-- What is equal anyhow counts as equal under all options. -/
theorem Equal.equalUnder (h : Equal a b) (o : EqualOptions) : equalUnder o a b = .ok (.boolean true) := by
  cases comparing a b with
  | others hothers => rw [hothers, equal_iff.2 h]
  | @reals f _ _ hc hd x y =>
    have hequal : x.equals y = true := by
      rw [← equal_iff, equal_payloads] at h
      exact h
    rw [← f.equals_toDouble] at hequal
    obtain ⟨hx, -⟩ := equals_iff.1 hequal
    obtain ⟨hy, -⟩ := equals_iff.1 (equals_comm _ _ ▸ hequal)
    rw [equalUnder_reals, EqualOptions.equalReals, hx, hy, hequal]
    rfl

/-- Options that permit more find more scalars equal, where no distance is rounded down. -/
theorem EqualWithin.mono (h : EqualWithin o a b) (hop : o.AtMost p) :
    EqualWithin p a b ∨ ∃ d, Apart a b d ∧ o.tolerance.RoundsDown p.tolerance d := by
  cases h with
  | equal h => exact .inl (.equal h)
  | nan hc hd hflag => exact .inl (.nan hc hd (hop.nansEqual hflag))
  | near hc hd hx hy hflag hnear =>
    refine (hop.tolerance.admits_or_roundsDown hnear).imp (fun hnear => ?_) fun hrounds => ⟨_, .reals hc hd _ _, hrounds⟩
    exact .near hc hd hx hy (hop.approximate hflag) hnear

theorem IsInfinity.exists_eq {negative : Bool} (h : a.IsInfinity negative) :
    ∃ (c : ScalarClass) (f : FloatingKind) (hc : c.kind? = some (.floating f)),
      a = ⟨c, .floating f, hc, some (Floating.Number.infinite negative)⟩ := by
  obtain ⟨c, k, hc, _ | x⟩ := a
  · obtain ⟨p, hp, -⟩ := h
    cases hp
  · obtain ⟨p, hp, h⟩ := h
    obtain rfl := Option.some.inj hp
    cases k with
    | floating f =>
      obtain rfl : x = Floating.Number.infinite negative := h
      exact ⟨c, f, hc, rfl⟩
    | null | boolean | integer | string | binary => exact h.elim

/-- No finite tolerance brings anything near to an infinity. -/
theorem EqualWithin.infinite (h : EqualWithin o a b) {negative : Bool} (ha : a.IsInfinity negative) {q : ℚ}
    (hfinite : o.tolerance.value? = some ((q : WithTop ℚ) : WithBot (WithTop ℚ))) :
    b.kind = a.kind ∧ b.IsInfinity negative := by
  obtain ⟨c, f, hc, rfl⟩ := ha.exists_eq
  cases h with
  | equal h =>
    cases h with
    | @valid _ _ d _ hd _ y h =>
      refine ⟨rfl, y, rfl, ?_⟩
      generalize hx : (Floating.Number.infinite negative : Floating.Number f.format) = x at h
      cases h with
      | finite hfinite' => simp [← hx] at hfinite'
      | infinite s => exact hx.symm
  | @near _ _ d _ hd _ y _ hy _ hnear =>
    refine ⟨rfl, y, rfl, ?_⟩
    by_contra hne
    have hother : f.toDouble y ≠ Floating.Number.infinite negative := fun h =>
      hne (f.toDouble_injective (h.trans (f.toDouble_infinite negative).symm))
    rw [f.toDouble_infinite, distance_infinite (by rwa [f.isNaN_toDouble]) hother] at hnear
    exact Tolerance.admits_infinite hfinite hnear

end Scalar

end TypedScalar
