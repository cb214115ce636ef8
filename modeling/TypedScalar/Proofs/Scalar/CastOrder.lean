import TypedScalar.Proofs.Floating.Order
import TypedScalar.Proofs.Scalar.Chain
import TypedScalar.Proofs.Scalar.FloatingCast

/-! Casts keep the order of numbers. To an integer kind a number is cast as its value, and to a floating kind
by way of a double, which may round twice; either step takes a larger number to one that is no smaller. -/

namespace TypedScalar

open Floating (Double)
open Floating.Number

namespace FloatingKind

variable (f : FloatingKind)

theorem lessEq_toDouble {x y : Floating.Number f.format} (h : x.lessEq y = true) :
    (f.toDouble x).lessEq (f.toDouble y) = true := by
  cases f with
  | single => exact lessEq_convert (f := .double) (g := .single) h
  | double => exact h

theorem lessEq_ofDouble {x y : Double} (h : x.lessEq y = true) :
    (f.ofDouble x).lessEq (f.ofDouble y) = true := by
  cases f with
  | single => exact lessEq_convert h
  | double => exact h

end FloatingKind

namespace Kind

/-- The value of a number among the rationals and two infinities. -/
def numericValue? : (k : Kind) → k.Payload → Option (WithBot (WithTop ℚ))
  | .integer _, (n : IntegerKind.Value _) => some (((n.val : ℚ) : WithTop ℚ) : WithBot (WithTop ℚ))
  | .floating _, (x : Floating.Number _) => x.extended?
  | _, _ => none

/-- The double by way of which a number is cast to a floating kind. -/
def double? : (k : Kind) → k.Payload → Option Double
  | .integer _, (n : IntegerKind.Value _) => some (.ofInt .double n.val)
  | .floating f, x => some (f.toDouble x)
  | _, _ => none

variable {k : Kind} {p q : k.Payload} {u v : WithBot (WithTop ℚ)}

theorem isNumeric_of_numericValue? (h : k.numericValue? p = some u) : k.isNumeric = true := by
  cases k <;> first | rfl | simp [numericValue?] at h

theorem numericValue?_of_exactValue? (hk : k.isNumeric = true) {n : ℤ} (h : k.exactValue? p = some (n : ℚ)) :
    k.numericValue? p = some (((n : ℚ) : WithTop ℚ) : WithBot (WithTop ℚ)) := by
  obtain ⟨i, rfl⟩ | ⟨f, rfl⟩ := isNumeric_iff.1 hk
  · obtain rfl := exactValue?_integer.1 h
    rfl
  · simp only [exactValue?] at h
    split_ifs at h with hfinite
    rw [← Option.some.inj h]
    exact extended?_of_isFinite hfinite

/-- Doubles come in the order of the numbers. -/
theorem exists_double? (hu : k.numericValue? p = some u) (hv : k.numericValue? q = some v) (huv : u ≤ v) :
    ∃ x y, k.double? p = some x ∧ k.double? q = some y ∧ x.lessEq y = true := by
  obtain ⟨i, rfl⟩ | ⟨f, rfl⟩ := isNumeric_iff.1 (isNumeric_of_numericValue? hu)
  · obtain rfl := Option.some.inj hu
    obtain rfl := Option.some.inj hv
    rw [WithBot.coe_le_coe, WithTop.coe_le_coe, Int.cast_le] at huv
    exact ⟨_, _, rfl, rfl, lessEq_ofInt huv⟩
  · exact ⟨_, _, rfl, rfl, f.lessEq_toDouble ((lessEq_iff hu hv).2 huv)⟩

end Kind

namespace Scalar

variable {r : Rendering} {c : ScalarClass} {k m : Kind} {i : IntegerKind} {f : FloatingKind}
  {a b s s' : Scalar} {p q : m.Payload} {u v : WithBot (WithTop ℚ)}

/-- The value of a valid number. -/
def numericValue? (s : Scalar) : Option (WithBot (WithTop ℚ)) := s.payload.bind s.kind.numericValue?

theorem Alike.numericValue?_eq (h : Alike a b) : a.numericValue? = b.numericValue? := by
  cases h
  rfl

/-! ### Payloads -/

/-- An integer class takes a number of exactly its value, or none. -/
theorem numericValue?_castPayload_integer (hc : c.kind? = some (.integer i)) (hm : m.isNumeric = true)
    (h : castPayload r c m p = .ok s) : s.numericValue? = m.numericValue? p := by
  by_cases hn : ∃ n : ℤ, m.exactValue? p = some (n : ℚ)
  · obtain ⟨n, hn⟩ := hn
    rw [castPayload_of_exactValue? hc hn] at h
    have hbounds : i.min ≤ n ∧ n ≤ i.max := by
      by_contra hbounds
      rw [make_integer_range hc hbounds (integerText_of_lt (Kind.natAbs_lt_of_exactValue? hn))] at h
      cases h
    rw [make_integer hc hbounds] at h
    obtain rfl := Except.ok.inj h
    exact (Kind.numericValue?_of_exactValue? hm hn).symm
  · obtain ⟨shown, herror⟩ := castPayload_truncates (r := r) hc (.inr hm) (not_exists.1 hn)
    cases herror.symm.trans h

theorem castPayload_of_double? (hc : c.kind? = some (.floating f)) {x : Double} (h : m.double? p = some x) :
    castPayload r c m p = make r c (.real x) := by
  cases m with
  | integer j =>
    obtain rfl := Option.some.inj h
    exact castPayload_ofInt hc p
  | floating g =>
    obtain rfl := Option.some.inj h
    exact castPayload_toDouble hc p
  | _ => simp [Kind.double?] at h

theorem numericValue?_castPayload_floating (hc : c.kind? = some (.floating f)) {x : Double}
    (hx : m.double? p = some x) (h : castPayload r c m p = .ok s) :
    s.numericValue? = (f.ofDouble x).extended? := by
  rw [castPayload_of_double? hc hx, make_real hc] at h
  split_ifs at h
  obtain rfl := Except.ok.inj h
  rfl

theorem numericValue?_castPayload_le (hc : c.kind? = some k) (hk : k.isNumeric = true)
    (hu : m.numericValue? p = some u) (hv : m.numericValue? q = some v) (huv : u ≤ v)
    (hp : castPayload r c m p = .ok s) (hq : castPayload r c m q = .ok s') :
    ∃ u' v', s.numericValue? = some u' ∧ s'.numericValue? = some v' ∧ u' ≤ v' := by
  have hm := Kind.isNumeric_of_numericValue? hu
  obtain ⟨i, rfl⟩ | ⟨f, rfl⟩ := Kind.isNumeric_iff.1 hk
  · rw [numericValue?_castPayload_integer hc hm hp, numericValue?_castPayload_integer hc hm hq]
    exact ⟨u, v, hu, hv, huv⟩
  · obtain ⟨x, y, hx, hy, hxy⟩ := Kind.exists_double? hu hv huv
    rw [numericValue?_castPayload_floating hc hx hp, numericValue?_castPayload_floating hc hy hq]
    exact exists_le_of_lessEq (f.lessEq_ofDouble hxy)

/-! ### Casts -/

variable {e : Environment} {h : Held} {made : Made}

/-- A cast that succeeds comes to a scalar like the one that some class of the kind makes of the payload. -/
theorem castPayload_of_castMade (hsound : e.registry.Sound) (hnumber : h.scalar.kind.isNumeric = true)
    {p : h.scalar.kind.Payload} (hp : h.scalar.payload = some p) (hmade : castMade e h k = .ok made) :
    ∃ c s, e.registry.find? (some k) = some c ∧ castPayload e.rendering c h.scalar.kind p = .ok s ∧
      Alike made.scalar s := by
  have hcorresponds := castMade_corresponds hsound hnumber k
  rw [hmade] at hcorresponds
  cases hclass : e.registry.classFor (.concrete k) with
  | error err =>
    rw [hclass] at hcorresponds
    cases hcorresponds
  | ok c =>
    simp only [hclass, Except.bind, recast, hp] at hcorresponds
    cases hcast : castPayload e.rendering c h.scalar.kind p with
    | error err =>
      rw [hcast] at hcorresponds
      cases hcorresponds
    | ok s =>
      rw [hcast] at hcorresponds
      cases hcorresponds with
      | ok halike => exact ⟨c, s, Registry.classFor_eq_ok_iff.1 hclass, hcast, halike⟩

/-- Two numbers of one kind that are cast to the same numeric kind come out in the order of their values, and
equal if these are equal. The second cast runs after the first, which may have left a record. -/
theorem cast_monotone (hreachable : e.registry.Reachable) {t : Value}
    (ht : DataType.resolve e.rendering t = .ok (.concrete k)) (hk : k.isNumeric = true)
    (hkind : a.kind = b.kind) (hu : a.numericValue? = some u) (hv : b.numericValue? = some v) (huv : u ≤ v)
    {i j : ℕ} {made made' : Made} {e' : Environment} (ha : (cast ⟨i, a⟩ t).outcome e = (.ok made, e'))
    (hb : ((cast ⟨j, b⟩ t).outcome e').1 = .ok made') :
    made.scalar.kind = k ∧ made'.scalar.kind = k ∧
      ∃ u' v', made.scalar.numericValue? = some u' ∧ made'.scalar.numericValue? = some v' ∧
        u' ≤ v' ∧ (u = v → u' = v') := by
  have hnull : k ≠ .null := Kind.ne_of_isNumeric hk rfl
  obtain ⟨log, houtcome⟩ := exists_cast_outcome ⟨i, a⟩ ht hnull
  obtain ⟨hmade, rfl⟩ := Prod.mk.inj (ha.symm.trans houtcome)
  obtain ⟨log', houtcome'⟩ := exists_cast_outcome (e := { e with log := log }) ⟨j, b⟩ ht hnull
  rw [houtcome'] at hb
  have hmade' : castMade e ⟨j, b⟩ k = .ok made' := hb
  obtain ⟨ca, m, hca, x⟩ := a
  obtain ⟨cb, m', hcb, y⟩ := b
  obtain rfl : m = m' := hkind
  cases x with
  | none => simp [numericValue?] at hu
  | some p =>
    cases y with
    | none => simp [numericValue?] at hv
    | some q =>
      have hm : m.isNumeric = true := Kind.isNumeric_of_numericValue? hu
      obtain ⟨c, s, hfind, hs, halike⟩ := castPayload_of_castMade hreachable.sound hm rfl hmade.symm
      obtain ⟨c', s', hfind', hs', halike'⟩ := castPayload_of_castMade hreachable.sound hm rfl hmade'
      obtain rfl := Option.some.inj (hfind.symm.trans hfind')
      have hc := hreachable.sound.kind?_eq hfind
      obtain ⟨u', v', hu', hv', hle⟩ := numericValue?_castPayload_le hc hk hu hv huv hs hs'
      rw [halike.numericValue?_eq, halike'.numericValue?_eq]
      refine ⟨(castMade_kind hreachable.sound hmade.symm).1, (castMade_kind hreachable.sound hmade').1,
        u', v', hu', hv', hle, fun heq => le_antisymm hle ?_⟩
      obtain ⟨v'', u'', hv'', hu'', hge⟩ := numericValue?_castPayload_le hc hk hv hu heq.ge hs' hs
      obtain rfl := Option.some.inj (hu'.symm.trans hu'')
      obtain rfl := Option.some.inj (hv'.symm.trans hv'')
      exact hge

/-- The two largest integers of 64 bits without a sign become doubles in this order, which are one and the
same. -/
theorem cast_monotone_largest :
    let uint64 : Kind := .integer ⟨false, .w64⟩
    let s (n : IntegerKind.Value ⟨false, .w64⟩) : Scalar := ⟨.concrete uint64, uint64, rfl, some n⟩
    let a := s ⟨2 ^ 64 - 2, by decide⟩
    let b := s ⟨2 ^ 64 - 1, by decide⟩
    ∃ made made' e', (cast ⟨0, a⟩ (.text "double")).outcome .initial = (.ok made, e') ∧
      ((cast ⟨1, b⟩ (.text "double")).outcome e').1 = .ok made' ∧
      ∃ u v, made.scalar.numericValue? = some u ∧ made'.scalar.numericValue? = some v ∧ u ≤ v := by
  intro uint64 s a b
  let double : Kind := .floating .double
  have hresolve (e : Environment) : DataType.resolve e.rendering (.text "double") = .ok (.concrete double) :=
    DataType.resolve_name e.rendering double
  have hcast (e : Environment) (hfind : e.registry.find? (some double) = some (.concrete double))
      (n : IntegerKind.Value ⟨false, .w64⟩) (number : ℕ) :
      ∃ made e', (cast ⟨number, s n⟩ (.text "double")).outcome e = (.ok made, e') ∧
        e'.registry = e.registry := by
    have hvalue : (s n).exactValue? = some (n.val : ℚ) := rfl
    obtain ⟨-, hmade⟩ := cast_integer_outcome rfl hvalue (hresolve e) hfind rfl number
    obtain ⟨log, houtcome⟩ := exists_cast_outcome ⟨number, s n⟩ (hresolve e) (by simp)
    rw [houtcome] at hmade ⊢
    exact ⟨_, _, Prod.ext hmade rfl, rfl⟩
  obtain ⟨made, e', ha, hregistry⟩ := hcast .initial rfl ⟨2 ^ 64 - 2, by decide⟩ 0
  obtain ⟨made', e'', hb, -⟩ := hcast e' (hregistry ▸ rfl) ⟨2 ^ 64 - 1, by decide⟩ 1
  have hle : (((2 ^ 64 - 2 : ℤ) : ℚ) : WithTop ℚ) ≤ (((2 ^ 64 - 1 : ℤ) : ℚ) : WithTop ℚ) := by
    rw [WithTop.coe_le_coe, Int.cast_le]
    decide
  obtain ⟨-, -, u, v, hu, hv, huv, -⟩ := cast_monotone (e := .initial) (a := a) (b := b) .builtIn
    (hresolve .initial) rfl rfl rfl rfl (WithBot.coe_le_coe.2 hle) ha (congrArg Prod.fst hb)
  exact ⟨made, made', e', ha, congrArg Prod.fst hb, u, v, hu, hv, huv⟩

end Scalar

end TypedScalar
