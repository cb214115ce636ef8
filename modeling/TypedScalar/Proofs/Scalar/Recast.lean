import TypedScalar.Proofs.Scalar.WholeCast
import TypedScalar.Proofs.TwoRuns

/-! Casts of numbers as what the class of the target makes of them. A number that is of the
kind already stays what it is, in whatever class; and no cast of a number makes a NaN of
another number. -/

namespace TypedScalar

namespace Scalar

variable {r : Rendering} {c : ScalarClass} {k m : Kind} {a b s s' : Scalar}

/-- Scalars of one kind and payload, or nulls of one kind, which may be of different classes. -/
inductive Alike : Scalar → Scalar → Prop
  | intro {k : Kind} {c d : ScalarClass} (hc : c.kind? = some k) (hd : d.kind? = some k)
    (x : Option k.Payload) : Alike ⟨c, k, hc, x⟩ ⟨d, k, hd, x⟩

theorem Alike.refl (s : Scalar) : Alike s s := .intro s.kind_eq s.kind_eq s.payload

theorem Alike.kind_eq (h : Alike a b) : a.kind = b.kind := by
  cases h
  rfl

theorem Alike.equal (h : Alike a b) (hb : ¬ b.IsNaN) : Equal a b := by
  obtain ⟨hc, hd, _ | p⟩ := h
  · exact .null hc hd
  · refine .valid hc hd (Kind.samePayload_self_iff.2 fun hp => hb ?_)
    exact ⟨p, rfl, hp⟩

/-! ### What a class makes of a number -/

theorem kind_of_make {v : Value} (hc : c.kind? = some k) (h : make r c v = .ok s) : s.kind = k := by
  rw [← Option.some.injEq, ← s.kind_eq, cls_of_make h, hc]

theorem kind_of_recast (hc : c.kind? = some k) (h : recast r c s = .ok s') : s'.kind = k := by
  unfold recast at h
  split at h
  · exact kind_of_make hc h
  · obtain ⟨v, -, hmake⟩ := exists_make_of_castPayload h
    exact kind_of_make hc hmake

/-- A number of a floating kind is built again from the double of its value. -/
theorem make_toDouble {f : FloatingKind} (hc : c.kind? = some (.floating f)) (x : Floating.Number f.format) :
    make r c (.real (f.toDouble x)) = .ok ⟨c, .floating f, hc, some x⟩ := by
  have hrange : ((f.toDouble x).isFinite && (f.ofDouble (f.toDouble x)).isInfinite) = false := by
    rw [f.ofDouble_toDouble, f.isFinite_toDouble, Floating.Number.isFinite]
    cases x.isInfinite <;> simp
  rw [make_real hc, hrange, f.ofDouble_toDouble]
  rfl

/-- To its own kind a number goes as it is. -/
theorem castPayload_self (hc : c.kind? = some k) (hk : k.isNumeric = true) (p : k.Payload) :
    castPayload r c k p = .ok ⟨c, k, hc, some p⟩ := by
  obtain ⟨i, rfl⟩ | ⟨f, rfl⟩ := Kind.isNumeric_iff.1 hk
  · rw [castPayload_of_exactValue? hc (Kind.exactValue?_integer.2 rfl)]
    exact make_integer hc p.property
  · rw [castPayload_toDouble hc]
    exact make_toDouble hc p

theorem IsNaN.exists_kind (h : s.IsNaN) : ∃ f, s.kind = .floating f := by
  obtain ⟨c, k, hc, x⟩ := s
  obtain ⟨p, -, hp⟩ := h
  cases k with
  | floating f => exact ⟨f, rfl⟩
  | _ => exact hp.elim

/-- A cast of a number comes to what the class that is registered makes of it, but for the
class of a number that is of the kind already. -/
theorem castMade_corresponds {e : Environment} {h : Held} (hsound : e.registry.Sound)
    (hnumber : h.scalar.kind.isNumeric = true) (k : Kind) :
    Corresponds (fun made s => Alike made.scalar s) (castMade e h k)
      ((e.registry.classFor (.concrete k)).bind fun c => recast e.rendering c h.scalar) := by
  rw [castMade]
  cases hclass : e.registry.classFor (.concrete k) with
  | error err => exact .error rfl
  | ok c =>
    have hc := hsound.kind?_eq (Registry.classFor_eq_ok_iff.1 hclass)
    obtain ⟨i, d, m, hd, x⟩ := h
    show Corresponds _ (ite _ _ _) (recast e.rendering c _)
    split_ifs with hsame
    · obtain ⟨hvalid, rfl⟩ := hsame
      cases x with
      | none => simp [isValid] at hvalid
      | some p =>
        have hself : recast e.rendering c ⟨d, k, hd, some p⟩ = .ok ⟨c, k, hc, some p⟩ :=
          castPayload_self hc hnumber p
        rw [hself]
        exact .ok (.intro hd hc (some p))
    · cases recast e.rendering c ⟨d, m, hd, x⟩ with
      | ok s => exact .ok (.refl s)
      | error err => exact .error rfl

end Scalar

end TypedScalar
