import TypedScalar.Proofs.Scalar.Casting

/-! Scalars of a type are built by the class that is registered for it. Creating,
reading and casting all look the class up and build through it, so what they give is
of the type asked for; only a valid scalar that is of the type already is handed out
as it is. -/

namespace TypedScalar

open TypedScalar.Action

variable {e e' : Environment} {t v : Value} {c : ScalarClass} {d : DataType} {s : Scalar} {h : Held}
  {m : Made}

namespace Registry

theorem ok_of_resolve_bind {α : Type} {f : DataType → Action α} {y : α}
    (h : (resolve t >>= f).outcome e = (.ok y, e')) :
    ∃ d, DataType.resolve e.rendering t = .ok d ∧ (f d).outcome e = (.ok y, e') := by
  rw [resolve, bind_assoc, outcome_bind_ok outcome_rendering] at h
  exact ok_of_ofExcept_bind h

theorem ok_of_lookup_bind {α : Type} {f : ScalarClass → Action α} {y : α}
    (h : (lookup t >>= f).outcome e = (.ok y, e')) :
    ∃ d c, DataType.resolve e.rendering t = .ok d ∧ e.registry.find? d.kind? = some c ∧
      (f c).outcome e = (.ok y, e') := by
  rw [lookup, bind_assoc] at h
  obtain ⟨d, hd, hrest⟩ := ok_of_resolve_bind h
  rw [bind_assoc, outcome_bind_ok outcome_get] at hrest
  obtain ⟨c, hc, hrest⟩ := ok_of_ofExcept_bind hrest
  exact ⟨d, c, hd, classFor_eq_ok_iff.1 hc, hrest⟩

end Registry

namespace Scalar

/-- Whether a scalar is of the type that a value denotes, and of the class that is
registered for it. -/
def IsRegistered (e : Environment) (t : Value) (s : Scalar) : Prop :=
  DataType.resolve e.rendering t = .ok s.dataType ∧ e.registry.find? (some s.kind) = some s.cls

theorem isRegistered_of_cls (hsound : e.registry.Sound) (hd : DataType.resolve e.rendering t = .ok d)
    (hc : e.registry.find? d.kind? = some c) (hs : s.cls = c) : IsRegistered e t s := by
  have hkind : d.kind? = some s.kind := by rw [← hsound.kind?_eq hc, ← hs, s.kind_eq]
  cases d with
  | abstract f => simp [DataType.kind?] at hkind
  | concrete k =>
    obtain rfl : k = s.kind := Option.some.inj hkind
    exact ⟨hd, by rw [hs]; exact hc⟩

theorem cls_of_build (hs : (build c v).outcome e = (.ok s, e')) : s.cls = c := by
  rw [build_outcome] at hs
  exact cls_of_make (Prod.mk.inj hs).1

theorem isRegistered_of_create (hsound : e.registry.Sound) (hs : (create t v).outcome e = (.ok s, e')) :
    IsRegistered e t s := by
  obtain ⟨d, c, hd, hc, hbuild⟩ := Registry.ok_of_lookup_bind hs
  exact isRegistered_of_cls hsound hd hc (cls_of_build hbuild)

theorem isRegistered_of_parseAs (hsound : e.registry.Sound)
    (hs : (parseAs c v (some t)).outcome e = (.ok s, e')) :
    IsRegistered e t s := by
  obtain ⟨d, target, hd, hc, hread⟩ := Registry.ok_of_lookup_bind hs
  rw [outcome_bind_ok outcome_rendering] at hread
  obtain ⟨source, -, hparse⟩ := ok_of_ofExcept_bind hread
  rw [outcome_ofExcept] at hparse
  exact isRegistered_of_cls hsound hd hc (cls_of_parse (Prod.mk.inj hparse).1)

/-- Whether something is what a cast hands out: the very scalar that was held, if it
is valid and of the type, and else one that was built for the type. -/
def IsCast (e : Environment) (t : Value) (h : Held) (m : Made) : Prop :=
  (h.scalar.isValid = true ∧ DataType.resolve e.rendering t = .ok h.scalar.dataType → m = .same h) ∧
  (¬(h.scalar.isValid = true ∧ DataType.resolve e.rendering t = .ok h.scalar.dataType) →
    ∃ s, m = .fresh s ∧ IsRegistered e t s)

theorem isCast_of_cast (hsound : e.registry.Sound) (hm : (Scalar.cast h t).outcome e = (.ok m, e')) :
    IsCast e t h m := by
  obtain ⟨d, hd, hrest⟩ := Registry.ok_of_resolve_bind hm
  rw [outcome_bind_ok outcome_get] at hrest
  obtain ⟨c, hclass, hrest⟩ := ok_of_ofExcept_bind hrest
  have hc := Registry.classFor_eq_ok_iff.1 hclass
  have hbuilt {s : Scalar} (hs : s.cls = c) : IsRegistered e t s := isRegistered_of_cls hsound hd hc hs
  have hnull {e₁ : Environment}
      (hbuild : (build c .none >>= fun s => pure (Made.fresh s)).outcome e₁ = (.ok m, e')) :
      ∃ s, m = .fresh s ∧ IsRegistered e t s := by
    obtain ⟨s, e₂, hs, hpure⟩ := ok_of_outcome_bind hbuild
    exact ⟨s, eq_of_outcome_pure hpure, hbuilt (cls_of_build hs)⟩
  dsimp only at hrest
  split at hrest
  · next hpayload =>
    exact ⟨fun hvalid => by simp [isValid, hpayload] at hvalid, fun _ => hnull hrest⟩
  · next p hpayload =>
    have hvalid : h.scalar.isValid = true := by rw [isValid, hpayload]; rfl
    split_ifs at hrest with htarget hsame
    · refine ⟨fun htype => ?_, fun _ => hnull hrest⟩
      rw [hd, htarget] at htype
      exact absurd (DataType.concrete.inj (Except.ok.inj htype.2)).symm (Kind.ne_null p)
    · have hd' : d = h.scalar.dataType := by
        rw [DataType.same, beq_iff_eq] at hsame
        cases d with
        | abstract f => simp [dataType, DataType.kind?] at hsame
        | concrete k => exact congrArg DataType.concrete (Option.some.inj hsame)
      exact ⟨fun _ => eq_of_outcome_pure hrest, fun hne => absurd ⟨hvalid, hd' ▸ hd⟩ hne⟩
    · refine ⟨fun htype => ?_, fun _ => ?_⟩
      · rw [hd] at htype
        rw [Except.ok.inj htype.2] at hsame
        simp [DataType.same] at hsame
      · obtain ⟨name, -, hrest⟩ := ok_of_ofExcept_bind hrest
        rw [outcome_bind_ok (outcome_record _ _ _)] at hrest
        obtain ⟨s, hcast, hpure⟩ := ok_of_ofExcept_bind hrest
        obtain ⟨v, -, hmake⟩ := exists_make_of_castPayload hcast
        exact ⟨s, eq_of_outcome_pure hpure, hbuilt (cls_of_make hmake)⟩

/-- In every registry that can be reached, each class holds the kind it is registered
for. So what is created, read or cast for a type, or built from a value for it, is of
that type and of the class that is registered for it then; but a valid scalar of the
type already is handed out itself. -/
theorem registered_of_reachable (hreachable : e.registry.Reachable) :
    (∀ x ∈ e.registry.entries, x.2.kind? = x.1) ∧
    (∀ t v s e', (create t v).outcome e = (.ok s, e') → IsRegistered e t s) ∧
    (∀ c v t s e', (parseAs c v (some t)).outcome e = (.ok s, e') → IsRegistered e t s) ∧
    (∀ h t m e', (Scalar.cast h t).outcome e = (.ok m, e') → IsCast e t h m) ∧
    ∀ v t m e', (ofValue v (some t)).outcome e = (.ok m, e') →
      match v with
      | .scalar h => IsCast e t h m
      | _ => ∃ s, m = .fresh s ∧ IsRegistered e t s := by
  have hsound := hreachable.sound
  refine ⟨hsound, fun t v s e' hs => isRegistered_of_create hsound hs,
    fun c v t s e' hs => isRegistered_of_parseAs hsound hs, fun h t m e' hm => isCast_of_cast hsound hm, ?_⟩
  intro v t m e' hm
  cases v with
  | scalar h => exact isCast_of_cast hsound hm
  | _ =>
    obtain ⟨s, e₁, hs, hpure⟩ := ok_of_outcome_bind hm
    exact ⟨s, eq_of_outcome_pure hpure, isRegistered_of_create hsound hs⟩

/-- A subclass that replaces the class of a kind is the one that casts build by. -/
theorem registered_of_reachable_replaced :
    let int8 : Kind := .integer ⟨true, .w8⟩
    let int32 : Kind := .integer ⟨true, .w32⟩
    let tagged : ScalarClass := .subclass "TaggedInt8Scalar" (.concrete int8)
    let e := ((Registry.register (.text "int8") tagged).outcome .initial).2
    let five : Held := ⟨0, .concrete int32, int32, rfl, some ⟨5, by decide⟩⟩
    e.registry.Reachable ∧
      ∃ s e', (Scalar.cast five (.text "int8")).outcome e = (.ok (.fresh s), e') ∧
        IsRegistered e (.text "int8") s ∧ s.cls = tagged := by
  intro int8 int32 tagged e five
  have hreachable : e.registry.Reachable := .register (e := .initial) .builtIn _ _
  have hint8 (r : Rendering) : DataType.resolve r (.text "int8") = .ok (.concrete int8) :=
    DataType.resolve_name r int8
  have he : e.registry = Registry.builtIn.insert (some int8) tagged :=
    congrArg (·.2.registry) (Registry.register_kind (e := .initial) (c := tagged) (hint8 _) rfl)
  have hfind : e.registry.find? (some int8) = some tagged := by rw [he]; rfl
  have hcast := cast_outcome (h := five) (hint8 _) hfind rfl (by decide) (by decide)
  have hother : ¬(five.scalar.isValid = true ∧
      DataType.resolve e.rendering (.text "int8") = .ok five.scalar.dataType) := by
    rintro ⟨-, htype⟩
    rw [hint8] at htype
    exact absurd (DataType.concrete.inj (Except.ok.inj htype)) (by decide)
  obtain ⟨s, hs, hregistered⟩ := ((registered_of_reachable hreachable).2.2.2.1 _ _ _ _ hcast).2 hother
  obtain rfl := Made.fresh.inj hs
  exact ⟨hreachable, _, _, hcast, hregistered, rfl⟩

end Scalar

end TypedScalar
