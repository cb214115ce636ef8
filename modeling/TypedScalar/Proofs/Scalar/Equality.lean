import TypedScalar.Proofs.Scalar.Exact
import TypedScalar.Scalar.Equality

/-! Equality of scalars. Scalars are equal if they are of one kind and both null, or both
valid with the same payload; their classes do not count. This is symmetric and transitive, and reflexive but
for NaN. Whatever is no scalar equals none. -/

namespace TypedScalar

namespace Kind

/-- Whether payloads are the same: numbers of a floating kind numerically, so that NaN is
not the same as itself and the two zeros are. -/
def SamePayload : (k : Kind) → k.Payload → k.Payload → Prop
  | .floating _, x, y => Floating.Number.SameValue x y
  | _, p, q => p = q

/-- Whether a payload is NaN. -/
def IsNaN : (k : Kind) → k.Payload → Prop
  | .floating _, x => x = Floating.Number.nan
  | _, _ => False

variable {k : Kind} {p q : k.Payload}

theorem equalPayloads_iff : Scalar.equalPayloads k p q = true ↔ k.SamePayload p q := by
  cases k with
  | null => exact Empty.elim p
  | floating f => exact Floating.Number.equals_iff_sameValue
  | integer i => exact beq_iff_eq.trans Subtype.ext_iff.symm
  | boolean | string | binary => exact beq_iff_eq

theorem SamePayload.symm (h : k.SamePayload p q) : k.SamePayload q p := by
  cases k with
  | floating f => exact Floating.Number.SameValue.symm h
  | null | boolean | integer | string | binary => exact Eq.symm h

theorem SamePayload.trans {p' : k.Payload} (h : k.SamePayload p q) (h' : k.SamePayload q p') :
    k.SamePayload p p' := by
  cases k with
  | floating f => exact Floating.Number.SameValue.trans h h'
  | null | boolean | integer | string | binary => exact Eq.trans h h'

theorem samePayload_self_iff : k.SamePayload p p ↔ ¬ k.IsNaN p := by
  cases k with
  | floating f => exact Floating.Number.sameValue_self_iff
  | null | boolean | integer | string | binary => simp [SamePayload, IsNaN]

end Kind

namespace Scalar

/-- When scalars are equal. -/
inductive Equal : Scalar → Scalar → Prop
  | null {k : Kind} {c d : ScalarClass} (hc : c.kind? = some k) (hd : d.kind? = some k) :
    Equal ⟨c, k, hc, none⟩ ⟨d, k, hd, none⟩
  | valid {k : Kind} {c d : ScalarClass} (hc : c.kind? = some k) (hd : d.kind? = some k) {p q : k.Payload}
    (h : k.SamePayload p q) : Equal ⟨c, k, hc, some p⟩ ⟨d, k, hd, some q⟩

variable {a b : Scalar} {k : Kind} {c d : ScalarClass} (hc : c.kind? = some k) (hd : d.kind? = some k)

theorem equal_payloads (x y : Option k.Payload) :
    equal ⟨c, k, hc, x⟩ ⟨d, k, hd, y⟩ =
      match x, y with
      | none, none => true
      | some p, some q => equalPayloads k p q
      | _, _ => false := by
  rw [equal, dif_pos rfl]
  cases x <;> cases y <;> rfl

theorem equal_of_kind_ne (h : a.kind ≠ b.kind) : a.equal b = false := dif_neg h.symm

theorem equal_iff : a.equal b = true ↔ Equal a b := by
  constructor
  · intro h
    by_cases hkind : a.kind = b.kind
    · obtain ⟨c, k, hc, x⟩ := a
      obtain ⟨d, k', hd, y⟩ := b
      obtain rfl : k = k' := hkind
      rw [equal_payloads] at h
      split at h
      · exact .null hc hd
      · exact .valid hc hd (Kind.equalPayloads_iff.1 h)
      · simp at h
    · rw [equal_of_kind_ne hkind] at h
      simp at h
  · intro h
    cases h with
    | null hc hd => exact equal_payloads hc hd none none
    | valid hc hd h => exact (equal_payloads hc hd _ _).trans (Kind.equalPayloads_iff.2 h)

theorem Equal.symm (h : Equal a b) : Equal b a := by
  cases h with
  | null hc hd => exact .null hd hc
  | valid hc hd h => exact .valid hd hc h.symm

theorem Equal.trans {b' : Scalar} (h : Equal a b) (h' : Equal b b') : Equal a b' := by
  cases h with
  | null hc hd =>
    cases h' with
    | null _ hd' => exact .null hc hd'
  | valid hc hd h =>
    cases h' with
    | valid _ hd' h' => exact .valid hc hd' (h.trans h')

/-- Whether a scalar is a valid NaN. -/
def IsNaN (s : Scalar) : Prop := ∃ p, s.payload = some p ∧ s.kind.IsNaN p

theorem equal_self_iff : Equal a a ↔ ¬ a.IsNaN := by
  obtain ⟨c, k, hc, _ | p⟩ := a
  · simp [IsNaN, Equal.null hc hc]
  · have hiff : Equal ⟨c, k, hc, some p⟩ ⟨c, k, hc, some p⟩ ↔ k.SamePayload p p := by
      rw [← equal_iff, equal_payloads]
      exact Kind.equalPayloads_iff
    simpa [IsNaN, hiff] using Kind.samePayload_self_iff

theorem Equal.kind_eq (h : Equal a b) : a.kind = b.kind := by
  cases h <;> rfl

theorem Equal.isValid_eq (h : Equal a b) : a.isValid = b.isValid := by
  cases h <;> rfl

end Scalar

/-! ### Other ways to compare -/

theorem EqualOptions.equalReals_exact (x y : Floating.Double) :
    exact.equalReals x y = .ok (.boolean (x.equals y)) := by
  rw [equalReals]
  cases hnan : x.isNaN || y.isNaN with
  | true =>
    have hfalse : x.equals y = false := by
      rw [Bool.or_eq_true] at hnan
      rcases hnan with hx | hy <;> simp [Floating.Number.equals, *]
    simp [hfalse, verdict, exact, Value.isTruthy]
  | false =>
    cases x.equals y <;> simp [verdict, exact, Value.isTruthy]

theorem Scalar.equalUnder_exact (a b : Scalar) : equalUnder .exact a b = .ok (.boolean (a.equal b)) := by
  by_cases hkind : a.kind = b.kind
  · obtain ⟨c, k, hc, x⟩ := a
    obtain ⟨d, k', hd, y⟩ := b
    obtain rfl : k = k' := hkind
    rw [equal_payloads, equalUnder, dif_pos rfl]
    cases x with
    | none => cases y <;> rfl
    | some p =>
      cases y with
      | none => rfl
      | some q =>
        cases k with
        | floating f =>
          refine (EqualOptions.equalReals_exact _ _).trans ?_
          rw [f.equals_toDouble]
          rfl
        | _ => rfl
  · rw [equalUnder, dif_neg (Ne.symm hkind), equal_of_kind_ne hkind]

theorem Value.compare_scalars (h k : Held) :
    compare (.scalar h) (.scalar k) = .ok (h.scalar.equal k.scalar) := by
  simp [compare, quantity?, equalsPlain]

theorem Value.compare_scalar_other (h : Held) {v : Value} (hv : ∀ k, v ≠ .scalar k) :
    compare (.scalar h) v = .ok false ∧ compare v (.scalar h) = .ok false := by
  cases v with
  | scalar k => exact absurd rfl (hv k)
  | machine m =>
    cases hm : m.isQuantity <;>
      simp [compare, quantity?, comparesBytes, equalsMachine, equalsPlain, number?, text?, bytes?, hm]
  | _ => simp [compare, quantity?, equalsPlain, equalsMemory, memory?, number?, text?, bytes?]

namespace Scalar

/-- Equality is symmetric and transitive, and reflexive but for NaN. It holds of all nulls of
a kind and of the valid scalars of a kind that have the same payload, whatever their classes,
and of no others; and comparison of values is equality of scalars. -/
theorem equal_laws :
    (∀ a b : Scalar, a.equal b = b.equal a) ∧
    (∀ a b c : Scalar, a.equal b = true → b.equal c = true → a.equal c = true) ∧
    (∀ a : Scalar, a.equal a = true ↔ ¬ a.IsNaN) ∧
    (∀ a b : Scalar, a.kind ≠ b.kind ∨ a.isValid ≠ b.isValid → a.equal b = false) ∧
    (∀ (k : Kind) (c d : ScalarClass) (hc : c.kind? = some k) (hd : d.kind? = some k),
      (null c k hc).equal (null d k hd) = true ∧
      ∀ p q : k.Payload, equal ⟨c, k, hc, some p⟩ ⟨d, k, hd, some q⟩ = true ↔ k.SamePayload p q) ∧
    ∀ h : Held,
      (∀ k : Held, Value.compare (.scalar h) (.scalar k) = .ok (h.scalar.equal k.scalar) ∧
        equalUnder .exact h.scalar k.scalar = .ok (.boolean (h.scalar.equal k.scalar))) ∧
      ∀ v : Value, (∀ k, v ≠ .scalar k) →
        Value.compare (.scalar h) v = .ok false ∧ Value.compare v (.scalar h) = .ok false := by
  refine ⟨fun a b => ?_, fun a b c hab hbc => ?_, fun a => ?_, fun a b h => ?_, fun k c d hc hd => ?_,
    fun h => ⟨fun k => ?_, fun v hv => ?_⟩⟩
  · exact Bool.eq_iff_iff.2 (equal_iff.trans ⟨fun h => equal_iff.2 h.symm, fun h => (equal_iff.1 h).symm⟩)
  · exact equal_iff.2 ((equal_iff.1 hab).trans (equal_iff.1 hbc))
  · exact equal_iff.trans equal_self_iff
  · by_contra hequal
    rw [Bool.not_eq_false, equal_iff] at hequal
    exact h.elim (fun hkind => hkind hequal.kind_eq) fun hvalid => hvalid hequal.isValid_eq
  · refine ⟨equal_payloads hc hd none none, fun p q => ?_⟩
    rw [equal_payloads]
    exact Kind.equalPayloads_iff
  · exact ⟨Value.compare_scalars h k, equalUnder_exact h.scalar k.scalar⟩
  · exact Value.compare_scalar_other h hv

/-- The zeros of either sign are equal, also where a subclass holds one of them, and no NaN
equals itself. -/
theorem equal_laws_zeros :
    let single : Kind := .floating .single
    let tagged : ScalarClass := .subclass "TaggedFloatScalar" (.concrete single)
    equal ⟨.concrete single, single, rfl, some (.zero false)⟩ ⟨tagged, single, rfl, some (.zero true)⟩ = true ∧
      equal ⟨tagged, single, rfl, some .nan⟩ ⟨tagged, single, rfl, some .nan⟩ = false := by
  intro single tagged
  obtain ⟨-, -, hself, -, hpayloads, -⟩ := equal_laws
  refine ⟨((hpayloads single _ _ rfl rfl).2 _ _).2 (.finite rfl rfl rfl), ?_⟩
  rw [Bool.eq_false_iff, ne_eq, hself, not_not]
  exact ⟨_, rfl, rfl⟩

end Scalar

end TypedScalar
