import Mathlib.Logic.Relation
import TypedScalar.Proofs.Scalar.Recast

/-! Chains of casts. An integer that has come through any kinds of numbers that hold its value is
cast on as the integer that it was; what becomes of a number depends on its value only, not on
whether it is held as an integer or as a floating number. -/

namespace TypedScalar

namespace Scalar

variable {r : Rendering} {c : ScalarClass} {k m : Kind} {i : IntegerKind} {a b s : Scalar}

/-! ### What becomes of an integer -/

theorem Equal.not_isNaN (h : Equal a b) : ¬ b.IsNaN := equal_self_iff.1 (h.symm.trans h)

theorem make_boolean_corresponds (hc : c.kind? = some .boolean) {p q : Bool} (h : p = q) :
    Corresponds Equal (make r c (.boolean p)) (make r c (.boolean q)) := by
  rw [make_boolean hc, make_boolean hc]
  exact .ok (.valid hc hc h)

theorem make_integer_corresponds (hc : c.kind? = some (.integer i)) (n : ℤ) :
    Corresponds Equal (make r c (.integer n)) (make r c (.integer n)) := by
  cases hmake : make r c (.integer n) with
  | error err => exact .error rfl
  | ok s =>
    refine .ok (equal_self_iff.2 fun hnan => ?_)
    obtain ⟨f, hf⟩ := hnan.exists_kind
    exact absurd ((kind_of_make hc hmake).symm.trans hf) (by simp)

theorem make_real_corresponds {f : FloatingKind} (hc : c.kind? = some (.floating f)) {x y : Floating.Double}
    (h : x.equals y = true) : Corresponds Equal (make r c (.real x)) (make r c (.real y)) := by
  obtain ⟨hnan, rfl | ⟨hx, hy⟩⟩ := Floating.Number.equals_iff.1 h
  · rw [make_real hc]
    split_ifs
    · exact .error rfl
    · refine .ok (.valid hc hc (Floating.Number.equals_iff_sameValue.1 (Floating.Number.equals_self ?_)))
      rwa [f.isNaN_ofDouble]
  · -- zeros of either sign
    obtain ⟨s, rfl⟩ := Floating.Number.isZero_iff.1 hx
    obtain ⟨t, rfl⟩ := Floating.Number.isZero_iff.1 hy
    have hrange (negative : Bool) : ((Floating.Number.zero negative : Floating.Double).isFinite &&
        (f.ofDouble (.zero negative)).isInfinite) = false := by
      rw [f.ofDouble_zero]
      cases f <;> rfl
    rw [make_real hc, make_real hc, hrange, hrange, f.ofDouble_zero, f.ofDouble_zero]
    exact .ok (.valid hc hc (Floating.Number.equals_iff_sameValue.1
      (Floating.Number.equals_iff.2 ⟨rfl, .inr ⟨rfl, rfl⟩⟩)))

/-- A number whose value is an integer is converted as that integer is. -/
theorem castPayload_corresponds (hc : c.kind? = some k) (hk : k = .boolean ∨ k.isNumeric = true)
    (hm : m.isNumeric = true) {p : m.Payload} {q : i.Value} (hp : m.exactValue? p = some (q.val : ℚ)) :
    Corresponds Equal (castPayload r c m p) (castPayload r c (.integer i) q) := by
  have hq : (Kind.integer i).exactValue? q = some (q.val : ℚ) := Kind.exactValue?_integer.2 rfl
  rw [Kind.isNumeric_iff] at hk
  obtain ⟨j, rfl⟩ | ⟨g, rfl⟩ := Kind.isNumeric_iff.1 hm
  · have hpq : (p : j.Value).val = q.val := Kind.exactValue?_integer.1 hp
    obtain rfl | ⟨l, rfl⟩ | ⟨f, rfl⟩ := hk
    · simp only [castPayload, convert, hc, Kind.wholeNumber?]
      exact make_boolean_corresponds hc (by rw [hpq])
    · rw [castPayload_of_exactValue? hc hp, castPayload_of_exactValue? hc hq]
      exact make_integer_corresponds hc q.val
    · rw [castPayload_ofInt hc, castPayload_ofInt hc, hpq]
      exact make_real_corresponds hc (Floating.Number.equals_self rfl)
  · obtain ⟨hfinite, hvalue⟩ := Floating.Number.toInt?_eq_some_iff.1 (Kind.exactValue?_floating.1 hp)
    obtain rfl | ⟨l, rfl⟩ | ⟨f, rfl⟩ := hk
    · simp only [castPayload, convert, hc, Kind.wholeNumber?, Kind.realNumber?]
      refine make_boolean_corresponds hc ?_
      rw [isNonzero, isNonzero, Bool.eq_iff_iff]
      simp only [Bool.not_eq_true', ← Bool.not_eq_true, bne_iff_ne, ne_eq,
        Floating.Number.isZero_iff_value hfinite, hvalue, Int.cast_eq_zero]
    · rw [castPayload_of_exactValue? hc hp, castPayload_of_exactValue? hc hq]
      exact make_integer_corresponds hc q.val
    · have hequals := Floating.Number.ofInt_equals hfinite hvalue
      rw [castPayload_toDouble hc, castPayload_ofInt hc]
      refine make_real_corresponds hc ?_
      exact Floating.Number.equals_iff_sameValue.2 (Floating.Number.equals_iff_sameValue.1 hequals).symm

/-- Whether scalars stand for one integer, or are both null. -/
inductive SameInteger : Scalar → Scalar → Prop
  | null {a b : Scalar} (ha : a.isValid = false) (hb : b.isValid = false) : SameInteger a b
  | valid {a b : Scalar} {n : ℤ} (ha : a.exactValue? = some (n : ℚ)) (hb : b.exactValue? = some (n : ℚ)) :
    SameInteger a b

theorem sameInteger_self (hs : s.kind = .integer i) : SameInteger s s := by
  obtain ⟨d, k, hd, _ | p⟩ := s
  · exact .null rfl rfl
  · obtain rfl : k = .integer i := hs
    exact .valid (Kind.exactValue?_integer.2 rfl) (Kind.exactValue?_integer.2 rfl)

theorem recast_corresponds (hc : c.kind? = some k) (hk : k = .boolean ∨ k.isNumeric = true)
    (ha : a.kind.isNumeric = true) (hb : b.kind = .integer i) (h : SameInteger a b) :
    Corresponds Equal (recast r c a) (recast r c b) := by
  obtain ⟨d, m, hd, x⟩ := a
  obtain ⟨d', m', hd', y⟩ := b
  obtain rfl : m' = .integer i := hb
  cases h with
  | null hx hy =>
    obtain rfl : x = none := by simpa [isValid] using hx
    obtain rfl : y = none := by simpa [isValid] using hy
    show Corresponds Equal (make r c .none) (make r c .none)
    rw [make_eq hc]
    exact .ok (.null hc hc)
  | valid hx hy =>
    cases x with
    | none => simp [exactValue?] at hx
    | some p =>
      cases y with
      | none => simp [exactValue?] at hy
      | some q =>
        have hq : q.val = _ := Kind.exactValue?_integer.1 hy
        rw [← hq] at hx
        exact castPayload_corresponds hc hk ha hx

/-! ### Casts -/

variable {e : Environment} {h h' : Held} {t : Value}

/-- Scalars that stand for one integer are cast alike. -/
theorem castMade_equal (hsound : e.registry.Sound) (hk : k = .boolean ∨ k.isNumeric = true)
    (hnumber : h'.scalar.kind.isNumeric = true) (hinteger : h.scalar.kind = .integer i)
    (hsame : SameInteger h'.scalar h.scalar) :
    Corresponds (fun x y => Equal x.scalar y.scalar) (castMade e h' k) (castMade e h k) := by
  have hrecast : Corresponds Equal
      ((e.registry.classFor (.concrete k)).bind fun c => recast e.rendering c h'.scalar)
      ((e.registry.classFor (.concrete k)).bind fun c => recast e.rendering c h.scalar) := by
    cases hclass : e.registry.classFor (.concrete k) with
    | error err => exact .error rfl
    | ok c =>
      have hc := hsound.kind?_eq (Registry.classFor_eq_ok_iff.1 hclass)
      exact recast_corresponds hc hk hnumber hinteger hsame
  have hleft := castMade_corresponds hsound hnumber k
  have hright := castMade_corresponds (h := h) hsound (by rw [hinteger]; rfl) k
  have hmiddle : Corresponds (fun (x : Made) (s : Scalar) => Equal x.scalar s) (castMade e h' k) _ :=
    hleft.trans hrecast fun x s s' hx hs => (hx.equal hs.symm.not_isNaN).trans hs
  exact hmiddle.trans hright.symm fun x s y hx hy => hx.trans (hy.equal hx.not_isNaN).symm

/-! ### Chains -/

/-- A cast of what is held to a kind of numbers that succeeds and keeps the exact value, with the
environment before and after. A scalar that is new has some number. -/
inductive ExactCast : Environment × Held → Environment × Held → Prop
  | intro {e e' : Environment} {h : Held} {t : Value} {k : Kind} {made : Made}
    (ht : DataType.resolve e.rendering t = .ok (.concrete k)) (hk : k.isNumeric = true)
    (hcast : (cast h t).outcome e = (.ok made, e')) (hvalue : made.scalar.exactValue? = h.scalar.exactValue?)
    (number : ℕ) : ExactCast (e, h) (e', made.held number)

/-- What such casts keep. -/
structure Keeps (e : Environment) (s : Scalar) (state : Environment × Held) : Prop where
  config : state.1.config = e.config
  registry : state.1.registry = e.registry
  isNumeric : state.2.scalar.kind.isNumeric = true
  sameInteger : SameInteger state.2.scalar s

/-- What is made of a number of a kind by a cast is of the kind, and is null if the number was. -/
theorem castMade_kind {made : Made} (hsound : e.registry.Sound) (hmade : castMade e h k = .ok made) :
    made.scalar.kind = k ∧ (h.scalar.isValid = false → made.scalar.isValid = false) := by
  rw [castMade] at hmade
  cases hclass : e.registry.classFor (.concrete k) with
  | error err => simp [hclass, Except.bind] at hmade
  | ok c =>
    have hc := hsound.kind?_eq (Registry.classFor_eq_ok_iff.1 hclass)
    simp only [hclass, Except.bind] at hmade
    split_ifs at hmade with hsame
    · obtain rfl := Except.ok.inj hmade
      exact ⟨hsame.2.symm, id⟩
    · cases hrecast : recast e.rendering c h.scalar with
      | error err => simp [hrecast, Except.map] at hmade
      | ok s =>
        rw [hrecast] at hmade
        obtain rfl := Except.ok.inj hmade
        refine ⟨kind_of_recast hc hrecast, fun hnull => ?_⟩
        have hpayload : h.scalar.payload = none := by simpa [isValid] using hnull
        rw [recast, hpayload] at hrecast
        replace hrecast : make e.rendering c .none = .ok s := hrecast
        rw [make_eq hc] at hrecast
        obtain rfl := Except.ok.inj hrecast
        rfl

theorem Keeps.step {state state' : Environment × Held} (hsound : e.registry.Sound) (hkeeps : Keeps e s state)
    (hcast : ExactCast state state') : Keeps e s state' := by
  cases hcast with
  | @intro e₁ e₂ h₁ t k made ht hk hcast hvalue number =>
    obtain ⟨hconfig, hregistry, -, hsame⟩ := hkeeps
    obtain ⟨log, houtcome⟩ := exists_cast_outcome h₁ ht (Kind.ne_of_isNumeric hk rfl)
    rw [hcast] at houtcome
    obtain ⟨hmade, rfl⟩ := Prod.mk.inj houtcome
    have hsound₁ : e₁.registry.Sound := hregistry ▸ hsound
    obtain ⟨hkind, hnull⟩ := castMade_kind hsound₁ hmade.symm
    refine ⟨hconfig, hregistry, by simpa [hkind] using hk, ?_⟩
    rw [Made.scalar_held]
    cases hsame with
    | null ha hb => exact .null (hnull ha) hb
    | valid ha hb => exact .valid (hvalue.trans ha) hb

theorem Keeps.run {state state' : Environment × Held} (hsound : e.registry.Sound) (hkeeps : Keeps e s state)
    (hchain : Relation.ReflTransGen ExactCast state state') : Keeps e s state' := by
  induction hchain with
  | refl => exact hkeeps
  | tail _ hcast ih => exact ih.step hsound hcast

/-- A chain of casts of an integer to kinds of numbers that keeps its value, if it has one, makes
no difference to a cast to boolean or to a kind of numbers: with the chain or without it, either
both give equal scalars of the kind, or both fail with errors of one class. -/
theorem cast_chain {e' : Environment} (hreachable : e.registry.Reachable)
    (hinteger : h.scalar.kind = .integer i)
    (hchain : Relation.ReflTransGen ExactCast (e, h) (e', h'))
    (hk : k = .boolean ∨ k.isNumeric = true) (ht : DataType.resolve e.rendering t = .ok (.concrete k)) :
    Corresponds (fun a b => a.scalar.kind = k ∧ b.scalar.kind = k ∧ a.scalar.equal b.scalar = true)
      ((cast h' t).outcome e').1 ((cast h t).outcome e).1 := by
  have hsound := hreachable.sound
  have hstart : Keeps e h.scalar (e, h) :=
    ⟨rfl, rfl, by rw [hinteger]; rfl, sameInteger_self hinteger⟩
  obtain ⟨hconfig, hregistry, hnumber, hsame⟩ := hstart.run hsound hchain
  dsimp only at hconfig hregistry hnumber hsame
  have hnull : k ≠ .null := by
    rintro rfl
    simp [Kind.isNumeric, Kind.isInteger, Kind.isFloating] at hk
  have hrendering : e'.rendering = e.rendering := by rw [Environment.rendering, hconfig, Environment.rendering]
  obtain ⟨log, houtcome⟩ := exists_cast_outcome h ht hnull
  obtain ⟨log', houtcome'⟩ := exists_cast_outcome (e := e') h' (hrendering ▸ ht) hnull
  have hmade : castMade e' h' k = castMade e h' k := by
    rw [castMade, castMade, hrendering, hregistry]
  rw [houtcome, houtcome', hmade]
  have hequal := castMade_equal hsound hk hnumber hinteger hsame
  generalize hx : castMade e h' k = x at hequal ⊢
  generalize hy : castMade e h k = y at hequal ⊢
  cases hequal with
  | error herr => exact .error herr
  | ok hab => exact .ok ⟨(castMade_kind hsound hx).1, (castMade_kind hsound hy).1, equal_iff.2 hab⟩

/-- An integer that was held as a number of 32 bits in between is cast to 8 bits as before. -/
theorem cast_chain_single :
    let int8 : Kind := .integer ⟨true, .w8⟩
    let int64 : Kind := .integer ⟨true, .w64⟩
    let single : Kind := .floating .single
    let e := Environment.initial
    let h : Held := ⟨0, .concrete int64, int64, rfl, some ⟨300, by decide⟩⟩
    e.registry.Reachable ∧ ∃ e' h', Relation.ReflTransGen ExactCast (e, h) (e', h') ∧
      h'.scalar.kind = single ∧
      Corresponds (fun a b => a.scalar.kind = int8 ∧ b.scalar.kind = int8 ∧ a.scalar.equal b.scalar = true)
        ((cast h' (.text "int8")).outcome e').1 ((cast h (.text "int8")).outcome e).1 := by
  intro int8 int64 single e h
  let x : Floating.Single := FloatingKind.single.ofDouble (.ofInt .double 300)
  have hresolve (k : Kind) : DataType.resolve e.rendering (.text k.name) = .ok (.concrete k) :=
    DataType.resolve_name _ k
  have hpayload : castPayload e.rendering (.concrete single) int64 ⟨300, by decide⟩ =
      .ok ⟨.concrete single, single, rfl, some x⟩ := by
    show make e.rendering (.concrete single) (.real (.ofInt .double 300)) = _
    rw [make_real rfl, if_neg (by decide +kernel)]
  have hvalue : single.exactValue? x = some ((300 : ℤ) : ℚ) :=
    Kind.exactValue?_floating.2 (by decide +kernel)
  clear_value x
  have hcast := cast_outcome (h := h) (hresolve single) rfl rfl (by decide) (by decide)
  rw [show castPayload e.rendering (.concrete single) h.scalar.kind _ = _ from hpayload] at hcast
  have hchain := Relation.ReflTransGen.single (ExactCast.intro (hresolve single) rfl hcast hvalue 1)
  exact ⟨.builtIn, _, _, hchain, rfl, cast_chain .builtIn rfl hchain (.inr rfl) (hresolve int8)⟩

end Scalar

end TypedScalar
