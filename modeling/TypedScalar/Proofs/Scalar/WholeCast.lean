import TypedScalar.Proofs.Scalar.Casting
import TypedScalar.Proofs.Scalar.Equality

/-! Casts of booleans and numbers to integer kinds. What has no integer value is refused,
and so is an integer beyond the bounds; every other value arrives as it is, and can be
cast back. -/

namespace TypedScalar

namespace Scalar

variable {r : Rendering} {c : ScalarClass} {k : Kind} {i : IntegerKind} {n : ℤ}

/-! ### Payloads -/

theorem castPayload_of_exactValue? (hc : c.kind? = some (.integer i)) {p : k.Payload}
    (h : k.exactValue? p = some (n : ℚ)) :
    castPayload r c k p = make r c (.integer n) := by
  have hconvert : castPayload r c k p = convert r c k p := by
    cases k with
    | string => simp [Kind.exactValue?] at h
    | _ => rfl
  rw [hconvert]
  obtain hwhole | ⟨hwhole, x, hreal, hx⟩ := Kind.whole_of_exactValue? h
  · simp only [convert, hc, hwhole]
  · simp only [convert, hc, hwhole, hreal, hx]

/-- Only a number of a floating kind can be no integer, and is refused. -/
theorem castPayload_truncates (hc : c.kind? = some (.integer i)) (hk : k = .boolean ∨ k.isNumeric = true)
    {p : k.Payload} (h : ∀ n : ℤ, k.exactValue? p ≠ some (n : ℚ)) :
    ∃ shown, castPayload r c k p = .error (.truncates shown i) := by
  cases k with
  | null => exact Empty.elim p
  | boolean => exact absurd (Kind.exactValue?_boolean.2 rfl) (h _)
  | integer j => exact absurd (Kind.exactValue?_integer.2 rfl) (h _)
  | floating f =>
    have hint : (f.toDouble p).toInt? = none := by
      cases hint : (f.toDouble p).toInt? with
      | none => rfl
      | some n => exact absurd (Kind.exactValue?_floating.2 hint) (h n)
    refine ⟨doubleText (f.toDouble p), ?_⟩
    simp only [castPayload, convert, hc, Kind.wholeNumber?, Kind.realNumber?, hint]
  | string | binary => simp [Kind.isNumeric, Kind.isInteger, Kind.isFloating] at hk

/-- An integer that is the value of a payload is cast to the kind of the payload, and
comes out equal to it. -/
theorem exists_castPayload_back (hc : c.kind? = some k) {p : k.Payload} (h : k.exactValue? p = some (n : ℚ))
    (hi : i.min ≤ n ∧ n ≤ i.max) :
    ∃ p', castPayload r c (.integer i) ⟨n, hi⟩ = .ok ⟨c, k, hc, some p'⟩ ∧
      equalPayloads k p' p = true := by
  cases k with
  | null => exact Empty.elim p
  | boolean =>
    obtain rfl := Kind.exactValue?_boolean.1 h
    refine ⟨p, ?_, beq_self_eq_true _⟩
    simp only [castPayload, convert, hc, Kind.wholeNumber?]
    rw [make_boolean hc]
    cases (p : Bool) <;> rfl
  | integer j =>
    obtain rfl := Kind.exactValue?_integer.1 h
    refine ⟨p, ?_, beq_self_eq_true _⟩
    simp only [castPayload, convert, hc, Kind.wholeNumber?]
    exact make_integer hc p.property
  | floating f =>
    obtain ⟨hfinite, hvalue⟩ := Floating.Number.toInt?_eq_some_iff.1 (Kind.exactValue?_floating.1 h)
    have hequals := f.ofDouble_equals (Floating.Number.ofInt_equals hfinite hvalue)
    have hrange : ((Floating.Number.ofInt .double n).isFinite &&
        (f.ofDouble (.ofInt .double n)).isInfinite) = false := by
      rw [Floating.Number.isInfinite_of_equals hequals (by simpa using hfinite), Bool.and_false]
    refine ⟨f.ofDouble (.ofInt .double n), ?_, hequals⟩
    simp only [castPayload, convert, hc, Kind.wholeNumber?]
    rw [make_real hc, hrange]
    rfl
  | string | binary => simp [Kind.exactValue?] at h

/-! ### Casts -/

/-- What a cast to an integer kind comes to, by the exact value of what is cast. -/
inductive WholeCast (i : IntegerKind) (v : Option ℚ) : Except Error Made → Prop
  | truncated {err : Error} (hv : ∀ n : ℤ, v ≠ some (n : ℚ)) (h : err.errorClass = .scalarCast) :
    WholeCast i v (.error err)
  | beyond {err : Error} {n : ℤ} (hv : v = some (n : ℚ)) (hn : ¬(i.min ≤ n ∧ n ≤ i.max))
    (h : err.errorClass = .scalarRange) : WholeCast i v (.error err)
  | exact {made : Made} {n : ℤ} (hv : v = some (n : ℚ)) (hn : i.min ≤ n ∧ n ≤ i.max) {c : ScalarClass}
    (hc : c.kind? = some (.integer i)) (h : made.scalar = ⟨c, .integer i, hc, some ⟨n, hn⟩⟩) :
    WholeCast i v (.ok made)

namespace WholeCast

variable {v : Option ℚ} {x : Except Error Made}

theorem eq_of_some {m : ℤ} (hm : v = some (m : ℚ)) (hn : v = some (n : ℚ)) : m = n := by
  rw [hm] at hn
  exact_mod_cast Option.some.inj hn

theorem scalarCast_iff (h : WholeCast i v x) :
    (∃ err, x = .error err ∧ err.errorClass = .scalarCast) ↔ ∀ n : ℤ, v ≠ some (n : ℚ) := by
  cases h with
  | truncated hv herr => exact iff_of_true ⟨_, rfl, herr⟩ hv
  | beyond hv hn herr => simp [hv, herr]
  | exact hv hn hc hmade => simp [hv]

theorem scalarRange_iff (h : WholeCast i v x) :
    (∃ err, x = .error err ∧ err.errorClass = .scalarRange) ↔
      ∃ n : ℤ, v = some (n : ℚ) ∧ ¬(i.min ≤ n ∧ n ≤ i.max) := by
  cases h with
  | truncated hv herr => simp [hv, herr]
  | beyond hv hn herr => exact iff_of_true ⟨_, rfl, herr⟩ ⟨_, hv, hn⟩
  | exact hv hn hc hmade =>
    refine iff_of_false (by simp) ?_
    rintro ⟨m, hm, hbeyond⟩
    rw [eq_of_some hm hv] at hbeyond
    exact hbeyond hn

theorem exists_made (h : WholeCast i v x) (hv : v = some (n : ℚ)) (hn : i.min ≤ n ∧ n ≤ i.max) :
    ∃ made c, ∃ hc : c.kind? = some (.integer i),
      x = .ok made ∧ made.scalar = ⟨c, .integer i, hc, some ⟨n, hn⟩⟩ := by
  cases h with
  | truncated hv' => exact absurd hv (hv' n)
  | beyond hv' hn' =>
    rw [eq_of_some hv' hv] at hn'
    exact absurd hn hn'
  | exact hv' hn' hc hmade =>
    obtain rfl := eq_of_some hv' hv
    exact ⟨_, _, hc, rfl, hmade⟩

end WholeCast

theorem wholeCast_castPayload (hc : c.kind? = some (.integer i)) (hk : k = .boolean ∨ k.isNumeric = true)
    (p : k.Payload) : WholeCast i (k.exactValue? p) ((castPayload r c k p).map .fresh) := by
  by_cases h : ∃ n : ℤ, k.exactValue? p = some (n : ℚ)
  · obtain ⟨n, hn⟩ := h
    rw [castPayload_of_exactValue? hc hn]
    by_cases hbounds : i.min ≤ n ∧ n ≤ i.max
    · rw [make_integer hc hbounds]
      exact .exact hn hbounds hc rfl
    · rw [make_integer_range hc hbounds (integerText_of_lt (Kind.natAbs_lt_of_exactValue? hn))]
      exact .beyond hn hbounds rfl
  · rw [not_exists] at h
    obtain ⟨shown, herror⟩ := castPayload_truncates (r := r) hc hk h
    rw [herror]
    exact .truncated h rfl

variable {e : Environment} {s : Scalar} {t : Value}

theorem wholeCast_cast (hsound : e.registry.Sound) (hvalid : s.isValid = true)
    (hnumber : s.kind = .boolean ∨ s.kind.isNumeric = true)
    (ht : DataType.resolve e.rendering t = .ok (.concrete (.integer i)))
    (hc : e.registry.find? (some (.integer i)) = some c) (number : ℕ) :
    ∃ x log, (Scalar.cast ⟨number, s⟩ t).outcome e = (x, { e with log := log }) ∧
      WholeCast i s.exactValue? x := by
  obtain ⟨d, k, hd, _ | p⟩ := s
  · simp [isValid] at hvalid
  -- a scalar of the kind already is handed out itself
  by_cases hk : k = .integer i
  · subst hk
    exact ⟨_, e.log, cast_same_outcome ht hc rfl, .exact rfl p.property hd rfl⟩
  · exact ⟨_, _, cast_outcome ht hc rfl (by simp) (Ne.symm hk),
      wholeCast_castPayload (hsound.kind?_eq hc) hnumber p⟩

/-- An integer that is the value of a valid scalar is cast to the kind of the scalar,
and comes out equal to it. -/
theorem cast_back (hsound : e.registry.Sound) (hback : DataType.resolve e.rendering t = .ok s.dataType)
    {cs : ScalarClass} (hcs : e.registry.find? (some s.kind) = some cs) (hv : s.exactValue? = some (n : ℚ))
    (hn : i.min ≤ n ∧ n ≤ i.max) (hc : c.kind? = some (.integer i)) (number : ℕ) :
    ∃ made, ((Scalar.cast ⟨number, c, .integer i, hc, some ⟨n, hn⟩⟩ t).outcome e).1 = .ok made ∧
      made.scalar.kind = s.kind ∧ made.scalar.equal s = true := by
  obtain ⟨cs', k, hcs', _ | p⟩ := s
  · simp [exactValue?] at hv
  have hexact : k.exactValue? p = some (n : ℚ) := hv
  by_cases hk : k = .integer i
  · subst hk
    rw [cast_same_outcome hback hcs rfl]
    refine ⟨_, rfl, rfl, ?_⟩
    obtain rfl := Kind.exactValue?_integer.1 hexact
    exact (equal_payloads hc hcs' _ _).trans (beq_self_eq_true _)
  · obtain ⟨p', hcast, hequal⟩ :=
      exists_castPayload_back (r := e.rendering) (hsound.kind?_eq hcs) hexact hn
    rw [cast_outcome hback hcs rfl (Kind.ne_null p) hk, hcast]
    exact ⟨_, rfl, rfl, (equal_payloads _ hcs' _ _).trans hequal⟩

/-- A valid boolean or number is refused as a truncation if it is no integer, and as out of
range if it is one beyond the bounds; otherwise it becomes an integer of exactly its value,
which can be cast back, to a scalar equal to the first. -/
theorem integerCast_exact (hreachable : e.registry.Reachable) (hvalid : s.isValid = true)
    (hnumber : s.kind = .boolean ∨ s.kind.isNumeric = true)
    (ht : DataType.resolve e.rendering t = .ok (.concrete (.integer i)))
    (hc : e.registry.find? (some (.integer i)) = some c) {back : Value}
    (hback : DataType.resolve e.rendering back = .ok s.dataType) {cs : ScalarClass}
    (hcs : e.registry.find? (some s.kind) = some cs) (number number' : ℕ) :
    let result := (Scalar.cast ⟨number, s⟩ t).outcome e
    ((∃ err, result.1 = .error err ∧ err.errorClass = .scalarCast) ↔
      ∀ n : ℤ, s.exactValue? ≠ some (n : ℚ)) ∧
    ((∃ err, result.1 = .error err ∧ err.errorClass = .scalarRange) ↔
      ∃ n : ℤ, s.exactValue? = some (n : ℚ) ∧ ¬(i.min ≤ n ∧ n ≤ i.max)) ∧
    ∀ n : ℤ, s.exactValue? = some (n : ℚ) → i.min ≤ n ∧ n ≤ i.max →
      ∃ made, result.1 = .ok made ∧ made.scalar.kind = .integer i ∧
        made.scalar.exactValue? = some (n : ℚ) ∧
        ∃ again, ((Scalar.cast ⟨number', made.scalar⟩ back).outcome result.2).1 = .ok again ∧
          again.scalar.kind = s.kind ∧ again.scalar.equal s = true := by
  intro result
  obtain ⟨x, log, hresult, hwhole⟩ := wholeCast_cast hreachable.sound hvalid hnumber ht hc number
  replace hresult : result = (x, { e with log := log }) := hresult
  rw [hresult]
  refine ⟨hwhole.scalarCast_iff, hwhole.scalarRange_iff, fun n hv hn => ?_⟩
  obtain ⟨made, d, hd, hmade, hscalar⟩ := hwhole.exists_made hv hn
  refine ⟨made, hmade, ?_⟩
  rw [hscalar]
  exact ⟨rfl, rfl, cast_back (e := { e with log := log }) hreachable.sound hback hcs hv hn hd number'⟩

/-- The power of two just beyond the signed integers of 64 bits, as a number of 32 bits. It
is an integer of 64 bits without a sign, and comes back from there. -/
theorem integerCast_exact_edge :
    let single : Kind := .floating .single
    let s : Scalar := ⟨.concrete single, single, rfl, some (.signed false ⟨0x5F000000, by decide⟩)⟩
    (∃ err, ((Scalar.cast ⟨0, s⟩ (.text "int64")).outcome .initial).1 = .error err ∧
      err.errorClass = .scalarRange) ∧
    ∃ made, ((Scalar.cast ⟨0, s⟩ (.text "uint64")).outcome .initial).1 = .ok made ∧
      made.scalar.exactValue? = some ((2 ^ 63 : ℤ) : ℚ) ∧
      ∃ again e', ((Scalar.cast ⟨1, made.scalar⟩ (.text "float")).outcome e').1 = .ok again ∧
        again.scalar.equal s = true := by
  intro single s
  let int64 : Kind := .integer ⟨true, .w64⟩
  let uint64 : Kind := .integer ⟨false, .w64⟩
  have hvalue : s.exactValue? = some ((2 ^ 63 : ℤ) : ℚ) := by
    refine (Kind.exactValue?_floating (k := .single) (x := .signed false ⟨0x5F000000, by decide⟩)).2 ?_
    decide +kernel
  have hresolve (k : Kind) (r : Rendering) : DataType.resolve r (.text k.name) = .ok (.concrete k) :=
    DataType.resolve_name r k
  have hsigned := integerCast_exact (s := s) (e := .initial) .builtIn rfl (.inr rfl)
    (hresolve int64 _) rfl (hresolve single _) rfl 0 1
  have hunsigned := integerCast_exact (s := s) (e := .initial) .builtIn rfl (.inr rfl)
    (hresolve uint64 _) rfl (hresolve single _) rfl 0 1
  refine ⟨hsigned.2.1.2 ⟨2 ^ 63, hvalue, by decide⟩, ?_⟩
  obtain ⟨made, hmade, -, hexact, again, hagain, -, hequal⟩ := hunsigned.2.2 _ hvalue (by decide)
  exact ⟨made, hmade, hexact, again, _, hagain, hequal⟩

end Scalar

end TypedScalar
