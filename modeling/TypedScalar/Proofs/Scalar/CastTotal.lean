import TypedScalar.Proofs.Scalar.Recast
import TypedScalar.Proofs.Scalar.Utf8

/-! What a cast of a scalar that is no string can come to, with the classes that are built in. It
gives a scalar of the kind, a null only of a null or for the null kind, and only once; or it fails,
by the kinds alone if one of them is of bytes and the other of booleans or numbers, and otherwise
by the value. -/

namespace TypedScalar

open Text.Utf8 (WellFormed)

/-- Kinds between which no value is cast: bytes are no boolean and no number. -/
def Kind.Unrelated (m k : Kind) : Prop :=
  (m = .boolean ∨ m.isNumeric = true) ∧ k = .binary ∨ m = .binary ∧ (k = .boolean ∨ k.isNumeric = true)

theorem Kind.not_unrelated {m k : Kind} (hm : m ≠ .binary) (hk : k ≠ .binary) : ¬ m.Unrelated k := by
  simp [Unrelated, hm, hk]

theorem Kind.not_unrelated_string {m : Kind} : ¬ m.Unrelated .string := by
  simp [Unrelated, isNumeric, isInteger, isFloating]

theorem Kind.Unrelated.ne {m k : Kind} (h : m.Unrelated k) : m ≠ k ∧ k ≠ .null := by
  obtain ⟨hm, rfl⟩ | ⟨rfl, hk⟩ := h
  · refine ⟨?_, by simp⟩
    rintro rfl
    simp [isNumeric, isInteger, isFloating] at hm
  · constructor <;> rintro rfl <;> simp [isNumeric, isInteger, isFloating] at hk

theorem Registry.find?_builtIn (k : Kind) : builtIn.find? (some k) = some (.concrete k) := by
  have hall : ∀ k ∈ Kind.all, builtIn.find? (some k) = some (.concrete k) := by decide
  exact hall k k.mem_all

namespace Scalar

variable {r : Rendering} {c d : ScalarClass} {k m : Kind}

/-! ### Payloads -/

/-- What a class makes of a payload of kind `m`, as a scalar of the other kind `k`. -/
inductive PayloadCast (c : ScalarClass) : (m : Kind) → m.Payload → (k : Kind) → Except Error Scalar → Prop
  | built {m k : Kind} (h : ¬ m.Unrelated k) (p : m.Payload) {s : Scalar} (hcls : s.cls = c)
    (hvalid : s.isValid = true) : PayloadCast c m p k (.ok s)
  | unrelated {m k : Kind} (h : m.Unrelated k) (p : m.Payload) :
    PayloadCast c m p k (.error (.uncastable m k))
  | truncated {m : Kind} {i : IntegerKind} (h : ¬ m.Unrelated (.integer i)) (p : m.Payload) (shown : String) :
    PayloadCast c m p (.integer i) (.error (.truncates shown i))
  | beyondInteger {m : Kind} {i : IntegerKind} (h : ¬ m.Unrelated (.integer i)) (p : m.Payload)
    (fault : RangeFault) : PayloadCast c m p (.integer i) (.error (.range fault))
  | beyondSingle (p : Floating.Double) (fault : RangeFault) :
    PayloadCast c (.floating .double) p (.floating .single) (.error (.range fault))
  | notUtf8 {bytes : List UInt8} (h : ¬ WellFormed bytes) (fault : Text.Utf8.Fault) :
    PayloadCast c .binary bytes .string (.error (.notUtf8 fault))

theorem payloadCast_make {p : m.Payload} {v : Value} (hm : m ≠ .binary) (hk : k ≠ .binary)
    (hv : v.isNone = false) {s : Scalar} (h : make r c v = .ok s) : PayloadCast c m p k (make r c v) := by
  rw [h]
  exact .built (Kind.not_unrelated hm hk) p (cls_of_make h) (isValid_of_make hv h)

theorem payloadCast_boolean (hc : c.kind? = some .boolean) (hm : m ≠ .string) (hother : m ≠ .boolean)
    (p : m.Payload) : PayloadCast c m p .boolean (castPayload r c m p) := by
  cases m with
  | null => exact Empty.elim p
  | boolean => exact absurd rfl hother
  | string => exact absurd rfl hm
  | integer j | floating g =>
    simp only [castPayload, convert, hc, Kind.wholeNumber?, Kind.realNumber?]
    exact payloadCast_make (by simp) (by simp) rfl (make_boolean hc _)
  | binary =>
    simp only [castPayload, convert, hc, Kind.wholeNumber?, Kind.realNumber?]
    exact .unrelated (.inr ⟨rfl, .inl rfl⟩) p

theorem payloadCast_integer {i : IntegerKind} (hc : c.kind? = some (.integer i)) (hm : m ≠ .string)
    (p : m.Payload) : PayloadCast c m p (.integer i) (castPayload r c m p) := by
  by_cases hbinary : m = .binary
  · subst hbinary
    simp only [castPayload, convert, hc, Kind.wholeNumber?, Kind.realNumber?]
    exact .unrelated (.inr ⟨rfl, .inr rfl⟩) p
  have hrelated : ¬ m.Unrelated (.integer i) := Kind.not_unrelated hbinary (by simp)
  by_cases h : ∃ n : ℤ, m.exactValue? p = some (n : ℚ)
  · obtain ⟨n, hn⟩ := h
    rw [castPayload_of_exactValue? hc hn]
    by_cases hbounds : i.min ≤ n ∧ n ≤ i.max
    · exact payloadCast_make hbinary (by simp) rfl (make_integer hc hbounds)
    · rw [make_integer_range hc hbounds (integerText_of_lt (Kind.natAbs_lt_of_exactValue? hn))]
      exact .beyondInteger hrelated p _
  · rw [not_exists] at h
    have hnumber : m = .boolean ∨ m.isNumeric = true := by
      cases m with
      | null => exact Empty.elim p
      | string => exact absurd rfl hm
      | binary => exact absurd rfl hbinary
      | boolean => exact .inl rfl
      | integer j | floating g => exact .inr rfl
    obtain ⟨shown, herror⟩ := castPayload_truncates (r := r) hc hnumber h
    rw [herror]
    exact .truncated hrelated p shown

/-- The integers of all kinds are within the range of the floating kinds. -/
theorem make_real_ofInt {f : FloatingKind} (hc : c.kind? = some (.floating f)) {n : ℤ}
    (hn : n.natAbs ≤ 2 ^ 64) :
    make r c (.real (.ofInt .double n)) =
      .ok ⟨c, .floating f, hc, some (f.ofDouble (.ofInt .double n))⟩ := by
  have hfinite : (f.ofDouble (.ofInt .double n)).isFinite = true := by
    cases f with
    | single => exact Floating.Number.isFinite_convert_ofInt hn (by decide) (by decide)
    | double => exact Floating.Number.isFinite_ofInt hn (by decide)
  simp only [Floating.Number.isFinite, Bool.and_eq_true, Bool.not_eq_true'] at hfinite
  rw [make_real hc, hfinite.2, Bool.and_false]
  rfl

theorem payloadCast_floating {f : FloatingKind} (hc : c.kind? = some (.floating f)) (hm : m ≠ .string)
    (hother : m ≠ .floating f) (p : m.Payload) : PayloadCast c m p (.floating f) (castPayload r c m p) := by
  cases m with
  | null => exact Empty.elim p
  | string => exact absurd rfl hm
  | boolean =>
    have hbit : (if p then 1 else 0 : ℤ).natAbs ≤ 2 ^ 64 := by
      cases (p : Bool) <;> simp
    simp only [castPayload, convert, hc, Kind.wholeNumber?]
    exact payloadCast_make (by simp) (by simp) rfl (make_real_ofInt hc hbit)
  | integer j =>
    rw [castPayload_ofInt hc]
    exact payloadCast_make (by simp) (by simp) rfl (make_real_ofInt hc (j.natAbs_lt p.property).le)
  | floating g =>
    rw [castPayload_toDouble hc]
    cases f with
    | double => exact payloadCast_make (by simp) (by simp) rfl (make_toDouble hc (g.toDouble p))
    | single =>
      cases g with
      | single => exact absurd rfl hother
      | double =>
        rw [make_real hc]
        split_ifs
        · exact .beyondSingle p _
        · exact .built (Kind.not_unrelated (by simp) (by simp)) _ rfl rfl
  | binary =>
    simp only [castPayload, convert, hc, Kind.wholeNumber?, Kind.realNumber?]
    exact .unrelated (.inr ⟨rfl, .inr rfl⟩) p

/-- Every kind has a text but for bytes, of which some are none. -/
theorem payloadCast_string (hc : c.kind? = some .string) (hm : m ≠ .string) (p : m.Payload) :
    PayloadCast c m p .string (castPayload r c m p) := by
  by_cases hbinary : m = .binary
  · subst hbinary
    have hcast := bytesCast_castPayload (r := r) hc p
    generalize castPayload r c .binary p = x at hcast ⊢
    cases hcast with
    | text h => exact .built Kind.not_unrelated_string _ rfl rfl
    | refused h fault => exact .notUtf8 h fault
  · rw [castPayload_string hc hm hbinary]
    exact .built Kind.not_unrelated_string p rfl rfl

theorem payloadCast_binary (hc : c.kind? = some .binary) (hm : m ≠ .string) (hother : m ≠ .binary)
    (p : m.Payload) : PayloadCast c m p .binary (castPayload r c m p) := by
  cases m with
  | null => exact Empty.elim p
  | string => exact absurd rfl hm
  | binary => exact absurd rfl hother
  | boolean | integer j | floating g =>
    simp only [castPayload, convert, hc]
    exact .unrelated (.inl ⟨by simp [Kind.isNumeric, Kind.isInteger, Kind.isFloating], rfl⟩) p

theorem payloadCast_castPayload (hc : c.kind? = some k) (hm : m ≠ .string) (hk : k ≠ m) (hnull : k ≠ .null)
    (p : m.Payload) : PayloadCast c m p k (castPayload r c m p) := by
  cases k with
  | null => exact absurd rfl hnull
  | boolean => exact payloadCast_boolean hc hm hk.symm p
  | integer i => exact payloadCast_integer hc hm p
  | floating f => exact payloadCast_floating hc hm hk.symm p
  | string => exact payloadCast_string hc hm p
  | binary => exact payloadCast_binary hc hm hk.symm p

namespace PayloadCast

variable {p : m.Payload} {x : Except Error Scalar} {err : Error}

theorem errorClass (h : PayloadCast c m p k (.error err)) :
    err.errorClass = .scalarCast ∨ err.errorClass = .scalarRange := by
  cases h with
  | unrelated | truncated | notUtf8 => exact .inl rfl
  | beyondInteger | beyondSingle => exact .inr rfl

theorem eq_uncastable (h : PayloadCast c m p k x) (hrelated : m.Unrelated k) :
    x = .error (.uncastable m k) := by
  cases h with
  | unrelated => rfl
  | built hnot | truncated hnot | beyondInteger hnot => exact absurd hrelated hnot
  | beyondSingle => exact absurd hrelated (Kind.not_unrelated (by simp) (by simp))
  | notUtf8 => exact absurd hrelated Kind.not_unrelated_string

theorem unrelated_of_uncastable {a b : Kind} (h : PayloadCast c m p k (.error (.uncastable a b))) :
    m.Unrelated k := by
  cases h with
  | unrelated h => exact h

theorem scalarRange (h : PayloadCast c m p k (.error err)) (herr : err.errorClass = .scalarRange) :
    k.isInteger = true ∨ m = .floating .double ∧ k = .floating .single := by
  cases h with
  | unrelated | truncated | notUtf8 => simp [Error.errorClass] at herr
  | beyondInteger => exact .inl rfl
  | beyondSingle => exact .inr ⟨rfl, rfl⟩

theorem of_ok {s : Scalar} (h : PayloadCast c m p k (.ok s)) : s.cls = c ∧ s.isValid = true := by
  cases h with
  | built _ _ hcls hvalid => exact ⟨hcls, hvalid⟩

/-- Only bytes that are not well formed are no string. -/
theorem exists_bytes (h : PayloadCast c m p .string (.error err)) (hd : d.kind? = some m) :
    ∃ c' hc' bytes, (⟨d, m, hd, some p⟩ : Scalar) = ⟨c', .binary, hc', some bytes⟩ ∧ ¬ WellFormed bytes := by
  cases h with
  | unrelated hrelated => exact absurd hrelated Kind.not_unrelated_string
  | @notUtf8 bytes hbytes => exact ⟨d, hd, bytes, rfl, hbytes⟩

end PayloadCast

/-! ### Casts -/

variable {e : Environment} {h : Held} {t : Value}

/-- The null of a kind is what nulls are cast to, and what everything is cast to null. -/
theorem cast_null_outcome (ht : DataType.resolve e.rendering t = .ok (.concrete k))
    (hfind : e.registry.find? (some k) = some c) (hc : c.kind? = some k)
    (hnull : h.scalar.isValid = false ∨ k = .null) :
    (cast h t).outcome e = (.ok (.fresh (null c k hc)), e) := by
  have hlookup : (Action.ofExcept (e.registry.classFor (.concrete k))).outcome e = (.ok c, e) := by
    rw [Action.outcome_ofExcept, Registry.classFor_eq_ok_iff.2 hfind]
  have hbuild : (build c .none).outcome e = (.ok (null c k hc), e) := by
    rw [build_outcome, make_eq hc]
    rfl
  rw [cast, Registry.resolve_bind_ok ht, Action.outcome_bind_ok Action.outcome_get,
    Action.outcome_bind_ok hlookup]
  cases hp : h.scalar.payload with
  | none =>
    simp only [hp]
    rw [Action.outcome_bind_ok hbuild]
    rfl
  | some p =>
    obtain rfl : k = .null := hnull.resolve_left (by simp [isValid, hp])
    simp only [hp, ↓reduceIte]
    rw [Action.outcome_bind_ok hbuild]
    rfl

/-- What a cast to a kind comes to, where each kind has its own class. -/
inductive Casting (h : Held) (k : Kind) : Except Error Made → Prop
  | null (hnull : h.scalar.isValid = false ∨ k = .null) :
    Casting h k (.ok (.fresh (null (.concrete k) k rfl)))
  | same (hvalid : h.scalar.isValid = true) (hk : h.scalar.kind = k) : Casting h k (.ok (.same h))
  | payload {p : h.scalar.kind.Payload} (hp : h.scalar.payload = some p) (hnull : k ≠ .null)
    {x : Except Error Scalar} (hcast : PayloadCast (.concrete k) h.scalar.kind p k x) :
    Casting h k (x.map .fresh)

theorem casting_cast (hregistry : e.registry = .builtIn)
    (ht : DataType.resolve e.rendering t = .ok (.concrete k)) (hs : h.scalar.kind ≠ .string) :
    ∃ x log, (cast h t).outcome e = (x, { e with log := log }) ∧ Casting h k x := by
  have hfind (k : Kind) : e.registry.find? (some k) = some (.concrete k) := by
    rw [hregistry, Registry.find?_builtIn]
  by_cases hnull : h.scalar.isValid = false ∨ k = .null
  · exact ⟨_, _, cast_null_outcome ht (hfind k) rfl hnull, .null hnull⟩
  rw [not_or, Bool.not_eq_false] at hnull
  by_cases hk : h.scalar.kind = k
  · subst hk
    exact ⟨_, _, cast_same_outcome ht (hfind _) hnull.1, .same hnull.1 rfl⟩
  · obtain ⟨p, hp⟩ := Option.isSome_iff_exists.1 hnull.1
    exact ⟨_, _, cast_outcome ht (hfind k) hp hnull.2 (Ne.symm hk),
      .payload hp hnull.2 (payloadCast_castPayload rfl hs (Ne.symm hk) hnull.2 p)⟩

namespace Casting

variable {x : Except Error Made} {made : Made} {err : Error}

theorem exists_of_error (hcast : Casting h k (.error err)) : ∃ p, h.scalar.payload = some p ∧ k ≠ .null ∧
    PayloadCast (.concrete k) h.scalar.kind p k (.error err) := by
  generalize hx : Except.error err = x at hcast
  cases hcast with
  | null | same => simp at hx
  | @payload p hp hnull y hcast =>
    cases y with
    | ok s => simp [Except.map] at hx
    | error err' =>
      obtain rfl := Except.error.inj hx
      exact ⟨p, hp, hnull, hcast⟩

theorem eq_uncastable (hcast : Casting h k x) (hvalid : h.scalar.isValid = true)
    (hrelated : h.scalar.kind.Unrelated k) : x = .error (.uncastable h.scalar.kind k) := by
  cases hcast with
  | null hnull => exact absurd (hnull.resolve_left (by simp [hvalid])) hrelated.ne.2
  | same _ hk => exact absurd hk hrelated.ne.1
  | payload _ _ hcast =>
    rw [hcast.eq_uncastable hrelated]
    rfl

/-- What is made is a scalar of the kind, and valid unless it is the null of the kind. -/
theorem of_ok (hcast : Casting h k (.ok made)) : made.scalar.kind = k ∧
    (made.scalar.isValid = false ↔ h.scalar.isValid = false ∨ k = .null) ∧
    (made.scalar.isValid = true ∨ made = .fresh (Scalar.null (.concrete k) k rfl)) := by
  generalize hx : Except.ok made = x at hcast
  cases hcast with
  | null hnull =>
    obtain rfl := Except.ok.inj hx
    exact ⟨rfl, iff_of_true rfl hnull, .inr rfl⟩
  | same hvalid hk =>
    obtain rfl := Except.ok.inj hx
    obtain ⟨p, -⟩ := Option.isSome_iff_exists.1 hvalid
    refine ⟨hk, ?_, .inl hvalid⟩
    simp [Made.scalar, hvalid, ← hk, Kind.ne_null p]
  | @payload p hp hnull y hcast =>
    cases y with
    | error err => simp [Except.map] at hx
    | ok s =>
      obtain rfl := Except.ok.inj hx
      obtain ⟨hcls, hvalid⟩ := hcast.of_ok
      have hkind : s.kind = k := by rw [← Option.some.injEq, ← s.kind_eq, hcls, ScalarClass.kind?]
      have hsource : h.scalar.isValid = true := by rw [isValid, hp]; rfl
      refine ⟨hkind, ?_, .inl hvalid⟩
      simp [Made.scalar, hvalid, hnull, hsource]

end Casting

/-- With the classes that are built in, a cast of a scalar that is no string either gives a scalar
of the kind, which is null exactly if the first one was or the kind is that of nulls, and which is
cast to itself; or it is refused, by an error of one of two classes. Nulls are never refused, nor is
anything refused by the null kind. Between unrelated kinds every value is refused as such, and
between others none. Of all values only bytes that are not well formed have no string, and only an
integer kind, or fewer bits for a double, can put a value out of range. -/
theorem cast_total (hregistry : e.registry = .builtIn)
    (ht : DataType.resolve e.rendering t = .ok (.concrete k)) {s : Scalar} (hs : s.kind ≠ .string)
    (i j : ℕ) :
    let result := (cast ⟨i, s⟩ t).outcome e
    (∀ made, result.1 = .ok made →
      made.scalar.dataType = .concrete k ∧
      (made.scalar.isValid = false ↔ s.isValid = false ∨ k = .null) ∧
      ∃ again, ((cast (made.held j) t).outcome result.2).1 = .ok again ∧ again.scalar = made.scalar ∧
        (made.scalar.isValid = true → again = .same (made.held j))) ∧
    (∀ err, result.1 = .error err → err.errorClass = .scalarCast ∨ err.errorClass = .scalarRange) ∧
    (s.isValid = false ∨ k = .null → ∃ made, result.1 = .ok made) ∧
    (s.isValid = true → s.kind.Unrelated k → result.1 = .error (.uncastable s.kind k)) ∧
    (∀ a b, result.1 = .error (.uncastable a b) → s.isValid = true ∧ s.kind.Unrelated k) ∧
    (∀ err, result.1 = .error err → k = .string →
      ∃ c hc bytes, s = ⟨c, .binary, hc, some bytes⟩ ∧ ¬ WellFormed bytes) ∧
    ∀ err, result.1 = .error err → err.errorClass = .scalarRange →
      k.isInteger = true ∨ s.kind = .floating .double ∧ k = .floating .single := by
  intro result
  obtain ⟨x, log, hresult, hcast⟩ := casting_cast (h := ⟨i, s⟩) hregistry ht hs
  replace hresult : result = (x, { e with log := log }) := hresult
  rw [hresult]
  refine ⟨?_, ?_, ?_, hcast.eq_uncastable, ?_, ?_, ?_⟩
  · rintro made rfl
    obtain ⟨hkind, hvalid, hmade⟩ := hcast.of_ok
    have hfind : e.registry.find? (some k) = some (.concrete k) := by
      rw [hregistry, Registry.find?_builtIn]
    refine ⟨congrArg DataType.concrete hkind, hvalid, ?_⟩
    obtain hvalid | rfl := hmade
    · have hagain := cast_same_outcome (e := { e with log := log }) (h := made.held j) (t := t)
        (by rw [Made.scalar_held, dataType, hkind]; exact ht) (by rw [Made.scalar_held, hkind]; exact hfind)
        (by rwa [Made.scalar_held])
      exact ⟨_, congrArg Prod.fst hagain, made.scalar_held j, fun _ => rfl⟩
    · have hagain := cast_null_outcome (e := { e with log := log })
        (h := Made.held j (.fresh (null (.concrete k) k rfl))) ht hfind rfl (.inl rfl)
      exact ⟨_, congrArg Prod.fst hagain, rfl, fun hvalid => absurd hvalid Bool.false_ne_true⟩
  · rintro err rfl
    obtain ⟨p, -, -, hpayload⟩ := hcast.exists_of_error
    exact hpayload.errorClass
  · intro hnull
    cases x with
    | ok made => exact ⟨made, rfl⟩
    | error err =>
      obtain ⟨p, hp, hk, -⟩ := hcast.exists_of_error
      have hvalid : s.isValid = true := by rw [isValid, hp]; rfl
      exact absurd hnull (by simp [hvalid, hk])
  · rintro a b rfl
    obtain ⟨p, hp, -, hpayload⟩ := hcast.exists_of_error
    exact ⟨by rw [isValid, hp]; rfl, hpayload.unrelated_of_uncastable⟩
  · rintro err rfl rfl
    obtain ⟨c, m, hc, y⟩ := s
    obtain ⟨(p : m.Payload), hp, -, hpayload⟩ := hcast.exists_of_error
    obtain rfl : y = some p := hp
    exact hpayload.exists_bytes hc
  · rintro err rfl
    obtain ⟨p, -, -, hpayload⟩ := hcast.exists_of_error
    exact hpayload.scalarRange

/-- Bytes are no integer, even if they are those of a digit; but their null is cast to one. -/
theorem cast_total_binary :
    let int8 : Kind := .integer ⟨true, .w8⟩
    let binary (x : Option (List UInt8)) : Held := ⟨0, .concrete .binary, .binary, rfl, x⟩
    let result (x : Option (List UInt8)) := ((cast (binary x) (.text "int8")).outcome .initial).1
    result (some [0x31]) = .error (.uncastable .binary int8) ∧ ∃ made, result none = .ok made := by
  intro int8 binary result
  have ht : DataType.resolve Environment.initial.rendering (.text "int8") = .ok (.concrete int8) :=
    DataType.resolve_name _ int8
  obtain ⟨-, -, -, hrefused, -⟩ := cast_total (e := .initial) rfl ht (s := (binary (some [0x31])).scalar)
    Kind.noConfusion 0 1
  obtain ⟨-, -, hnull, -⟩ := cast_total (e := .initial) rfl ht (s := (binary none).scalar)
    Kind.noConfusion 0 1
  exact ⟨hrefused rfl (.inr ⟨rfl, .inr rfl⟩), hnull (.inl rfl)⟩

end Scalar

end TypedScalar
