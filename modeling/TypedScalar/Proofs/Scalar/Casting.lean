import Mathlib.Data.Nat.Notation
import TypedScalar.Proofs.Registry
import TypedScalar.Proofs.Scalar.Reading
import TypedScalar.Scalar.Factory

/-! What casts come to. A valid scalar is cast to another kind by the class that
is registered for it, which is recorded and changes nothing else; and to string
and back, it goes through its text. -/

namespace TypedScalar

theorem Kind.ne_null {k : Kind} (p : k.Payload) : k ≠ .null := by
  rintro rfl
  exact Empty.elim p

/-- What was made, as somebody holds it; a scalar that is new takes the number. -/
def Made.held (number : ℕ) : Made → Held
  | .same h => h
  | .fresh s => ⟨number, s⟩

@[simp] theorem Made.scalar_held (number : ℕ) (m : Made) : (m.held number).scalar = m.scalar := by
  cases m <;> rfl

namespace Scalar

variable {e : Environment} {c : ScalarClass} {k : Kind}

/-! ### Payloads -/

/-- What a class converts to, it builds, and from nothing only if it is a null class. -/
theorem exists_make_of_convert {r : Rendering} {p : k.Payload} {s : Scalar} (h : convert r c k p = .ok s) :
    ∃ v : Value, (c.kind? ≠ some .null → v.isNone = false) ∧ make r c v = .ok s := by
  unfold convert at h
  split at h
  · simp at h
  · next hc => exact ⟨_, fun hne => absurd hc hne, h⟩
  · -- to boolean
    split at h
    · simp at h
    · exact ⟨_, fun _ => rfl, h⟩
    · exact ⟨_, fun _ => rfl, h⟩
    · simp at h
  · -- to an integer kind
    split at h
    · exact ⟨_, fun _ => rfl, h⟩
    · split at h
      · exact ⟨_, fun _ => rfl, h⟩
      · simp at h
    · simp at h
  · -- to a floating kind
    split at h
    · exact ⟨_, fun _ => rfl, h⟩
    · exact ⟨_, fun _ => rfl, h⟩
    · simp at h
  · -- to string
    split at h
    · split at h
      · exact ⟨_, fun _ => rfl, h⟩
      · simp at h
    · exact ⟨_, fun _ => rfl, h⟩
  · -- to binary
    split at h
    · exact ⟨_, fun _ => rfl, h⟩
    · simp at h

theorem exists_make_of_castPayload {r : Rendering} {p : k.Payload} {s : Scalar}
    (h : castPayload r c k p = .ok s) :
    ∃ v : Value, (c.kind? ≠ some .null → v.isNone = false) ∧ make r c v = .ok s := by
  unfold castPayload at h
  split at h
  · split_ifs at h
    · exact exists_make_of_convert h
    · obtain ⟨v, hv, hmake⟩ := exists_make_of_parseValid h
      exact ⟨v, fun _ => hv, hmake⟩
  · exact exists_make_of_convert h

/-- An integer goes to the floating kinds by way of the double that it is rounded to. -/
theorem castPayload_ofInt {r : Rendering} {f : FloatingKind} (hc : c.kind? = some (.floating f))
    {i : IntegerKind} (n : i.Value) :
    castPayload r c (.integer i) n = make r c (.real (.ofInt .double n.val)) := by
  simp only [castPayload, convert, hc, Kind.wholeNumber?]

/-- Numbers of floating kinds go from one to the other by way of doubles. -/
theorem castPayload_toDouble {r : Rendering} {f g : FloatingKind} (hc : c.kind? = some (.floating f))
    (x : Floating.Number g.format) :
    castPayload r c (.floating g) x = make r c (.real (g.toDouble x)) := by
  simp only [castPayload, convert, hc, Kind.wholeNumber?, Kind.realNumber?]

/-! ### Actions -/

theorem build_outcome (c : ScalarClass) (v : Value) (e : Environment) :
    (build c v).outcome e = (make e.rendering c v, e) := by
  rw [build, Action.outcome_bind_ok Action.outcome_rendering, Action.outcome_ofExcept]

theorem parseAs_outcome (h : c.kind? = some k) (text : String) :
    (parseAs c (.text text) none).outcome e = (parse e.rendering c (.ofString text), e) := by
  have hc : c ≠ .abstract .any := by
    rintro rfl
    exact absurd h (by simp [ScalarClass.kind?])
  rw [parseAs]
  simp only [if_neg hc]
  rfl

/-- Outside text and bytes, a text that is not the null token is read as a value. -/
theorem parseAs_outcome_valid (h : c.kind? = some k) (hstring : k ≠ .string) (hbinary : k ≠ .binary)
    {text : String} (htoken : text ≠ e.rendering.nullToken) :
    (parseAs c (.text text) none).outcome e = (parseValid e.rendering c (.ofString text), e) := by
  rw [parseAs_outcome h, parse_eq_parseValid h hstring hbinary htoken]

/-- Parsing for a type reads by the class that is registered for it. -/
theorem parseAs_type_outcome {t : Value} (ht : DataType.resolve e.rendering t = .ok (.concrete k))
    (hc : e.registry.find? (some k) = some c) (caller : ScalarClass) (text : String) :
    (parseAs caller (.text text) (some t)).outcome e = (parse e.rendering c (.ofString text), e) := by
  rw [parseAs, Action.outcome_bind_ok (Registry.lookup_outcome ht hc)]
  rfl

/-- The record of a cast. -/
def castRecord (e : Environment) (s : Scalar) (k : Kind) : Record :=
  ⟨.debug, logger, "Casting " ++ s.shown e.rendering ++ " to " ++ k.name⟩

theorem cast_outcome {h : Held} {t : Value} {p : h.scalar.kind.Payload}
    (ht : DataType.resolve e.rendering t = .ok (.concrete k)) (hc : e.registry.find? (some k) = some c)
    (hp : h.scalar.payload = some p) (hnull : k ≠ .null) (hk : k ≠ h.scalar.kind) :
    (cast h t).outcome e =
      ((castPayload e.rendering c h.scalar.kind p).map .fresh,
        { e with log := e.log ++ [castRecord e h.scalar k] }) := by
  have hclass : e.registry.classFor (.concrete k) = .ok c := Registry.classFor_eq_ok_iff.2 hc
  have hsame : (DataType.concrete k).same h.scalar.dataType = false := by
    simpa [DataType.same, dataType, DataType.kind?] using hk
  have hlookup : (Action.ofExcept (e.registry.classFor (.concrete k))).outcome e = (.ok c, e) := by
    rw [Action.outcome_ofExcept, hclass]
  have hname : (Action.ofExcept (DataType.concrete k).name).outcome e = (.ok k.name, e) := rfl
  have hconcrete : DataType.concrete k ≠ .concrete .null := by simpa using hnull
  rw [cast, Registry.resolve_bind_ok ht, Action.outcome_bind_ok Action.outcome_get,
    Action.outcome_bind_ok hlookup]
  simp only [hp, if_neg hconcrete, hsame, Bool.false_eq_true, ↓reduceIte]
  rw [Action.outcome_bind_ok hname, Action.outcome_bind_ok (Action.outcome_record _ _ _)]
  cases hcast : castPayload e.rendering c h.scalar.kind p with
  | ok s => rfl
  | error err => rfl

/-- A valid scalar of the type already is its own cast. -/
theorem cast_same_outcome {h : Held} {t : Value} (ht : DataType.resolve e.rendering t = .ok h.scalar.dataType)
    (hc : e.registry.find? (some h.scalar.kind) = some c) (hvalid : h.scalar.isValid = true) :
    (cast h t).outcome e = (.ok (.same h), e) := by
  obtain ⟨p, hp⟩ := Option.isSome_iff_exists.1 hvalid
  have hlookup : (Action.ofExcept (e.registry.classFor h.scalar.dataType)).outcome e = (.ok c, e) := by
    rw [Action.outcome_ofExcept, Registry.classFor_eq_ok_iff.2 hc]
  have hconcrete : h.scalar.dataType ≠ .concrete .null := by
    simpa [dataType] using Kind.ne_null p
  have hsame : h.scalar.dataType.same h.scalar.dataType = true := beq_self_eq_true _
  rw [cast, Registry.resolve_bind_ok ht, Action.outcome_bind_ok Action.outcome_get,
    Action.outcome_bind_ok hlookup]
  simp only [hp, if_neg hconcrete, hsame, ↓reduceIte]
  rfl

/-- What a class makes of a scalar of another kind. -/
def recast (r : Rendering) (c : ScalarClass) (s : Scalar) : Except Error Scalar :=
  match s.payload with
  | none => make r c .none
  | some p => castPayload r c s.kind p

/-- What a cast to a kind other than null comes to. -/
def castMade (e : Environment) (h : Held) (k : Kind) : Except Error Made :=
  (e.registry.classFor (.concrete k)).bind fun c =>
    if h.scalar.isValid = true ∧ k = h.scalar.kind then .ok (.same h)
    else (recast e.rendering c h.scalar).map .fresh

/-- A cast leaves no trace but its record. -/
theorem exists_cast_outcome (h : Held) {t : Value} (ht : DataType.resolve e.rendering t = .ok (.concrete k))
    (hnull : k ≠ .null) : ∃ log, (cast h t).outcome e = (castMade e h k, { e with log := log }) := by
  have hlookup := Action.outcome_ofExcept (e := e) (e.registry.classFor (.concrete k))
  cases hclass : e.registry.classFor (.concrete k) with
  | error err =>
    rw [hclass] at hlookup
    refine ⟨e.log, ?_⟩
    rw [cast, Registry.resolve_bind_ok ht, Action.outcome_bind_ok Action.outcome_get, hclass,
      Action.outcome_bind_error hlookup, castMade, hclass]
    rfl
  | ok c =>
    have hc : e.registry.find? (some k) = some c := Registry.classFor_eq_ok_iff.1 hclass
    simp only [castMade, hclass, Except.bind]
    cases hp : h.scalar.payload with
    | none =>
      rw [hclass] at hlookup
      refine ⟨e.log, ?_⟩
      rw [cast, Registry.resolve_bind_ok ht, Action.outcome_bind_ok Action.outcome_get, hclass,
        Action.outcome_bind_ok hlookup]
      simp only [hp, recast, isValid, build, bind_assoc]
      rw [Action.outcome_bind_ok Action.outcome_rendering]
      cases make e.rendering c .none <;> rfl
    | some p =>
      have hvalid : h.scalar.isValid = true := by simp [isValid, hp]
      simp only [hvalid, true_and]
      split_ifs with hk
      · subst hk
        exact ⟨e.log, cast_same_outcome ht hc hvalid⟩
      · simp only [recast, hp]
        exact ⟨_, cast_outcome ht hc hp hnull hk⟩

/-- A cast to string, and from there to the type of a name. The number is that of
the string. -/
def castThroughText (h : Held) (number : ℕ) (name : String) : Action Made := do
  let text ← cast h (.text Kind.string.name)
  cast ⟨number, text.scalar⟩ (.text name)

theorem castPayload_string {r : Rendering} (h : c.kind? = some .string) (hstring : k ≠ .string)
    (hbinary : k ≠ .binary)
    (p : k.Payload) : castPayload r c k p = .ok ⟨c, .string, h, some (k.payloadText r p)⟩ := by
  rw [← make_text (r := r) h]
  cases k with
  | null => exact Empty.elim p
  | string => exact absurd rfl hstring
  | binary => exact absurd rfl hbinary
  | _ => simp only [castPayload, convert, h]

/-- Through string, a scalar comes back as its text is read. -/
theorem castThroughText_outcome {h : Held} {cs : ScalarClass} (hvalid : h.scalar.isValid = true)
    (hstring : h.scalar.kind ≠ .string) (hbinary : h.scalar.kind ≠ .binary) (hsound : e.registry.Sound)
    (hcs : e.registry.find? (some .string) = some cs) (hc : e.registry.find? (some h.scalar.kind) = some c)
    (number : ℕ) :
    ((castThroughText h number h.scalar.kind.name).outcome e).1 =
      (parseValid e.rendering c (.ofString (h.scalar.text e.rendering))).map .fresh := by
  obtain ⟨p, hp⟩ := Option.isSome_iff_exists.1 hvalid
  have htext : h.scalar.text e.rendering = h.scalar.kind.payloadText e.rendering p := by
    rw [text, hp]
  have hclass : c.kind? ≠ some .binary := by
    rw [hsound.kind?_eq hc]
    simpa using hbinary
  have hfirst := cast_outcome (DataType.resolve_name e.rendering .string) hcs hp (by decide) hstring.symm
  rw [castPayload_string (hsound.kind?_eq hcs) hstring hbinary, ← htext] at hfirst
  have hsecond := cast_outcome (e := { e with log := e.log ++ [castRecord e h.scalar .string] })
    (h := ⟨number, ⟨cs, .string, hsound.kind?_eq hcs, some (h.scalar.text e.rendering)⟩⟩)
    (DataType.resolve_name _ h.scalar.kind) hc rfl (Kind.ne_null p) hstring
  have hparse : castPayload e.rendering c .string (h.scalar.text e.rendering) =
      parseValid e.rendering c (.ofString (h.scalar.text e.rendering)) := by
    simp only [castPayload, if_neg hclass]
  rw [← hparse, castThroughText, Action.outcome_bind_ok hfirst]
  exact congrArg Prod.fst hsecond

/-- Where the classes of a kind read the text of one payload as another, so do
parsing and a cast through string. -/
theorem rereading_outcome {p p' : k.Payload} (hstring : k ≠ .string) (hbinary : k ≠ .binary)
    (hne : k.payloadText e.rendering p ≠ e.rendering.nullToken)
    (hread : ∀ (c : ScalarClass) (hc : c.kind? = some k),
      parseValid e.rendering c (.ofString (k.payloadText e.rendering p)) = .ok ⟨c, k, hc, some p'⟩)
    (hsound : e.registry.Sound) {cs ck : ScalarClass} (hcs : e.registry.find? (some .string) = some cs)
    (hck : e.registry.find? (some k) = some ck) (hc : c.kind? = some k) (i j : ℕ) :
    let s : Scalar := ⟨c, k, hc, some p⟩
    (parseAs c (.text (s.text e.rendering)) none).outcome e = (.ok ⟨c, k, hc, some p'⟩, e) ∧
      ((castThroughText ⟨i, s⟩ j k.name).outcome e).1 =
        .ok (.fresh ⟨ck, k, hsound.kind?_eq hck, some p'⟩) := by
  intro s
  have htext : s.text e.rendering = k.payloadText e.rendering p := rfl
  constructor
  · rw [htext, parseAs_outcome_valid hc hstring hbinary hne, hread c hc]
  · have hcast := castThroughText_outcome (h := ⟨i, s⟩) rfl hstring hbinary hsound hcs hck j
    rw [hcast, htext, hread ck (hsound.kind?_eq hck)]
    rfl

end Scalar

end TypedScalar
