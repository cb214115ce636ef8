import TypedScalar.Proofs.NullToken
import TypedScalar.Proofs.Scalar.Exact
import TypedScalar.Proofs.Scalar.TextCast
import TypedScalar.Proofs.Text.Canonical

/-! Texts of nulls, booleans and integers. What is written is read back, as the null
token is no text of a value; and integers are written as their canonical texts and
in no other way. -/

namespace TypedScalar.Scalar

open Text

variable {r : Rendering} {c : ScalarClass} {i : IntegerKind} {n : ℤ}

theorem readInteger?_toString (h : n.natAbs < 2 ^ 64) : readInteger? (toString n).toList = some (.ok n) := by
  have hlimit : (2 : ℕ) ^ 64 < 10 ^ 20 := by norm_num
  have hlength : ¬digitLimit < (Floating.decimalDigits n.natAbs).length := by
    have hle := Floating.length_decimalDigits_le (by norm_num) (h.trans hlimit)
    rw [digitLimit]
    omega
  rw [readInteger?, integerDigits?_toString]
  simp [hlength, withSign_natAbs]

theorem parseValid_toString (hc : c.kind? = some (.integer i)) (hn : i.min ≤ n ∧ n ≤ i.max) :
    parseValid r c (.ofString (toString n)) = .ok ⟨c, .integer i, hc, some ⟨n, hn⟩⟩ := by
  have hread : readInteger? (Source.ofString (toString n)).text.toList = some (.ok n) :=
    readInteger?_toString (i.natAbs_lt hn)
  rw [parseValid, hc]
  simp only [hread]
  rw [make_integer hc hn]
  rfl

theorem parseValid_boolean (hc : c.kind? = some .boolean) (b : Bool) :
    parseValid r c (.ofString (Kind.payloadText r .boolean b)) = .ok ⟨c, .boolean, hc, some b⟩ := by
  have hword : readBoolean? (if b then "true" else "false").toList = some b := by
    cases b <;> decide +kernel
  have hread : readBoolean? (Source.ofString (Kind.payloadText r .boolean b)).text.toList = some b := hword
  rw [parseValid, hc]
  simp only [hread]
  rw [make_boolean hc]

/-- The scalars that are written without loss: nulls, booleans and integers, and the
nulls of floating kinds. -/
def IsWhole (s : Scalar) : Prop :=
  match s.kind with
  | .null | .boolean | .integer _ => True
  | .floating _ => s.isValid = false
  | .string | .binary => False

/-- Every class of the kind reads the text of a scalar as that scalar. -/
theorem parse_text {config : Config} (hconfig : config.Accepted) {s : Scalar} (hs : s.IsWhole)
    (hc : c.kind? = some s.kind) :
    parse config.rendering c (.ofString (s.text config.rendering)) = .ok ⟨c, s.kind, hc, s.payload⟩ := by
  obtain ⟨d, k, hd, payload⟩ := s
  have hstring : k ≠ .string := by
    rintro rfl
    exact hs
  have hbinary : k ≠ .binary := by
    rintro rfl
    exact hs
  cases payload with
  | none => exact parse_nullToken hc hstring hbinary
  | some p =>
    have hne : k.payloadText config.rendering p ≠ config.rendering.nullToken :=
      payloadText_ne_nullToken hconfig hstring p
    let source := Source.ofString (k.payloadText config.rendering p)
    refine (parse_eq_parseValid (t := source) hc hstring hbinary hne).trans ?_
    cases k with
    | null => exact Empty.elim p
    | boolean => exact parseValid_boolean hc p
    | integer i => exact parseValid_toString hc p.property
    | floating f => exact absurd hs (by simp [IsWhole, isValid])
    | string | binary => exact absurd hs id

/-- Nulls, booleans and integers are read back from their texts, by their own classes
and for their types. Every canonical text of an integer within the bounds is read, and
written again as it was; so an integer is written as the one canonical text that
stands for it. -/
theorem wholeText_roundTrip {e : Environment} (hconfig : e.config.Accepted)
    (hreachable : e.registry.Reachable) :
    (∀ s : Scalar, s.IsWhole →
      (parseAs s.cls (.text (s.text e.rendering)) none).outcome e = (.ok s, e) ∧
      ∀ (t : Value) (c caller : ScalarClass), DataType.resolve e.rendering t = .ok s.dataType →
        e.registry.find? (some s.kind) = some c → ∃ hc : c.kind? = some s.kind,
          (parseAs caller (.text (s.text e.rendering)) (some t)).outcome e =
            (.ok ⟨c, s.kind, hc, s.payload⟩, e)) ∧
    (∀ (c : ScalarClass) (i : IntegerKind), c.kind? = some (.integer i) → ∀ (text : String) (n : ℤ),
      Canonical text.toList n → i.min ≤ n ∧ n ≤ i.max →
        ∃ s, (parseAs c (.text text) none).outcome e = (.ok s, e) ∧ s.exactValue? = some (n : ℚ) ∧
          s.text e.rendering = text) ∧
    ∀ (c : ScalarClass) (i : IntegerKind) (hc : c.kind? = some (.integer i)) (n : i.Value) (text : String),
      text = Scalar.text e.rendering ⟨c, .integer i, hc, some n⟩ ↔ Canonical text.toList n.val := by
  have hcanonical (s : String) (n : ℤ) : Canonical s.toList n ↔ s = toString n :=
    canonical_iff.trans String.toList_inj
  refine ⟨fun s hs => ⟨?_, fun t c caller ht hc => ?_⟩, fun c i hc text n htext hn => ?_,
    fun c i hc n text => (hcanonical text n.val).symm⟩
  · rw [parseAs_outcome s.kind_eq]
    exact congrArg (·, e) (parse_text hconfig hs s.kind_eq)
  · have hkind := hreachable.sound.kind?_eq hc
    refine ⟨hkind, ?_⟩
    rw [parseAs_type_outcome ht hc]
    exact congrArg (·, e) (parse_text hconfig hs hkind)
  · obtain rfl := (hcanonical text n).1 htext
    let s : Scalar := ⟨c, .integer i, hc, some ⟨n, hn⟩⟩
    refine ⟨s, ?_, rfl, rfl⟩
    rw [parseAs_outcome hc]
    exact congrArg (·, e) (parse_text (s := s) hconfig trivial hc)

/-- The least integer of 64 bits is read from its text, and is written in no other way. -/
theorem wholeText_roundTrip_least :
    let int64 : Kind := .integer ⟨true, .w64⟩
    let s : Scalar := ⟨.concrete int64, int64, rfl, some ⟨-2 ^ 63, by decide⟩⟩
    let e := Environment.initial
    (parseAs s.cls (.text "-9223372036854775808") none).outcome e = (.ok s, e) ∧
      ∀ text : String, Canonical text.toList (-2 ^ 63) → text = "-9223372036854775808" := by
  intro int64 s e
  have haccepted : e.config.Accepted := ⟨Config.initial.rendering, rfl⟩
  obtain ⟨hread, -, hunique⟩ := wholeText_roundTrip haccepted .builtIn
  exact ⟨(hread s trivial).1, fun text h => (hunique s.cls _ rfl ⟨-2 ^ 63, by decide⟩ text).2 h⟩

end TypedScalar.Scalar
