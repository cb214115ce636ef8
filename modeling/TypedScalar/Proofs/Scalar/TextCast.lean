import TypedScalar.Proofs.Scalar.Casting

/-! The two ways from a text to a value: a cast of the text as a string scalar, and
parsing. They differ in the null token alone, which parsing takes for a null. -/

namespace TypedScalar.Scalar

variable {r : Rendering} {c : ScalarClass} {k : Kind} {text : String}

/-- What a class makes of a text as a string payload is what it reads, except where
it would read a null. -/
theorem castPayload_eq_parse (hc : c.kind? = some k) (hstring : k ≠ .string)
    (htext : k = .binary ∨ text ≠ r.nullToken) :
    castPayload r c .string text = parse r c (.ofString text) := by
  by_cases hbinary : k = .binary
  · subst hbinary
    simp only [castPayload, convert, parse, hc, ↓reduceIte]
    rfl
  · have hclass : c.kind? ≠ some .binary := by simpa [hc] using hbinary
    rw [parse_eq_parseValid hc hstring hbinary (htext.resolve_left hbinary)]
    simp only [castPayload, if_neg hclass]

theorem parse_nullToken (hc : c.kind? = some k) (hstring : k ≠ .string) (hbinary : k ≠ .binary) :
    parse r c (.ofString r.nullToken) = .ok (null c k hc) := by
  rw [parse, hc]
  split
  · next heq => exact absurd (Option.some.inj heq) hstring
  · next heq => exact absurd (Option.some.inj heq) hbinary
  · rw [if_pos (by rfl), make_eq hc]
    rfl

theorem isValid_of_castPayload {p : Kind.Payload .string} {s : Scalar} (hc : c.kind? = some k)
    (hnull : k ≠ .null)
    (h : castPayload r c .string p = .ok s) : s.isValid = true := by
  obtain ⟨v, hv, hmake⟩ := exists_make_of_castPayload h
  exact isValid_of_make (hv (by simpa [hc] using hnull)) hmake

/-- From a text to a kind other than null and string, a cast and parsing come to the
same, be it a scalar or an error, for binary always and for the other kinds unless
the text is the null token. Parsing takes the token for a null of the kind; a cast
never gives a null. -/
theorem textCast_eq_parse {e : Environment} (hreachable : e.registry.Reachable) {t : Value}
    (ht : DataType.resolve e.rendering t = .ok (.concrete k)) (hc : e.registry.find? (some k) = some c)
    (hnull : k ≠ .null) (hstring : k ≠ .string) {source : ScalarClass} (hsource : source.kind? = some .string)
    (text : String) (i : ℕ) (caller : ScalarClass) :
    let s : Scalar := ⟨source, .string, hsource, some text⟩
    let casted := ((Scalar.cast ⟨i, s⟩ t).outcome e).1
    let parsed := ((parseAs caller (.text text) (some t)).outcome e).1
    (k = .binary ∨ text ≠ e.rendering.nullToken → casted = parsed.map .fresh) ∧
    (k ≠ .binary → text = e.rendering.nullToken →
      parsed = .ok (null c k (hreachable.sound.kind?_eq hc)) ∧
      ∀ made, casted = .ok made → made.scalar.isValid = true) := by
  intro s casted parsed
  have hkind := hreachable.sound.kind?_eq hc
  have hcasted : casted = (castPayload e.rendering c .string text).map .fresh :=
    congrArg Prod.fst (cast_outcome (h := ⟨i, s⟩) ht hc rfl hnull hstring)
  have hparsed : parsed = parse e.rendering c (.ofString text) :=
    congrArg Prod.fst (parseAs_type_outcome ht hc caller text)
  rw [hcasted, hparsed]
  constructor
  · intro htext
    rw [castPayload_eq_parse hkind hstring htext]
  · rintro hbinary rfl
    refine ⟨parse_nullToken hkind hstring hbinary, ?_⟩
    intro made hmade
    cases hcast : castPayload e.rendering c .string e.rendering.nullToken with
    | error err => simp [hcast, Except.map] at hmade
    | ok s' =>
      rw [hcast] at hmade
      obtain rfl := Except.ok.inj hmade
      exact isValid_of_castPayload hkind hnull hcast

/-- A numeral beyond the bounds is refused both ways alike, and the null token is a
null to the one way only. -/
theorem textCast_eq_parse_int8 :
    let e := Environment.initial
    let int8 : Kind := .integer ⟨true, .w8⟩
    let casted (text : String) :=
      ((Scalar.cast ⟨0, ⟨.concrete .string, .string, rfl, some text⟩⟩ (.text "int8")).outcome e).1
    let parsed (text : String) :=
      ((parseAs (.abstract .any) (.text text) (some (.text "int8"))).outcome e).1
    e.registry.Reachable ∧ casted "128" = (parsed "128").map .fresh ∧
      parsed "null" = .ok (null (.concrete int8) int8 rfl) ∧
      ∀ made, casted "null" = .ok made → made.scalar.isValid = true := by
  intro e int8 casted parsed
  have hreachable : e.registry.Reachable := .builtIn
  have ht : DataType.resolve e.rendering (.text "int8") = .ok (.concrete int8) :=
    DataType.resolve_name _ int8
  have hstring : (ScalarClass.concrete .string).kind? = some .string := rfl
  have hagree (text : String) :=
    textCast_eq_parse (c := .concrete int8) hreachable ht rfl (by decide) (by decide) hstring text 0
      (.abstract .any)
  exact ⟨hreachable, (hagree "128").1 (.inr (by decide)), (hagree "null").2 (by decide) rfl⟩

end TypedScalar.Scalar
