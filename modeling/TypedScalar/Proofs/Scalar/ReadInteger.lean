import TypedScalar.Proofs.Scalar.Refusing
import TypedScalar.Proofs.Text.Grammar

/-! What the classes of the integer kinds read. A sign, or none, with ASCII digits is read as the integer that
it writes, if this lies within the bounds, and refused if it does not; and so is every other text. There is
one exception: numerals of more than 4300 digits, leading zeros included, fail on the way to a number, and not
as texts that cannot be read. -/

namespace TypedScalar.Scalar

open Text (IntegerNumeral withSign natOfAscii digitLimit)

variable {r : Rendering} {c : ScalarClass} {i : IntegerKind} {e : Environment} {x : Except Error Scalar}
  {s ds : List Char} {negative : Bool}

theorem readInteger?_of_numeral (h : IntegerNumeral s negative ds) :
    readInteger? s = some (if digitLimit < ds.length then .error (.integerTextTooLong (some ds.length))
      else .ok (withSign negative (natOfAscii ds))) := by
  rw [readInteger?, Text.integerDigits?_eq_some_iff.2 h]
  rfl

/-- What a class of an integer kind reads a text as. -/
inductive ReadingNumeral (hc : c.kind? = some (.integer i)) (s : List Char) : Except Error Scalar → Prop
  | malformed (h : ∀ negative ds, ¬ IntegerNumeral s negative ds) {x : Except Error Scalar} (hx : Unread x) :
    ReadingNumeral hc s x
  | tooLong {negative : Bool} {ds : List Char} (h : IntegerNumeral s negative ds)
    (hlong : digitLimit < ds.length) {err : Error} (herr : err.errorClass = .value) :
    ReadingNumeral hc s (.error err)
  | beyond {negative : Bool} {ds : List Char} (h : IntegerNumeral s negative ds)
    (hlength : ds.length ≤ digitLimit)
    (hn : ¬(i.min ≤ withSign negative (natOfAscii ds) ∧ withSign negative (natOfAscii ds) ≤ i.max))
    {x : Except Error Scalar} (hx : Unread x) : ReadingNumeral hc s x
  | read {negative : Bool} {ds : List Char} (h : IntegerNumeral s negative ds)
    (hlength : ds.length ≤ digitLimit)
    (hn : i.min ≤ withSign negative (natOfAscii ds) ∧ withSign negative (natOfAscii ds) ≤ i.max) :
    ReadingNumeral hc s (.ok ⟨c, .integer i, hc, some ⟨_, hn⟩⟩)

theorem readingNumeral_parseValid (hc : c.kind? = some (.integer i)) (t : Source) :
    ReadingNumeral hc t.text.toList (parseValid r c t) := by
  simp only [parseValid, hc]
  by_cases h : ∃ negative ds, IntegerNumeral t.text.toList negative ds
  · obtain ⟨negative, ds, h⟩ := h
    rw [readInteger?_of_numeral h]
    split_ifs with hlong
    · exact .tooLong h hlong rfl
    · rw [not_lt] at hlong
      dsimp only
      by_cases hn : i.min ≤ withSign negative (natOfAscii ds) ∧ withSign negative (natOfAscii ds) ≤ i.max
      · rw [make_integer hc hn]
        exact .read h hlong hn
      · have hshort := not_isLong_withSign negative h.isAsciiDigit hlong
        rw [make_integer_range hc hn (integerText_of_not_isLong hshort)]
        exact .beyond h hlong hn ⟨_, rfl, rfl⟩
  · have hnone : readInteger? t.text.toList = none := by
      rw [readInteger?, Option.map_eq_none_iff, Option.eq_none_iff_forall_ne_some]
      rintro ⟨negative, ds⟩ hdigits
      exact h ⟨negative, ds, Text.integerDigits?_eq_some_iff.1 hdigits⟩
    rw [hnone]
    exact .malformed (fun negative ds hds => h ⟨negative, ds, hds⟩) ⟨_, rfl, rfl⟩

namespace ReadingNumeral

variable {hc : c.kind? = some (.integer i)}

theorem ok_iff (h : ReadingNumeral hc s x) (made : Scalar) :
    x = .ok made ↔ ∃ negative ds, IntegerNumeral s negative ds ∧ ds.length ≤ digitLimit ∧
      ∃ hn : i.min ≤ withSign negative (natOfAscii ds) ∧ withSign negative (natOfAscii ds) ≤ i.max,
        made = ⟨c, .integer i, hc, some ⟨withSign negative (natOfAscii ds), hn⟩⟩ := by
  cases h with
  | malformed h hx =>
    refine iff_of_false (fun hmade => not_unread_ok _ (hmade ▸ hx)) ?_
    rintro ⟨negative, ds, hds, -⟩
    exact h negative ds hds
  | tooLong h hlong =>
    refine iff_of_false nofun ?_
    rintro ⟨negative, ds, hds, hlength, -⟩
    obtain ⟨rfl, rfl⟩ := h.unique hds
    exact hlong.not_ge hlength
  | beyond h hlength hn hx =>
    refine iff_of_false (fun hmade => not_unread_ok _ (hmade ▸ hx)) ?_
    rintro ⟨negative, ds, hds, -, hn', -⟩
    obtain ⟨rfl, rfl⟩ := h.unique hds
    exact hn hn'
  | read h hlength hn =>
    constructor
    · intro hmade
      exact ⟨_, _, h, hlength, hn, (Except.ok.inj hmade).symm⟩
    · rintro ⟨negative, ds, hds, -, hn', rfl⟩
      obtain ⟨rfl, rfl⟩ := h.unique hds
      rfl

/-- Too long a numeral is told from a text that cannot be read. -/
theorem value_iff (h : ReadingNumeral hc s x) :
    (∃ err, x = .error err ∧ err.errorClass = .value) ↔
      ∃ negative ds, IntegerNumeral s negative ds ∧ digitLimit < ds.length := by
  have hunread {x : Except Error Scalar} (hx : Unread x) :
      ¬ ∃ err, x = .error err ∧ err.errorClass = .value := by
    rintro ⟨err, rfl, hvalue⟩
    obtain ⟨err', herr, hparse⟩ := hx
    obtain rfl := Except.error.inj herr
    cases hvalue.symm.trans hparse
  cases h with
  | malformed h hx =>
    refine iff_of_false (hunread hx) ?_
    rintro ⟨negative, ds, hds, -⟩
    exact h negative ds hds
  | tooLong h hlong herr => exact iff_of_true ⟨_, rfl, herr⟩ ⟨_, _, h, hlong⟩
  | beyond h hlength hn hx =>
    refine iff_of_false (hunread hx) ?_
    rintro ⟨negative, ds, hds, hlong⟩
    obtain ⟨rfl, rfl⟩ := h.unique hds
    exact hlong.not_ge hlength
  | read h hlength hn =>
    refine iff_of_false (by rintro ⟨err, herr, -⟩; cases herr) ?_
    rintro ⟨negative, ds, hds, hlong⟩
    obtain ⟨rfl, rfl⟩ := h.unique hds
    exact hlong.not_ge hlength

theorem errorClass {err : Error} (h : ReadingNumeral hc s (.error err)) :
    err.errorClass = .value ∨ err.errorClass = .scalarParse := by
  cases h with
  | tooLong _ _ herr => exact .inl herr
  | malformed _ hx | beyond _ _ _ hx =>
    obtain ⟨err', herr, hparse⟩ := hx
    obtain rfl := Except.error.inj herr
    exact .inr hparse

end ReadingNumeral

/-- A class of an integer kind reads a text other than the null token exactly if it is an integer numeral of
up to 4300 digits whose value lies within the bounds, and as that value. It fails as too long a numeral if it
is one of more digits, and refuses every other text. -/
theorem parse_integer_exact (hc : c.kind? = some (.integer i)) {text : String}
    (htoken : text ≠ e.rendering.nullToken) :
    let result := (parseAs c (.text text) none).outcome e
    (∀ s, result.1 = .ok s ↔ ∃ negative ds, IntegerNumeral text.toList negative ds ∧ ds.length ≤ 4300 ∧
      ∃ hn : i.min ≤ withSign negative (natOfAscii ds) ∧ withSign negative (natOfAscii ds) ≤ i.max,
        s = ⟨c, .integer i, hc, some ⟨withSign negative (natOfAscii ds), hn⟩⟩) ∧
    ((∃ err, result.1 = .error err ∧ err.errorClass = .value) ↔
      ∃ negative ds, IntegerNumeral text.toList negative ds ∧ 4300 < ds.length) ∧
    (∀ err, result.1 = .error err → err.errorClass = .value ∨ err.errorClass = .scalarParse) ∧
    result.2 = e := by
  intro result
  have hresult : result = (parseValid e.rendering c (.ofString text), e) :=
    parseAs_outcome_valid hc (by simp) (by simp) htoken
  have hread : ReadingNumeral hc text.toList (parseValid e.rendering c (.ofString text)) :=
    readingNumeral_parseValid hc (.ofString text)
  rw [hresult]
  refine ⟨hread.ok_iff, hread.value_iff, fun err herr => ?_, rfl⟩
  replace herr : parseValid e.rendering c (.ofString text) = .error err := herr
  rw [herr] at hread
  exact hread.errorClass

/-- Zeros in front do not count up to 4300 digits, and beyond that no number is read. -/
theorem parse_integer_exact_zeros :
    let int8 : ScalarClass := .concrete (.integer ⟨true, .w8⟩)
    let zeros (n : ℕ) : String := String.ofList (List.replicate n '0')
    let result (text : String) := ((parseAs int8 (.text text) none).outcome .initial).1
    (∃ s, result (zeros 4300) = .ok s) ∧ ∃ err, result (zeros 4301) = .error err ∧ err.errorClass = .value := by
  intro int8 zeros result
  have hnumeral (n : ℕ) (hn : n ≠ 0) : IntegerNumeral (zeros n).toList false (List.replicate n '0') := by
    rw [String.toList_ofList]
    refine ⟨.bare _, by simpa using hn, fun c hc => ?_⟩
    rw [List.eq_of_mem_replicate hc]
    rfl
  have htoken (n : ℕ) : zeros n ≠ "null" := by
    intro h
    have hdigits := congrArg String.toList h
    rw [String.toList_ofList] at hdigits
    have hmem : 'n' ∈ List.replicate n '0' := hdigits ▸ (by decide : 'n' ∈ "null".toList)
    exact absurd (List.eq_of_mem_replicate hmem) (by decide)
  have hbounds : (⟨true, .w8⟩ : IntegerKind).min ≤ withSign false (natOfAscii (List.replicate 4300 '0')) ∧
      withSign false (natOfAscii (List.replicate 4300 '0')) ≤ (⟨true, .w8⟩ : IntegerKind).max := by
    rw [Text.natOfAscii_replicate_zero]
    decide
  obtain ⟨hok, -⟩ := parse_integer_exact (e := .initial) (c := int8) (i := ⟨true, .w8⟩) rfl (htoken 4300)
  obtain ⟨-, hvalue, -⟩ := parse_integer_exact (e := .initial) (c := int8) (i := ⟨true, .w8⟩) rfl (htoken 4301)
  exact ⟨⟨_, (hok _).2 ⟨false, _, hnumeral 4300 (by decide), List.length_replicate.le, hbounds, rfl⟩⟩,
    hvalue.2 ⟨false, _, hnumeral 4301 (by decide), by rw [List.length_replicate]; decide⟩⟩

end TypedScalar.Scalar
