import TypedScalar.Proofs.Text.Grammar
import TypedScalar.Proofs.TokenSpellings

/-! The texts that stand for real numbers: between white space, a sign or none, and then a name of infinity,
the name of NaN, or a decimal. Only the four information separators do not count as white space here, though
they do elsewhere. -/

namespace TypedScalar.Text

variable {s core body : List Char} {c : Char} {negative : Bool} {v : ℚ} {word : String}

/-- White space that may stand around a numeral. -/
def IsSpace (c : Char) : Prop := isBlank c = true ∧ ¬(0x1c ≤ c.toNat ∧ c.toNat ≤ 0x1f)

theorem isNumeralBlank_iff : isNumeralBlank c = true ↔ IsSpace c := by
  have hspace : c = ' ' ↔ c.toNat = 32 := ⟨by rintro rfl; rfl, fun h => Char.toNat_inj.1 h⟩
  simp only [isNumeralBlank, IsSpace, isBlank, within, blanks, List.any_cons, List.any_nil, Bool.or_eq_true,
    Bool.and_eq_true, beq_iff_eq, decide_eq_true_eq, hspace, Bool.or_false]
  omega

/-- White space around a sign, or none, and a body. -/
inductive Framed : List Char → Bool → List Char → Prop
  | intro {before core after body : List Char} {negative : Bool} (hbefore : ∀ c ∈ before, IsSpace c)
    (hcore : Signed core negative body) (hafter : ∀ c ∈ after, IsSpace c) :
    Framed (before ++ core ++ after) negative body

/-- What a text may stand for. -/
inductive Meaning
  | nan
  | infinity (negative : Bool)
  | decimal (negative : Bool) (magnitude : ℚ)

/-- The texts that stand for real numbers, and what they stand for. -/
inductive RealText : List Char → Meaning → Prop
  | nan {s body : List Char} {negative : Bool} (h : Framed s negative body)
    (hbody : spells "nan" body = true) : RealText s .nan
  | infinity {s body : List Char} {negative : Bool} (h : Framed s negative body)
    (hbody : spells "inf" body = true ∨ spells "infinity" body = true) : RealText s (.infinity negative)
  | decimal {s body : List Char} {negative : Bool} {v : ℚ} (h : Framed s negative body)
    (hbody : DecimalNumeral body v) : RealText s (.decimal negative v)

/-- What a numeral that has been read stands for. -/
def Numeral.meaning : Numeral → Meaning
  | .nan => .nan
  | .infinity negative => .infinity negative
  | .decimal negative c e => .decimal negative (c * 10 ^ e)

/-! ### Bodies -/

/-- What may stand behind a sign, between white space. -/
structure IsBody (body : List Char) : Prop where
  unsigned : Unsigned body
  isBlank : ∀ c ∈ body, isBlank c = false

theorem Signed.isBlank (h : Signed core negative body) (hbody : ∀ c ∈ body, isBlank c = false) :
    ∀ c ∈ core, Text.isBlank c = false := by
  cases h with
  | bare => exact hbody
  | plus | minus => exact List.forall_mem_cons.2 ⟨by decide, hbody⟩

/-- The reader finds what stands between the white space. -/
theorem IsBody.takeSign_eq (h : IsBody body) (hs : Framed s negative body) :
    takeSign (trimBoth isNumeralBlank s) = (negative, body) := by
  cases hs with
  | @intro before core after _ _ hbefore hcore hafter =>
    have hcore' : trimBoth isNumeralBlank core = core := by
      refine trimBoth_eq_self fun c hc => Bool.eq_false_iff.2 fun hblank => ?_
      have hnot := hcore.isBlank h.isBlank c hc
      exact Bool.false_ne_true (hnot.symm.trans (isBlank_of_isNumeralBlank hblank))
    rw [trimBoth_append (fun c hc => isNumeralBlank_iff.2 (hbefore c hc))
      (fun c hc => isNumeralBlank_iff.2 (hafter c hc)), hcore']
    exact hcore.takeSign_eq h.unsigned

theorem framed_trimBoth (s : List Char) :
    Framed s (takeSign (trimBoth isNumeralBlank s)).1 (takeSign (trimBoth isNumeralBlank s)).2 := by
  obtain ⟨before, after, hs, hbefore, hafter⟩ := exists_trimBoth isNumeralBlank s
  have hframed := Framed.intro (fun c hc => isNumeralBlank_iff.1 (hbefore c hc))
    (signed_takeSign (trimBoth isNumeralBlank s)) (fun c hc => isNumeralBlank_iff.1 (hafter c hc))
  rwa [← hs] at hframed

theorem IsWord.isBody (hword : IsWord word) (h : spells word body = true) : IsBody body where
  unsigned c hc := by
    have hletter := hword.mem h (List.mem_of_mem_head? hc)
    constructor <;> rintro rfl <;> simp at hletter
  isBlank _ hc := hword.isBlank h hc

theorem DecimalNumeral.isBody (h : DecimalNumeral body v) : IsBody body where
  unsigned := h.unsigned
  isBlank c hc := by
    obtain ⟨n, e, hread, -⟩ := h.exists_decimal?
    exact isBlank_of_decimal? hread hc

theorem isDigit_of_letter (h : 65 ≤ c.toNat ∧ c.toNat ≤ 90 ∨ 97 ≤ c.toNat ∧ c.toNat ≤ 122) :
    isDigit c = false := by
  have hzeros : ∀ z ∈ zeros, z + 10 ≤ 65 ∨ 122 < z := by decide
  rw [isDigit, digitValue?, Option.isSome_map, Option.isSome_eq_false_iff, Option.isNone_iff_eq_none,
    List.find?_eq_none]
  intro z hz
  have := hzeros z hz
  simp only [Bool.and_eq_true, decide_eq_true_eq]
  omega

/-- A decimal is no word. -/
theorem DecimalNumeral.not_spells (h : DecimalNumeral body v) (hword : IsWord word) :
    spells word body = false := by
  refine Bool.eq_false_iff.2 fun hspells => ?_
  obtain ⟨c, rest, rfl, hc⟩ := h.exists_cons
  have hletter := hword.mem hspells List.mem_cons_self
  rcases hc with hdigit | rfl
  · exact Bool.false_ne_true ((isDigit_of_letter hletter).symm.trans hdigit)
  · simp at hletter

theorem eq_of_spells {word' : String} (h : spells word s = true) (h' : spells word' s = true) :
    word = word' := by
  rw [spells, beq_iff_eq] at h h'
  exact String.toList_inj.1 (h.symm.trans h')

/-! ### Reading -/

theorem read?_eq (h : takeSign (trimBoth isNumeralBlank s) = (negative, body)) :
    Numeral.read? s =
      if spells "nan" body then some .nan
      else if spells "inf" body || spells "infinity" body then some (.infinity negative)
      else (decimal? joinedRun body).map fun (c, e) => .decimal negative c e := by
  rw [Numeral.read?, h]

/-- The reader reads these texts, and as what they stand for. -/
theorem realText_iff {m : Meaning} : RealText s m ↔ (Numeral.read? s).map Numeral.meaning = some m := by
  have hnan : IsWord "nan" := rfl
  have hinf : IsWord "inf" := rfl
  have hinfinity : IsWord "infinity" := rfl
  constructor
  · intro h
    cases h with
    | nan h hbody =>
      rw [read?_eq ((hnan.isBody hbody).takeSign_eq h), if_pos hbody]
      rfl
    | infinity h hbody =>
      have hisBody : IsBody _ := hbody.elim hinf.isBody hinfinity.isBody
      have hother : ¬ spells "nan" _ = true := fun h' =>
        hbody.elim (fun hbody => absurd (eq_of_spells h' hbody) (by decide))
          fun hbody => absurd (eq_of_spells h' hbody) (by decide)
      rw [read?_eq (hisBody.takeSign_eq h), if_neg hother, if_pos (by simpa using hbody)]
      rfl
    | decimal h hbody =>
      obtain ⟨c, e, hread, rfl⟩ := hbody.exists_decimal?
      rw [read?_eq (hbody.isBody.takeSign_eq h), hbody.not_spells hnan, hbody.not_spells hinf,
        hbody.not_spells hinfinity, hread]
      rfl
  · intro h
    obtain ⟨n, hread, rfl⟩ := Option.map_eq_some_iff.1 h
    have hframed := framed_trimBoth s
    rw [read?_eq rfl] at hread
    split_ifs at hread with hn hi
    · obtain rfl := Option.some.inj hread
      exact .nan hframed hn
    · obtain rfl := Option.some.inj hread
      rw [Bool.or_eq_true] at hi
      exact .infinity hframed hi
    · obtain ⟨⟨c, e⟩, hdecimal, rfl⟩ := Option.map_eq_some_iff.1 hread
      exact .decimal hframed (decimalNumeral_of_decimal? hdecimal)

end TypedScalar.Text
