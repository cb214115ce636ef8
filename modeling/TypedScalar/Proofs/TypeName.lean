import TypedScalar.Proofs.Registry
import TypedScalar.Proofs.Text.Blank
import TypedScalar.Proofs.Text.LetterCase

/-! Names of data types. A text names a kind exactly if, without the white space around it, it is the canonical
name of the kind or one of its aliases in any case of the letters of ASCII. Names and aliases are looked up in
two tables after a mapping of all of Unicode to lower case, but no name is in both tables, and none has a letter
that a character beyond ASCII goes to. -/

namespace TypedScalar

open Text

namespace Kind

variable {k : Kind} {s : String}

/-- The spellings of a kind: its canonical name and its aliases. -/
def IsSpelling (k : Kind) (s : String) : Prop := s = k.name ∨ (s, k) ∈ aliases

/-- What holds of all names and aliases holds of all spellings. -/
theorem IsSpelling.of_all {P : Kind → String → Prop} (hs : k.IsSpelling s) (hnames : ∀ k ∈ all, P k k.name)
    (haliases : ∀ x ∈ aliases, P x.2 x.1) : P k s := by
  rcases hs with rfl | hs
  · exact hnames k k.mem_all
  · exact haliases _ hs

/-- The kind of a spelling: an alias comes first, then a name. -/
def ofSpelling? (s : String) : Option Kind :=
  match aliases.lookup s with
  | some k => some k
  | none => all.find? (·.name == s)

theorem ofName?_eq (x : String) : ofName? x = ofSpelling? (String.ofList (lower (strip x.toList))) := by
  cases hkey : aliases.lookup (String.ofList (lower (strip x.toList))) <;> simp only [ofName?, ofSpelling?, hkey]

theorem ofSpelling?_eq_some_iff : ofSpelling? s = some k ↔ k.IsSpelling s := by
  constructor
  · intro h
    rw [ofSpelling?] at h
    split at h
    · next j hj =>
      obtain ⟨l₁, l₂, hl, -⟩ := List.lookup_eq_some_iff.1 hj
      obtain rfl := Option.some.inj h
      exact .inr (by simp [hl])
    · have hname := List.find?_some h
      exact .inl (beq_iff_eq.1 hname).symm
  · exact fun hs => hs.of_all (P := fun k s => ofSpelling? s = some k) (by decide +kernel) (by decide +kernel)

/-- No spelling is that of another kind too. -/
theorem IsSpelling.unique {j : Kind} (hj : j.IsSpelling s) (hk : k.IsSpelling s) : j = k :=
  Option.some.inj ((ofSpelling?_eq_some_iff.2 hj).symm.trans (ofSpelling?_eq_some_iff.2 hk))

theorem IsSpelling.isNative (hs : k.IsSpelling s) : ∀ c ∈ s.toList, IsNative c := by
  have hall : s.toList.all (fun c => decide (IsNative c)) = true :=
    hs.of_all (P := fun _ s => s.toList.all (fun c => decide (IsNative c)) = true) (by decide +kernel)
      (by decide +kernel)
  simpa using hall

/-- Whether a text without the white space around it is a spelling of a kind, in any case of the letters of
ASCII. -/
def IsNamed (k : Kind) (x : String) : Prop := ∃ s, k.IsSpelling s ∧ spells s (strip x.toList) = true

theorem ofName?_eq_some_iff {x : String} : ofName? x = some k ↔ k.IsNamed x := by
  rw [ofName?_eq, ofSpelling?_eq_some_iff]
  constructor
  · intro hs
    refine ⟨_, hs, (spells_iff_lower hs.isNative).2 ?_⟩
    rw [String.toList_ofList]
  · rintro ⟨s, hs, hspells⟩
    rwa [(spells_iff_lower hs.isNative).1 hspells, String.ofList_toList]

theorem IsNamed.toNat_lt {x : String} (hx : k.IsNamed x) : ∀ c ∈ strip x.toList, c.toNat < 128 := by
  obtain ⟨s, hs, hspells⟩ := hx
  exact toNat_lt_of_lowerFrom ((spells_iff_lower hs.isNative).1 hspells ▸ hs.isNative)

/-- A spelling may be padded, and it may be in capitals. -/
theorem IsSpelling.isNamed (hs : k.IsSpelling s) {before after : List Char}
    (hbefore : ∀ c ∈ before, isBlank c = true) (hafter : ∀ c ∈ after, isBlank c = true) {t : List Char}
    (ht : t = s.toList ∨ t = upper s.toList) : k.IsNamed (String.ofList (before ++ t ++ after)) := by
  have hwritten : ∀ t ∈ [s.toList, upper s.toList], spells s t = true ∧ t.all (!isBlank ·) = true :=
    hs.of_all
      (P := fun _ s => ∀ t ∈ [s.toList, upper s.toList], spells s t = true ∧ t.all (!isBlank ·) = true)
      (by decide +kernel) (by decide +kernel)
  obtain ⟨hspells, hblank⟩ := hwritten t (by simpa using ht)
  refine ⟨s, hs, ?_⟩
  rw [String.toList_ofList, strip, trimBoth_append hbefore hafter, ← strip, strip_eq_self (by simpa using hblank)]
  exact hspells

end Kind

namespace DataType

variable {r : Rendering} {x : String}

theorem ofName_text (r : Rendering) (x : String) :
    ofName r (.text x) =
      match Kind.ofName? x with
      | some k => .ok (.concrete k)
      | none => .error (.unknownName (quotedText x)) := by
  change resolve r (.text x) = _
  simp only [resolve, Value.text?, Value.shown]
  cases Kind.ofName? x <;> rfl

theorem ofName_eq_ok_iff {d : DataType} :
    ofName r (.text x) = .ok d ↔ ∃ k : Kind, k.IsNamed x ∧ d = .concrete k := by
  simp only [← Kind.ofName?_eq_some_iff]
  rw [ofName_text]
  cases Kind.ofName? x <;> simp [eq_comm]

theorem ofName_refused (hx : ∀ k : Kind, ¬ k.IsNamed x) :
    ofName r (.text x) = .error (.unknownName (quotedText x)) := by
  have hnone : Kind.ofName? x = none :=
    Option.eq_none_iff_forall_ne_some.2 fun k hk => hx k (Kind.ofName?_eq_some_iff.1 hk)
  rw [ofName_text, hnone]

/-- A text is taken for the name of a data type exactly if, stripped of white space, it is a name or an alias
in any case of the letters of ASCII, and these are spellings of one kind each. Every other text is refused as
an unknown name, any with a character beyond ASCII between the white space among them. All spellings of a kind
are taken for it, in small letters and in capitals, with any white space around. -/
theorem ofName_exact (r : Rendering) :
    (∀ x d, ofName r (.text x) = .ok d ↔ ∃ k : Kind, k.IsNamed x ∧ d = .concrete k) ∧
    (∀ (j k : Kind) s, j.IsSpelling s → k.IsSpelling s → j = k) ∧
    (∀ x, (∀ k : Kind, ¬ k.IsNamed x) → ∃ e, ofName r (.text x) = .error e ∧ e.errorClass = .unknownDataType) ∧
    (∀ x, ∀ c ∈ strip x.toList, 128 ≤ c.toNat → ∀ d, ofName r (.text x) ≠ .ok d) ∧
    ∀ (k : Kind) s, k.IsSpelling s → ∀ before after,
      (∀ c ∈ before, isBlank c = true) → (∀ c ∈ after, isBlank c = true) →
        ofName r (.text (String.ofList (before ++ s.toList ++ after))) = .ok (.concrete k) ∧
        ofName r (.text (String.ofList (before ++ upper s.toList ++ after))) = .ok (.concrete k) := by
  refine ⟨fun x d => ofName_eq_ok_iff, fun j k s => Kind.IsSpelling.unique, fun x hx => ⟨_, ofName_refused hx, rfl⟩,
    fun x c hc hforeign d hd => ?_, fun k s hs before after hbefore hafter => ⟨?_, ?_⟩⟩
  · obtain ⟨k, hk, -⟩ := ofName_eq_ok_iff.1 hd
    have hlt := hk.toNat_lt c hc
    omega
  · exact ofName_eq_ok_iff.2 ⟨k, hs.isNamed hbefore hafter (.inl rfl), rfl⟩
  · exact ofName_eq_ok_iff.2 ⟨k, hs.isNamed hbefore hafter (.inr rfl), rfl⟩

/-- A capital with a dot above has the small letter of ASCII and a mark as its lower case. -/
example : Kind.ofName? "\u0130nt8" = none ∧ Kind.ofName? "\u3000INT8\n" = some (.integer ⟨true, .w8⟩) := by
  decide +kernel

end DataType

end TypedScalar
