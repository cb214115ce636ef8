import TypedScalar.Proofs.Text.Digits
import TypedScalar.Text.Blank
import TypedScalar.Text.LetterCase

/-! Lower case on the characters that numerals and names are made of. ASCII goes to
lower case character by character; blanks stay as they are; a digit of ASCII is the
lower case of nothing but itself; and of the letters of ASCII only one is the lower
case of a character beyond. -/

namespace TypedScalar.Text

/-- Each character has its own image, which takes no account of the others unless
it is a sigma. -/
theorem lowerFrom_cons (before : List Char) (c : Char) (rest : List Char) :
    ∃ image, lowerFrom before (c :: rest) = image ++ lowerFrom (c :: before) rest ∧
      (image = mapCase lowerRuns lowerExpansions c ∨ c = capitalSigma ∧ image = [finalSigma]) := by
  rw [lowerFrom]
  split_ifs with h
  · exact ⟨_, rfl, .inr ⟨h.1, rfl⟩⟩
  · exact ⟨_, rfl, .inl rfl⟩

theorem mapCase_ascii {c : Char} (h : c.toNat < 128) :
    mapCase lowerRuns lowerExpansions c = [c.toLower] := by
  have hall : ∀ n < 128, mapCase lowerRuns lowerExpansions (Char.ofNat n) = [(Char.ofNat n).toLower] := by
    decide +kernel
  have := hall c.toNat h
  rwa [Char.ofNat_toNat] at this

theorem lower_ascii {s : List Char} (h : ∀ c ∈ s, c.toNat < 128) : lower s = s.map Char.toLower := by
  have hfrom : ∀ before, lowerFrom before s = s.map Char.toLower := by
    induction s with
    | nil => exact fun _ => rfl
    | cons c rest ih =>
      rw [List.forall_mem_cons] at h
      intro before
      obtain ⟨image, heq, rfl | ⟨rfl, -⟩⟩ := lowerFrom_cons before c rest
      · rw [heq, ih h.2, mapCase_ascii h.1]
        rfl
      · exact absurd h.1 (by decide)
  exact hfrom []

/-- No blank is in reach of a mapping. -/
theorem mapCase_blank {c : Char} (h : isBlank c = true) : mapCase lowerRuns lowerExpansions c = [c] := by
  have hruns : ∀ r ∈ lowerRuns, ∀ b ∈ blanks, r.2.1 < b.1 ∨ b.2 < r.1 := by decide +kernel
  have hexpansions : ∀ x ∈ lowerExpansions, ∀ b ∈ blanks, x.1 < b.1 ∨ b.2 < x.1 := by decide
  obtain ⟨b, hb, hc⟩ := List.any_eq_true.1 h
  rw [Bool.and_eq_true, decide_eq_true_eq, decide_eq_true_eq] at hc
  have hlookup : lowerExpansions.lookup c.toNat = none := by
    refine List.lookup_eq_none_iff.2 fun x hx => ?_
    have := hexpansions x hx b hb
    rw [bne_iff_ne]
    omega
  have hfind : lowerRuns.find? (·.covers c) = none := by
    refine List.find?_eq_none.2 fun r hr hcovers => ?_
    have := hruns r hr b hb
    simp only [CaseRun.covers, Bool.and_eq_true, decide_eq_true_eq] at hcovers
    omega
  rw [mapCase, hlookup, hfind]

theorem mem_lower_of_isBlank {c : Char} {s : List Char} (hc : isBlank c = true) (h : c ∈ s) :
    c ∈ lower s := by
  have hfrom : ∀ before, c ∈ lowerFrom before s := by
    induction s with
    | nil => simp at h
    | cons d rest ih =>
      intro before
      obtain ⟨image, heq, himage⟩ := lowerFrom_cons before d rest
      rw [heq, List.mem_append]
      rcases List.mem_cons.1 h with rfl | hrest
      · left
        rcases himage with rfl | ⟨rfl, -⟩
        · rw [mapCase_blank hc]
          exact List.mem_singleton_self c
        · exact absurd hc (by decide)
      · exact .inr (ih hrest _)
  exact hfrom []

/-- All that a character may be mapped to. -/
inductive Image (c : Char) : List Char → Prop
  | expanded {x : ℕ × List ℕ} (hx : x ∈ lowerExpansions) : Image c (x.2.map Char.ofNat)
  | shifted {r : CaseRun} (hr : r ∈ lowerRuns) (hfirst : r.1 ≤ c.toNat) (hlast : c.toNat ≤ r.2.1) :
    Image c [Char.ofNat (c.toNat + r.2.2.2).toNat]
  | kept : Image c [c]

theorem image_mapCase (c : Char) : Image c (mapCase lowerRuns lowerExpansions c) := by
  rw [mapCase]
  split
  · next cs heq =>
    obtain ⟨l₁, l₂, hl, -⟩ := List.lookup_eq_some_iff.1 heq
    exact .expanded (x := (c.toNat, cs)) (by simp [hl])
  · split
    · next r hr =>
      have hcovers := List.find?_some hr
      simp only [CaseRun.covers, Bool.and_eq_true, decide_eq_true_eq] at hcovers
      exact .shifted (List.mem_of_find?_eq_some hr) hcovers.1.1 hcovers.1.2
    · exact .kept

theorem mapCase_ne_nil (c : Char) : mapCase lowerRuns lowerExpansions c ≠ [] := by
  have hexpansions : ∀ x ∈ lowerExpansions, x.2 ≠ [] := by decide
  have himage := image_mapCase c
  generalize mapCase lowerRuns lowerExpansions c = image at himage
  cases himage with
  | expanded hx => exact fun hnil => hexpansions _ hx (List.map_eq_nil_iff.1 hnil)
  | shifted | kept => exact List.cons_ne_nil _ _

/-- A code point that is no character stands for the first one. -/
theorem toNat_ofNat (n : ℕ) : (Char.ofNat n).toNat = n ∨ (Char.ofNat n).toNat = 0 := by
  by_cases h : n.isValidChar
  · left
    rw [Char.ofNat, dif_pos h]
    rfl
  · right
    rw [Char.ofNat, dif_neg h]
    rfl

/-- What the mapping moves, it moves to letters. -/
theorem eq_of_mem_mapCase {c d : Char} (hd : isAsciiDigit d = true)
    (h : d ∈ mapCase lowerRuns lowerExpansions c) :
    c = d := by
  have hexpansions : ∀ x ∈ lowerExpansions, ∀ n ∈ x.2, isAsciiDigit (Char.ofNat n) = false := by decide
  have hruns : ∀ r ∈ lowerRuns, (97 : ℤ) ≤ r.1 + r.2.2.2 := by decide +kernel
  have himage := image_mapCase c
  generalize mapCase lowerRuns lowerExpansions c = image at himage h
  cases himage with
  | expanded hx =>
    obtain ⟨n, hn, rfl⟩ := List.mem_map.1 h
    exact absurd hd (by simp [hexpansions _ hx n hn])
  | @shifted r hr hfirst =>
    have hshift := hruns r hr
    rw [List.mem_singleton.1 h, isAsciiDigit_iff] at hd
    have hle : 97 ≤ (c.toNat + r.2.2.2).toNat := by omega
    rcases toNat_ofNat (c.toNat + r.2.2.2).toNat with heq | heq <;> omega
  | kept => exact (List.mem_singleton.1 h).symm

/-- A digit of ASCII is the lower case of itself alone. -/
theorem eq_of_lower_eq_digit {s : List Char} {d : Char} (hd : isAsciiDigit d = true)
    (h : lower s = [d]) : s = [d] := by
  cases s with
  | nil => exact absurd h (by simp [lower, lowerFrom])
  | cons c rest =>
    obtain ⟨image, heq, himage⟩ := lowerFrom_cons [] c rest
    rw [lower, heq] at h
    have hne : image ≠ [] := by
      rcases himage with rfl | ⟨-, rfl⟩
      · exact mapCase_ne_nil c
      · exact List.cons_ne_nil _ _
    obtain ⟨e, t, rfl⟩ := List.exists_cons_of_ne_nil hne
    obtain ⟨rfl, htail⟩ := List.cons_eq_cons.1 h
    have hc : c = e := by
      rcases himage with hmap | ⟨-, hsigma⟩
      · exact eq_of_mem_mapCase hd (hmap ▸ List.mem_cons_self)
      · rw [(List.cons_eq_cons.1 hsigma).1] at hd
        exact absurd hd (by decide)
    have hrest : lowerFrom [c] rest = [] := (List.append_eq_nil_iff.1 htail).2
    cases rest with
    | nil => rw [hc]
    | cons c' rest' =>
      obtain ⟨image', heq', himage'⟩ := lowerFrom_cons [c] c' rest'
      rw [heq', List.append_eq_nil_iff] at hrest
      rcases himage' with h' | ⟨-, h'⟩
      · exact absurd (h'.symm.trans hrest.1) (mapCase_ne_nil c')
      · exact absurd (h'.symm.trans hrest.1) (List.cons_ne_nil _ _)

/-- The characters of ASCII that are the lower case of none beyond it. The Kelvin sign has the letter `k` too,
and the first character stands for code points that are none. -/
def IsNative (c : Char) : Prop := 0 < c.toNat ∧ c.toNat < 128 ∧ c ≠ 'k'

instance (c : Char) : Decidable (IsNative c) := inferInstanceAs (Decidable (_ ∧ _ ∧ _))

/-- A character beyond ASCII has no native image: either its code point stays beyond, or an expansion
keeps a part there. -/
theorem toNat_lt_of_mapCase {c : Char} (h : ∀ d ∈ mapCase lowerRuns lowerExpansions c, IsNative d) :
    c.toNat < 128 := by
  have hexpansions : ∀ x ∈ lowerExpansions, ∃ n ∈ x.2, ¬ IsNative (Char.ofNat n) := by decide
  have hruns : ∀ r ∈ lowerRuns, r.2.1 < 128 ∨ (128 : ℤ) ≤ r.1 + r.2.2.2 ∨ r = (0x212a, 0x212a, 1, -8383) := by
    decide +kernel
  by_contra hc
  have himage := image_mapCase c
  generalize mapCase lowerRuns lowerExpansions c = image at himage h
  cases himage with
  | expanded hx =>
    obtain ⟨n, hn, hforeign⟩ := hexpansions _ hx
    exact hforeign (h _ (List.mem_map_of_mem hn))
  | @shifted r hr hfirst hlast =>
    obtain ⟨hpos, hlt, hk⟩ := h _ (List.mem_singleton_self _)
    rcases hruns r hr with hlow | hhigh | rfl
    · omega
    · rcases toNat_ofNat (c.toNat + r.2.2.2).toNat with heq | heq <;> omega
    · have hkelvin : c.toNat = 0x212a := le_antisymm hlast hfirst
      exact hk (by rw [hkelvin]; rfl)
  | kept => exact hc (h c (List.mem_singleton_self c)).2.1

theorem toNat_lt_of_lowerFrom {before s : List Char} (h : ∀ d ∈ lowerFrom before s, IsNative d) :
    ∀ c ∈ s, c.toNat < 128 := by
  induction s generalizing before with
  | nil => simp
  | cons c rest ih =>
    obtain ⟨image, heq, himage⟩ := lowerFrom_cons before c rest
    rw [heq, List.forall_mem_append] at h
    refine List.forall_mem_cons.2 ⟨?_, ih h.2⟩
    rcases himage with rfl | ⟨-, rfl⟩
    · exact toNat_lt_of_mapCase h.1
    · exact absurd (h.1 finalSigma (List.mem_singleton_self _)) (by decide)

/-! ### Spellings -/

variable {word : String} {s : List Char} {c : Char}

theorem toLower_eq_or (c : Char) : c.toLower = c ∨ 65 ≤ c.toNat ∧ c.toNat ≤ 90 := by
  unfold Char.toLower
  split_ifs with h
  · exact .inr ⟨UInt32.le_iff_toNat_le.1 h.1, UInt32.le_iff_toNat_le.1 h.2⟩
  · exact .inl rfl

/-- The characters of a spelling are letters, capital or not, of the word. -/
theorem mem_of_spells (h : spells word s = true) (hc : c ∈ s) :
    c ∈ word.toList ∨ 65 ≤ c.toNat ∧ c.toNat ≤ 90 := by
  rw [spells, beq_iff_eq] at h
  have hmem : c.toLower ∈ word.toList := h ▸ List.mem_map_of_mem hc
  rcases toLower_eq_or c with heq | hcapital
  · exact .inl (heq ▸ hmem)
  · exact .inr hcapital

/-- A spelling of a native word is what goes to lower case as the word, by the mapping of all characters. -/
theorem spells_iff_lower (hword : ∀ c ∈ word.toList, IsNative c) :
    spells word s = true ↔ lower s = word.toList := by
  rw [spells, beq_iff_eq]
  constructor
  · intro h
    have hascii : ∀ c ∈ s, c.toNat < 128 := by
      intro c hc
      rcases mem_of_spells (beq_iff_eq.2 h) hc with hmem | hcapital
      · exact (hword c hmem).2.1
      · omega
    rw [lower_ascii hascii, h]
  · intro h
    rw [← lower_ascii (toNat_lt_of_lowerFrom (h ▸ hword)), h]

end TypedScalar.Text
