import Mathlib.Data.List.DropRight
import TypedScalar.Text.Numeral

/-! Trimming. What is trimmed off are characters of the given kind, so trimming of
more kinds may follow trimming of fewer without a change. -/

namespace TypedScalar.Text

variable {p q : Char → Bool} {s : List Char}

theorem trimBoth_eq_self (h : ∀ c ∈ s, p c = false) : trimBoth p s = s := by
  have hdrop : ∀ t : List Char, (∀ c ∈ t, p c = false) → t.dropWhile p = t := fun t ht =>
    List.dropWhile_eq_self_iff.2 fun hl => by simp [ht _ (List.getElem_mem hl)]
  rw [trimBoth, hdrop s h, hdrop _ fun c hc => h c (List.mem_reverse.1 hc), List.reverse_reverse]

theorem trimBoth_eq_rdropWhile (p : Char → Bool) (s : List Char) :
    trimBoth p s = (s.dropWhile p).rdropWhile p := rfl

theorem exists_trimBoth (p : Char → Bool) (s : List Char) :
    ∃ a b, s = a ++ trimBoth p s ++ b ∧ (∀ c ∈ a, p c = true) ∧ ∀ c ∈ b, p c = true := by
  refine ⟨s.takeWhile p, (s.dropWhile p).rtakeWhile p, ?_, fun c hc => List.mem_takeWhile_imp hc,
    fun c hc => List.mem_rtakeWhile_imp hc⟩
  rw [trimBoth_eq_rdropWhile, List.append_assoc, List.rdropWhile_append_rtakeWhile,
    List.takeWhile_append_dropWhile]

theorem trimBoth_append {a b : List Char} (ha : ∀ c ∈ a, q c = true) (hb : ∀ c ∈ b, q c = true)
    (s : List Char) :
    trimBoth q (a ++ s ++ b) = trimBoth q s := by
  have hb' : ∀ c ∈ b.reverse, q c = true := fun c hc => hb c (List.mem_reverse.1 hc)
  rw [List.append_assoc, trimBoth, List.dropWhile_append_of_pos ha, List.dropWhile_append]
  split_ifs with h
  · rw [trimBoth, List.isEmpty_iff.1 h, List.dropWhile_eq_nil_iff.2 hb]
  · rw [trimBoth, List.reverse_append, List.dropWhile_append_of_pos hb']

theorem trimBoth_trimBoth (h : ∀ c, p c = true → q c = true) (s : List Char) :
    trimBoth q (trimBoth p s) = trimBoth q s := by
  obtain ⟨a, b, hs, ha, hb⟩ := exists_trimBoth p s
  conv => rhs; rw [hs]
  exact (trimBoth_append (fun c hc => h c (ha c hc)) (fun c hc => h c (hb c hc)) _).symm

theorem isBlank_of_isNumeralBlank {c : Char} (h : isNumeralBlank c = true) : isBlank c = true := by
  simp only [isNumeralBlank, Bool.or_eq_true, Bool.and_eq_true, beq_iff_eq, decide_eq_true_eq] at h
  rcases h with (rfl | h) | h
  · decide
  · simp only [isBlank, within, blanks, List.any_cons, Bool.or_eq_true, Bool.and_eq_true, decide_eq_true_eq]
    exact .inl h
  · exact h.2

/-- All that is trimmed off a numeral would be stripped off. -/
theorem strip_trimBoth (s : List Char) : strip (trimBoth isNumeralBlank s) = strip s :=
  trimBoth_trimBoth (fun _ => isBlank_of_isNumeralBlank) s

theorem strip_eq_self (h : ∀ c ∈ s, isBlank c = false) : strip s = s := trimBoth_eq_self h

end TypedScalar.Text
