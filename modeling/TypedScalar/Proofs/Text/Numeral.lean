import TypedScalar.Proofs.Text.Blank
import TypedScalar.Proofs.Text.Written

/-! What the reader of numerals takes from a text. A decimal has no blank in it,
and where no underscore joins its digits it is one for the plain reader as well. -/

namespace TypedScalar.Text

variable {s : List Char} {c : Char}

theorem isBlank_of_isDigit (h : isDigit c = true) : isBlank c = false := by
  have hzeros : ∀ z ∈ zeros, ∀ b ∈ blanks, z + 10 ≤ b.1 ∨ b.2 < z := by decide
  rw [isDigit, digitValue?, Option.isSome_map, List.find?_isSome] at h
  obtain ⟨z, hz, hc⟩ := h
  rw [Bool.and_eq_true, decide_eq_true_eq, decide_eq_true_eq] at hc
  refine List.any_eq_false.2 fun b hb => ?_
  have := hzeros z hz b hb
  simp only [Bool.and_eq_true, decide_eq_true_eq]
  omega

/-- Nothing, a minus or a plus. -/
def IsSign (s : List Char) : Prop := s = [] ∨ s = ['-'] ∨ s = ['+']

theorem IsSign.mem (h : IsSign s) (hc : c ∈ s) : c = '-' ∨ c = '+' := by
  rcases h with rfl | rfl | rfl
  · exact absurd hc List.not_mem_nil
  · exact .inl (List.mem_singleton.1 hc)
  · exact .inr (List.mem_singleton.1 hc)

theorem IsSign.isBlank (h : IsSign s) (hc : c ∈ s) : isBlank c = false := by
  rcases h.mem hc with rfl | rfl <;> decide

theorem exists_takeSign (s : List Char) : ∃ sign, s = sign ++ (takeSign s).2 ∧ IsSign sign := by
  unfold takeSign
  split
  · exact ⟨['-'], rfl, .inr (.inl rfl)⟩
  · exact ⟨['+'], rfl, .inr (.inr rfl)⟩
  · exact ⟨[], rfl, .inl rfl⟩

theorem mem_takeSign (h : c ∈ s) : c ∈ (takeSign s).2 ∨ c = '-' ∨ c = '+' := by
  obtain ⟨sign, hs, hsign⟩ := exists_takeSign s
  rw [hs, List.mem_append] at h
  rcases h with h | h
  · exact .inr (hsign.mem h)
  · exact .inl h

theorem mem_of_mem_takeSign (h : c ∈ (takeSign s).2) : c ∈ s := by
  obtain ⟨sign, hs, -⟩ := exists_takeSign s
  rw [hs]
  exact List.mem_append_right _ h

/-! ### The characters of a decimal -/

/-- What may stand inside a run of digits. -/
def Joinable (c : Char) : Prop := isDigit c = true ∨ c = '_'

theorem mem_joinedDigits (h : c ∈ s) : c ∈ (joinedDigits s).2 ∨ Joinable c := by
  induction s using joinedDigits.induct with
  | case1 => simp at h
  | case2 d rest n hd ds tail hrest ih =>
    simp only [joinedDigits, hd]
    rcases List.mem_cons.1 h with rfl | h
    · exact .inr (.inr rfl)
    · rcases List.mem_cons.1 h with rfl | h
      · exact .inr (.inl (by simp [isDigit, hd]))
      · exact ih h
  | case3 d rest hd =>
    simp only [joinedDigits, hd]
    exact .inl h
  | case4 d rest hne n hd ds tail hrest ih =>
    rw [joinedDigits.eq_3 _ _ hne, hd]
    rcases List.mem_cons.1 h with rfl | h
    · exact .inr (.inl (by simp [isDigit, hd]))
    · exact ih h
  | case5 d rest hne hd =>
    rw [joinedDigits.eq_3 _ _ hne, hd]
    exact .inl h

theorem mem_joinedRun (h : c ∈ s) : c ∈ (joinedRun s).2 ∨ Joinable c := by
  cases s with
  | nil => simp at h
  | cons d rest =>
    rw [joinedRun]
    cases hd : digitValue? d with
    | none => exact .inl h
    | some n =>
      rcases List.mem_cons.1 h with rfl | h
      · exact .inr (.inl (by simp [isDigit, hd]))
      · exact mem_joinedDigits h

/-- A decimal is made of digits, underscores, points, exponent letters and signs. -/
theorem mem_decimal? {x : ℕ × ℤ} (h : decimal? joinedRun s = some x) (hc : c ∈ s) :
    Joinable c ∨ c ∈ ['.', 'e', 'E', '-', '+'] := by
  rw [decimal?] at h
  dsimp only at h
  split_ifs at h with hempty
  obtain ⟨e, he, -⟩ := Option.map_eq_some_iff.1 h
  have hfraction : ∀ t, c ∈ t → c ∈ (fractionPart joinedRun t).2 ∨ Joinable c ∨ c = '.' := by
    intro t ht
    unfold fractionPart
    split
    · rcases List.mem_cons.1 ht with rfl | ht
      · exact .inr (.inr rfl)
      · exact (mem_joinedRun ht).imp id .inl
    · exact .inl ht
  have hexponent : ∀ t e, exponentPart? joinedRun t = some e → c ∈ t →
      Joinable c ∨ c ∈ ['e', 'E', '-', '+'] := by
    intro t e he ht
    cases t with
    | nil => simp at ht
    | cons d rest =>
      rw [exponentPart?] at he
      split_ifs at he with hd
      dsimp only at he
      rcases List.mem_cons.1 ht with rfl | ht
      · exact .inr (by rcases hd with rfl | rfl <;> simp)
      · rcases mem_takeSign ht with hbody | rfl | rfl
        · rcases mem_joinedRun hbody with hrest | hj
          · split at he
            · next hread => simp [hread] at hrest
            · simp at he
          · exact .inl hj
        · exact .inr (by simp)
        · exact .inr (by simp)
  rcases mem_joinedRun hc with h₁ | h₁
  · rcases hfraction _ h₁ with h₂ | h₂ | rfl
    · exact (hexponent _ _ he h₂).imp id (List.mem_cons_of_mem _)
    · exact .inl h₂
    · exact .inr (by simp)
  · exact .inl h₁

theorem isBlank_of_decimal? {x : ℕ × ℤ} (h : decimal? joinedRun s = some x) (hc : c ∈ s) :
    isBlank c = false := by
  rcases mem_decimal? h hc with (hd | rfl) | hc
  · exact isBlank_of_isDigit hd
  · decide
  · simp only [List.mem_cons, List.not_mem_nil, or_false] at hc
    rcases hc with rfl | rfl | rfl | rfl | rfl <;> decide

/-! ### Decimals without underscores -/

theorem plainRun_suffix (s : List Char) : (plainRun s).2 <:+ s := by
  induction s with
  | nil => exact List.suffix_rfl
  | cons c rest ih =>
    rw [plainRun]
    split
    · exact ih.trans (List.suffix_cons c rest)
    · exact List.suffix_rfl

theorem joinedDigits_eq (h : '_' ∉ s) : joinedDigits s = plainRun s := by
  induction s with
  | nil => rfl
  | cons c rest ih =>
    rw [List.mem_cons, not_or] at h
    rw [joinedDigits.eq_3 _ _ fun _ _ hc _ => h.1 hc.symm, plainRun, ih h.2]

theorem joinedRun_eq (h : '_' ∉ s) : joinedRun s = plainRun s := by
  cases s with
  | nil => rfl
  | cons c rest => rw [joinedRun, plainRun, joinedDigits_eq fun hmem => h (List.mem_cons_of_mem c hmem)]

/-- Without underscores, the two readers agree. -/
theorem decimal?_joinedRun (h : '_' ∉ s) : decimal? joinedRun s = decimal? plainRun s := by
  have hwhole : '_' ∉ (plainRun s).2 := fun hmem => h ((plainRun_suffix s).subset hmem)
  have hfraction : ∀ t, '_' ∉ t → fractionPart joinedRun t = fractionPart plainRun t ∧
      '_' ∉ (fractionPart plainRun t).2 := by
    intro t ht
    unfold fractionPart
    split
    · next rest =>
      have hrest : '_' ∉ rest := fun hmem => ht (List.mem_cons_of_mem _ hmem)
      exact ⟨joinedRun_eq hrest, fun hmem => hrest ((plainRun_suffix rest).subset hmem)⟩
    · exact ⟨rfl, ht⟩
  have hexponent : ∀ t, '_' ∉ t → exponentPart? joinedRun t = exponentPart? plainRun t := by
    intro t ht
    cases t with
    | nil => rfl
    | cons c rest =>
      have hbody : '_' ∉ (takeSign rest).2 := fun hmem =>
        ht (List.mem_cons_of_mem c (mem_of_mem_takeSign hmem))
      simp only [exponentPart?, joinedRun_eq hbody]
  simp only [decimal?, joinedRun_eq h, (hfraction _ hwhole).1, hexponent _ (hfraction _ hwhole).2]

end TypedScalar.Text
