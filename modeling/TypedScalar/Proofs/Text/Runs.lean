import TypedScalar.Proofs.Text.Digits

/-! Runs of digits, which single underscores may join. The reader takes the longest run it finds at the front
of a text; so it takes a run as a whole that no digit and no underscore follows, and whatever it takes is a
run. -/

namespace TypedScalar.Text

variable {s rest : List Char} {ds : List ℕ} {c : Char}

/-- No digit and no joint of digits is next. -/
def Stops (s : List Char) : Prop := ∀ c ∈ s.head?, digitValue? c = none ∧ c ≠ '_'

theorem stops_nil : Stops [] := by simp [Stops]

theorem stops_cons {c : Char} (s : List Char) (h : digitValue? c = none) (h' : c ≠ '_') :
    Stops (c :: s) := by
  simpa [Stops] using ⟨h, h'⟩

/-- Digits of any script, each of which may have an underscore before it. -/
inductive Joined : List Char → List ℕ → Prop
  | nil : Joined [] []
  | digit {c : Char} {d : ℕ} {s : List Char} {ds : List ℕ} (hc : digitValue? c = some d) (h : Joined s ds) :
    Joined (c :: s) (d :: ds)
  | joined {c : Char} {d : ℕ} {s : List Char} {ds : List ℕ} (hc : digitValue? c = some d) (h : Joined s ds) :
    Joined ('_' :: c :: s) (d :: ds)

/-- A digit, and more of them joined to it. -/
inductive DigitRun : List Char → List ℕ → Prop
  | intro {c : Char} {d : ℕ} {s : List Char} {ds : List ℕ} (hc : digitValue? c = some d) (h : Joined s ds) :
    DigitRun (c :: s) (d :: ds)

/-! ### Behind the first digit -/

theorem joinedDigits_cons (hne : c ≠ '_') (s : List Char) :
    joinedDigits (c :: s) =
      match digitValue? c with
      | some d => (d :: (joinedDigits s).1, (joinedDigits s).2)
      | none => ([], c :: s) :=
  joinedDigits.eq_3 _ _ fun _ _ hc _ => hne hc

theorem ne_of_digitValue? {d : ℕ} (h : digitValue? c = some d) {c' : Char} (hc : digitValue? c' = none) :
    c ≠ c' := by
  rintro rfl
  cases h.symm.trans hc

theorem joinedDigits_of_stops (h : Stops rest) : joinedDigits rest = ([], rest) := by
  cases rest with
  | nil => rfl
  | cons c rest => rw [joinedDigits_cons (h c rfl).2, (h c rfl).1]

theorem Joined.joinedDigits_append (h : Joined s ds) (hrest : Stops rest) :
    joinedDigits (s ++ rest) = (ds, rest) := by
  induction h with
  | nil => exact joinedDigits_of_stops hrest
  | digit hc h ih => rw [List.cons_append, joinedDigits_cons (ne_of_digitValue? hc (by decide)), hc, ih]
  | joined hc h ih => rw [List.cons_append, List.cons_append, joinedDigits, hc, ih]

theorem exists_joined (s : List Char) : ∃ p, s = p ++ (joinedDigits s).2 ∧ Joined p (joinedDigits s).1 := by
  induction s using joinedDigits.induct with
  | case1 => exact ⟨[], rfl, .nil⟩
  | case2 d rest n hd ds tail hrest ih =>
    obtain ⟨p, hp, hjoined⟩ := ih
    simp only [joinedDigits, hd]
    exact ⟨'_' :: d :: p, by rw [List.cons_append, List.cons_append, ← hp], .joined hd hjoined⟩
  | case3 d rest hd =>
    simp only [joinedDigits, hd]
    exact ⟨[], rfl, .nil⟩
  | case4 d rest hne n hd ds tail hrest ih =>
    obtain ⟨p, hp, hjoined⟩ := ih
    rw [joinedDigits.eq_3 _ _ hne, hd]
    exact ⟨d :: p, congrArg (d :: ·) hp, .digit hd hjoined⟩
  | case5 d rest hne hd =>
    rw [joinedDigits.eq_3 _ _ hne, hd]
    exact ⟨[], rfl, .nil⟩

/-! ### Whole runs -/

theorem joinedRun_of_stops (h : Stops rest) : joinedRun rest = ([], rest) := by
  cases rest with
  | nil => rfl
  | cons c rest => rw [joinedRun, (h c rfl).1]

theorem DigitRun.joinedRun_append (h : DigitRun s ds) (hrest : Stops rest) :
    joinedRun (s ++ rest) = (ds, rest) := by
  cases h with
  | intro hc h => rw [List.cons_append, joinedRun, hc, h.joinedDigits_append hrest]

theorem DigitRun.ne_nil (h : DigitRun s ds) : ds ≠ [] := by
  cases h with
  | intro hc h => exact List.cons_ne_nil _ _

/-- What is read is nothing, or a run. -/
theorem joinedRun_cases (s : List Char) :
    joinedRun s = ([], s) ∨ ∃ p, s = p ++ (joinedRun s).2 ∧ DigitRun p (joinedRun s).1 := by
  cases s with
  | nil => exact .inl rfl
  | cons c rest =>
    rw [joinedRun]
    cases hc : digitValue? c with
    | none => exact .inl rfl
    | some d =>
      obtain ⟨p, hp, hjoined⟩ := exists_joined rest
      exact .inr ⟨c :: p, congrArg (c :: ·) hp, .intro hc hjoined⟩

/-! ### ASCII -/

variable {ascii : List Char}

theorem joined_of_isAsciiDigit (h : ∀ c ∈ ascii, isAsciiDigit c = true) :
    Joined ascii (ascii.map asciiDigitValue) := by
  induction ascii with
  | nil => exact .nil
  | cons c ascii ih =>
    rw [List.forall_mem_cons] at h
    exact .digit (digitValue?_of_isAsciiDigit h.1) (ih h.2)

theorem digitRun_of_isAsciiDigit (h : ∀ c ∈ ascii, isAsciiDigit c = true) (hne : ascii ≠ []) :
    DigitRun ascii (ascii.map asciiDigitValue) := by
  obtain ⟨c, rest, rfl⟩ := List.exists_cons_of_ne_nil hne
  rw [List.forall_mem_cons] at h
  exact .intro (digitValue?_of_isAsciiDigit h.1) (joined_of_isAsciiDigit h.2)

end TypedScalar.Text
