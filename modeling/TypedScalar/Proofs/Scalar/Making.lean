import TypedScalar.Proofs.Scalar.Exact
import TypedScalar.Proofs.Value.Shown

/-! What classes make of values. A class takes a value, or refuses it for its type or its
range; in particular an integer class takes the integers within its bounds and nothing
else. This fails in two ways. A refusal that would show what cannot be shown goes wrong
itself. And durations, whose machine type is one of integers, are not told apart
from integers before they are converted, which most of them do not survive. -/

namespace TypedScalar

namespace Value

/-- The values that are integers, of a machine type or plain ones. -/
inductive IsInteger : Value → ℤ → Prop
  | plain (n : ℤ) : IsInteger (.integer n) n
  | machine (k : IntegerKind) (n : k.Value) : IsInteger (.machine (.integer k n)) n.val

theorem isInteger_iff {v : Value} {n : ℤ} : v.IsInteger n ↔ v.integer? = some n := by
  constructor
  · intro h
    cases h <;> rfl
  · intro h
    unfold integer? at h
    split at h
    · obtain rfl := Option.some.inj h
      exact .plain _
    · obtain rfl := Option.some.inj h
      exact .machine _ _
    · simp at h

def IsDuration (v : Value) : Prop := ∃ seconds, v = .machine (.duration seconds)

end Value

/-- Whether a number of seconds is a span of time, which is one of less than a billion
days, or no time at all. -/
def IsTime (seconds : ℤ) : Prop :=
  seconds = Machine.notATime ∨ -(10 ^ 9 - 1) * 86400 ≤ seconds ∧ seconds < 10 ^ 9 * 86400

theorem isSpan_iff {seconds : ℤ} :
    isSpan seconds = true ↔ -(10 ^ 9 - 1) * 86400 ≤ seconds ∧ seconds < 10 ^ 9 * 86400 := by
  rw [isSpan, decide_eq_true_eq, Int.fdiv_eq_ediv_of_nonneg _ (by norm_num)]
  omega

/-- Only what is no time counts as a number. -/
theorem Kind.durationType?_eq_none_iff {seconds : ℤ} : durationType? seconds = none ↔ ¬ IsTime seconds := by
  rw [durationType?, IsTime, ← isSpan_iff]
  split_ifs <;> simp [*]

/-- Whether a class of a kind fails to refuse a value that is no duration. -/
def Kind.Mishandles : Kind → Value → Prop
  | .null, v => v.Unshowable
  | .integer _, v | .floating _, v => ∃ n, v.IsInteger n ∧ IsLong n
  | _, _ => False

/-- Whether an error is one by which a class refuses a value. -/
def Error.Refuses (err : Error) : Prop := err.errorClass = .scalarType ∨ err.errorClass = .scalarRange

/-- What is taken or else refused, unless it goes astray. -/
inductive Taken {α : Type} (astray : Prop) : Except Error α → Prop
  | ok (h : ¬ astray) (x : α) : Taken astray (.ok x)
  | refused (h : ¬ astray) {err : Error} (herr : err.Refuses) : Taken astray (.error err)
  | astray (h : astray) {err : Error} (herr : ¬ err.Refuses) : Taken astray (.error err)

/-- A refusal that shows what may have no text. -/
theorem OkUnless.refusal {α : Type} {fault : Error → Prop} {x : Except Error String} (h : OkUnless fault x)
    (hfault : ∀ err, fault err → ¬ err.Refuses) {refusal : String → Error} (herr : ∀ s, (refusal s).Refuses) :
    Taken (∃ err, fault err) (x.bind fun s => .error (refusal s) : Except Error α) := by
  cases h with
  | ok h s => exact .refused (not_exists.2 h) (herr s)
  | error h => exact .astray ⟨_, h⟩ (hfault _ h)

/-- A refusal that shows an integer. -/
theorem taken_refuseInteger {α : Type} (n : ℤ) {refusal : String → Error} (herr : ∀ s, (refusal s).Refuses) :
    Taken (IsLong n) ((integerText n).bind fun s => .error (refusal s) : Except Error α) := by
  rw [← exists_tooLong_iff]
  refine (okUnless_integerText n).refusal ?_ herr
  rintro _ ⟨-, rfl⟩
  simp [Error.Refuses, Error.errorClass]

/-! ### Numbers -/

theorem IsLong.two_pow_le {n : ℤ} (h : IsLong n) : 2 ^ 64 ≤ n.natAbs :=
  calc 2 ^ 64 ≤ 10 ^ 64 := Nat.pow_le_pow_left (by norm_num) 64
    _ ≤ 10 ^ Text.digitLimit := Nat.pow_le_pow_right (by norm_num) (by decide)
    _ ≤ n.natAbs := h

theorem IsLong.not_mem_bounds {n : ℤ} (h : IsLong n) (k : IntegerKind) : ¬(k.min ≤ n ∧ n ≤ k.max) :=
  fun hn => (k.natAbs_lt hn).not_ge h.two_pow_le

theorem IsLong.isInfinite {n : ℤ} (h : IsLong n) : (Floating.Number.ofInt .double n).isInfinite = true := by
  have hspan : Floating.Number.decimalSpan .double ≤ Text.digitLimit := by decide
  rw [Floating.Number.ofInt_of_le ((Nat.pow_le_pow_right (by norm_num) hspan).trans h)]
  exact Floating.Number.isInfinite_iff.2 ⟨_, rfl⟩

namespace Kind

variable {v : Value}

theorem takeInteger_eq (hv : ¬ v.IsDuration) (className : String) :
    takeInteger className v =
      match v.integer? with
      | some n => .ok n
      | none => .error (.unaccepted className "an integer" v.typeName) := by
  unfold takeInteger
  split
  · exact absurd ⟨_, rfl⟩ hv
  · rfl

theorem acceptDouble_eq (hv : ¬ v.IsDuration) (k : FloatingKind) (className : String) :
    acceptDouble k className v =
      match v.integer?, v.real? with
      | some n, _ =>
        if (Floating.Number.ofInt .double n).isInfinite then
          (integerText n).bind fun s => .error (.range (.real s k))
        else .ok (.ofInt .double n)
      | none, some x => .ok x
      | none, none => .error (.unaccepted className "a number" v.typeName) := by
  unfold acceptDouble
  split
  · exact absurd ⟨_, rfl⟩ hv
  · rfl

theorem mishandles_iff {k : Kind} (hk : k.isNumeric = true) {n : ℤ} (hn : v.integer? = some n) :
    k.Mishandles v ↔ IsLong n := by
  obtain ⟨i, rfl⟩ | ⟨f, rfl⟩ := isNumeric_iff.1 hk <;> simp [Mishandles, Value.isInteger_iff, hn]

theorem not_mishandles {k : Kind} (hk : k.isNumeric = true) (hn : v.integer? = none) : ¬ k.Mishandles v := by
  obtain ⟨i, rfl⟩ | ⟨f, rfl⟩ := isNumeric_iff.1 hk <;> simp [Mishandles, Value.isInteger_iff, hn]

theorem taken_acceptInteger (hv : ¬ v.IsDuration) (i : IntegerKind) (className : String) :
    Taken ((Kind.integer i).Mishandles v) (acceptInteger i className v) := by
  rw [acceptInteger, takeInteger_eq hv]
  cases hn : v.integer? with
  | none => exact .refused (not_mishandles rfl hn) (.inl rfl)
  | some n =>
    rw [mishandles_iff rfl hn]
    show Taken (IsLong n) (dite _ _ _)
    split_ifs with hbounds
    · exact .ok (fun h => h.not_mem_bounds i hbounds) _
    · exact taken_refuseInteger n fun _ => .inr rfl

theorem taken_acceptDouble (hv : ¬ v.IsDuration) (f : FloatingKind) (className : String) :
    Taken ((Kind.floating f).Mishandles v) (acceptDouble f className v) := by
  rw [acceptDouble_eq hv]
  cases hn : v.integer? with
  | none =>
    cases v.real? with
    | none => exact .refused (not_mishandles rfl hn) (.inl rfl)
    | some x => exact .ok (not_mishandles rfl hn) x
  | some n =>
    rw [mishandles_iff rfl hn]
    dsimp only
    split_ifs with hinfinite
    · exact taken_refuseInteger n fun _ => .inr rfl
    · exact .ok (fun h => hinfinite h.isInfinite) _

theorem taken_acceptFloating (hv : ¬ v.IsDuration) (f : FloatingKind) (className : String) :
    Taken ((Kind.floating f).Mishandles v) (acceptFloating f className v) := by
  have h := taken_acceptDouble hv f className
  rw [acceptFloating]
  generalize acceptDouble f className v = x at h ⊢
  cases h with
  | ok h x =>
    simp only [Except.bind]
    split_ifs
    · exact .refused h (.inr rfl)
    · exact .ok h _
  | refused h herr => exact .refused h herr
  | astray h herr => exact .astray h herr

/-- A class takes a value, or refuses it, unless it mishandles it. Numeric classes may do
otherwise with durations. -/
theorem taken_accept {k : Kind} (hv : v.IsDuration → k.isNumeric = false) (r : Rendering) (className : String) :
    Taken (k.Mishandles v) (k.accept r className v) := by
  cases k with
  | null =>
    refine (Value.okUnless_shown r v).refusal (fun err hfault => ?_) fun _ => .inl rfl
    rcases hfault.errorClass_eq with herr | herr <;> simp [Error.Refuses, herr]
  | boolean | string | binary =>
    simp only [accept]
    split
    · exact .ok id _
    · exact .refused id (.inl rfl)
  | integer i => exact taken_acceptInteger (fun h => Bool.noConfusion (hv h)) i className
  | floating f => exact taken_acceptFloating (fun h => Bool.noConfusion (hv h)) f className

end Kind

/-! ### Durations -/

/-- What numeric classes make of a duration. They never refuse it for its type. -/
inductive DurationTaken {α : Type} (seconds : ℤ) : Except Error α → Prop
  | ok (h : ¬ IsTime seconds) (x : α) : DurationTaken seconds (.ok x)
  | beyond (h : ¬ IsTime seconds) {err : Error} (herr : err.errorClass = .scalarRange) :
    DurationTaken seconds (.error err)
  | unconverted (h : IsTime seconds) {err : Error} (herr : err.errorClass = .type) :
    DurationTaken seconds (.error err)

namespace Kind

variable {k : Kind} {seconds : ℤ}

theorem durationTaken_accept (hk : k.isNumeric = true) (hbits : seconds.natAbs ≤ 2 ^ 63) (r : Rendering)
    (className : String) : DurationTaken seconds (k.accept r className (.machine (.duration seconds))) := by
  have hlong : ¬ IsLong seconds := fun h => absurd (h.two_pow_le.trans hbits) (by norm_num)
  cases htype : durationType? seconds with
  | some typeName =>
    have htime : IsTime seconds := by
      by_contra h
      rw [← durationType?_eq_none_iff, htype] at h
      simp at h
    obtain ⟨i, rfl⟩ | ⟨f, rfl⟩ := isNumeric_iff.1 hk
    · simp only [accept, acceptInteger, takeInteger, htype]
      exact .unconverted htime rfl
    · simp only [accept, acceptFloating, acceptDouble, htype]
      exact .unconverted htime rfl
  | none =>
    have htime : ¬ IsTime seconds := durationType?_eq_none_iff.1 htype
    obtain ⟨i, rfl⟩ | ⟨f, rfl⟩ := isNumeric_iff.1 hk
    · have htext := okUnless_integerText seconds
      simp only [accept, acceptInteger, takeInteger, htype, Except.bind]
      split_ifs
      · exact .ok htime _
      · generalize integerText seconds = x at htext ⊢
        cases htext with
        | ok => exact .beyond htime rfl
        | error h => exact absurd h.1 hlong
    · simp only [accept, acceptFloating, acceptDouble, htype, Except.bind]
      split_ifs
      · exact .beyond htime rfl
      · exact .ok htime _

end Kind

/-! ### Scalars -/

namespace Value

variable {v : Value} {n m : ℤ}

theorem isNone_iff : v.isNone = true ↔ v = none := by
  cases v <;> simp [isNone]

theorem IsInteger.unique (h : v.IsInteger n) (h' : v.IsInteger m) : n = m := by
  rw [isInteger_iff] at h h'
  exact Option.some.inj (h.symm.trans h')

theorem not_isInteger_none : ¬ none.IsInteger n := by
  rintro ⟨⟩

end Value

theorem Kind.not_mishandles_none (k : Kind) : ¬ k.Mishandles .none := by
  have hshowable : ¬ Value.none.Unshowable := Value.not_unshowable rfl (by simp)
  cases k <;> simp [Mishandles, hshowable, Value.not_isInteger_none]

namespace Scalar

variable {r : Rendering} {c : ScalarClass} {k : Kind} {i : IntegerKind} {v : Value}

/-- Whether a value has become a scalar, a null only if it is nothing, or was refused. -/
def Settles (v : Value) : Except Error Scalar → Prop
  | .ok s => s.isValid = false ↔ v = .none
  | .error err => err.Refuses

theorem settles_make_of_none (hc : c.kind? = some k) : Settles .none (make r c .none) := by
  rw [make_eq hc]
  exact iff_of_true rfl rfl

theorem make_of_ne_none (hc : c.kind? = some k) (hv : v ≠ .none) :
    make r c v = (k.accept r c.name v).map fun p => ⟨c, k, hc, some p⟩ := by
  rw [make_eq hc, if_neg (mt Value.isNone_iff.1 hv)]

theorem settles_make_iff (hc : c.kind? = some k) (hv : v ≠ .none) {astray : Prop}
    (h : Taken astray (k.accept r c.name v)) : Settles v (make r c v) ↔ ¬ astray := by
  rw [make_of_ne_none hc hv]
  generalize k.accept r c.name v = x at h ⊢
  cases h with
  | ok h p => simpa [Settles, Except.map, isValid, hv] using h
  | refused h herr => exact iff_of_true herr h
  | astray h herr => exact iff_of_false herr (not_not.2 h)

/-- What an integer class makes of a value that is no duration. -/
inductive MakesInteger (i : IntegerKind) (v : Value) : Except Error Scalar → Prop
  | null (hv : v = .none) {s : Scalar} (hs : s.isValid = false) : MakesInteger i v (.ok s)
  | taken {n : ℤ} (hv : v.IsInteger n) (hn : i.min ≤ n ∧ n ≤ i.max) {s : Scalar} (hs : s.isValid = true)
    (hvalue : s.exactValue? = some (n : ℚ)) : MakesInteger i v (.ok s)
  | beyond {n : ℤ} (hv : v.IsInteger n) (hn : ¬(i.min ≤ n ∧ n ≤ i.max)) (hlong : ¬ IsLong n) {err : Error}
    (herr : err.errorClass = .scalarRange) : MakesInteger i v (.error err)
  | tooLong {n : ℤ} (hv : v.IsInteger n) (hlong : IsLong n) {err : Error} (herr : err.errorClass = .value) :
    MakesInteger i v (.error err)
  | refused (hv : ∀ n, ¬ v.IsInteger n) {err : Error} (herr : err.errorClass = .scalarType) :
    MakesInteger i v (.error err)

theorem makesInteger_make (hc : c.kind? = some (.integer i)) (hv : ¬ v.IsDuration) :
    MakesInteger i v (make r c v) := by
  rcases eq_or_ne v .none with rfl | hnone
  · rw [make_eq hc]
    exact .null rfl rfl
  have haccept : Kind.accept r c.name (.integer i) v = Kind.acceptInteger i c.name v := rfl
  rw [make_of_ne_none hc hnone, haccept, Kind.acceptInteger, Kind.takeInteger_eq hv]
  cases hinteger : v.integer? with
  | none => exact .refused (by simp [Value.isInteger_iff, hinteger]) rfl
  | some n =>
    have hn : v.IsInteger n := Value.isInteger_iff.2 hinteger
    simp only [Except.bind]
    split_ifs with hbounds
    · exact .taken hn hbounds rfl rfl
    · have htext := okUnless_integerText n
      generalize integerText n = x at htext ⊢
      cases htext with
      | ok hshort => exact .beyond hn hbounds (fun hlong => hshort _ ⟨hlong, rfl⟩) rfl
      | error hfault =>
        obtain ⟨hlong, rfl⟩ := hfault
        exact .tooLong hn hlong rfl

namespace MakesInteger

variable {x : Except Error Scalar}

theorem isValid_iff (h : MakesInteger i v x) :
    (∃ s, x = .ok s ∧ s.isValid = true) ↔ ∃ n, v.IsInteger n ∧ i.min ≤ n ∧ n ≤ i.max := by
  cases h with
  | null hv hs =>
    subst hv
    exact iff_of_false (by simp [hs]) (by simp [Value.not_isInteger_none])
  | taken hv hn hs hvalue => exact iff_of_true ⟨_, rfl, hs⟩ ⟨_, hv, hn⟩
  | beyond hv hn hlong herr =>
    refine iff_of_false (by simp) ?_
    rintro ⟨m, hm, hbounds⟩
    exact hn (hv.unique hm ▸ hbounds)
  | tooLong hv hlong herr =>
    refine iff_of_false (by simp) ?_
    rintro ⟨m, hm, hbounds⟩
    exact hlong.not_mem_bounds i (hv.unique hm ▸ hbounds)
  | refused hv herr => simp [hv]

theorem exactValue?_eq (h : MakesInteger i v x) {s : Scalar} (hs : x = .ok s) {n : ℤ} (hn : v.IsInteger n) :
    s.exactValue? = some (n : ℚ) := by
  cases h with
  | null hv =>
    subst hv
    exact absurd hn Value.not_isInteger_none
  | taken hv _ _ hvalue =>
    obtain rfl := Except.ok.inj hs
    rw [hvalue, hv.unique hn]
  | _ => simp at hs

theorem scalarRange_iff (h : MakesInteger i v x) :
    (∃ err, x = .error err ∧ err.errorClass = .scalarRange) ↔
      ∃ n, v.IsInteger n ∧ ¬(i.min ≤ n ∧ n ≤ i.max) ∧ ¬ IsLong n := by
  cases h with
  | null hv =>
    subst hv
    simp [Value.not_isInteger_none]
  | taken hv hn =>
    refine iff_of_false (by simp) ?_
    rintro ⟨m, hm, hbounds, -⟩
    exact hbounds (hv.unique hm ▸ hn)
  | beyond hv hn hlong herr => exact iff_of_true ⟨_, rfl, herr⟩ ⟨_, hv, hn, hlong⟩
  | tooLong hv hlong herr =>
    refine iff_of_false (by simp [herr]) ?_
    rintro ⟨m, hm, -, hshort⟩
    exact hshort (hv.unique hm ▸ hlong)
  | refused hv herr => simp [hv, herr]

end MakesInteger

/-- A class makes a scalar of a value that is no duration, a null only of nothing, or refuses
it for its type or its range, unless it mishandles it; and an integer class makes a valid
scalar exactly of the integers within its bounds, each with its value, and refuses those
beyond the bounds as such. A numeric class settles a duration only if this is no
time, and never refuses it for its type. -/
theorem make_settles (hc : c.kind? = some k) (v : Value) :
    let x := make r c v
    ((v.IsDuration → k.isNumeric = false) → (Settles v x ↔ ¬ k.Mishandles v)) ∧
    (∀ i, k = .integer i → ¬ v.IsDuration →
      ((∃ s, x = .ok s ∧ s.isValid = true) ↔ ∃ n, v.IsInteger n ∧ i.min ≤ n ∧ n ≤ i.max) ∧
      (∀ s n, x = .ok s → v.IsInteger n → s.exactValue? = some (n : ℚ)) ∧
      ((∃ err, x = .error err ∧ err.errorClass = .scalarRange) ↔
        ∃ n, v.IsInteger n ∧ ¬(i.min ≤ n ∧ n ≤ i.max) ∧ ¬ IsLong n)) ∧
    ∀ seconds, v = .machine (.duration seconds) → seconds.natAbs ≤ 2 ^ 63 → k.isNumeric = true →
      (Settles v x ↔ ¬ IsTime seconds) ∧ ∀ err, x = .error err → err.errorClass ≠ .scalarType := by
  intro x
  refine ⟨fun hv => ?_, fun i hi hv => ?_, fun seconds hseconds hbits hk => ?_⟩
  · rcases eq_or_ne v .none with rfl | hnone
    · exact iff_of_true (settles_make_of_none hc) k.not_mishandles_none
    · exact settles_make_iff hc hnone (Kind.taken_accept hv r c.name)
  · subst hi
    have h := makesInteger_make (r := r) hc hv
    exact ⟨h.isValid_iff, fun s n hs hn => h.exactValue?_eq hs hn, h.scalarRange_iff⟩
  · subst hseconds
    have hmake : x = _ := make_of_ne_none hc (by simp)
    have haccept := Kind.durationTaken_accept hk hbits r c.name
    rw [hmake]
    generalize k.accept r c.name _ = y at haccept ⊢
    cases haccept with
    | ok h p => simpa [Settles, Except.map, isValid] using h
    | beyond h herr => simpa [Settles, Except.map, Error.Refuses, herr] using h
    | unconverted h herr => simpa [Settles, Except.map, Error.Refuses, herr] using h

/-- A duration of five seconds is neither taken nor refused by an integer class, and nor is
the least integer that is too long to be shown. -/
theorem make_settles_duration :
    let int64 : ScalarClass := .concrete (.integer ⟨true, .w64⟩)
    let r : Rendering := ⟨"null", true⟩
    let long : Value := .integer (10 ^ Text.digitLimit)
    ¬ Settles (.machine (.duration 5)) (make r int64 (.machine (.duration 5))) ∧
      ¬ Settles long (make r int64 long) := by
  intro int64 r long
  have hduration := (make_settles (r := r) (c := int64) rfl (.machine (.duration 5))).2.2 5 rfl (by decide) rfl
  have hlong := (make_settles (r := r) (c := int64) rfl long).1 (by simp [Value.IsDuration, long])
  have htime : IsTime 5 := .inr ⟨by norm_num, by norm_num⟩
  have hmishandles : (Kind.integer ⟨true, .w64⟩).Mishandles long :=
    ⟨_, .plain _, by simp [IsLong, Int.natAbs_pow]⟩
  exact ⟨mt hduration.1.1 (not_not.2 htime), mt hlong.1 (not_not.2 hmishandles)⟩

end Scalar

end TypedScalar
