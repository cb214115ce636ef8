import TypedScalar.Proofs.Floating.Conversion
import TypedScalar.Value.Shown

/-! Which values can be shown. An integer of too many digits has no text, and a value is shown down to a
number of levels only. So a value that is shown with such an integer somewhere in it, or whose parts lie too
deep in it, cannot be shown; every other value can. -/

namespace TypedScalar

open Floating Text

variable {α β : Type}

theorem Floating.decimalLength_le_iff {n s : ℕ} (hs : 0 < s) : decimalLength n ≤ s ↔ n < 10 ^ s := by
  constructor
  · intro h
    exact (lt_pow_decimalLength n).trans_le (Nat.pow_le_pow_right (by norm_num) h)
  · intro h
    rcases Nat.eq_zero_or_pos n with rfl | hpos
    · rwa [decimalLength, dif_pos (by norm_num)]
    · have hlt := (Nat.pow_lt_pow_iff_right (by norm_num)).1 ((pow_decimalLength_le hpos).trans_lt h)
      omega

/-- Whether an integer has more digits than are ever written. -/
def IsLong (n : ℤ) : Prop := 10 ^ digitLimit ≤ n.natAbs

/-- The outcomes of what fails with one of the faults that there are, and only if there are any. -/
inductive OkUnless (fault : Error → Prop) : Except Error α → Prop
  | ok (h : ∀ err, ¬ fault err) (x : α) : OkUnless fault (.ok x)
  | error {err : Error} (h : fault err) : OkUnless fault (.error err)

namespace OkUnless

variable {fault fault' : Error → Prop} {x : Except Error α}

theorem congr (h : OkUnless fault x) (hiff : ∀ err, fault err ↔ fault' err) : OkUnless fault' x := by
  cases h with
  | ok h x => exact .ok (fun err hfault => h err ((hiff err).2 hfault)) x
  | error h => exact .error ((hiff _).1 h)

theorem map (h : OkUnless fault x) (f : α → β) : OkUnless fault (x.map f) := by
  cases h with
  | ok h x => exact .ok h (f x)
  | error h => exact .error h

theorem exists_ok (h : OkUnless fault x) (hnone : ¬ ∃ err, fault err) : ∃ y, x = .ok y := by
  cases h with
  | ok _ y => exact ⟨y, rfl⟩
  | error h => exact absurd ⟨_, h⟩ hnone

theorem bind (h : OkUnless fault x) {f : α → Except Error β} (hf : ∀ a, OkUnless fault' (f a)) :
    OkUnless (fun err => fault err ∨ fault' err) (x.bind f) := by
  cases h with
  | error h => exact .error (.inl h)
  | ok h a =>
    show OkUnless _ (f a)
    have hfa := hf a
    generalize f a = y at hfa ⊢
    cases hfa with
    | error h' => exact .error (.inr h')
    | ok h' b => exact .ok (fun err => not_or.2 ⟨h err, h' err⟩) b

end OkUnless

/-- Whether two computations fail with the same error, or both succeed. -/
inductive FailsAlike : Except Error α → Except Error β → Prop
  | ok (x : α) (y : β) : FailsAlike (.ok x) (.ok y)
  | error (err : Error) : FailsAlike (.error err) (.error err)

namespace FailsAlike

variable {γ δ : Type} {x : Except Error α} {y : Except Error β}

theorem refl (x : Except Error α) : FailsAlike x x := by
  cases x with
  | ok a => exact .ok a a
  | error err => exact .error err

theorem map (h : FailsAlike x y) (f : α → γ) (g : β → δ) : FailsAlike (x.map f) (y.map g) := by
  cases h with
  | ok a b => exact .ok (f a) (g b)
  | error err => exact .error err

theorem bind (h : FailsAlike x y) {f : α → Except Error γ} {g : β → Except Error δ}
    (hfg : ∀ a b, FailsAlike (f a) (g b)) : FailsAlike (x.bind f) (y.bind g) := by
  cases h with
  | ok a b => exact hfg a b
  | error err => exact .error err

theorem error_iff (h : FailsAlike x y) {err : Error} : x = .error err ↔ y = .error err := by
  cases h with
  | ok => exact iff_of_false nofun nofun
  | error err' => simp

end FailsAlike

theorem decimalLength_le_digitLimit_iff {n : ℤ} : decimalLength n.natAbs ≤ digitLimit ↔ ¬ IsLong n := by
  rw [decimalLength_le_iff (by decide), IsLong, not_le]

theorem integerText_of_not_isLong {n : ℤ} (h : ¬ IsLong n) : integerText n = .ok (toString n) :=
  if_pos (decimalLength_le_digitLimit_iff.2 h)

/-- What keeps an integer from having a text. -/
def TooLong (n : ℤ) (err : Error) : Prop := IsLong n ∧ err = .integerTextTooLong none

theorem exists_tooLong_iff {n : ℤ} : (∃ err, TooLong n err) ↔ IsLong n := by
  simp [TooLong]

theorem okUnless_integerText (n : ℤ) : OkUnless (TooLong n) (integerText n) := by
  rw [integerText]
  split_ifs with h
  · exact .ok (fun _ hlong => decimalLength_le_digitLimit_iff.1 h hlong.1) _
  · exact .error ⟨not_not.1 (mt decimalLength_le_digitLimit_iff.2 h), rfl⟩

namespace Value

/-- The values inside a value. -/
def parts : Value → List Value
  | list items | tuple items | set items => items
  | dictionary entries => entries.flatMap fun e => [e.1, e.2]
  | _ => []

/-- The number of levels from a value to its parts: a set shows them inside a list. -/
def ownLevels : Value → ℕ
  | set (_ :: _) => 2
  | _ => 1

/-- The values that are shown with a value, itself among them. -/
inductive Shows : Value → Value → Prop
  | self (v : Value) : Shows v v
  | part {v w u : Value} (hv : v ∈ w.parts) (h : Shows v u) : Shows w u

/-- Whether a value is shown with an integer of too many digits. -/
def ShowsLong (v : Value) : Prop := ∃ n, v.Shows (.integer n) ∧ IsLong n

/-- Whether a value, with what is shown with it, takes more than a number of levels. -/
inductive Exceeds : Value → ℕ → Prop
  | self {v : Value} {levels : ℕ} (h : levels < v.ownLevels) : Exceeds v levels
  | part {v w : Value} {levels : ℕ} (hv : v ∈ w.parts) (h : Exceeds v levels) :
    Exceeds w (levels + w.ownLevels)

/-- What keeps a value from being shown down to a number of levels. -/
inductive FaultWithin (levels : ℕ) (v : Value) : Error → Prop
  | tooLong (h : v.ShowsLong) : FaultWithin levels v (.integerTextTooLong .none)
  | tooDeep (h : v.Exceeds levels) : FaultWithin levels v .shownTooDeep

/-- What keeps a value from being shown. -/
def Fault (v : Value) (err : Error) : Prop := v.FaultWithin levelLimit err

/-- Whether a value cannot be shown. -/
def Unshowable (v : Value) : Prop := ∃ err, v.Fault err

theorem Fault.errorClass_eq {v : Value} {err : Error} (h : v.Fault err) :
    err.errorClass = .value ∨ err.errorClass = .recursion := by
  cases h with
  | tooLong => exact .inl rfl
  | tooDeep => exact .inr rfl

theorem Fault.isA_unknownDataType {v : Value} {err : Error} (h : v.Fault err) :
    err.isA .unknownDataType = false := by
  cases h <;> rfl

variable {levels : ℕ} {v : Value} {err : Error}

theorem showsLong_integer {n : ℤ} : (integer n).ShowsLong ↔ IsLong n := by
  constructor
  · rintro ⟨m, h, hm⟩
    cases h with
    | self => exact hm
    | part hv => simp [parts] at hv
  · exact fun h => ⟨n, .self _, h⟩

theorem showsLong_iff_parts (hv : ∀ n, v ≠ integer n) : v.ShowsLong ↔ ∃ w ∈ v.parts, w.ShowsLong := by
  constructor
  · rintro ⟨n, h, hn⟩
    cases h with
    | self => exact absurd rfl (hv n)
    | part hw h => exact ⟨_, hw, n, h, hn⟩
  · rintro ⟨w, hw, n, h, hn⟩
    exact ⟨n, .part hw h, hn⟩

theorem exceeds_zero (v : Value) : v.Exceeds 0 := by
  refine .self ?_
  unfold ownLevels
  split <;> decide

theorem exceeds_add_iff : v.Exceeds (levels + v.ownLevels) ↔ ∃ w ∈ v.parts, w.Exceeds levels := by
  constructor
  · intro h
    generalize hk : levels + v.ownLevels = k at h
    cases h with
    | self h => omega
    | @part w _ levels' hw h =>
      obtain rfl : levels' = levels := by omega
      exact ⟨w, hw, h⟩
  · rintro ⟨w, hw, h⟩
    exact .part hw h

theorem exceeds_succ_iff (hv : v.ownLevels = 1) :
    v.Exceeds (levels + 1) ↔ ∃ w ∈ v.parts, w.Exceeds levels := by
  rw [← exceeds_add_iff, hv]

/-- The list of the items of a set takes a level of its own, unless there are none. -/
theorem exceeds_set_iff {items : List Value} :
    (set items).Exceeds (levels + 1) ↔ ∃ w ∈ (set items).parts, w.Exceeds (levels - 1) := by
  cases items with
  | nil =>
    rw [exceeds_succ_iff rfl]
    simp [parts]
  | cons u rest =>
    cases levels with
    | zero => exact iff_of_true (.self Nat.one_lt_two) ⟨u, List.mem_cons_self, exceeds_zero u⟩
    | succ levels => exact exceeds_add_iff (v := set (u :: rest))

/-- What keeps the parts of a value from being shown keeps the value from it. -/
theorem faultWithin_iff_parts {levels' : ℕ} (hv : ∀ n, v ≠ integer n)
    (hexceeds : v.Exceeds levels ↔ ∃ w ∈ v.parts, w.Exceeds levels') :
    v.FaultWithin levels err ↔ ∃ w ∈ v.parts, w.FaultWithin levels' err := by
  constructor
  · rintro (h | h)
    · obtain ⟨w, hw, h⟩ := (showsLong_iff_parts hv).1 h
      exact ⟨w, hw, .tooLong h⟩
    · obtain ⟨w, hw, h⟩ := hexceeds.1 h
      exact ⟨w, hw, .tooDeep h⟩
  · rintro ⟨w, hw, h | h⟩
    · exact .tooLong ((showsLong_iff_parts hv).2 ⟨w, hw, h⟩)
    · exact .tooDeep (hexceeds.2 ⟨w, hw, h⟩)

/-- A value without parts takes one level. -/
theorem not_exceeds (hparts : v.parts = []) : ¬ v.Exceeds (levels + 1) := by
  have hown : v.ownLevels = 1 := by
    unfold ownLevels
    split
    · simp [parts] at hparts
    · rfl
  rw [exceeds_succ_iff hown, hparts]
  simp

/-- Most values have no parts, and are no integers. -/
theorem not_faultWithin (hparts : v.parts = []) (hv : ∀ n, v ≠ integer n) :
    ¬ v.FaultWithin (levels + 1) err := by
  rintro (h | h)
  · rw [showsLong_iff_parts hv, hparts] at h
    simp at h
  · exact not_exceeds hparts h

theorem faultWithin_integer_iff {n : ℤ} : (integer n).FaultWithin (levels + 1) err ↔ TooLong n err := by
  constructor
  · rintro (h | h)
    · exact ⟨showsLong_integer.1 h, rfl⟩
    · exact absurd h (not_exceeds rfl)
  · rintro ⟨hlong, rfl⟩
    exact .tooLong (showsLong_integer.2 hlong)

theorem unshowable_integer {n : ℤ} : (integer n).Unshowable ↔ IsLong n := by
  simp [Unshowable, Fault, levelLimit, faultWithin_integer_iff, TooLong]

theorem not_unshowable (hparts : v.parts = []) (hv : ∀ n, v ≠ integer n) : ¬ v.Unshowable :=
  fun ⟨_, h⟩ => not_faultWithin hparts hv h

theorem not_unshowable_of_text? {s : String} (h : v.text? = some s) : ¬ v.Unshowable := by
  cases v with
  | text | machine => exact not_unshowable rfl (by simp)
  | _ => simp [text?] at h

theorem exists_parts_dictionary {entries : List (Value × Value)} {P : Value → Prop} :
    (∃ v ∈ (dictionary entries).parts, P v) ↔ ∃ e ∈ entries, P e.1 ∨ P e.2 := by
  constructor
  · rintro ⟨v, hv, h⟩
    obtain ⟨e, he, hv⟩ := List.mem_flatMap.1 hv
    rw [List.mem_pair] at hv
    rcases hv with rfl | rfl
    · exact ⟨e, he, .inl h⟩
    · exact ⟨e, he, .inr h⟩
  · rintro ⟨e, he, h | h⟩
    · exact ⟨e.1, List.mem_flatMap.2 ⟨e, he, by simp⟩, h⟩
    · exact ⟨e.2, List.mem_flatMap.2 ⟨e, he, by simp⟩, h⟩

variable (r : Rendering)

mutual

/-- A value can be shown unless it is shown with an integer of too many digits, or takes too many levels. -/
theorem okUnless_shownWithin : (levels : ℕ) → (v : Value) → OkUnless (v.FaultWithin levels) (v.shownWithin r levels)
  | 0, v => by
    rw [shownWithin]
    exact .error (.tooDeep (exceeds_zero v))
  | levels + 1, integer n => by
    simp only [shownWithin]
    exact (okUnless_integerText n).congr fun _ => faultWithin_integer_iff.symm
  | levels + 1, list items | levels + 1, tuple items => by
    simp only [shownWithin]
    refine ((okUnless_itemsWithin levels items).map _).congr fun err => ?_
    rw [faultWithin_iff_parts (by simp) (exceeds_succ_iff rfl)]
    rfl
  | levels + 1, set items => by
    simp only [shownWithin]
    refine ((okUnless_itemsWithin (levels - 1) items).map _).congr fun err => ?_
    exact (faultWithin_iff_parts (by simp) exceeds_set_iff).symm
  | levels + 1, dictionary entries => by
    simp only [shownWithin]
    refine ((okUnless_entriesWithin levels entries).map _).congr fun err => ?_
    rw [faultWithin_iff_parts (by simp) (exceeds_succ_iff rfl), exists_parts_dictionary]
  | levels + 1, none | levels + 1, boolean _ | levels + 1, real _ | levels + 1, complex _ _ |
    levels + 1, text _ | levels + 1, bytes _ _ | levels + 1, view _ | levels + 1, cycle _ |
    levels + 1, object | levels + 1, date _ | levels + 1, moment _ | levels + 1, machine _ |
    levels + 1, scalar _ | levels + 1, typeId _ | levels + 1, dataType _ => by
    simp only [shownWithin]
    exact .ok (fun err => not_faultWithin rfl (by simp)) _

theorem okUnless_itemsWithin (levels : ℕ) : (items : List Value) →
    OkUnless (fun err => ∃ v ∈ items, v.FaultWithin levels err) (itemsWithin r levels items)
  | [] => .ok (by simp) _
  | v :: rest => by
    simp only [itemsWithin, List.exists_mem_cons_iff]
    exact (okUnless_shownWithin levels v).bind fun _ => (okUnless_itemsWithin levels rest).map _

theorem okUnless_entriesWithin (levels : ℕ) : (entries : List (Value × Value)) →
    OkUnless (fun err => ∃ e ∈ entries, e.1.FaultWithin levels err ∨ e.2.FaultWithin levels err)
      (entriesWithin r levels entries)
  | [] => .ok (by simp) _
  | (k, v) :: rest => by
    simp only [entriesWithin, List.exists_mem_cons_iff, or_assoc]
    exact (okUnless_shownWithin levels k).bind fun _ => (okUnless_shownWithin levels v).bind fun _ =>
      (okUnless_entriesWithin levels rest).map _

end

theorem okUnless_shown (v : Value) : OkUnless v.Fault (v.shown r) := okUnless_shownWithin r levelLimit v

variable (r' : Rendering)

mutual

/-- Whether a value can be shown does not depend on how. -/
theorem shownWithin_failsAlike : (levels : ℕ) → (v : Value) →
    FailsAlike (v.shownWithin r levels) (v.shownWithin r' levels)
  | 0, v => by
    rw [shownWithin, shownWithin]
    exact .error _
  | levels + 1, integer n => by
    simp only [shownWithin]
    exact .refl _
  | levels + 1, list items | levels + 1, tuple items => by
    simp only [shownWithin]
    exact (itemsWithin_failsAlike levels items).map _ _
  | levels + 1, set items => by
    simp only [shownWithin]
    exact (itemsWithin_failsAlike (levels - 1) items).map _ _
  | levels + 1, dictionary entries => by
    simp only [shownWithin]
    exact (entriesWithin_failsAlike levels entries).map _ _
  | levels + 1, none | levels + 1, boolean _ | levels + 1, real _ | levels + 1, complex _ _ |
    levels + 1, text _ | levels + 1, bytes _ _ | levels + 1, view _ | levels + 1, cycle _ |
    levels + 1, object | levels + 1, date _ | levels + 1, moment _ | levels + 1, machine _ |
    levels + 1, scalar _ | levels + 1, typeId _ | levels + 1, dataType _ => by
    simp only [shownWithin]
    exact .ok _ _

theorem itemsWithin_failsAlike (levels : ℕ) : (items : List Value) →
    FailsAlike (itemsWithin r levels items) (itemsWithin r' levels items)
  | [] => .ok _ _
  | v :: rest => by
    simp only [itemsWithin]
    exact (shownWithin_failsAlike levels v).bind fun _ _ => (itemsWithin_failsAlike levels rest).map _ _

theorem entriesWithin_failsAlike (levels : ℕ) : (entries : List (Value × Value)) →
    FailsAlike (entriesWithin r levels entries) (entriesWithin r' levels entries)
  | [] => .ok _ _
  | (k, v) :: rest => by
    simp only [entriesWithin]
    exact (shownWithin_failsAlike levels k).bind fun _ _ => (shownWithin_failsAlike levels v).bind fun _ _ =>
      (entriesWithin_failsAlike levels rest).map _ _

end

theorem shown_failsAlike (v : Value) : FailsAlike (v.shown r) (v.shown r') :=
  shownWithin_failsAlike r r' levelLimit v

/-- The error of showing a value, however it is shown. -/
def Unshown (v : Value) (err : Error) : Prop := ∀ r, v.shown r = .error err

variable {r}

theorem unshown_of_shown (h : v.shown r = .error err) : v.Unshown err := fun r' =>
  (shown_failsAlike r r' v).error_iff.1 h

theorem Unshown.fault (h : v.Unshown err) : v.Fault err := by
  have hshown := okUnless_shown ⟨"", true⟩ v
  rw [h] at hshown
  cases hshown with
  | error hfault => exact hfault

theorem Unshown.unshowable (h : v.Unshown err) : v.Unshowable := ⟨err, h.fault⟩

theorem Unshown.eq {err' : Error} (h : v.Unshown err) (h' : v.Unshown err') : err = err' :=
  Except.error.inj ((h ⟨"", true⟩).symm.trans (h' ⟨"", true⟩))

theorem not_unshowable_of_shown {s : String} (h : v.shown r = .ok s) : ¬ v.Unshowable := by
  have hshown := okUnless_shown r v
  rw [h] at hshown
  cases hshown with
  | ok hnone => exact not_exists.2 hnone

/-- A value has a text, or there is an error that tells why it has none. -/
theorem shown_outcome (r : Rendering) (v : Value) :
    (¬ v.Unshowable ∧ ∃ s, v.shown r = .ok s) ∨ ∃ err, v.Unshown err := by
  cases h : v.shown r with
  | ok s => exact .inl ⟨not_unshowable_of_shown h, s, rfl⟩
  | error err => exact .inr ⟨err, unshown_of_shown h⟩

end Value

end TypedScalar
