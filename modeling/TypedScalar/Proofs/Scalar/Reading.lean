import Mathlib.Tactic.SplitIfs
import TypedScalar.Scalar.Parse

/-! What reading a text comes to. A class with a kind builds what its kind
accepts, a real number is accepted unless rounding takes it to infinity, and only
the null token is read as a null. Whatever is read is built by the class that
reads. -/

namespace TypedScalar.Scalar

open Floating (Double)

variable {r : Rendering} {c : ScalarClass} {t : Source} {s : Scalar}

theorem make_eq {k : Kind} (h : c.kind? = some k) (v : Value) :
    make r c v =
      if v.isNone then .ok (null c k h) else (k.accept r c.name v).map fun p => ⟨c, k, h, some p⟩ := by
  unfold make
  split
  · next hnone => exact absurd (h.symm.trans hnone) (by simp)
  · next k' hk =>
    obtain rfl : k = k' := Option.some.inj (h.symm.trans hk)
    rfl

theorem make_real {k : FloatingKind} (h : c.kind? = some (.floating k)) (x : Double) :
    make r c (.real x) =
      if x.isFinite && (k.ofDouble x).isInfinite then .error (.range (.real (doubleText x) k))
      else .ok ⟨c, .floating k, h, some (k.ofDouble x)⟩ := by
  have haccept : Kind.accept r c.name (.floating k) (.real x) =
      if x.isFinite && (k.ofDouble x).isInfinite then .error (.range (.real (doubleText x) k))
      else .ok (k.ofDouble x) := rfl
  have hnone : ¬(Value.real x).isNone = true := by simp [Value.isNone]
  rw [make_eq h, haccept, if_neg hnone]
  split_ifs <;> rfl

theorem make_text (h : c.kind? = some .string) (text : String) :
    make r c (.text text) = .ok ⟨c, .string, h, some text⟩ := by
  have hnone : ¬(Value.text text).isNone = true := by simp [Value.isNone]
  rw [make_eq h, if_neg hnone]
  rfl

theorem make_bytes (h : c.kind? = some .binary) (bytes : List UInt8) :
    make r c (.bytes .plain bytes) = .ok ⟨c, .binary, h, some bytes⟩ := by
  have hnone : ¬(Value.bytes .plain bytes).isNone = true := by simp [Value.isNone]
  rw [make_eq h, if_neg hnone]
  rfl

theorem make_boolean (h : c.kind? = some .boolean) (b : Bool) :
    make r c (.boolean b) = .ok ⟨c, .boolean, h, some b⟩ := by
  have hnone : ¬(Value.boolean b).isNone = true := by simp [Value.isNone]
  rw [make_eq h, if_neg hnone]
  rfl

theorem make_integer {k : IntegerKind} {n : Int} (h : c.kind? = some (.integer k))
    (hn : k.min ≤ n ∧ n ≤ k.max) :
    make r c (.integer n) = .ok ⟨c, .integer k, h, some ⟨n, hn⟩⟩ := by
  have hnone : ¬(Value.integer n).isNone = true := by simp [Value.isNone]
  have haccept : Kind.accept r c.name (.integer k) (.integer n) = .ok ⟨n, hn⟩ := dif_pos hn
  rw [make_eq h, if_neg hnone, haccept]
  rfl

theorem make_integer_range {k : IntegerKind} {n : Int} (h : c.kind? = some (.integer k))
    (hn : ¬(k.min ≤ n ∧ n ≤ k.max)) (htext : integerText n = .ok (toString n)) :
    make r c (.integer n) = .error (.range (.integer n k)) := by
  have hnone : ¬(Value.integer n).isNone = true := by simp [Value.isNone]
  have haccept : Kind.accept r c.name (.integer k) (.integer n) =
      (integerText n).bind fun _ => .error (.range (.integer n k)) := dif_neg hn
  rw [make_eq h, if_neg hnone, haccept, htext]
  rfl

/-- How a floating class reads a text: a numeral is rounded to a double, and this
to the kind. -/
theorem parseValid_floating {k : FloatingKind} (h : c.kind? = some (.floating k)) (t : Source) :
    parseValid r c t =
      match readReal? t.text.toList with
      | none => .error (.parse t.shown (.floating k) .malformed)
      | some none => .error (.parse t.shown (.floating k) .overflows)
      | some (some x) =>
        if x.isFinite && (k.ofDouble x).isInfinite then
          .error (.parse t.shown (.floating k) (.range (.real (doubleText x) k)))
        else .ok ⟨c, .floating k, h, some (k.ofDouble x)⟩ := by
  rw [parseValid, h]
  cases readReal? t.text.toList with
  | none => rfl
  | some read =>
    cases read with
    | none => rfl
    | some x =>
      dsimp only
      rw [make_real h]
      split_ifs <;> rfl

theorem parseValid_of_readReal? {k : FloatingKind} {x : Floating.Double} (h : c.kind? = some (.floating k))
    (hread : readReal? t.text.toList = some (some x))
    (hrange : (x.isFinite && (k.ofDouble x).isInfinite) = false) :
    parseValid r c t = .ok ⟨c, .floating k, h, some (k.ofDouble x)⟩ := by
  rw [parseValid_floating h, hread]
  simp only [hrange, Bool.false_eq_true, ↓reduceIte]

/-- Whether a text is refused as none that can be read. -/
def Unread (result : Except Error Scalar) : Prop :=
  ∃ err, result = .error err ∧ err.errorClass = .scalarParse

theorem not_unread_ok (s : Scalar) : ¬ Unread (.ok s) := by
  rintro ⟨err, herr, -⟩
  cases herr

/-- Reading what is not the null token, for a kind that does not take every text. -/
theorem parse_eq_parseValid {k : Kind} (h : c.kind? = some k) (hstring : k ≠ .string)
    (hbinary : k ≠ .binary)
    (ht : t.text ≠ r.nullToken) : parse r c t = parseValid r c t := by
  rw [parse, h]
  split
  · next heq => exact absurd (Option.some.inj heq) hstring
  · next heq => exact absurd (Option.some.inj heq) hbinary
  · rw [if_neg ht]

theorem isValid_of_make {v : Value} (hv : v.isNone = false) (h : make r c v = .ok s) :
    s.isValid = true := by
  unfold make at h
  split at h
  · simp at h
  · next k hk =>
    rw [hv] at h
    cases haccept : k.accept r c.name v with
    | error e => simp [haccept, Except.map] at h
    | ok p =>
      simp only [haccept, Except.map, Bool.false_eq_true, ↓reduceIte, Except.ok.injEq] at h
      rw [← h]
      rfl

theorem cls_of_make {v : Value} (h : make r c v = .ok s) : s.cls = c := by
  unfold make at h
  split at h
  · simp at h
  · next k hk =>
    split_ifs at h
    · rw [← Except.ok.inj h]
      rfl
    · cases haccept : k.accept r c.name v with
      | error e => simp [haccept, Except.map] at h
      | ok p =>
        rw [haccept] at h
        rw [← Except.ok.inj h]

theorem ok_of_asParseFault {k : Kind} {x : Except Error Scalar} (h : t.asParseFault k x = .ok s) :
    x = .ok s := by
  unfold Source.asParseFault at h
  split at h
  · simp at h
  · exact h

theorem exists_make_of_parseValid (h : parseValid r c t = .ok s) :
    ∃ v : Value, v.isNone = false ∧ make r c v = .ok s := by
  unfold parseValid at h
  dsimp only at h
  split at h
  · -- booleans
    split at h
    · exact ⟨_, rfl, h⟩
    · simp at h
  · -- integers
    split at h
    · simp at h
    · simp at h
    · exact ⟨_, rfl, ok_of_asParseFault h⟩
  · -- floating kinds
    split at h
    · simp at h
    · simp at h
    · exact ⟨_, rfl, ok_of_asParseFault h⟩
  · simp at h
  · -- abstract classes, by family
    split at h
    · split at h
      · simp at h
      · simp at h
      · exact ⟨_, rfl, h⟩
    · split at h
      · exact ⟨_, rfl, h⟩
      · simp at h
    · simp at h

/-- Only the null token is read from nothing, as a null. -/
theorem exists_make_of_parse (h : parse r c t = .ok s) :
    ∃ v : Value, (t.text ≠ r.nullToken → v.isNone = false) ∧ make r c v = .ok s := by
  unfold parse at h
  split at h
  · exact ⟨_, fun _ => rfl, h⟩
  · exact ⟨_, fun _ => rfl, h⟩
  · split_ifs at h with ht
    · exact ⟨_, fun hne => absurd ht hne, h⟩
    · obtain ⟨v, hv, hmake⟩ := exists_make_of_parseValid h
      exact ⟨v, fun _ => hv, hmake⟩

theorem isValid_of_parse (ht : t.text ≠ r.nullToken) (h : parse r c t = .ok s) : s.isValid = true := by
  obtain ⟨v, hv, hmake⟩ := exists_make_of_parse h
  exact isValid_of_make (hv ht) hmake

theorem cls_of_parse (h : parse r c t = .ok s) : s.cls = c := by
  obtain ⟨v, -, hmake⟩ := exists_make_of_parse h
  exact cls_of_make hmake

end TypedScalar.Scalar
