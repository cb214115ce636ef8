import TypedScalar.Proofs.Scalar.Recast
import TypedScalar.Scalar.View

/-! How scalars are represented. What can be seen of a scalar, which has no types to keep it in
order, is nonetheless in order: a valid one holds a value of its kind, which is stored at the
width of the kind, and a null shows the sentinel of its kind. Building the class anew from the
plain value gives the scalar again. -/

namespace TypedScalar

open Floating (Double)

/-- The plain values that valid scalars of a kind hold, and how they are stored. -/
inductive Kind.Holds : Kind → Value → Stored → Prop
  | boolean (b : Bool) : Holds .boolean (.boolean b) (.machine .boolean)
  | integer {i : IntegerKind} {n : ℤ} (hn : i.min ≤ n ∧ n ≤ i.max) :
    Holds (.integer i) (.integer n) (.machine (.integer i))
  | single {x : Double} (hx : x.Fits .single) : Holds (.floating .single) (.real x) (.machine .single)
  | double {x : Double} (hx : x.Fits .double) : Holds (.floating .double) (.real x) (.machine .double)
  | string (s : String) : Holds .string (.text s) (.plain "str")
  | binary (b : List UInt8) : Holds .binary (.bytes .plain b) (.plain "bytes")

/-- Whether what can be seen of a scalar represents a scalar of a class and a kind. -/
structure ScalarView.Represents (w : ScalarView) (c : ScalarClass) (k : Kind) : Prop where
  kind : c.kind? = some k
  className : w.className = c.name
  typeName : w.typeName = k.name
  /-- The class builds the scalar from the content, under every rendering. -/
  built (r : Rendering) : ∃ s r', Scalar.make r c w.content = .ok s ∧ s.view r' = w
  content : w.content = .none ↔ w.isValid = false
  valid (h : w.isValid = true) : k.Holds w.content w.stored ∧ w.value = w.content
  null (h : w.isValid = false) : w.value = k.sentinel ∧ w.stored = .plain k.sentinel.typeName

theorem FloatingKind.fits_toDouble (k : FloatingKind) (x : Floating.Number k.format) :
    (k.toDouble x).Fits k.format := by
  intro hfinite
  rw [k.isFinite_toDouble] at hfinite
  rw [k.value_toDouble hfinite]
  exact x.fits hfinite

namespace Scalar

variable {c : ScalarClass} {k : Kind} {hc : c.kind? = some k}

theorem holds_valid (p : k.Payload) :
    k.Holds (asValue ⟨c, k, hc, some p⟩) (stored ⟨c, k, hc, some p⟩) := by
  cases k with
  | null => exact Empty.elim p
  | boolean => exact .boolean p
  | integer i => exact .integer p.property
  | floating f =>
    cases f with
    | single => exact .single (FloatingKind.single.fits_toDouble p)
    | double => exact .double (FloatingKind.double.fits_toDouble p)
  | string => exact .string p
  | binary => exact .binary p

/-- Every scalar is built by its class from its plain value. -/
theorem make_asValue (r : Rendering) (s : Scalar) : make r s.cls s.asValue = .ok s := by
  obtain ⟨c, k, hc, _ | p⟩ := s
  · rw [make_eq hc]
    rfl
  · cases k with
    | null => exact Empty.elim p
    | boolean => exact make_boolean hc p
    | integer i => exact make_integer hc p.property
    | floating f => exact make_toDouble hc p
    | string => exact make_text hc p
    | binary => exact make_bytes hc p

theorem asValue_eq_none_iff (s : Scalar) : s.asValue = .none ↔ s.isValid = false := by
  obtain ⟨c, k, hc, _ | p⟩ := s
  · exact iff_of_true rfl rfl
  · refine iff_of_false (fun hnone => ?_) (by simp [isValid])
    cases k with
    | null => exact Empty.elim p
    | _ => simp [asValue] at hnone

theorem view_represents (r : Rendering) (s : Scalar) : (s.view r).Represents s.cls s.kind where
  kind := s.kind_eq
  className := rfl
  typeName := rfl
  built r' := ⟨s, r, make_asValue r' s, rfl⟩
  content := asValue_eq_none_iff s
  valid h := by
    obtain ⟨c, k, hc, _ | p⟩ := s
    · simp [view, isValid] at h
    · exact ⟨holds_valid p, rfl⟩
  null h := by
    obtain ⟨c, k, hc, _ | p⟩ := s
    · exact ⟨rfl, rfl⟩
    · simp [view, isValid] at h

end Scalar

end TypedScalar
