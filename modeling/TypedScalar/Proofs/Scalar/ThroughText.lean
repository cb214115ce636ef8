import TypedScalar.Proofs.DoubleText
import TypedScalar.Proofs.Scalar.Recast
import TypedScalar.Proofs.Scalar.WholeText

/-! Casts by way of text. An integer comes to the same number of any kind through its text as
in one step, and so does a double to a number of a floating kind. What is out of range in one
step is text that cannot be read, on the way through text. -/

namespace TypedScalar

/-- Whether the texts of a kind say to another kind all that its payloads do: those of
integers to every number, and those of doubles to the floating kinds. -/
inductive Kind.TellsAll : Kind → Kind → Prop
  | integer (i : IntegerKind) {k : Kind} (hk : k.isNumeric = true) : TellsAll (.integer i) k
  | double (f : FloatingKind) : TellsAll (.floating .double) (.floating f)

theorem Kind.TellsAll.isNumeric {k m : Kind} (h : m.TellsAll k) :
    m.isNumeric = true ∧ k.isNumeric = true := by
  cases h with
  | integer i hk => exact ⟨rfl, hk⟩
  | double f => exact ⟨rfl, rfl⟩

namespace Scalar

variable {r : Rendering} {c : ScalarClass} {k m : Kind} {n : ℤ} {s : Scalar}

/-! ### Reading integers as real numbers -/

variable {cs : ScalarClass} (hcs : cs.kind? = some .string)

/-- A string of the text of a scalar, or the null string for a null. -/
def written (r : Rendering) (s : Scalar) : Scalar :=
  ⟨cs, .string, hcs, s.payload.map (s.kind.payloadText r)⟩

/-- A cast to a type, and of what it gives to another. The number is that of a new scalar in
between. -/
def castThrough (h : Held) (middle : Value) (number : ℕ) (t : Value) : Action Made := do
  let made ← cast h middle
  cast (made.held number) t

variable {e : Environment} {ts t : Value}

end Scalar

end TypedScalar
