import TypedScalar.Proofs.Catching
import TypedScalar.Proofs.Registry.Queries
import TypedScalar.Proofs.Scalar.CastTotal
import TypedScalar.Proofs.Text.Canonical

/-! What reading and casting refuse. Both fail with errors of scalars, by which callers tell a refusal, but
for two cases: an integer numeral of too many digits, which is never converted, and a type for which there is no
class and no telling so. -/

namespace TypedScalar

open TypedScalar.Action

/-- Whether an error is one of scalars. -/
def isScalarFault (err : Error) : Bool := err.isA .scalar

namespace Scalar

variable {r : Rendering} {c : ScalarClass} {k m : Kind} {e : Environment}

/-! ### Reading -/

/-- A numeral that is not too long is that of an integer that is not. -/
theorem not_isLong_withSign (negative : Bool) {ds : List Char} (hdigits : ∀ c ∈ ds, Text.isAsciiDigit c = true)
    (hlength : ds.length ≤ Text.digitLimit) : ¬ IsLong (Text.withSign negative (Text.natOfAscii ds)) := by
  have hlt := Text.natOfAscii_lt hdigits
  have hle : 10 ^ ds.length ≤ 10 ^ Text.digitLimit := Nat.pow_le_pow_right (by norm_num) hlength
  rw [IsLong, Text.natAbs_withSign]
  omega

end Scalar

end TypedScalar
