/-! Sets of characters given as closed ranges of code points. -/

namespace TypedScalar.Text

/-- Whether the code point of `c` lies in one of the closed ranges. -/
def within (ranges : List (Nat × Nat)) (c : Char) : Bool :=
  ranges.any fun r => r.1 ≤ c.toNat && c.toNat ≤ r.2

end TypedScalar.Text
