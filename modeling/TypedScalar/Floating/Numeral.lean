import TypedScalar.Text.Numeral
import TypedScalar.Floating.Rounding

/-! The number that a numeral denotes in a format. -/

namespace TypedScalar.Floating.Number

open Text

/-- The nearest number of the format; NaN and the infinities are themselves. -/
def ofNumeral (f : Format) : Numeral → Number f
  | .nan => .nan
  | .infinity negative => infinite negative
  | .decimal negative coefficient exponent => ofDecimal f negative coefficient exponent

def read? (f : Format) (s : List Char) : Option (Number f) := (Numeral.read? s).map (ofNumeral f)

end TypedScalar.Floating.Number
