import TypedScalar.Floating.Order

/-! Sums and products, rounded to the nearest number. -/

namespace TypedScalar.Floating.Number

variable {f : Format}

def neg : Number f → Number f
  | .nan => .nan
  | .signed negative m => .signed (!negative) m

/-- Whether the sign is a minus, which zeros and infinities may have too. -/
def hasMinus : Number f → Bool
  | .nan => false
  | .signed negative _ => negative

/-- The sum. Opposite infinities have none, and opposite numbers add up to positive zero. -/
def add (x y : Number f) : Number f :=
  if x.isNaN || y.isNaN then .nan
  else if x.isInfinite then if y.isInfinite && x.hasMinus != y.hasMinus then .nan else x
  else if y.isInfinite then y
  else
    let total := x.signedUnits + y.signedUnits
    if total = 0 then zero (x.hasMinus && y.hasMinus) else ofUnits f (decide (total < 0)) total.natAbs 1

/-- The product. Zero times infinity has none. -/
def mul (x y : Number f) : Number f :=
  match x, y with
  | .signed s m, .signed t n =>
    if m.val = f.infinity ∨ n.val = f.infinity then
      if m.val = 0 ∨ n.val = 0 then .nan else infinite (s != t)
    else ofUnits f (s != t) (f.units m * f.units n) f.one
  | _, _ => .nan

end TypedScalar.Floating.Number
