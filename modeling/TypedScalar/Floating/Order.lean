import TypedScalar.Floating.Rounding

/-! Numerical comparison and distance. Nothing compares with a NaN; the two zeros are equal. -/

namespace TypedScalar.Floating.Number

variable {f : Format}

/-- Numerical equality. -/
def equals (x y : Number f) : Bool := !x.isNaN && !y.isNaN && x.signedUnits == y.signedUnits

def lessEq (x y : Number f) : Bool := !x.isNaN && !y.isNaN && x.signedUnits ≤ y.signedUnits

def lessThan (x y : Number f) : Bool := !x.isNaN && !y.isNaN && x.signedUnits < y.signedUnits

/-- Whether `x ≤ n` for an integer `n`. -/
def lessEqInt (x : Number f) (n : Int) : Bool :=
  match x with
  | .nan => false
  | .signed negative m => if m.val = f.infinity then negative else x.signedUnits ≤ n * f.one

/-- Whether `x` has the value of an integer. -/
def equalsInt (x : Number f) (n : Int) : Bool := x.toInt? == some n

def isNegative : Number f → Bool
  | .nan => false
  | .signed negative m => negative && m.val != 0

def isZero : Number f → Bool
  | .nan => false
  | .signed _ m => m.val == 0

/-- The rounded absolute difference of two numbers. -/
def distance (x y : Number f) : Number f :=
  if x.isNaN || y.isNaN then .nan
  else if x.isInfinite || y.isInfinite then
    if x.isInfinite && y.isInfinite && x.isNegative == y.isNegative then .nan else infinite false
  else ofUnits f false (x.signedUnits - y.signedUnits).natAbs 1

end TypedScalar.Floating.Number
