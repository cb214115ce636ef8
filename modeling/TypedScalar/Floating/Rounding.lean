import TypedScalar.Floating.Format

/-! Rounding to the nearest number of a format, ties to the even magnitude, and the conversions that rest
on it: from ratios, from integers, from decimals and from other formats. What rounds to or beyond the
successor of the largest finite number becomes infinite. -/

namespace TypedScalar.Floating

-- Powers are those of core here, also where Mathlib declares its own.
attribute [local instance (high)] instPowNat

/-- The quotient rounded to the nearest integer, a tie to the even one. -/
def roundDiv (num den : Nat) : Nat :=
  let q := num / den
  let r := num % den
  if 2 * r < den then q else if den < 2 * r then q + 1 else q + q % 2

/-- The magnitude nearest to `num / den` units. The quotient shows in which binade the value lies; there
the spacing is a power of two, and a value that rounds up to the end of its binade is the first of the
next one. -/
def Format.nearest (f : Format) (num den : Nat) : Nat :=
  let k := (num / den).log2 - f.fractionBits
  min f.infinity (k * 2 ^ f.fractionBits + roundDiv num (den * 2 ^ k))

/-- How many decimal digits a number has; zero has one. -/
def decimalLength (n : Nat) : Nat := if h : n < 10 then 1 else decimalLength (n / 10) + 1
termination_by n

namespace Number

variable {f : Format}

/-- The number nearest to `num / den` units, with the given sign. -/
def ofUnits (f : Format) (negative : Bool) (num den : Nat) : Number f :=
  .signed negative ⟨f.nearest num den, Nat.lt_succ_of_le (Nat.min_le_left _ _)⟩

/-- The number nearest to `num / den`. -/
def ofRatio (f : Format) (negative : Bool) (num den : Nat) : Number f :=
  ofUnits f negative (num * f.one) den

def ofInt (f : Format) (n : Int) : Number f := ofRatio f (decide (n < 0)) n.natAbs 1

/-- No number of the format is as large as ten to this power, and none but zero as small as its
inverse. -/
def decimalSpan (f : Format) : Nat := f.unitExponent + 2 ^ f.exponentBits

/-- The number nearest to `coefficient * 10 ^ exponent`. Decimals far beyond the format's reach are told
by their leading digit's exponent, before any power is formed. -/
def ofDecimal (f : Format) (negative : Bool) (coefficient : Nat) (exponent : Int) : Number f :=
  let top := decimalLength coefficient + exponent
  if coefficient = 0 ∨ top < -(decimalSpan f) then zero negative
  else if (decimalSpan f) < top then infinite negative
  else ofRatio f negative (coefficient * 10 ^ exponent.toNat) (10 ^ (-exponent).toNat)

/-- The nearest number of another format. -/
def convert (g : Format) : Number f → Number g
  | .nan => .nan
  | .signed negative m =>
    if m.val = f.infinity then infinite negative
    else ofUnits g negative (f.units m * g.one) f.one

/-- The integer that a finite number is, if it is one. -/
def toInt? : Number f → Option Int
  | .nan => none
  | .signed negative m =>
    if m.val = f.infinity ∨ f.units m % f.one ≠ 0 then none
    else
      let n : Int := (f.units m / f.one : Nat)
      some (if negative then -n else n)

end Number

end TypedScalar.Floating
