import TypedScalar.Floating.Rounding

/-! The shortest decimal that rounds to a number. All reals between the midpoints to the two neighbours
round to it, and the midpoints themselves do so when the magnitude is even. Coarser decimal grids are
tried first; on each the two grid points around the value are tested, the nearer one wins, and a tie goes
to the even digit. The search ends, because on a grid as fine as the unit the value itself lies. -/

namespace TypedScalar.Floating

-- Powers are those of core here, also where Mathlib declares its own.
attribute [local instance (high)] instPowNat

/-- The decimal `digits * 10 ^ exponent`. -/
structure Decimal where
  digits : Nat
  exponent : Int
  deriving DecidableEq, Repr

namespace Format

variable (f : Format)

/-- Whether `digits * 10 ^ exponent` rounds to the magnitude, told by comparing twice the decimal with
the sums of the magnitude's value and its neighbours' values. -/
def roundsTo (magnitude : Nat) (d : Decimal) : Bool :=
  let twice := 2 * d.digits * 10 ^ d.exponent.toNat * f.one
  let scale := 10 ^ (-d.exponent).toNat
  let low := (f.units (magnitude - 1) + f.units magnitude) * scale
  let high := (f.units magnitude + f.units (magnitude + 1)) * scale
  if magnitude % 2 = 0 then low ≤ twice && twice ≤ high else low < twice && twice < high

/-- The exponent of the leading decimal digit of a positive magnitude. -/
def leadingExponent (magnitude : Nat) : Int :=
  (decimalLength (f.units magnitude * 5 ^ f.unitExponent) : Int) - 1 - f.unitExponent

/-- The point of the grid `10 ^ exponent` that rounds to the magnitude, the nearer one where both
neighbours of the value do. -/
def onGrid? (magnitude : Nat) (exponent : Int) : Option Decimal :=
  let num := f.units magnitude * 10 ^ (-exponent).toNat
  let den := f.one * 10 ^ exponent.toNat
  let below : Decimal := ⟨num / den, exponent⟩
  let above : Decimal := ⟨num / den + 1, exponent⟩
  match f.roundsTo magnitude below, f.roundsTo magnitude above with
  | true, true => some ⟨roundDiv num den, exponent⟩
  | true, false => some below
  | false, true => some above
  | false, false => none

/-- The first hit among the grids from `10 ^ exponent` downwards, of which at most `steps` are tried. -/
def searchGrids (magnitude : Nat) : Nat → Int → Decimal
  | 0, exponent =>
    ⟨f.units magnitude * 10 ^ (-exponent).toNat / f.one, exponent⟩
  | steps + 1, exponent =>
    match f.onGrid? magnitude exponent with
    | some d => d
    | none => searchGrids magnitude steps (exponent - 1)

/-- The shortest decimal of a positive finite magnitude. -/
def shortest (magnitude : Nat) : Decimal :=
  let top := f.leadingExponent magnitude
  f.searchGrids magnitude (top + f.unitExponent).toNat top

end Format

end TypedScalar.Floating
