/-! Binary floating-point formats. The finite numbers of a format are whole multiples of its unit, the
smallest positive one. They are counted from zero upwards: the magnitude `n` is the `n`-th number that is
not negative, and `units n` is its value in units. One step beyond the largest finite number stands
infinity. Counted this way, a magnitude is also the number's bit pattern without the sign. -/

namespace TypedScalar.Floating

-- Powers are those of core here, also where Mathlib declares its own.
attribute [local instance (high)] instPowNat

/-- The widths of the fraction field and of the exponent field. -/
structure Format where
  fractionBits : Nat
  exponentBits : Nat
  deriving DecidableEq, Repr

namespace Format

def half : Format := ⟨10, 5⟩
def single : Format := ⟨23, 8⟩
def double : Format := ⟨52, 11⟩

/-- The unit is two to the power of minus this. -/
def unitExponent (f : Format) : Nat := 2 ^ (f.exponentBits - 1) + f.fractionBits - 2

/-- How many units make one. -/
def one (f : Format) : Nat := 2 ^ f.unitExponent

/-- The magnitude of infinity. -/
def infinity (f : Format) : Nat := (2 ^ f.exponentBits - 1) * 2 ^ f.fractionBits

/-- The numbers of one binade are equally spaced, by two to this power in units. -/
def binade (f : Format) (magnitude : Nat) : Nat := magnitude / 2 ^ f.fractionBits - 1

/-- The value of a magnitude, in units. -/
def units (f : Format) (magnitude : Nat) : Nat :=
  (magnitude - f.binade magnitude * 2 ^ f.fractionBits) * 2 ^ f.binade magnitude

end Format

/-- A datum of a format: not a number, or a sign with a magnitude up to infinity. -/
inductive Number (f : Format)
  | nan
  | signed (negative : Bool) (magnitude : Fin (f.infinity + 1))
  deriving DecidableEq, Repr

abbrev Half := Number Format.half
abbrev Single := Number Format.single
abbrev Double := Number Format.double

namespace Number

variable {f : Format}

def infinite (negative : Bool) : Number f := .signed negative ⟨f.infinity, Nat.lt_succ_self _⟩

def zero (negative : Bool) : Number f := .signed negative ⟨0, Nat.succ_pos _⟩

instance : Inhabited (Number f) := ⟨zero false⟩

def isNaN : Number f → Bool
  | .nan => true
  | .signed _ _ => false

def isInfinite : Number f → Bool
  | .nan => false
  | .signed _ m => m.val == f.infinity

def isFinite (x : Number f) : Bool := !x.isNaN && !x.isInfinite

/-- The value of a number in units. Infinity counts as the next number of its binade would. -/
def signedUnits : Number f → Int
  | .nan => 0
  | .signed true m => -(f.units m)
  | .signed false m => f.units m

end Number

end TypedScalar.Floating
