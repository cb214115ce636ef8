import TypedScalar.Floating.Shortest

/-! The text of a number: its shortest decimal, with a point and at least one digit after it where the
number is of ordinary size, else with one digit before the point and a signed exponent of at least two
digits. -/

namespace TypedScalar.Floating

-- Powers are those of core here, also where Mathlib declares its own.
attribute [local instance (high)] instPowNat

/-- From ten to this power on, numbers are written with an exponent. Numbers below a ten-thousandth always
are. -/
structure Layout where
  ceiling : Nat
  deriving DecidableEq, Repr

namespace Layout

/-- Doubles are written out up to the size where their neighbours lie more than one apart. -/
def double : Layout := ⟨16⟩

/-- Single numbers hold between six and nine digits and are written out up to six. -/
def single : Layout := ⟨6⟩

def half : Layout := ⟨3⟩

end Layout

def decimalDigits (n : Nat) : List Char := (toString n).toList

/-- The digits up to the last one that is not zero. -/
def significant (ds : List Char) : List Char := (ds.reverse.dropWhile (· == '0')).reverse

/-- The digits `ds`, of which the first has weight `10 ^ exponent`, written out with a point. -/
def positional (ds : List Char) (exponent : Int) : List Char :=
  if exponent < 0 then '0' :: '.' :: List.replicate (-exponent - 1).toNat '0' ++ ds
  else
    let whole := exponent.toNat + 1
    let fraction := ds.drop whole
    ds.take whole ++ List.replicate (whole - ds.length) '0' ++ '.' :: (if fraction.isEmpty then ['0'] else fraction)

/-- The same value with one digit before the point. -/
def scientific (ds : List Char) (exponent : Int) : List Char :=
  let power := decimalDigits exponent.natAbs
  ds.take 1 ++ (if ds.length ≤ 1 then [] else '.' :: ds.drop 1) ++
    'e' :: (if exponent < 0 then '-' else '+') :: (if power.length < 2 then '0' :: power else power)

namespace Number

/-- Whether a number of the magnitude is written out. -/
def isOrdinary (f : Format) (l : Layout) (magnitude : Nat) : Bool :=
  f.one ≤ 10 ^ (4 : Nat) * f.units magnitude && f.units magnitude < 10 ^ l.ceiling * f.one

def magnitudeText (f : Format) (l : Layout) (magnitude : Nat) : List Char :=
  if magnitude = 0 then ['0', '.', '0']
  else if magnitude = f.infinity then ['i', 'n', 'f']
  else
    let d := f.shortest magnitude
    let ds := decimalDigits d.digits
    let exponent := d.exponent + ds.length - 1
    if isOrdinary f l magnitude then positional (significant ds) exponent
    else scientific (significant ds) exponent

def text {f : Format} (l : Layout) : Number f → List Char
  | .nan => ['n', 'a', 'n']
  | .signed negative m => (if negative then ['-'] else []) ++ magnitudeText f l m

end Number

end TypedScalar.Floating
