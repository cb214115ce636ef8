import TypedScalar.Text.Blank
import TypedScalar.Text.Digit

/-! Numerals: the texts that are read as numbers. An integer is an optional sign with ASCII digits. A real
number may stand between blanks; it is an optional sign with a name of infinity, the name of the NaN, or
a decimal with an optional point and exponent, whose digits may come from any script and may be joined by
single underscores. -/

namespace TypedScalar.Text

/-- The longest decimal text that is turned into an integer, and the longest that an integer is written
as. -/
def digitLimit : Nat := 4300

/-- Splits off a sign; the first part tells whether it is a minus. -/
def takeSign : List Char → Bool × List Char
  | '-' :: rest => (true, rest)
  | '+' :: rest => (false, rest)
  | s => (false, s)

def withSign (negative : Bool) (n : Nat) : Int := if negative then -(n : Int) else n

/-- The value of a digit sequence, leading digit first. -/
def natOfDigits (ds : List Nat) : Nat := ds.foldl (fun n d => 10 * n + d) 0

/-- The sign and the digits of an integer numeral. -/
def integerDigits? (s : List Char) : Option (Bool × List Char) :=
  let (negative, ds) := takeSign s
  if !ds.isEmpty && ds.all isAsciiDigit then some (negative, ds) else none

def asciiDigitValue (c : Char) : Nat := c.toNat - 48

/-- The value of a run of ASCII digits. -/
def natOfAscii (ds : List Char) : Nat := natOfDigits (ds.map asciiDigitValue)

/-- What a real numeral denotes: a decimal is `coefficient * 10 ^ exponent`. -/
inductive Numeral
  | nan
  | infinity (negative : Bool)
  | decimal (negative : Bool) (coefficient : Nat) (exponent : Int)
  deriving DecidableEq, Repr

/-- The digits that follow a digit: each may be preceded by one underscore. -/
def joinedDigits : List Char → List Nat × List Char
  | [] => ([], [])
  | '_' :: c :: rest =>
    match digitValue? c with
    | some d => let (ds, tail) := joinedDigits rest; (d :: ds, tail)
    | none => ([], '_' :: c :: rest)
  | c :: rest =>
    match digitValue? c with
    | some d => let (ds, tail) := joinedDigits rest; (d :: ds, tail)
    | none => ([], c :: rest)

/-- The longest run of digits, joined by single underscores, at the front of a text. -/
def joinedRun : List Char → List Nat × List Char
  | [] => ([], [])
  | c :: rest =>
    match digitValue? c with
    | some d => let (ds, tail) := joinedDigits rest; (d :: ds, tail)
    | none => ([], c :: rest)

/-- The longest run of digits at the front of a text. -/
def plainRun : List Char → List Nat × List Char
  | [] => ([], [])
  | c :: rest =>
    match digitValue? c with
    | some d => let (ds, tail) := plainRun rest; (d :: ds, tail)
    | none => ([], c :: rest)

/-- The fraction's digits, if a point follows. -/
def fractionPart (run : List Char → List Nat × List Char) : List Char → List Nat × List Char
  | '.' :: rest => run rest
  | s => ([], s)

/-- The exponent that makes up the whole rest of a numeral; an empty rest stands for zero. -/
def exponentPart? (run : List Char → List Nat × List Char) : List Char → Option Int
  | [] => some 0
  | c :: rest =>
    if c = 'e' ∨ c = 'E' then
      let (negative, body) := takeSign rest
      match run body with
      | (d :: ds, []) => some (withSign negative (natOfDigits (d :: ds)))
      | _ => none
    else none

/-- Reads digits with an optional point and exponent; at least one digit stands before the exponent. The
result is a coefficient and a power of ten. -/
def decimal? (run : List Char → List Nat × List Char) (s : List Char) : Option (Nat × Int) :=
  let (whole, afterWhole) := run s
  let (fraction, afterFraction) := fractionPart run afterWhole
  if whole.isEmpty && fraction.isEmpty then none
  else
    (exponentPart? run afterFraction).map fun e =>
      (natOfDigits (whole ++ fraction), e - fraction.length)

/-- The blanks around a real numeral: those of ASCII without the information separators, and all blanks
beyond ASCII. -/
def isNumeralBlank (c : Char) : Bool :=
  c == ' ' || (9 ≤ c.toNat && c.toNat ≤ 13) || (127 ≤ c.toNat && isBlank c)

/-- Whether a text spells an ASCII word in any letter case. -/
def spells (word : String) (s : List Char) : Bool := s.map Char.toLower == word.toList

def Numeral.read? (s : List Char) : Option Numeral :=
  let (negative, body) := takeSign (trimBoth isNumeralBlank s)
  if spells "nan" body then some .nan
  else if spells "inf" body || spells "infinity" body then some (.infinity negative)
  else (decimal? joinedRun body).map fun (c, e) => .decimal negative c e

end TypedScalar.Text
