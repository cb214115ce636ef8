/-! Hexadecimal text of numbers and of byte sequences. -/

namespace TypedScalar.Text

/-- The lower-case hexadecimal digit of a number below sixteen. -/
def hexDigit (n : Nat) : Char := Char.ofNat (if n < 10 then 48 + n else 87 + n)

/-- The last `width` hexadecimal digits of `n`. -/
def hexNumber : Nat → Nat → List Char
  | 0, _ => []
  | width + 1, n => hexNumber width (n / 16) ++ [hexDigit (n % 16)]

/-- Two lower-case digits for each byte. -/
def hexBytes (bytes : List UInt8) : List Char := bytes.flatMap fun b => hexNumber 2 b.toNat

def upperHexDigit (c : Char) : Char := if 'a' ≤ c ∧ c ≤ 'f' then Char.ofNat (c.toNat - 32) else c

def isHexDigit (c : Char) : Bool :=
  ('0' ≤ c && c ≤ '9') || ('a' ≤ c && c ≤ 'f') || ('A' ≤ c && c ≤ 'F')

/-- The value of a hexadecimal digit of either case, and zero for other characters. -/
def hexValue (c : Char) : Nat :=
  if '0' ≤ c ∧ c ≤ '9' then c.toNat - 48
  else if 'a' ≤ c ∧ c ≤ 'f' then c.toNat - 87
  else if 'A' ≤ c ∧ c ≤ 'F' then c.toNat - 55
  else 0

/-- Reads pairs of hexadecimal digits as bytes. -/
def bytesOfHex? : List Char → Option (List UInt8)
  | [] => some []
  | a :: b :: rest =>
    if isHexDigit a && isHexDigit b then
      (bytesOfHex? rest).map (UInt8.ofNat (16 * hexValue a + hexValue b) :: ·)
    else none
  | _ => none

end TypedScalar.Text
