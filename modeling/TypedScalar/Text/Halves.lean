/-! Texts given by code points, some of which may be halves of characters. A high half and a low half in
turn stand for one character; a half on its own is no character and reads as the replacement character. -/

namespace TypedScalar.Text

def replacement : Char := '\ufffd'

def isHighHalf (n : Nat) : Bool := 0xd800 ≤ n && n < 0xdc00

def isLowHalf (n : Nat) : Bool := 0xdc00 ≤ n && n < 0xe000

/-- The character of two halves. -/
def joinHalves (high low : Nat) : Char := Char.ofNat (0x10000 + (high - 0xd800) * 0x400 + (low - 0xdc00))

/-- The character of a code point on its own. -/
def ofCode (n : Nat) : Char := if n.isValidChar then Char.ofNat n else replacement

def ofCodes : List Nat → List Char
  | [] => []
  | [n] => [ofCode n]
  | m :: n :: rest =>
    if isHighHalf m && isLowHalf n then joinHalves m n :: ofCodes rest else ofCode m :: ofCodes (n :: rest)

end TypedScalar.Text
