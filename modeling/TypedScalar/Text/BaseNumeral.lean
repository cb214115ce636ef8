import TypedScalar.Text.Hex
import TypedScalar.Text.Numeral

/-! Integers written in a base: between blanks an optional sign, an optional prefix that names the base, and
digits. Digits below ten may come from any script, and Latin letters go on from there. -/

namespace TypedScalar.Text

/-- The bases in use, all but the decimal one with the letter of their prefix. -/
inductive NumberBase
  | binary
  | octal
  | decimal
  | hexadecimal
  deriving DecidableEq, Repr

namespace NumberBase

def value : NumberBase → Nat
  | binary => 2
  | octal => 8
  | decimal => 10
  | hexadecimal => 16

/-- The lower-case letter behind a zero that names the base. -/
def letter? : NumberBase → Option Char
  | binary => some 'b'
  | octal => some 'o'
  | decimal => none
  | hexadecimal => some 'x'

/-- The value of a digit of the base. -/
def digit? (b : NumberBase) (c : Char) : Option Nat :=
  let d := if isHexDigit c then some (hexValue c) else digitValue? c
  d.filter (· < b.value)

/-- The rest of a text behind a prefix that names the base; without one it is the text. -/
def dropLetter (b : NumberBase) : List Char → List Char
  | zero :: letter :: rest =>
    if digitValue? zero = some 0 ∧ b.letter? = some letter.toLower then rest else zero :: letter :: rest
  | s => s

/-- The digits at the front of a text, and the rest. -/
def digits (b : NumberBase) : List Char → List Nat × List Char
  | [] => ([], [])
  | c :: rest =>
    match b.digit? c with
    | some d => let (ds, tail) := b.digits rest; (d :: ds, tail)
    | none => ([], c :: rest)

end NumberBase

/-- Why a text is no integer in a base. -/
inductive IntegerFault
  | malformed
  | tooLong (digits : Nat)
  deriving DecidableEq, Repr

/-- Reads an integer in a base. Only the digits of decimal integers are limited. -/
def readInteger (b : NumberBase) (s : List Char) : Except IntegerFault Int :=
  let (negative, body) := takeSign (s.dropWhile isNumeralBlank)
  let (ds, tail) := b.digits (b.dropLetter body)
  if b = .decimal ∧ digitLimit < ds.length then .error (.tooLong ds.length)
  else if ds.isEmpty || !tail.all isNumeralBlank then .error .malformed
  else .ok (withSign negative (ds.foldl (fun n d => b.value * n + d) 0))

end TypedScalar.Text
