import TypedScalar.Floating.Numeral
import TypedScalar.Scalar.Make

/-! Reading scalars from text. The null token stands for a null, except for the kinds that take any text
literally. Integers are read digit by digit, and real numbers are rounded to a double first; a finite
numeral is never read as infinity. -/

namespace TypedScalar

open Floating (Double)

/-- A text to be read, how messages show it, and the text that it is copied as. -/
structure Source where
  text : String
  shown : String
  copied : String

def Source.ofString (s : String) : Source := ⟨s, quotedText s, s⟩

/-- A range fault of the value that was read, as a fault of the reading. -/
def Source.asParseFault (t : Source) (k : Kind) : Except Error Scalar → Except Error Scalar
  | .error (.range fault) => .error (.parse t.shown k (.range fault))
  | result => result

namespace Scalar

def readBoolean? (s : List Char) : Option Bool :=
  let word := String.ofList (Text.lower s)
  if word = "true" ∨ word = "1" then some true
  else if word = "false" ∨ word = "0" then some false
  else none

/-- The integer of a numeral. Numerals of too many digits, leading zeros included, are not read. -/
def readInteger? (s : List Char) : Option (Except Error Int) :=
  (Text.integerDigits? s).map fun (negative, digits) =>
    if Text.digitLimit < digits.length then .error (.integerTextTooLong (some digits.length))
    else .ok (Text.withSign negative (Text.natOfAscii digits))

/-- The double of a numeral, and nothing when the numeral is finite and overflows. -/
def readReal? (s : List Char) : Option (Option Double) :=
  (Text.Numeral.read? s).map fun n =>
    let x := Floating.Number.ofNumeral .double n
    match n with
    | .decimal _ _ _ => if x.isInfinite then none else some x
    | _ => some x

/-- What a family has no name for in messages. -/
def nameless : Error := .missingMember "NoneType" "value"

/-- Reads a text as a valid scalar of a class. Abstract classes read what they can and then fail, as they
have no scalars, and no kind to name in a message. -/
def parseValid (r : Rendering) (c : ScalarClass) (t : Source) : Except Error Scalar :=
  let s := t.text.toList
  match c.kind? with
  | some .boolean =>
    match readBoolean? s with
    | some b => make r c (.boolean b)
    | none => .error (.parse t.shown .boolean .malformed)
  | some (.integer k) =>
    match readInteger? s with
    | none => .error (.parse t.shown (.integer k) .malformed)
    | some (.error e) => .error e
    | some (.ok n) => t.asParseFault (.integer k) (make r c (.integer n))
  | some (.floating k) =>
    match readReal? s with
    | none => .error (.parse t.shown (.floating k) .malformed)
    | some none => .error (.parse t.shown (.floating k) .overflows)
    | some (some x) => t.asParseFault (.floating k) (make r c (.real x))
  | some k => .error (.parse t.shown k .malformed)
  | none =>
    match c.family with
    | .integer =>
      match readInteger? s with
      | none => .error nameless
      | some (.error e) => .error e
      | some (.ok n) => make r c (.integer n)
    | .floating =>
      match readReal? s with
      | some (some x) => make r c (.real x)
      | _ => .error nameless
    | _ => .error nameless

/-- Reads a text as a scalar of a class. -/
def parse (r : Rendering) (c : ScalarClass) (t : Source) : Except Error Scalar :=
  match c.kind? with
  | some .string => make r c (.text t.copied)
  | some .binary => make r c (.bytes .plain (Text.Utf8.encode t.text.toList))
  | _ => if t.text = r.nullToken then make r c .none else parseValid r c t

end Scalar

end TypedScalar
