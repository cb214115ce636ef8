import TypedScalar.Scalar.Equality
import TypedScalar.Scalar.Parse

/-! Conversion of valid scalars to another kind. Numbers and booleans go to every numeric kind, within
bounds, and only whole numbers go to integers; every kind goes to string, through its text; texts are
parsed, but exchanged with bytes as UTF-8. -/

namespace TypedScalar

open Floating (Double)

namespace Kind

/-- The integer that a boolean or integer payload is. -/
def wholeNumber? : (k : Kind) → k.Payload → Option Int
  | .boolean, (b : Bool) => some (if b then 1 else 0)
  | .integer _, (n : IntegerKind.Value _) => some n.val
  | _, _ => none

/-- The double that a floating payload is. -/
def realNumber? : (k : Kind) → k.Payload → Option Double
  | .floating k, x => some (k.toDouble x)
  | _, _ => none

end Kind

namespace Scalar

/-- Whether a number is other than zero. -/
def isNonzero : Int ⊕ Double → Bool
  | .inl n => n != 0
  | .inr x => !x.isZero

/-- A valid payload of kind `k` as a scalar of a class of another kind, where the class does not parse. -/
def convert (r : Rendering) (c : ScalarClass) (k : Kind) (p : k.Payload) : Except Error Scalar :=
  match c.kind? with
  | none => .error nameless
  | some .null => make r c .none
  | some .boolean =>
    match k, k.wholeNumber? p, k.realNumber? p with
    | .boolean, _, _ => .error (.uncastable k .boolean)
    | _, some n, _ => make r c (.boolean (isNonzero (.inl n)))
    | _, none, some x => make r c (.boolean (isNonzero (.inr x)))
    | _, none, none => .error (.uncastable k .boolean)
  | some (.integer target) =>
    match k.wholeNumber? p, k.realNumber? p with
    | some n, _ => make r c (.integer n)
    | none, some x =>
      match x.toInt? with
      | some n => make r c (.integer n)
      | none => .error (.truncates (doubleText x) target)
    | none, none => .error (.uncastable k (.integer target))
  | some (.floating target) =>
    match k.wholeNumber? p, k.realNumber? p with
    | some n, _ => make r c (.real (Floating.Number.ofInt .double n))
    | none, some x => make r c (.real x)
    | none, none => .error (.uncastable k (.floating target))
  | some .string =>
    match k, p with
    | .binary, (bytes : List UInt8) =>
      match Text.Utf8.decode bytes with
      | .ok s => make r c (.text (String.ofList s))
      | .error fault => .error (.notUtf8 fault)
    | k, p => make r c (.text (k.payloadText r p))
  | some .binary =>
    match k, p with
    | .string, (s : String) => make r c (.bytes .plain (Text.Utf8.encode s.toList))
    | k, _ => .error (.uncastable k .binary)

/-- A valid payload of kind `k` as a scalar of a class of another kind. -/
def castPayload (r : Rendering) (c : ScalarClass) (k : Kind) (p : k.Payload) : Except Error Scalar :=
  match k, p with
  | .string, (s : String) =>
    if c.kind? = some .binary then convert r c .string s else parseValid r c (.ofString s)
  | k, p => convert r c k p

end Scalar

end TypedScalar
