import TypedScalar.Floating.Arithmetic
import TypedScalar.Floating.Numeral
import TypedScalar.Text.BaseNumeral
import TypedScalar.Value
import TypedScalar.Yaml.Cursor
import TypedScalar.Yaml.Tag

/-! The values of texts under the tags of scalars. Numbers may be joined by underscores and written in parts
of sixty. -/

namespace TypedScalar.Yaml

open Floating (Double)
open Text (NumberBase)

/-- A document may be at fault as YAML, or hold a text that is no value of its tag. -/
inductive Failure
  | fault (f : Fault)
  | error (e : Error)

namespace Scalar

def shown (s : List Char) : String := String.ofList (Text.quoted s)

/-- A shown text as messages about integers give it, which is cut off at two hundred characters. -/
def shownBriefly (s : List Char) : String := String.ofList ((Text.quoted s).take 200)

def readInteger (b : NumberBase) (s : List Char) : Except Error Int :=
  match Text.readInteger b s with
  | .ok n => .ok n
  | .error .malformed => .error (.notAnInteger b.value (shownBriefly s))
  | .error (.tooLong digits) => .error (.integerTextTooLong (some digits))

def withoutUnderscores (s : List Char) : List Char := s.filter (· != '_')

/-- Whether a text begins with a minus, and the text without a sign in front. -/
def signedBody : List Char → Except Error (Bool × List Char)
  | [] => .error .emptyNumber
  | s => .ok (Text.takeSign s)

/-- The magnitude of an integer: with a prefix for its base, with an octal zero, or in decimal parts of
sixty. -/
def magnitude : List Char → Except Error Int
  | [] => .error .emptyNumber
  | ['0'] => .ok 0
  | '0' :: 'b' :: ds => readInteger .binary ds
  | '0' :: 'x' :: ds => readInteger .hexadecimal ds
  | '0' :: ds => readInteger .octal ('0' :: ds)
  | s => ((Text.splitAt ':' s).mapM (readInteger .decimal)).map fun parts => parts.foldl (60 * · + ·) 0

def integer (text : List Char) : Except Error Int :=
  (signedBody (withoutUnderscores text)).bind fun (negative, body) =>
    (magnitude body).map fun n => if negative then -n else n

def readReal (s : List Char) : Except Error Double :=
  match Floating.Number.read? .double s with
  | some x => .ok x
  | none => .error (.notAReal (shown s))

/-- The sum of the parts, the last one first, each weighted by sixty times the weight of the one behind it.
A weight must not be too large for a double. -/
def sumParts : Nat → Double → List Double → Except Error Double
  | _, sum, [] => .ok sum
  | weight, sum, x :: rest =>
    let w : Double := .ofInt .double weight
    if w.isInfinite then .error .tooLargeForReal else sumParts (60 * weight) (sum.add (x.mul w)) rest

def nanName : List Char := ['.', 'n', 'a', 'n']

def infinityName : List Char := ['.', 'i', 'n', 'f']

/-- A real number: a name of infinity or of the NaN, parts of sixty, or a numeral. -/
def real (text : List Char) : Except Error Double :=
  (signedBody (Text.lower (withoutUnderscores text))).bind fun (negative, body) =>
    let magnitude : Except Error Double :=
      if body = infinityName then .ok (.infinite false)
      else if body = nanName then .ok .nan
      else if body.contains ':' then
        ((Text.splitAt ':' body).mapM readReal).bind fun xs => sumParts 1 (.zero false) xs.reverse
      else readReal body
    magnitude.map fun x => if negative then x.neg else x

/-- Whether a text is read as the NaN because it is its name; all such texts stand for one and the same
NaN. -/
def namesNaN (text : List Char) : Bool :=
  match signedBody (Text.lower (withoutUnderscores text)) with
  | .ok (_, body) => body == nanName
  | .error _ => false

def booleans : List (String × Bool) :=
  [("yes", true), ("no", false), ("true", true), ("false", false), ("on", true), ("off", false)]

def boolean (text : List Char) : Except Error Bool :=
  let word := Text.lower text
  match booleans.lookup (String.ofList word) with
  | some b => .ok b
  | none => .error (.noSuchKey (shown word))

/-- The value of a base64 digit. -/
def base64Digit? (c : Char) : Option Nat :=
  if 'A' ≤ c ∧ c ≤ 'Z' then some (c.toNat - 65)
  else if 'a' ≤ c ∧ c ≤ 'z' then some (c.toNat - 71)
  else if '0' ≤ c ∧ c ≤ '9' then some (c.toNat + 4)
  else if c = '+' then some 62
  else if c = '/' then some 63
  else none

/-- Decodes base64, skipping what is no digit. `phase` counts the digits since the last whole group and
`left` holds the bits that they left over. The data end with a group, or where padding fills one. -/
def base64? : Nat → Nat → Nat → List Char → Option (List UInt8)
  | phase, _, _, [] => if phase = 0 then some [] else none
  | phase, left, padding, c :: rest =>
    if c = '=' then
      if 2 ≤ phase ∧ 4 ≤ phase + padding + 1 then some []
      else base64? phase left (if 2 ≤ phase then padding + 1 else padding) rest
    else
      match base64Digit? c with
      | none => base64? phase left padding rest
      | some d =>
        match phase with
        | 0 => base64? 1 d 0 rest
        | 1 => (base64? 2 (d % 16) 0 rest).map (UInt8.ofNat (left * 4 + d / 16) :: ·)
        | 2 => (base64? 3 (d % 4) 0 rest).map (UInt8.ofNat (left * 16 + d / 4) :: ·)
        | _ => (base64? 0 0 0 rest).map (UInt8.ofNat (left * 64 + d) :: ·)

def binary (text : List Char) : Except Failure Value :=
  if text.any fun c => 128 ≤ c.toNat then .error (.fault .notBase64)
  else
    match base64? 0 0 0 text with
    | some bytes => .ok (.bytes .plain bytes)
    | none => .error (.fault .notBase64)

/-- The first six digits of a fraction of a second, filled up with zeros. -/
def microseconds (fraction : List Char) : Nat :=
  let ds := fraction.take 6
  Text.natOfAscii (ds ++ List.replicate (6 - ds.length) '0')

def timestamp (text : List Char) : Except Error Value :=
  match Timestamp.read? text with
  | none => .error (.missingMember "NoneType" "groupdict")
  | some t =>
    let built : Except CalendarFault Value := do
      let make := Date.make (Text.natOfAscii t.year) (Text.natOfAscii t.month) (Text.natOfAscii t.day)
      match t.time with
      | none => return .date (← make)
      | some (hour, minute, second) =>
        let offset ←
          match t.zone with
          | none => pure none
          | some none => pure (some 0)
          | some (some (negative, hours, minutes)) =>
            let seconds := Text.natOfAscii hours * 3600 + Text.natOfAscii minutes * 60
            pure (some (← Moment.checkOffset (Text.withSign negative seconds)))
        let date ← make
        return .moment (← Moment.make date (Text.natOfAscii hour) (Text.natOfAscii minute)
          (Text.natOfAscii second) (microseconds t.fraction) offset)
    match built with
    | .ok v => .ok v
    | .error fault => .error (.calendar fault)

def lift {α : Type} : Except Error α → Except Failure α
  | .ok a => .ok a
  | .error e => .error (.error e)

/-- The value of a text under the tag of a scalar. -/
def value (tag : Tag) (text : String) : Except Failure Value :=
  let s := text.toList
  match tag with
  | .null => .ok .none
  | .boolean => lift ((boolean s).map .boolean)
  | .integer => lift ((integer s).map .integer)
  | .real => lift ((real s).map .real)
  | .binary => binary s
  | .timestamp => lift (timestamp s)
  | .string => .ok (.text text)
  | _ => .error (.fault .unfitNode)

end Scalar

end TypedScalar.Yaml
