import TypedScalar.Text.LetterCase
import TypedScalar.Text.Numeral
import TypedScalar.Text.Parts

/-! Tags of nodes, and the tag that a plain text without one has: it may be a null, a boolean, a number or a
time by its form, and is a string otherwise. A line break at the end of a text does not bear on its form. -/

namespace TypedScalar.Yaml

inductive Tag
  | null
  | boolean
  | integer
  | real
  | binary
  | timestamp
  | orderedMapping
  | pairs
  | set
  | string
  | sequence
  | mapping
  | merge
  | value
  | other (uri : String)
  deriving DecidableEq, Repr

namespace Tag

def namespaceUri : String := "tag:yaml.org,2002:"

def names : List (String × Tag) :=
  [("null", null), ("bool", boolean), ("int", integer), ("float", real), ("binary", binary),
    ("timestamp", timestamp), ("omap", orderedMapping), ("pairs", pairs), ("set", set), ("str", string),
    ("seq", sequence), ("map", mapping), ("merge", merge), ("value", value)]

def ofUri (uri : String) : Tag :=
  match names.find? fun n => namespaceUri ++ n.1 == uri with
  | some n => n.2
  | none => other uri

/-- The text without the line break at its end. -/
def unterminated (s : List Char) : List Char := if s.getLast? = some '\n' then s.dropLast else s

end Tag

/-- A date, with a time where there is one, as it is written. -/
structure Timestamp where
  year : List Char
  month : List Char
  day : List Char
  time : Option (List Char × List Char × List Char)
  fraction : List Char
  /-- An offset's sign, hours and minutes; universal time has none of them. -/
  zone : Option (Option (Bool × List Char × List Char))

namespace Timestamp

open Text (isAsciiDigit)

/-- Between `least` and `most` digits at the front, as many as there are. -/
def digits? (least most : Nat) (s : List Char) : Option (List Char × List Char) :=
  let ds := (s.take most).takeWhile isAsciiDigit
  if ds.length < least then none else some (ds, s.drop ds.length)

/-- A character that must come next. -/
def expect? (c : Char) : List Char → Option (List Char)
  | [] => none
  | x :: rest => if x = c then some rest else none

def isSpaceOrTab (c : Char) : Bool := c == ' ' || c == '\t'

/-- What separates the time from the date. -/
def separator? (s : List Char) : Option (List Char) :=
  match s with
  | [] => none
  | x :: rest =>
    if x = 'T' ∨ x = 't' then some rest
    else if isSpaceOrTab x then some (rest.dropWhile isSpaceOrTab)
    else none

/-- The zone that makes up the rest. -/
def zone? (s : List Char) : Option (Option (Option (Bool × List Char × List Char))) :=
  if s.isEmpty then some none
  else
    match s.dropWhile isSpaceOrTab with
    | ['Z'] => some (some none)
    | sign :: rest =>
      if sign = '+' ∨ sign = '-' then
        (digits? 1 2 rest).bind fun (hours, rest) =>
          match rest with
          | [] => some (some (some (sign == '-', hours, [])))
          | ':' :: rest =>
            match digits? 2 2 rest with
            | some (minutes, []) => some (some (some (sign == '-', hours, minutes)))
            | _ => none
          | _ => none
      else none
    | [] => none

def fraction? : List Char → List Char × List Char
  | '.' :: rest => (rest.takeWhile isAsciiDigit, rest.dropWhile isAsciiDigit)
  | s => ([], s)

def read? (s : List Char) : Option Timestamp := do
  let (year, s) ← digits? 4 4 (Tag.unterminated s)
  let s ← expect? '-' s
  let (month, s) ← digits? 1 2 s
  let s ← expect? '-' s
  let (day, s) ← digits? 1 2 s
  if s.isEmpty then return ⟨year, month, day, none, [], none⟩
  let s ← separator? s
  let (hour, s) ← digits? 1 2 s
  let s ← expect? ':' s
  let (minute, s) ← digits? 2 2 s
  let s ← expect? ':' s
  let (second, s) ← digits? 2 2 s
  let (fraction, s) := fraction? s
  let zone ← zone? s
  return ⟨year, month, day, some (hour, minute, second), fraction, zone⟩

/-- Whether the text is a time by its form alone: a date on its own needs two digits for month and day. -/
def isPlain (s : List Char) : Bool :=
  match read? s with
  | none => false
  | some t => t.time.isSome || (t.month.length == 2 && t.day.length == 2)

end Timestamp

namespace Plain

open Text (isAsciiDigit)

def isNull (s : List Char) : Bool := ["", "~", "null", "Null", "NULL"].contains (String.ofList s)

def isBoolean (s : List Char) : Bool :=
  ["yes", "Yes", "YES", "no", "No", "NO", "true", "True", "TRUE", "false", "False", "FALSE",
    "on", "On", "ON", "off", "Off", "OFF"].contains (String.ofList s)

def isJoined (p : Char → Bool) (c : Char) : Bool := p c || c == '_'

/-- Whether a text begins with a digit and goes on with digits and underscores. -/
def isDecimal : List Char → Bool
  | [] => false
  | d :: rest => isAsciiDigit d && rest.all (isJoined isAsciiDigit)

/-- One of the parts of sixty behind a colon. -/
def isSixtieth (s : List Char) : Bool :=
  match s with
  | [d] => isAsciiDigit d
  | [a, b] => '0' ≤ a && a ≤ '5' && isAsciiDigit b
  | _ => false

def isInteger (s : List Char) : Bool :=
  match (Text.takeSign s).2 with
  | ['0'] => true
  | '0' :: 'b' :: d :: ds => (d :: ds).all (isJoined fun c => c == '0' || c == '1')
  | '0' :: 'x' :: d :: ds =>
    (d :: ds).all (isJoined fun c => isAsciiDigit c || ('a' ≤ c && c ≤ 'f') || ('A' ≤ c && c ≤ 'F'))
  | '0' :: d :: ds => (d :: ds).all (isJoined fun c => '0' ≤ c && c ≤ '7')
  | body =>
    match Text.splitAt ':' body with
    | first :: parts => first.head? != some '0' && isDecimal first && parts.all isSixtieth
    | [] => false

/-- An exponent with a sign, or nothing. -/
def isExponent : List Char → Bool
  | [] => true
  | e :: sign :: d :: ds => (e == 'e' || e == 'E') && (sign == '+' || sign == '-') && (d :: ds).all isAsciiDigit
  | _ => false

/-- What may follow the point of a number: digits and underscores, then an exponent. -/
def isFraction (s : List Char) : Bool := isExponent (s.dropWhile (isJoined isAsciiDigit))

def isReal (s : List Char) : Bool :=
  let body := (Text.takeSign s).2
  let name := String.ofList body
  if [".inf", ".Inf", ".INF"].contains name then true
  else if [".nan", ".NaN", ".NAN"].contains (String.ofList s) then true
  else
    match s with
    | '.' :: d :: rest => isAsciiDigit d && isFraction rest
    | _ =>
      let whole := body.takeWhile (· != '.')
      match body.dropWhile (· != '.') with
      | [] => false
      | _ :: rest =>
        match Text.splitAt ':' whole with
        | [first] => isDecimal first && isFraction rest
        | first :: parts => isDecimal first && parts.all isSixtieth && rest.all (isJoined isAsciiDigit)
        | [] => false

/-- The tag of a plain text. The indicators of tags, anchors and aliases have a tag of their own. -/
def tag (text : String) : Tag :=
  let s := Tag.unterminated text.toList
  if isNull s then (if text = "\n" then .string else .null)
  else if isBoolean s then .boolean
  else if isReal s then .real
  else if isInteger s then .integer
  else if s = ['<', '<'] then .merge
  else if s = ['='] then .value
  else if Timestamp.isPlain s then .timestamp
  else if s = ['!'] ∨ s = ['&'] ∨ s = ['*'] then .other (Tag.namespaceUri ++ "yaml")
  else .string

end Plain

end TypedScalar.Yaml
