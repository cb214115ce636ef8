import TypedScalar.Log.Record

/-! Layouts of log lines: a text in which fields of the record stand as a percent sign, the field's name in
brackets, and a conversion. -/

namespace TypedScalar.Log

/-- Stands for the time of a record wherever a line shows it. -/
abbrev Clock := String

def isFieldLetter (c : Char) : Bool := c.isAlphanum || c == '_' || 128 ≤ c.toNat

def isFlag (c : Char) : Bool := "#0+ -".toList.contains c

def isDigit (c : Char) : Bool := '0' ≤ c && c ≤ '9'

/-- A width or precision: a star, or digits. -/
def dropWidth : List Char → List Char
  | '*' :: rest => rest
  | s => s.dropWhile isDigit

/-- A point with a width behind it, if there is one. -/
def dropPrecision : List Char → List Char
  | '.' :: rest => if rest.head?.any fun c => c == '*' || isDigit c then dropWidth rest else '.' :: rest
  | s => s

/-- Whether a field reference in full stands at the front, behind its percent sign. -/
def startsField : List Char → Bool
  | '(' :: rest =>
    let name := rest.takeWhile isFieldLetter
    match rest.dropWhile isFieldLetter with
    | ')' :: tail =>
      !name.isEmpty &&
        (dropPrecision (dropWidth (tail.dropWhile isFlag))).head?.any fun c =>
          "diouxefgcrsa%".toList.contains c.toLower
    | _ => false
  | _ => false

/-- Whether a layout refers to a field at all, as it must. -/
def isLayout : List Char → Bool
  | [] => false
  | '%' :: rest => startsField rest || isLayout rest
  | _ :: rest => isLayout rest

def field? (clock : Clock) (r : Record) : String → Option String
  | "asctime" => some clock
  | "name" => some r.logger
  | "levelname" => some r.level.name
  | "message" => some r.message
  | _ => none

/-- The parts of a line, with a field's name where `true`; nothing when a percent sign stands alone. -/
def splitLine : Nat → List Char → Option (List (Bool × List Char))
  | 0, _ => none
  | _ + 1, [] => some []
  | fuel + 1, '%' :: '%' :: rest => (splitLine fuel rest).map ((false, ['%']) :: ·)
  | fuel + 1, '%' :: '(' :: rest =>
    match rest.dropWhile (· != ')') with
    | ')' :: 's' :: tail => (splitLine fuel tail).map ((true, rest.takeWhile (· != ')')) :: ·)
    | _ => none
  | _ + 1, '%' :: _ => none
  | fuel + 1, c :: rest => (splitLine fuel rest).map ((false, [c]) :: ·)

/-- The text of a part of a line. -/
def part? (clock : Clock) (r : Record) (p : Bool × List Char) : Option String :=
  if p.1 then field? clock r (String.ofList p.2) else some (String.ofList p.2)

/-- The line of a record, or nothing where the layout cannot be filled in. -/
def line? (layout : String) (clock : Clock) (r : Record) : Option String :=
  let s := layout.toList
  (splitLine (s.length + 1) s).bind fun parts => (parts.mapM (part? clock r)).map String.join

def defaultLayout : String := "%(asctime)s - %(name)s - %(levelname)s - %(message)s"

/-- What layouts come to: which of them may be set, and the line that one makes of a record, or nothing where
it cannot be filled in. -/
structure Formatter where
  accepts : String → Bool
  fill? : String → Record → Option String

/-- Layouts with fields in percent style. -/
def Formatter.percent (clock : Clock) : Formatter :=
  ⟨fun layout => isLayout layout.toList, fun layout r => line? layout clock r⟩

end TypedScalar.Log
