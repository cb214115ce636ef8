import TypedScalar.Text.Digit

/-! The arguments of the command line, each taken by itself. An argument may be a switch, spelled in full
or, if it begins with two dashes, by any unambiguous beginning, with a value attached behind an equals sign.
Other arguments that begin with a dash are strays, unless they are numbers or hold a space. Behind the first
pair of dashes nothing is a switch. -/

namespace TypedScalar.CommandLine

inductive Switch
  | help
  | type
  | cast
  | describe
  | config
  | logLevel
  deriving DecidableEq, Repr

namespace Switch

/-- All spellings, in the order in which candidates are listed. -/
def spellings : List (String × Switch) :=
  [("-h", help), ("--help", help), ("--type", type), ("--cast", cast), ("--describe", describe),
    ("--config", config), ("--log-level", logLevel)]

/-- What messages call the switch. -/
def title (s : Switch) : String := "/".intercalate ((spellings.filter (·.2 == s)).map (·.1))

def takesValue : Switch → Bool
  | help | describe => false
  | type | cast | config | logLevel => true

end Switch

/-- A value in the same argument as its switch: behind an equals sign, or joined to a single letter, with an
equals sign or without. -/
inductive Attached
  | equals (value : String)
  | joined (value : String)
  deriving DecidableEq, Repr

inductive Argument
  | plain (text : String)
  | divider
  | switch (s : Switch) (attached : Option Attached)
  | stray (text : String)
  deriving DecidableEq, Repr

namespace Argument

def text? : Argument → Option String
  | plain t => some t
  | _ => none

/-- Whether a text is a minus sign and a number without exponent, perhaps with a newline behind. -/
def isNegativeNumber : List Char → Bool
  | '-' :: rest =>
    let body := if rest.getLast? = some '\n' then rest.dropLast else rest
    match body.dropWhile Text.isDigit with
    | [] => !body.isEmpty
    | '.' :: fraction => !fraction.isEmpty && fraction.all Text.isDigit
    | _ => false
  | _ => false

/-- The parts of a text around its first equals sign, if it has one. -/
def splitEquals? (s : List Char) : Option (String × String) :=
  match s.dropWhile (· != '=') with
  | [] => none
  | _ :: value => some (String.ofList (s.takeWhile (· != '=')), String.ofList value)

/-- The switches that a text may begin to spell, with the value attached to it. -/
def candidates (s : List Char) : List (String × Switch × Option Attached) :=
  match s with
  | '-' :: '-' :: _ =>
    let (start, attached) :=
      match splitEquals? s with
      | some (start, value) => (start, some (Attached.equals value))
      | none => (String.ofList s, none)
    (Switch.spellings.filter fun p => p.1.startsWith start).map fun p => (p.1, p.2, attached)
  | '-' :: c :: rest =>
    (Switch.spellings.filter fun p => p.1 == String.ofList ['-', c]).map fun p =>
      (p.1, p.2, some (Attached.joined (String.ofList rest)))
  | _ => []

/-- A value behind a spelling and an equals sign. -/
def attach (spelling value : String) : Attached :=
  if spelling.startsWith "--" then .equals value else .joined value

/-- A switch in its full spelling. -/
def spelled? (t : String) : Option Argument :=
  match Switch.spellings.lookup t with
  | some s => some (.switch s none)
  | none =>
    match splitEquals? t.toList with
    | some (start, value) => (Switch.spellings.lookup start).map fun s => .switch s (some (attach start value))
    | none => none

/-- An argument by itself, or the spellings between which it is ambiguous. -/
def ofText (t : String) : Except (List String) Argument :=
  let s := t.toList
  if s.head? ≠ some '-' ∨ s.length ≤ 1 then .ok (plain t)
  else
    match spelled? t with
    | some a => .ok a
    | none =>
      match candidates s with
      | [(_, s, attached)] => .ok (switch s attached)
      | [] => .ok (if isNegativeNumber s || s.contains ' ' then plain t else stray t)
      | several => .error (several.map (·.1))

end Argument

end TypedScalar.CommandLine
