import TypedScalar.CommandLine.Argument
import TypedScalar.Log.Record
import TypedScalar.Text.Quoted

/-! What a list of arguments asks for: the help text, or to read a text as a scalar. The first plain
argument is the text; switches take effect in turn, and the last of two wins. -/

namespace TypedScalar.CommandLine

/-- Why a list of arguments asks for nothing. -/
inductive UsageFault
  | ambiguous (argument : String) (candidates : List String)
  | noValue (s : Switch)
  | unwantedValue (s : Switch) (value : String)
  | unknownLevel (value : String)
  | required (titles : List String)
  | unrecognized (arguments : List String)
  deriving DecidableEq, Repr

/-- The levels that can be asked for. -/
def levels : List Level := [.debug, .info, .warning, .error]

def shownText (s : String) : String := String.ofList (Text.quoted s.toList)

namespace UsageFault

def ofSwitch (s : Switch) (message : String) : String := "argument " ++ s.title ++ ": " ++ message

def message : UsageFault → String
  | ambiguous argument candidates =>
    "ambiguous option: " ++ argument ++ " could match " ++ ", ".intercalate candidates
  | noValue s => ofSwitch s "expected one argument"
  | unwantedValue s value => ofSwitch s ("ignored explicit argument " ++ shownText value)
  | unknownLevel value =>
    ofSwitch .logLevel
      ("invalid choice: " ++ shownText value ++ " (choose from " ++
        ", ".intercalate (levels.map fun l => shownText l.name) ++ ")")
  | required titles => "the following arguments are required: " ++ ", ".intercalate titles
  | unrecognized arguments => "unrecognized arguments: " ++ " ".intercalate arguments

end UsageFault

/-- What a switch was given: a text, or nothing where a lone pair of dashes stood in its place. -/
abbrev Given := Option String

/-- A text to be read as a scalar of a type; a cast or a configuration with an empty name asks for none. -/
structure Request where
  text : String
  type : Given
  cast : Given
  describe : Bool
  config : Given
  level : Option Level
  deriving DecidableEq, Repr

/-- A request as far as the arguments have been read, and the arguments that have no place in it. -/
structure Draft where
  text : Option String
  type : Option Given
  cast : Given
  describe : Bool
  config : Given
  level : Option Level
  extras : List String
  deriving DecidableEq, Repr

namespace Draft

def empty : Draft := ⟨none, none, none, false, none, some .warning, []⟩

def withExtra (d : Draft) (t : String) : Draft := { d with extras := d.extras ++ [t] }

/-- Gives a switch its value. -/
def setValue (d : Draft) (s : Switch) (value : Given) : Except UsageFault Draft :=
  match s with
  | .type => .ok { d with type := some value }
  | .cast => .ok { d with cast := value }
  | .config => .ok { d with config := value }
  | .logLevel =>
    match value with
    | none => .ok { d with level := none }
    | some name =>
      match levels.find? (·.name == name) with
      | some l => .ok { d with level := some l }
      | none => .error (.unknownLevel name)
  | .help | .describe => .ok d

/-- The value attached to a switch. -/
def attachedValue : Attached → Given
  | .equals value | .joined value => if value = "--" then none else some value

/-- What is asked for when all arguments have been read. -/
def finish (d : Draft) : Except UsageFault Request :=
  match d.text, d.type with
  | some text, some type =>
    if d.extras.isEmpty then .ok ⟨text, type, d.cast, d.describe, d.config, d.level⟩
    else .error (.unrecognized d.extras)
  | text, type =>
    .error (.required ((if text.isNone then ["text"] else []) ++ (if type.isNone then ["--type"] else [])))

end Draft

/-- What is joined to the letter of the help switch may be more such letters, and nothing else. -/
def joinedFault? : List Char → Option UsageFault
  | ['h'] => none
  | 'h' :: rest => joinedFault? rest
  | value => some (.unwantedValue .help (String.ofList value))

/-- What is wrong with a value that is attached to a switch which takes none. -/
def attachedFault? (s : Switch) : Option Attached → Option UsageFault
  | none => none
  | some (.equals value) => some (.unwantedValue s value)
  | some (.joined value) => joinedFault? value.toList

/-- Reads arguments in turn; nothing when help is asked for. -/
def readArguments (d : Draft) : List Argument → Except UsageFault (Option Request)
  | [] => d.finish.map some
  | .plain t :: .divider :: rest =>
    if d.text.isNone then readArguments { d with text := some t } rest
    else readArguments ((d.withExtra t).withExtra "--") rest
  | .plain t :: rest =>
    if d.text.isNone then readArguments { d with text := some t } rest else readArguments (d.withExtra t) rest
  | .divider :: .plain t :: rest =>
    if d.text.isNone then readArguments { d with text := some t } rest
    else readArguments ((d.withExtra "--").withExtra t) rest
  | .divider :: rest => readArguments (d.withExtra "--") rest
  | .stray t :: rest => readArguments (d.withExtra t) rest
  | .switch s (some a) :: rest =>
    if s.takesValue then (d.setValue s (Draft.attachedValue a)).bind fun d => readArguments d rest
    else
      match attachedFault? s (some a) with
      | some fault => .error fault
      | none => if s = .help then .ok none else readArguments { d with describe := true } rest
  | .switch s none :: rest =>
    if s.takesValue then
      match rest with
      | .plain value :: rest => (d.setValue s (some value)).bind fun d => readArguments d rest
      | _ => .error (.noValue s)
    else if s = .help then .ok none
    else readArguments { d with describe := true } rest

/-- The arguments, each by itself. The first pair of dashes divides off what is taken as it stands. -/
def classify : List String → Except UsageFault (List Argument)
  | [] => .ok []
  | t :: rest =>
    if t = "--" then .ok (.divider :: rest.map .plain)
    else
      match Argument.ofText t with
      | .error candidates => .error (.ambiguous t candidates)
      | .ok a => (classify rest).map (a :: ·)

namespace Request

/-- The request of a list of arguments, or nothing when help is asked for. -/
def ofArguments (arguments : List String) : Except UsageFault (Option Request) :=
  (classify arguments).bind (readArguments .empty)

end Request

end TypedScalar.CommandLine
