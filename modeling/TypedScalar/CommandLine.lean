import TypedScalar.CommandLine.Help
import TypedScalar.CommandLine.Request
import TypedScalar.Config.Load
import TypedScalar.Log.Layout
import TypedScalar.Scalar.Factory

/-! The command line: it reads a text as a scalar, casts it if asked to, and writes it or its description.
A configuration file that is named becomes the active configuration first. What a user may get wrong ends
in a log line and exit code 1, and a wrong use of the command line in exit code 2. -/

namespace TypedScalar.CommandLine

def program : String := "colscalar"

def logger : String := "colscalar.cli"

/-- The exit code, and what is written to the two standard streams. -/
structure Outcome where
  exitCode : Nat
  output : String
  errors : String
  deriving DecidableEq, Repr

def describe (r : Rendering) (s : Scalar) : String :=
  "\n".intercalate
    ["data_type: " ++ s.kind.name, "is_valid: " ++ (if s.isValid then "true" else "false"),
      "value: " ++ s.text r]

/-- Records a failure, which ends the run with exit code 1. -/
def failure (message : String) : Action (Nat × String) := do
  Action.record .error logger message
  return (1, "")

/-- Makes the configuration of a file active. -/
def loadConfig (files : Files) (path : String) : Action Unit := do
  let config ← Config.load files path
  discard <| Config.activate config []

/-- Whether a failure to load is reported to the user: the file is missing, or its contents are refused. -/
def isConfigFailure (e : Error) : Bool := e.isA .fileNotFound || e.isA .value

/-- What a switch was given, as a value. -/
def Given.value : Given → Value
  | none => .list []
  | some s => .text s

/-- The scalar that a request asks for. -/
def build (q : Request) : Action Scalar := do
  let r ← Action.rendering
  let c ← Registry.lookup (Given.value q.type)
  let s ← Action.ofExcept (Scalar.parse r c (.ofString q.text))
  match q.cast with
  | none | some "" => return s
  | some t => return (← Scalar.cast ⟨0, s⟩ (.text t)).scalar

/-- Answers a request with an exit code and what is written. -/
def answer (files : Files) (q : Request) : Action (Nat × String) := do
  let loaded ←
    match q.config with
    | none | some "" => pure none
    | some path =>
      tryCatch (do loadConfig files path; pure none) fun e =>
        if isConfigFailure e then pure (some e) else throw e
  match loaded with
  | some e => failure ("Failed to load config: " ++ e.message)
  | none =>
    let built ← tryCatch (Except.ok <$> build q) fun e => if e.isA .scalar then pure (.error e) else throw e
    match built with
    | .error e => failure e.message
    | .ok s =>
      let r ← Action.rendering
      Action.record .debug logger ("Built " ++ s.shown r)
      return (0, (if q.describe then describe r s else s.text r) ++ "\n")

/-- The log lines of records at a level or above. -/
def logText (clock : Log.Clock) (level : Level) (records : List Record) : String :=
  String.join <|
    (records.filter fun r => level.severity ≤ r.level.severity).map fun r =>
      (Log.line? Log.defaultLayout clock r).getD "" ++ "\n"

/-- Runs an action with a log of its own. -/
def withOwnLog {α : Type} (a : Action α) : Action (α × List Record) := fun e =>
  let (result, e') := a.outcome { e with log := [] }
  (result.map fun x => (x, e'.log), { e' with log := e.log })

/-- Runs the command line with arguments. -/
def run (clock : Log.Clock) (files : Files) (arguments : List String) : Action Outcome := do
  match Request.ofArguments arguments with
  | .error fault => return ⟨2, "", program ++ ": error: " ++ fault.message ++ "\n"⟩
  | .ok none => return ⟨0, help, ""⟩
  | .ok (some q) =>
    match q.level with
    | none => throw (.missingMember (Value.list []).typeName "upper")
    | some level =>
      let ((exitCode, output), records) ← withOwnLog (answer files q)
      return ⟨exitCode, output, logText clock level records⟩

end TypedScalar.CommandLine
