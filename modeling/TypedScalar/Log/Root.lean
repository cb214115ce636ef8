import TypedScalar.Error
import TypedScalar.Log.Layout
import TypedScalar.Text.LetterCase

/-! The root of all loggers: its level, its handlers, and the streams that they write to. A setup adds a
handler when there is none; a forced one removes those that are there first. A level that is no level's
name is refused before anything happens, and a layout that may not be set only when a handler is about to
be added. -/

namespace TypedScalar.Log

structure Handler where
  stream : String
  layout : String
  deriving DecidableEq, Repr

structure Root where
  level : Level
  handlers : List Handler
  /-- What was written to each stream. -/
  streams : List (String × String)
  deriving DecidableEq, Repr

/-- How logging is to be set up; no layout, or an empty one, asks for the default one. -/
structure Setup where
  level : String
  layout : Option String
  stream : String
  force : Bool
  deriving DecidableEq, Repr

def standardStream : String := "stdout"

namespace Setup

def layoutText (s : Setup) : String :=
  match s.layout with
  | none => defaultLayout
  | some "" => defaultLayout
  | some l => l

/-- The level of a name in any letter case. -/
def level? (s : Setup) : Option Level := Level.ofName? (String.ofList (Text.upper s.level.toList))

end Setup

namespace Root

/-- No setup yet. -/
def unconfigured : Root := ⟨.warning, [], [(standardStream, "")]⟩

/-- Makes a stream known. -/
def withStream (r : Root) (stream : String) : Root :=
  if r.streams.any (·.1 == stream) then r else { r with streams := r.streams ++ [(stream, "")] }

/-- Sets logging up. -/
def configure (f : Formatter) (r : Root) (s : Setup) : Except Error Unit × Root :=
  match s.level? with
  | none => (.error (.invalidLevel s.level), r)
  | some level =>
    let r := if s.force then { r with handlers := [] } else r
    if !r.handlers.isEmpty then (.ok (), r)
    else if !f.accepts s.layoutText then (.error (.invalidFormat s.layoutText), r)
    else (.ok (), { r with handlers := [⟨s.stream, s.layoutText⟩], level := level })

def isEnabledFor (r : Root) (level : Level) : Bool := r.level.severity ≤ level.severity

def write (r : Root) (stream text : String) : Root :=
  { r with streams := r.streams.map fun s => if s.1 = stream then (s.1, s.2 ++ text) else s }

/-- Writes a record that is severe enough by every handler, one line each. -/
def emit (f : Formatter) (r : Root) (record : Record) : Root :=
  if r.isEnabledFor record.level then
    r.handlers.foldl
      (fun r h =>
        match f.fill? h.layout record with
        | some line => r.write h.stream (line ++ "\n")
        | none => r)
      r
  else r

end Root

/-- The name under which a logger logs; the root has no name of its own to ask for. -/
def loggerName (name : String) : String := if name = "" then "root" else name

end TypedScalar.Log
