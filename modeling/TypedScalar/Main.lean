import Std.Time
import TypedScalar.CommandLine

/-! The program: the command line with the file system, the clock and the standard streams. -/

namespace TypedScalar.Program

/-- What a path leads to, as a working directory. A directory is told by something that lies in it. -/
def filesAt (path : String) : IO Files := do
  let place := System.mkFilePath [path]
  if ← place.isDir then return ⟨[(path ++ "/contents", "")]⟩
  if ← place.pathExists then return ⟨[(path, ← IO.FS.readFile place)]⟩
  return ⟨[]⟩

/-- The files that arguments refer to. -/
def filesFor (arguments : List String) : IO Files :=
  match CommandLine.Request.ofArguments arguments with
  | .ok (some q) =>
    match q.config with
    | none | some "" => return ⟨[]⟩
    | some path => filesAt path
  | _ => return ⟨[]⟩

end TypedScalar.Program

open TypedScalar in
/-- Runs the command line; an error that is not the user's goes to the error stream. -/
def main (arguments : List String) : IO UInt32 := do
  let clock := (← Std.Time.PlainDateTime.now).format "uuuu-MM-dd HH:mm:ss,SSS"
  let files ← Program.filesFor arguments
  match (CommandLine.run clock files arguments).outcome .initial with
  | (.ok o, _) =>
    IO.print o.output
    IO.eprint o.errors
    return o.exitCode.toUInt32
  | (.error e, _) =>
    IO.eprintln e.message
    return 1
