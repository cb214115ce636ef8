import TypedScalar.Log.Root

/-! A run of setups and log calls, from a root without a setup. -/

namespace TypedScalar.Log

inductive Step
  | setup (s : Setup)
  | log (name : String) (level : Level) (message : String)
  deriving DecidableEq, Repr

/-- What a step tells: the root's level and number of handlers after a setup, or the logger's name and
whether it takes the level. -/
inductive StepAnswer
  | configured (level : Level) (handlers : Nat)
  | refused (e : Error)
  | logged (name : String) (enabled : Bool)
  deriving DecidableEq, Repr

/-- Takes a step. The stream of a setup is known even if the setup is refused. -/
def Root.step (f : Formatter) (r : Root) : Step → StepAnswer × Root
  | .setup s =>
    match (r.withStream s.stream).configure f s with
    | (.ok _, r) => (.configured r.level r.handlers.length, r)
    | (.error e, r) => (.refused e, r)
  | .log name level message =>
    let name := loggerName name
    (.logged name (r.isEnabledFor level), r.emit f ⟨level, name, message⟩)

/-- Takes steps in turn. -/
def Root.run (f : Formatter) (r : Root) : List Step → List StepAnswer × Root
  | [] => ([], r)
  | s :: rest =>
    let (a, r) := r.step f s
    let (as, r) := Root.run f r rest
    (a :: as, r)

end TypedScalar.Log
