import TypedScalar.Config.Validate
import TypedScalar.Log.Record
import TypedScalar.Registry

/-! The environment of all operations: the active configuration, the registry of classes, and the log.
An action may change the environment and may fail; what it changed before it failed stays changed. -/

namespace TypedScalar

structure Environment where
  config : Config
  registry : Registry
  /-- All records so far, the oldest first. -/
  log : List Record

namespace Environment

def initial : Environment := ⟨.initial, .builtIn, []⟩

def rendering (e : Environment) : Rendering := e.config.rendering

end Environment

abbrev Action := ExceptT Error (StateM Environment)

namespace Action

def environment : Action Environment := get

def rendering : Action Rendering := do return (← get).rendering

def ofExcept {α : Type} (x : Except Error α) : Action α := ExceptT.mk (pure x)

def record (level : Level) (logger message : String) : Action Unit :=
  modify fun e => { e with log := e.log ++ [⟨level, logger, message⟩] }

/-- The outcome of an action in an environment, and the environment afterwards. -/
def outcome {α : Type} (a : Action α) (e : Environment) : Except Error α × Environment := a.run.run e

end Action

end TypedScalar
