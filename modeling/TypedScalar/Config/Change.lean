import TypedScalar.Environment

/-! Changing the active configuration. -/

namespace TypedScalar.Config

def logger : String := "colscalar.config"

/-- A configuration from its settings by name; the others keep their initial values. -/
def ofFields (fields : List (String × Value)) : Except Error Config := initial.update fields

/-- Makes a configuration active, by default the one that is, with some settings changed, if it is valid.
The change is recorded after it was made. -/
def activate (config : Option Config) (overrides : List (String × Value)) : Action Config := do
  let e ← get
  let new ← Action.ofExcept ((config.getD e.config).update overrides)
  Action.ofExcept (new.validate e.rendering)
  modify fun e => { e with config := new }
  let shown ← Action.ofExcept (new.shown new.rendering)
  Action.record .debug logger ("Active scalar config: " ++ shown)
  return new

/-- Makes the initial configuration active again. -/
def reset : Action Config := do
  modify fun e => { e with config := initial }
  return initial

end TypedScalar.Config
