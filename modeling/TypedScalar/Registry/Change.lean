import TypedScalar.Environment

/-! Looking up, registering and unregistering classes by a value that denotes a data type. -/

namespace TypedScalar.Registry

def logger : String := "colscalar.registry"

/-- The descriptor that a value denotes. -/
def resolve (t : Value) : Action DataType := do Action.ofExcept (DataType.resolve (← Action.rendering) t)

/-- The class registered for a type. -/
def lookup (t : Value) : Action ScalarClass := do
  let d ← resolve t
  Action.ofExcept ((← get).registry.classFor d)

/-- Registers a class for the kind it holds. -/
def register (t : Value) (c : ScalarClass) : Action Unit := do
  let key := (← resolve t).kind?
  if c.kind? ≠ key then
    match c.kind?, key with
    | some holds, some asked => throw (.wrongHolder c.name holds asked)
    | _, _ => throw (.missingMember "NoneType" "value")
  if (← get).registry.contains key then
    let name ← Action.ofExcept (keyName key)
    Action.record .warning logger
      ("Scalar type '" ++ name ++ "' already registered. Overwriting with " ++ c.name)
  modify fun e => { e with registry := e.registry.insert key c }
  let name ← Action.ofExcept (keyName key)
  Action.record .info logger ("Registered scalar: " ++ name ++ " -> " ++ c.name)

/-- Removes the class of a type, if there is one. -/
def unregister (t : Value) : Action Unit := do
  let key := (← resolve t).kind?
  if (← get).registry.contains key then
    modify fun e => { e with registry := e.registry.erase key }
    let name ← Action.ofExcept (keyName key)
    Action.record .info logger ("Unregistered scalar: " ++ name)

def listTypes : Action (List String) := do Action.ofExcept (← get).registry.names

/-- Whether a type has a class; what denotes no type has none. -/
def isRegistered (t : Value) : Action Bool := do
  let e ← get
  match DataType.resolve e.rendering t with
  | .ok d => return e.registry.contains d.kind?
  | .error err => if err.isA .unknownDataType then return false else throw err

end TypedScalar.Registry
