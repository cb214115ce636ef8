import TypedScalar.Scalar.Factory

/-! A session: an environment, the classes that are known by name, and the scalars that were stored under
a name. Terms stand for values and may build scalars or refer to stored ones. Each scalar that is built
gets an identity of its own. -/

namespace TypedScalar

structure Session where
  environment : Environment
  /-- Classes by name, the latest first. -/
  classes : List (String × ScalarClass)
  /-- Stored scalars by name, the latest first. -/
  bindings : List (String × Held)
  /-- The identity of the next scalar. -/
  next : Nat

inductive Term
  | value (v : Value)
  /-- A machine integer, which may turn out to be out of bounds. -/
  | machineInteger (k : IntegerKind) (n : Int)
  /-- A duration, which may turn out to be too long. -/
  | duration (seconds : Int)
  | list (items : List Term)
  | tuple (items : List Term)
  | dictionary (entries : List (String × Term))
  /-- A scalar of the class of a name, null where no value is given. -/
  | scalar (className : String) (value : Option Term)
  | reference (name : String)

namespace Session

def initial : Session := ⟨.initial, ScalarClass.builtIn.map fun c => (c.name, c), [], 0⟩

/-- What may change a session and may fail. -/
abbrev Task := ExceptT Error (StateM Session)

/-- The outcome of a task in a session, and the session afterwards. -/
def outcome {α : Type} (t : Task α) (s : Session) : Except Error α × Session := t.run.run s

/-- An action on the environment, as a task. -/
def lift {α : Type} (a : Action α) : Task α := fun s =>
  let (result, e) := a.outcome s.environment
  (result, { s with environment := e })

/-- The class of a name. -/
def classNamed (name : String) : Task ScalarClass := do
  match (← get).classes.lookup name with
  | some c => return c
  | none => throw (.unknownClass name)

/-- Makes a class known by its name. -/
def addClass (c : ScalarClass) : Task Unit := modify fun s => { s with classes := (c.name, c) :: s.classes }

/-- The scalar stored under a name. -/
def stored (name : String) : Task Held := do
  match (← get).bindings.lookup name with
  | some h => return h
  | none => throw (.unbound name)

/-- Stores a scalar under a name. -/
def store (name : String) (h : Held) : Task Unit :=
  modify fun s => { s with bindings := (name, h) :: s.bindings }

/-- Gives a new scalar its identity. -/
def hold (s : Scalar) : Task Held := do
  let n := (← get).next
  modify fun s => { s with next := n + 1 }
  return ⟨n, s⟩

/-- What a factory handed out, with its identity. -/
def holdMade : Made → Task Held
  | .same h => return h
  | .fresh s => hold s

def machineInteger (k : IntegerKind) (n : Int) : Except Error Value :=
  if h : k.min ≤ n ∧ n ≤ k.max then .ok (.machine (.integer k ⟨n, h⟩))
  else (integerText n).bind fun s => .error (.machineOverflow s k)

/-- A duration of a number of seconds that takes 64 bits. -/
def duration (seconds : Int) : Except Error Value :=
  let k : IntegerKind := ⟨true, .w64⟩
  if k.min ≤ seconds ∧ seconds ≤ k.max then .ok (.machine (.duration seconds)) else .error .durationTooLarge

mutual

/-- The value that a term stands for. -/
def evaluate : Term → Task Value
  | .value v => return v
  | .machineInteger k n => lift (Action.ofExcept (machineInteger k n))
  | .duration seconds => lift (Action.ofExcept (duration seconds))
  | .list items => return .list (← evaluateAll items)
  | .tuple items => return .tuple (← evaluateAll items)
  | .dictionary entries => return .dictionary ((← evaluateEntries entries).map fun e => (.text e.1, e.2))
  | .scalar className value => do
    let c ← classNamed className
    let v ← evaluateOptional value
    return .scalar (← hold (← lift (Scalar.build c (v.getD .none))))
  | .reference name => return .scalar (← stored name)

/-- The values of terms, from the first on. -/
def evaluateAll : List Term → Task (List Value)
  | [] => return []
  | t :: rest => return (← evaluate t) :: (← evaluateAll rest)

def evaluateEntries : List (String × Term) → Task (List (String × Value))
  | [] => return []
  | (k, t) :: rest => return (k, ← evaluate t) :: (← evaluateEntries rest)

def evaluateOptional : Option Term → Task (Option Value)
  | none => return none
  | some t => return some (← evaluate t)

end

end Session

end TypedScalar
