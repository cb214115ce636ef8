import TypedScalar.CommandLine
import TypedScalar.DataType.Bounds
import TypedScalar.Error.Text
import TypedScalar.Log.Run
import TypedScalar.Scalar.Pickle
import TypedScalar.Scalar.View
import TypedScalar.Session
import TypedScalar.Session.Refusal

/-! The operations of a session and their answers. An operation that fails answers with the error and keeps
only what it had changed before. -/

namespace TypedScalar.Session

/-- Operations that give a scalar. -/
inductive Construction
  | make (className : String) (value : Option Term)
  | ofValue (value : Term) (type : Option Term)
  | create (type : Term) (value : Option Term)
  | parse (className : String) (text : Term) (type : Option Term)
  | cast (scalar type : Term)
  /-- A copy, shallow or deep. -/
  | copy (scalar : Term)
  /-- What is read from a pickle of a scalar. -/
  | pickle (scalar : Term)
  | look (scalar : Term)

/-- Ways to a data type. -/
inductive DataTypeQuery
  | infer (value : Term)
  | resolve (type : Term)
  | ofName (name : Term)
  | ofId (id : Term)
  | ofStorage (code : Term)
  | ofClass (className : String)

/-- The class that is registered: one known by name, or a new subclass of one. -/
inductive ClassChoice
  | named (name : String)
  | subclass (name parent : String)

/-- Settings by name. -/
abbrev Fields := List (String × Term)

inductive Operation
  | construct (c : Construction) (storeAs : Option String)
  | equal (a b : Term) (options : Option Fields)
  | compare (a b : Term)
  | compareHashes (a b : Term)
  | group (items : List Term)
  | options (fields : Fields)
  | setAttribute (object : Term) (name : String) (value : Term)
  | deleteAttribute (object : Term) (name : String)
  | dataType (q : DataTypeQuery)
  | register (type : Term) (choice : ClassChoice)
  | unregister (type : Term)
  | listTypes
  | isRegistered (type : Term)
  | classFor (type : Term)
  | getConfig
  | resetConfig
  | setConfig (config : Option Fields) (overrides : Fields)
  | validateConfig (config : Fields)
  | loadConfig (path : String) (activate : Bool)
  | commandLine (arguments : List String)
  | logging (steps : List Log.Step)
  | makeError (c : ErrorClass) (values : List Term)

inductive Answer
  /-- A scalar, and for a cast whether it is the very same one. -/
  | scalar (view : ScalarView) (same : Option Bool)
  /-- The verdict, which may be a value that counts as false. -/
  | equal (verdict : Value)
  | compared (equal : Bool)
  | hashesEqual (b : Bool)
  | groups (numbers : List Nat) (count : Nat)
  | options (fields : List (String × Value))
  | dataType (d : DataType)
  | types (names : List String)
  | registered (b : Bool)
  | className (name : String)
  | config (c : Config)
  | commandLine (o : CommandLine.Outcome)
  | logging (answers : List Log.StepAnswer) (streams : List (String × String))
  | madeError (text : String) (classes : List ErrorClass)
  | failure (e : Error)

/-- Where a class is looked up. Those that a session makes stand in no module. -/
def classAddress : ScalarClass → ClassAddress
  | .subclass name _ => ⟨"__main__", name, some .missing⟩
  | c => ⟨"colscalar.core.scalars", c.name, none⟩

/-- Carries out a construction. -/
def Construction.run : Construction → Task Made
  | make className value => do
    let c ← classNamed className
    let v ← evaluateOptional value
    return .fresh (← lift (Scalar.build c (v.getD .none)))
  | ofValue value type => do
    let v ← evaluate value
    let t ← evaluateOptional type
    lift (Scalar.ofValue v t)
  | create type value => do
    let t ← evaluate type
    let v ← evaluateOptional value
    return .fresh (← lift (Scalar.create t (v.getD .none)))
  | parse className text type => do
    let c ← classNamed className
    let v ← evaluate text
    let t ← evaluateOptional type
    return .fresh (← lift (Scalar.parseAs c v t))
  | cast scalar type => do
    let v ← evaluate scalar
    let t ← evaluate type
    let h ← lift (Action.ofExcept (v.asCastable t))
    lift (Scalar.cast h t)
  | copy scalar => do
    let h ← lift (Action.ofExcept (← evaluate scalar).asCopyable)
    return .fresh (← lift (Scalar.copy h.scalar))
  | pickle scalar => do
    let h ← lift (Action.ofExcept (← evaluate scalar).asCopyable)
    return .fresh (← lift (Scalar.pickle classAddress h.scalar))
  | look scalar => do
    let h ← lift (Action.ofExcept ((← evaluate scalar).asScalar "data_type"))
    return .same h

def Construction.isCast : Construction → Bool
  | cast .. => true
  | _ => false

/-- Carries out a construction, stores the scalar if asked to, and shows it. -/
def construct (c : Construction) (storeAs : Option String) : Task Answer := do
  let made ← c.run
  let h ← holdMade made
  match storeAs with
  | some name => store name h
  | none => pure ()
  return .scalar (h.scalar.view (← get).environment.rendering) (if c.isCast then some made.isSame else none)

def DataTypeQuery.run (r : Rendering) (config : Config) : DataTypeQuery → Task DataType
  | infer value => do lift (Action.ofExcept (DataType.infer config (← evaluate value)))
  | resolve type => do lift (Action.ofExcept (DataType.resolve r (← evaluate type)))
  | ofName name => do lift (Action.ofExcept (DataType.ofName r (← evaluate name)))
  | ofId id => do lift (Action.ofExcept (DataType.ofId r (← evaluate id)))
  | ofStorage code => do lift (Action.ofExcept (DataType.ofStorageCode r (← evaluate code)))
  | ofClass className =>
    match DataType.ofClassName? className with
    | some d => return d
    | none => throw (.unknownClass className)

/-- The class that is chosen; a new subclass is known from then on. -/
def ClassChoice.run : ClassChoice → Task ScalarClass
  | named name => classNamed name
  | subclass name parent => do
    let c := ScalarClass.subclass name (← classNamed parent)
    addClass c
    return c

/-- The options as they were given, or else their initial values. -/
def givenOptions (fields : List (String × Value)) : List (String × Value) :=
  let initial : List (String × Value) :=
    [("approx", .boolean false), ("nans_equal", .boolean false),
      ("atol", .real (Floating.Number.ofDecimal .double false 1 (-5)))]
  initial.map fun f => (f.1, (fields.lookup f.1).getD f.2)

/-- Carries out an operation. -/
def perform (clock : Log.Clock) (files : Files) : Operation → Task Answer
  | .construct c storeAs => construct c storeAs
  | .equal a b options => do
    let v ← evaluate a
    let w ← evaluate b
    let h ← lift (Action.ofExcept (v.asScalar "equal"))
    let o ←
      match options with
      | none => pure EqualOptions.exact
      | some fields => do lift (Action.ofExcept (EqualOptions.ofFields (← evaluateEntries fields)))
    match w with
    | .scalar k => return .equal (← lift (Action.ofExcept (h.scalar.equalUnder o k.scalar)))
    | _ => return .equal (.boolean false)
  | .compare a b => do
    let v ← evaluate a
    let w ← evaluate b
    return .compared (← lift (Action.ofExcept (v.compare w)))
  | .compareHashes a b => do
    let v ← evaluate a
    let w ← evaluate b
    return .hashesEqual (← lift (Action.ofExcept (v.sameHash w)))
  | .group items => do
    let vs ← evaluateAll items
    match vs.findSome? Value.unhashable? with
    | some e => throw e
    | none =>
      let (numbers, count) := Value.groups vs
      return .groups numbers count
  | .options fields => do
    let fs ← evaluateEntries fields
    discard <| lift (Action.ofExcept (EqualOptions.ofFields fs))
    return .options (givenOptions fs)
  | .setAttribute object name value => do
    let v ← evaluate object
    discard <| evaluate value
    throw (v.refuseSetting name)
  | .deleteAttribute object name => do
    let v ← evaluate object
    throw (v.refuseDeletion name)
  | .dataType q => do
    let e := (← get).environment
    return .dataType (← q.run e.rendering e.config)
  | .register type choice => do
    let c ← choice.run
    let t ← evaluate type
    lift (Registry.register t c)
    return .types (← lift Registry.listTypes)
  | .unregister type => do
    let t ← evaluate type
    lift (Registry.unregister t)
    return .types (← lift Registry.listTypes)
  | .listTypes => return .types (← lift Registry.listTypes)
  | .isRegistered type => return .registered (← lift (Registry.isRegistered (← evaluate type)))
  | .classFor type => return .className (← lift (Registry.lookup (← evaluate type))).name
  | .getConfig => return .config (← get).environment.config
  | .resetConfig => return .config (← lift Config.reset)
  | .setConfig config overrides => do
    let c ←
      match config with
      | none => pure none
      | some fields => do some <$> lift (Action.ofExcept (Config.ofFields (← evaluateEntries fields)))
    let fs ← evaluateEntries overrides
    return .config (← lift (Config.activate c fs))
  | .validateConfig config => do
    let c ← lift (Action.ofExcept (Config.ofFields (← evaluateEntries config)))
    lift (do Action.ofExcept (c.validate (← Action.rendering)))
    return .config c
  | .loadConfig path activate => do
    let c ← lift (Config.load files path)
    if activate then discard <| lift (Config.activate c [])
    return .config c
  | .commandLine arguments => return .commandLine (← lift (CommandLine.run clock files arguments))
  | .logging steps =>
    let (answers, root) := Log.Root.unconfigured.run (.percent clock) steps
    return .logging answers root.streams
  | .makeError c values => do
    let vs ← evaluateAll values
    return .madeError (← lift (Action.ofExcept (c.text (← get).environment.rendering vs))) c.generalClasses

/-- The answer of an operation in a session, and the session afterwards. -/
def step (clock : Log.Clock) (files : Files) (s : Session) (o : Operation) : Answer × Session :=
  match outcome (perform clock files o) s with
  | (.ok a, s) => (a, s)
  | (.error e, s) => (.failure e, s)

/-- The answers of operations in turn, and the session afterwards. -/
def run (clock : Log.Clock) (files : Files) (s : Session) : List Operation → List Answer × Session
  | [] => ([], s)
  | o :: rest =>
    let (a, s) := s.step clock files o
    let (answers, s) := s.run clock files rest
    (a :: answers, s)

end TypedScalar.Session
