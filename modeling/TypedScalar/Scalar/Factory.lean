import TypedScalar.Infer
import TypedScalar.Registry.Change
import TypedScalar.Scalar.Cast

/-! Building, casting and parsing scalars of the classes that are registered. -/

namespace TypedScalar

/-- What a factory hands out: a scalar that somebody held before, or a new one. -/
inductive Made
  | same (h : Held)
  | fresh (s : Scalar)

def Made.scalar : Made → Scalar
  | same h => h.scalar
  | fresh s => s

def Made.isSame : Made → Bool
  | same _ => true
  | fresh _ => false

namespace Scalar

def logger : String := "colscalar.core.scalars"

/-- A scalar of a class, from a value. -/
def build (c : ScalarClass) (v : Value) : Action Scalar := do
  Action.ofExcept (make (← Action.rendering) c v)

/-- A scalar of a type, from a value. -/
def create (t : Value) (v : Value) : Action Scalar := do
  let c ← Registry.lookup t
  build c v

/-- A scalar as one of another type. Nulls become nulls of that type, and a valid scalar of the type is its
own cast. -/
def cast (h : Held) (t : Value) : Action Made := do
  let target ← Registry.resolve t
  let e ← get
  let c ← Action.ofExcept (e.registry.classFor target)
  let s := h.scalar
  match s.payload with
  | none => return .fresh (← build c .none)
  | some p =>
    if target = .concrete .null then return .fresh (← build c .none)
    if target.same s.dataType then return .same h
    let name ← Action.ofExcept target.name
    Action.record .debug logger ("Casting " ++ s.shown e.rendering ++ " to " ++ name)
    return .fresh (← Action.ofExcept (castPayload e.rendering c s.kind p))

/-- The scalar that a value stands for, of a given type or of the inferred one. A scalar stands for
itself. -/
def ofValue (v : Value) (t : Option Value) : Action Made := do
  match v, t with
  | .scalar h, none => return .same h
  | .scalar h, some t => cast h t
  | v, some t => return .fresh (← create t v)
  | v, none =>
    let d ← Action.ofExcept (DataType.infer (← get).config v)
    return .fresh (← create (.dataType d) v)

/-- The source of a value that is a text. -/
def sourceOf (r : Rendering) (v : Value) : Except Error Source :=
  match v.text? with
  | none => .error (.unaccepted "parse" "str" v.typeName)
  | some s => (v.shown r).map fun shown => ⟨s, shown, v.copiedText?.getD s⟩

/-- Reads a text as a scalar of a type, or of a class where no type is given. The class of all scalars
needs a type. -/
def parseAs (c : ScalarClass) (text : Value) (t : Option Value) : Action Scalar := do
  let target ←
    match t with
    | some t => Registry.lookup t
    | none => if c = .abstract .any then throw .parseNeedsType else pure c
  let r ← Action.rendering
  let source ← Action.ofExcept (sourceOf r text)
  Action.ofExcept (parse r target source)

/-- The plain value of a scalar; a null has none. -/
def asValue (s : Scalar) : Value :=
  match s.kind, s.payload with
  | _, none => .none
  | .null, some p => nomatch p
  | .boolean, some (b : Bool) => .boolean b
  | .integer _, some (n : IntegerKind.Value _) => .integer n.val
  | .floating k, some x => .real (k.toDouble x)
  | .string, some (s : String) => .text s
  | .binary, some (b : List UInt8) => .bytes .plain b

/-- A copy of a scalar, shallow or deep: its class built anew from its plain value. -/
def copy (s : Scalar) : Action Scalar := build s.cls s.asValue

end Scalar

end TypedScalar
