import TypedScalar.Value.Shown

/-! Building a scalar of a class from an untyped value. Nothing, given as a value, builds a null. What a
kind does not take is refused by its type, and numbers beyond its bounds are refused, never wrapped or
clamped; a real number is out of range when rounding takes it to infinity. -/

namespace TypedScalar

open Floating (Double)

/-- The number of a floating kind nearest to a double. -/
def FloatingKind.ofDouble : (k : FloatingKind) → Double → Floating.Number k.format
  | .single, x => x.convert .single
  | .double, x => x

namespace Kind

/-- What a duration counts as: nothing, a span of time, or a mere number if it is too long for one. -/
def durationType? (seconds : Int) : Option String :=
  if seconds = Machine.notATime then some Value.none.qualifiedTypeName
  else if isSpan seconds then some "datetime.timedelta"
  else none

/-- The integer that a value is taken for. -/
def takeInteger (className : String) (v : Value) : Except Error Int :=
  match v with
  | .machine (.duration seconds) =>
    match durationType? seconds with
    | some typeName => .error (.noIntegerOf typeName)
    | none => .ok seconds
  | v =>
    match v.integer? with
    | some n => .ok n
    | none => .error (.unaccepted className "an integer" v.typeName)

def acceptInteger (k : IntegerKind) (className : String) (v : Value) : Except Error k.Value :=
  (takeInteger className v).bind fun n =>
    if h : k.min ≤ n ∧ n ≤ k.max then .ok ⟨n, h⟩
    else (integerText n).bind fun _ => .error (.range (.integer n k))

/-- A number of any type as a double. Only an integer may be too large for one. -/
def acceptDouble (k : FloatingKind) (className : String) (v : Value) : Except Error Double :=
  match v with
  | .machine (.duration seconds) =>
    match durationType? seconds with
    | some typeName => .error (.noRealOf typeName)
    | none => .ok (.ofInt .double seconds)
  | v =>
    match v.integer?, v.real? with
    | some n, _ =>
      let x := Floating.Number.ofInt .double n
      if x.isInfinite then (integerText n).bind fun s => .error (.range (.real s k)) else .ok x
    | none, some x => .ok x
    | none, none => .error (.unaccepted className "a number" v.typeName)

def acceptFloating (k : FloatingKind) (className : String) (v : Value) :
    Except Error (Floating.Number k.format) :=
  (acceptDouble k className v).bind fun x =>
    let stored := k.ofDouble x
    if x.isFinite && stored.isInfinite then .error (.range (.real (doubleText x) k)) else .ok stored

/-- The payload of a kind that a value other than nothing stands for. -/
def accept (r : Rendering) (className : String) : (k : Kind) → Value → Except Error k.Payload
  | .null, v => (v.shown r).bind fun s => .error (.nullHoldsNothing s)
  | .boolean, v =>
    match v.boolean? with
    | some b => .ok b
    | none => .error (.unaccepted "BooleanScalar" "a bool" v.typeName)
  | .integer k, v => acceptInteger k className v
  | .floating k, v => acceptFloating k className v
  | .string, v =>
    match v.copiedText? with
    | some s => .ok s
    | none => .error (.unaccepted "StringScalar" "str" v.typeName)
  | .binary, v =>
    match v.bytes? with
    | some b => .ok b
    | none => .error (.unaccepted "BinaryScalar" "bytes" v.typeName)

end Kind

namespace Scalar

/-- The scalar of a class that a value stands for. -/
def make (r : Rendering) (c : ScalarClass) (v : Value) : Except Error Scalar :=
  match h : c.kind? with
  | none => .error (.abstractClass c.name)
  | some k =>
    if v.isNone then .ok (null c k h)
    else (k.accept r c.name v).map fun p => ⟨c, k, h, some p⟩

end Scalar

end TypedScalar
