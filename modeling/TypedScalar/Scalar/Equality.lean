import TypedScalar.Value.Comparison
import TypedScalar.Value.Shown

/-! Equality of scalars under options. Options may count two NaNs as equal, or real numbers within a
tolerance; they bear on valid scalars of floating kinds only. Any value may be given as a flag: one that
counts as false, where it decides, is the verdict itself. -/

namespace TypedScalar

open Floating (Half Single Double)

/-- The greatest distance at which numbers are approximately equal. Distances are doubles; they are rounded
to the format of the tolerance, of which a complex one is ordered by its real part first. -/
inductive Tolerance
  | whole (n : Int)
  | real (x : Double)
  | half (x : Half)
  | single (x : Single)
  | complex64 (re im : Single)
  | complex128 (re im : Double)
  | duration (seconds : Int)
  deriving DecidableEq, Repr

namespace Tolerance

/-- The order of complex numbers, against a real number `x` on the left. -/
def admitsReal {f : Floating.Format} (re im x : Floating.Number f) : Bool :=
  (x.lessThan re && !im.isNaN) || (x.equals re && (Floating.Number.zero false).lessEq im)

/-- Whether a distance stays within the tolerance. -/
def admits (t : Tolerance) (distance : Double) : Except Error Bool :=
  match t with
  | whole n => .ok (distance.lessEqInt n)
  | real x => .ok (distance.lessEq x)
  | half x => .ok ((distance.convert _).lessEq x)
  | single x => .ok ((distance.convert _).lessEq x)
  | complex64 re im => .ok (admitsReal re im (distance.convert _))
  | complex128 re im => .ok (admitsReal re im distance)
  | duration seconds => .error (.unordered (Machine.duration seconds).typeName)

def isNegativeComplex {f : Floating.Format} (re im : Floating.Number f) : Bool :=
  (re.isNegative && !im.isNaN) || (re.isZero && im.isNegative)

def isNegative : Tolerance → Bool
  | whole n => n < 0
  | real x => x.isNegative
  | half x => x.isNegative
  | single x => x.isNegative
  | complex64 re im => isNegativeComplex re im
  | complex128 re im => isNegativeComplex re im
  | duration seconds => seconds != Machine.notATime && seconds < 0

/-- A tolerance is a number of any type that has an order with numbers. -/
def ofValue? : Value → Option Tolerance
  | .boolean b | .machine (.boolean b) => some (whole (if b then 1 else 0))
  | .integer n => some (whole n)
  | .real x | .machine (.double x) => some (real x)
  | .machine (.integer _ n) => some (real (.ofInt .double n.val))
  | .machine (.half x) => some (half x)
  | .machine (.single x) => some (single x)
  | .machine (.complex64 re im) => some (complex64 re im)
  | .machine (.complex128 re im) => some (complex128 re im)
  | .machine (.duration seconds) => some (duration seconds)
  | _ => none

end Tolerance

structure EqualOptions where
  approximate : Value
  nansEqual : Value
  tolerance : Tolerance

namespace EqualOptions

/-- A hundred-thousandth. -/
def usualTolerance : Double := Floating.Number.ofDecimal .double false 1 (-5)

/-- Exact comparison; the tolerance is not used. -/
def exact : EqualOptions := ⟨.boolean false, .boolean false, .real usualTolerance⟩

/-- Sets one of the options by its name. -/
def set (o : EqualOptions) (field : String) (v : Value) : Except Error EqualOptions :=
  match field with
  | "approx" => .ok { o with approximate := v }
  | "nans_equal" => .ok { o with nansEqual := v }
  | "atol" =>
    match Tolerance.ofValue? v with
    | some t => .ok { o with tolerance := t }
    | none => .error (.unordered v.qualifiedTypeName)
  | _ => .error (.unexpectedField "EqualOptions" field)

/-- The names of the options. -/
def fieldNames : List String := ["approx", "nans_equal", "atol"]

/-- Options by name; a name that is no option is reported before a value that does not fit. -/
def ofFields (fields : List (String × Value)) : Except Error EqualOptions :=
  match fields.find? fun f => !fieldNames.contains f.1 with
  | some f => .error (.unexpectedField "EqualOptions" f.1)
  | none => do
    let o ← fields.foldlM (fun o f => o.set f.1 f.2) exact
    if o.tolerance.isNegative then .error .negativeTolerance else .ok o

end EqualOptions

/-- The number of a floating kind as a double, which holds it exactly. -/
def FloatingKind.toDouble : (k : FloatingKind) → Floating.Number k.format → Double
  | .single, x => x.convert .double
  | .double, x => x

namespace EqualOptions

/-- A flag that counts as false is the verdict; otherwise the test decides. -/
def verdict (flag : Value) (test : Except Error Bool) : Except Error Value :=
  if flag.isTruthy then test.map .boolean else .ok flag

/-- Equality of real numbers under options. -/
def equalReals (o : EqualOptions) (x y : Double) : Except Error Value :=
  if x.isNaN || y.isNaN then verdict o.nansEqual (.ok (x.isNaN && y.isNaN))
  else if x.equals y then .ok (.boolean true)
  else verdict o.approximate (o.tolerance.admits (x.distance y))

def equalPayloads (o : EqualOptions) : (k : Kind) → k.Payload → k.Payload → Except Error Value
  | .floating k, x, y => o.equalReals (k.toDouble x) (k.toDouble y)
  | k, p, q => .ok (.boolean (Scalar.equalPayloads k p q))

end EqualOptions

namespace Scalar

/-- The verdict on the equality of two scalars under options. -/
def equalUnder (o : EqualOptions) (a b : Scalar) : Except Error Value :=
  if h : b.kind = a.kind then
    match a.payload, b.payload with
    | none, none => .ok (.boolean true)
    | some p, some q => o.equalPayloads a.kind p (cast (payload_congr h) q)
    | _, _ => .ok (.boolean false)
  else .ok (.boolean false)

end Scalar

end TypedScalar
