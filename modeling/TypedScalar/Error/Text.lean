import TypedScalar.Value.Shown

/-! The text of an error that was made by hand, from values. -/

namespace TypedScalar.ErrorClass

/-- The classes of errors that lie in the class of scalar errors, and it. -/
def isScalar (c : ErrorClass) : Bool := c.isA .scalar

/-- No value gives no text and one value its own; several values are shown together, but an unknown data
type is told by the first of them alone. -/
def text (c : ErrorClass) (r : Rendering) (values : List Value) : Except Error String :=
  match values with
  | [] => .ok ""
  | [v] => v.plain r
  | v :: rest => if c = .unknownDataType then v.plain r else (Value.tuple (v :: rest)).shown r

/-- The general classes that a class lies in, the class of scalar errors first. -/
def generalClasses (c : ErrorClass) : List ErrorClass := [scalar, type, value, key].filter c.isA

end TypedScalar.ErrorClass
