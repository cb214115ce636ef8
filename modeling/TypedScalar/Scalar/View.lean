import TypedScalar.Scalar.Factory

/-! What can be seen of a scalar under a rendering. A null shows a sentinel of its kind in place of a
value. Valid scalars of fixed width are stored in machine form, all others as plain values. -/

namespace TypedScalar

/-- The value that nulls of a kind show. -/
def Kind.sentinel : Kind → Value
  | null => .none
  | boolean => .boolean false
  | integer _ => .integer 0
  | floating _ => .real (.zero false)
  | string => .text ""
  | binary => .bytes .plain []

inductive Stored
  | machine (s : Storage)
  | plain (typeName : String)
  deriving DecidableEq, Repr

structure ScalarView where
  className : String
  typeName : String
  isValid : Bool
  /-- The value, or the sentinel. -/
  value : Value
  /-- The value, or nothing. -/
  content : Value
  text : String
  shown : String
  stored : Stored

namespace Scalar

def value (s : Scalar) : Value := if s.isValid then s.asValue else s.kind.sentinel

def stored (s : Scalar) : Stored :=
  match if s.isValid then Storage.ofKind? s.kind else none with
  | some storage => .machine storage
  | none => .plain s.value.typeName

def view (r : Rendering) (s : Scalar) : ScalarView :=
  ⟨s.cls.name, s.kind.name, s.isValid, s.value, s.asValue, s.text r, s.shown r, s.stored⟩

end Scalar

end TypedScalar
