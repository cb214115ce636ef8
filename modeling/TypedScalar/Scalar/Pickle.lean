import TypedScalar.Scalar.Factory
import TypedScalar.Text.Parts

/-! Pickles of scalars. A pickle holds the plain value of a scalar, but of its class only the name, under which
the class is looked up when the pickle is written and again when it is read. -/

namespace TypedScalar

/-- Where a class is looked up, and what is wrong there if the class is not what is found. -/
structure ClassAddress where
  module : String
  /-- The names that lead to the class in its module, with points between them. -/
  qualifiedName : String
  fault : Option LookupFault

namespace ClassAddress

/-- Stands in the qualified names of classes that were made inside a function. -/
def localMark : String := "<locals>"

def isLocal (a : ClassAddress) : Bool := (Text.splitAt '.' a.qualifiedName.toList).contains localMark.toList

/-- Looks a class up. -/
def look (a : ClassAddress) : Except Error Unit :=
  if a.isLocal then .error (.localClass a.qualifiedName)
  else
    match a.fault with
    | none => .ok ()
    | some fault => .error (.unfoundClass a.module a.qualifiedName fault)

end ClassAddress

/-- What becomes of a scalar on the way through a pickle: if its class is found, this is built anew from the
plain value, as for a copy. -/
def Scalar.pickle (address : ScalarClass → ClassAddress) (s : Scalar) : Action Scalar := do
  Action.ofExcept (address s.cls).look
  copy s

end TypedScalar
