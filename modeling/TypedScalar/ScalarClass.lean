import TypedScalar.DataType

/-! Classes of scalars. There is one class for each kind, and an abstract class for each family of kinds
that has behaviour of its own; a class may be refined by naming a subclass, which adds nothing. -/

namespace TypedScalar

inductive ClassFamily
  | any
  | numeric
  | integer
  | floating
  deriving DecidableEq, Repr

def ClassFamily.className : ClassFamily → String
  | any => "Scalar"
  | numeric => "NumericScalar"
  | integer => "IntegerScalar"
  | floating => "FloatingPointScalar"

inductive ScalarClass
  | abstract (family : ClassFamily)
  | concrete (kind : Kind)
  | subclass (name : String) (parent : ScalarClass)
  deriving DecidableEq, Repr

namespace ScalarClass

def name : ScalarClass → String
  | abstract f => f.className
  | concrete k => k.stem ++ "Scalar"
  | subclass n _ => n

/-- The kind of a class's scalars; abstract classes have none. -/
def kind? : ScalarClass → Option Kind
  | abstract _ => none
  | concrete k => some k
  | subclass _ c => c.kind?

/-- The family whose behaviour an abstract class has, and `any` for the others. -/
def family : ScalarClass → ClassFamily
  | abstract f => f
  | concrete _ => .any
  | subclass _ c => c.family

def builtIn : List ScalarClass :=
  [ClassFamily.any, .numeric, .integer, .floating].map abstract ++ Kind.all.map concrete

end ScalarClass

end TypedScalar
