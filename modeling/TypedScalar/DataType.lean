import TypedScalar.Kind

/-! Data type descriptors. A descriptor is that of a kind, or an abstract family of kinds, which has no
identifier, no name and no storage. Descriptors compare by identifier alone, so all families are equal. -/

namespace TypedScalar

/-- Families of kinds, from the most general one on. -/
inductive Family
  | any
  | fixedWidth
  | numeric
  | integer
  | floating
  deriving DecidableEq, Repr

namespace Family

def className : Family → String
  | any => "DataType"
  | fixedWidth => "FixedWidthType"
  | numeric => "NumericType"
  | integer => "IntegerType"
  | floating => "FloatingPointType"

/-- The families narrower than `any` that a family lies in, itself among them. -/
def ancestry : Family → List Family
  | any => []
  | fixedWidth => [fixedWidth]
  | numeric => [fixedWidth, numeric]
  | integer => [fixedWidth, numeric, integer]
  | floating => [fixedWidth, numeric, floating]

end Family

/-- The narrowest family of a kind. -/
def Kind.family : Kind → Family
  | .boolean => .fixedWidth
  | .integer _ => .integer
  | .floating _ => .floating
  | .null | .string | .binary => .any

/-- The stem of the class names that belong to a kind. -/
def Kind.stem : Kind → String
  | .null => "Null"
  | .boolean => "Boolean"
  | .integer k => (if k.signed then "Int" else "UInt") ++ toString k.width.bits
  | .floating .single => "Float"
  | .floating .double => "Double"
  | .string => "String"
  | .binary => "Binary"

inductive DataType
  | abstract (family : Family)
  | concrete (kind : Kind)
  deriving DecidableEq, Repr

namespace DataType

def className : DataType → String
  | abstract f => f.className
  | concrete k => k.stem ++ "DataType"

def kind? : DataType → Option Kind
  | abstract _ => none
  | concrete k => some k

def family : DataType → Family
  | abstract f => f
  | concrete k => k.family

/-- Sameness of descriptors. -/
def same (a b : DataType) : Bool := a.kind? == b.kind?

def isInteger (d : DataType) : Bool := d.family == .integer

def isFloating (d : DataType) : Bool := d.family == .floating

/-- The storage width; a boolean takes one bit, and kinds of variable width have none. -/
def bitWidth? : DataType → Option Nat
  | concrete .boolean => some 1
  | concrete (.integer k) => some k.width.bits
  | concrete (.floating .single) => some 32
  | concrete (.floating .double) => some 64
  | _ => none

def all : List DataType :=
  [Family.any, .fixedWidth, .numeric, .integer, .floating].map abstract ++ Kind.all.map concrete

def ofClassName? (s : String) : Option DataType := all.find? (·.className == s)

end DataType

end TypedScalar
