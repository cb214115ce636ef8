import TypedScalar.Value

/-! Facts about the numbers of a data type: their storage, whether they are signed, and their bounds. -/

namespace TypedScalar

/-- The greatest finite number of a format. -/
def Floating.Number.greatest (f : Floating.Format) : Floating.Number f :=
  .signed false ⟨f.infinity - 1, by omega⟩

namespace DataType

def storage? (d : DataType) : Option Storage := d.kind?.bind Storage.ofKind?

/-- Whether an integer type is signed; the family of integers has no answer. -/
def isSigned : DataType → Except Error Bool
  | concrete (.integer k) => .ok k.signed
  | _ => .error (.missingMember "NoneType" "kind")

def least? : DataType → Option Value
  | concrete (.integer k) => some (.integer k.min)
  | _ => none

def greatest? : DataType → Option Value
  | concrete (.integer k) => some (.integer k.max)
  | concrete (.floating k) => some (.real ((Floating.Number.greatest k.format).convert .double))
  | _ => none

end DataType

end TypedScalar
