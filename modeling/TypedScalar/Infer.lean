import TypedScalar.Environment

/-! Inference of the data type of a value. Plain integers and real numbers have the types that the
configuration gives them, and values with a machine type the kind that is stored so. -/

namespace TypedScalar.DataType

def infer (config : Config) (v : Value) : Except Error DataType :=
  match v with
  | .none => .ok (.concrete .null)
  | .text _ | .machine (.text _) => .ok (.concrete .string)
  | .bytes _ _ | .view _ | .machine (.bytes _) => .ok (.concrete .binary)
  | .machine m => ofStorage m.storage
  | .boolean _ => .ok (.concrete .boolean)
  | .integer _ => resolve config.rendering config.integerDefault
  | .real _ => resolve config.rendering config.floatDefault
  | v => .error (.uninferable v.typeName)

end TypedScalar.DataType
