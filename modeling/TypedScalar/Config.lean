import TypedScalar.Scalar.Hash

/-! The configuration: how scalars are rendered, and which kinds plain numbers are inferred to be. A
configuration is any four values; validation refuses one whose null token could be taken for the text of a
valid value, or whose default types are not of their families. -/

namespace TypedScalar

structure Config where
  nullToken : Value
  upperHex : Value
  integerDefault : Value
  floatDefault : Value

namespace Config

def initial : Config := ⟨.text "null", .boolean true, .text "int64", .text "double"⟩

/-- The names of the settings, in order. -/
def fieldNames : List String := ["null_token", "binary_uppercase", "default_integer_type", "default_float_type"]

def get? (c : Config) : String → Option Value
  | "null_token" => some c.nullToken
  | "binary_uppercase" => some c.upperHex
  | "default_integer_type" => some c.integerDefault
  | "default_float_type" => some c.floatDefault
  | _ => none

/-- Changes the setting of a name; other names change nothing. -/
def set (c : Config) (field : String) (v : Value) : Config :=
  match field with
  | "null_token" => { c with nullToken := v }
  | "binary_uppercase" => { c with upperHex := v }
  | "default_integer_type" => { c with integerDefault := v }
  | "default_float_type" => { c with floatDefault := v }
  | _ => c

/-- Changes settings by name, and refuses a name that is none. -/
def update (c : Config) (fields : List (String × Value)) : Except Error Config :=
  match fields.find? fun f => !fieldNames.contains f.1 with
  | some f => .error (.unexpectedField "ScalarConfig" f.1)
  | none => .ok (fields.foldl (fun c f => c.set f.1 f.2) c)

/-- The rendering that a configuration asks for. Any value may choose the letter case. -/
def rendering (c : Config) : Rendering := ⟨c.nullToken.text?.getD "", c.upperHex.isTruthy⟩

/-- The settings as messages show them. -/
def shown (r : Rendering) (c : Config) : Except Error String := do
  let token ← c.nullToken.shown r
  let upper ← c.upperHex.shown r
  let integer ← c.integerDefault.shown r
  let float ← c.floatDefault.shown r
  .ok ("ScalarConfig(null_token=" ++ token ++ ", binary_uppercase=" ++ upper ++
    ", default_integer_type=" ++ integer ++ ", default_float_type=" ++ float ++ ")")

end Config

namespace DataType

/-- The descriptor that a value denotes: a descriptor, an identifier or a name. -/
def resolve (r : Rendering) (v : Value) : Except Error DataType :=
  match v with
  | .dataType d => .ok d
  | .typeId k => .ok (.concrete k)
  | v =>
    match v.text? with
    | some s =>
      match Kind.ofName? s with
      | some k => .ok (.concrete k)
      | none => (v.shown r).bind fun s => .error (.unknownName s)
    | none => (v.shown r).bind fun s => .error (.notADataType s)

/-- The descriptor of a name. Byte sequences can be stripped and lowered like texts, but name nothing. -/
def ofName (r : Rendering) (v : Value) : Except Error DataType :=
  match v with
  | .bytes .plain _ | .machine (.bytes _) => (v.shown r).bind fun s => .error (.unknownName s)
  | .bytes .mutable _ => .error (.unhashable v.typeName)
  | v =>
    match v.text? with
    | some _ => resolve r v
    | none => .error (.missingMember v.qualifiedTypeName "strip")

/-- The descriptor of an identifier. -/
def ofId (r : Rendering) (v : Value) : Except Error DataType :=
  match v with
  | .typeId k => .ok (.concrete k)
  | v =>
    match v.unhashable? with
    | some e => .error e
    | none => (v.shown r).bind fun s => .error (.unknownId s)

def ofStorage (s : Storage) : Except Error DataType :=
  match s.kind? with
  | some k => .ok (.concrete k)
  | none => .error (.unmatchedStorage s.name)

/-- The descriptor of a storage code; no code stands for doubles. -/
def ofStorageCode (r : Rendering) (v : Value) : Except Error DataType :=
  match v with
  | .none => ofStorage .double
  | v =>
    match v.text? with
    | some code =>
      match Storage.read? code with
      | some s => ofStorage s
      | none => .error (.unknownStorage code)
    | none => (v.shown r).bind fun s => .error (.notStorage s)

end DataType

end TypedScalar
