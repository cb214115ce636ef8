import TypedScalar.Value

/-! Why operations on scalars fail on other values, and why no attribute can be set or deleted. A member
that a value lacks is reported by its name. A data type computes some of its attributes and shares the rest
with all others of its class; neither can be deleted. -/

namespace TypedScalar

namespace DataType

/-- The attributes that a data type computes. -/
def computedAttributes (d : DataType) : List String :=
  ["id", "name", "bit_width"] ++
    (if d.isInteger then ["is_signed", "min_value"] else []) ++
    (if d.isInteger || d.isFloating then ["max_value"] else [])

/-- The attributes that belong to the class of a data type. -/
def sharedAttributes : List String :=
  ["type_id", "numpy_dtype", "__annotations__", "__delattr__", "__dir__", "__doc__", "__eq__", "__format__",
    "__ge__", "__getattribute__", "__getstate__", "__gt__", "__hash__", "__init__", "__init_subclass__",
    "__le__", "__lt__", "__module__", "__ne__", "__new__", "__reduce__", "__reduce_ex__", "__repr__",
    "__setattr__", "__sizeof__", "__slots__", "__str__", "__subclasshook__"]

end DataType

/-- The attribute that names the class of a value. -/
def classAttribute : String := "__class__"

/-- The attributes of an identifier. -/
def identifierAttributes : List String := ["name", "value"]

namespace Value

/-- Why an attribute of a value cannot be set. -/
def refuseSetting (v : Value) (name : String) : Error :=
  match v with
  | scalar _ | dataType _ => .immutable v.typeName
  | typeId _ => if identifierAttributes.contains name then .fixedMember .set name else .missingMember v.typeName name
  | v => .missingMember v.qualifiedTypeName name

/-- Why an attribute of a value cannot be deleted. -/
def refuseDeletion (v : Value) (name : String) : Error :=
  match v with
  | scalar _ => .immutable v.typeName
  | v =>
    if name = classAttribute then .undeletableClass
    else
      match v with
      | dataType d =>
        if d.computedAttributes.contains name then .undeletable v.typeName name
        else if DataType.sharedAttributes.contains name then .readOnly v.typeName name
        else .missingMember v.typeName name
      | typeId _ =>
        if identifierAttributes.contains name then .fixedMember .delete name else .missingMember v.typeName name
      | v => .missingMember v.qualifiedTypeName name

/-- The number of bytes of an item of a view, by the letter of its format. -/
def itemSize? : Char → Option Nat
  | 'b' | 'B' | 'c' | '?' => some 1
  | 'h' | 'H' => some 2
  | 'i' | 'I' | 'f' => some 4
  | 'l' | 'L' | 'q' | 'Q' | 'n' | 'N' | 'd' | 'P' => some 8
  | _ => .none

/-- The size of an item in a format, which is a letter that a mark may stand before. -/
def formatSize? (format : String) : Option Nat :=
  match format.toList with
  | [c] | ['@', c] => itemSize? c
  | _ => .none

/-- Whether a format is one of single bytes. -/
def isByteFormat (format : String) : Bool :=
  match format.toList with
  | [c] | ['@', c] => c == 'b' || c == 'B' || c == 'c'
  | _ => false

/-- What goes wrong when a compact view is cast, at the latest that its cast is no scalar. Items of several bytes
can only be cast to single bytes. -/
def refuseViewCast (fromBytes : Bool) (content : List UInt8) (format : Value) : Error :=
  match format.text? with
  | .none => .formatNotText (if format.isNone then "None" else format.qualifiedTypeName)
  | some f =>
    match formatSize? f with
    | .none => .notACastFormat
    | some size =>
      if !fromBytes && !isByteFormat f then .view .castBetweenFormats
      else if content.length % size = 0 then .missingMember BytesForm.view.typeName "data_type"
      else .partItem

/-- What goes wrong when any other view is cast. -/
def refuseCast (w : View) (format : Value) : Error :=
  if format.text?.isSome && !w.compact then .view .castScattered
  else if format.text?.isSome && w.shape.length != 1 && w.shape.contains 0 then .view .castEmpty
  else refuseViewCast w.format.isByte w.content format

/-- A value that must be a scalar to have the member asked for. -/
def asScalar (v : Value) (member : String) : Except Error Held :=
  match v with
  | scalar h => .ok h
  | v => .error (.missingMember v.qualifiedTypeName member)

/-- The scalar to be cast. -/
def asCastable (v target : Value) : Except Error Held :=
  match v with
  | bytes .view content => .error (refuseViewCast true content target)
  | view w => .error (refuseCast w target)
  | v => v.asScalar "cast"

/-- The scalar to be copied. -/
def asCopyable (v : Value) : Except Error Held :=
  match v with
  | bytes .view _ | view _ => .error .uncopyable
  | v => v.asScalar "data_type"

end Value

end TypedScalar
