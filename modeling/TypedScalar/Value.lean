import TypedScalar.Calendar
import TypedScalar.Floating.Order
import TypedScalar.Scalar
import TypedScalar.Storage

/-! Untyped values: what a caller may hand to a constructor, to inference or to a setting, and what a
document may hold. Some of them have a machine type of their own. -/

namespace TypedScalar

open Floating (Half Single Double)

-- Powers are those of core here, also where Mathlib declares its own.
attribute [local instance (high)] instPowNat

/-- The forms in which a byte sequence comes. The view is one of a row of bytes that cannot be written to. -/
inductive BytesForm
  | plain
  | mutable
  | view
  deriving DecidableEq, Repr

/-- What the items of a view are: single bytes taken as characters, truth values, or numbers. -/
inductive ItemFormat
  | character
  | truth
  | integer (k : IntegerKind)
  | half
  | single
  | double
  deriving DecidableEq, Repr

/-- The number of bytes of an item. -/
def ItemFormat.size : ItemFormat → Nat
  | character | truth => 1
  | integer k => k.width.bits / 8
  | half => 2
  | single => 4
  | double => 8

/-- Whether the items are single bytes, taken as numbers or characters. -/
def ItemFormat.isByte : ItemFormat → Bool
  | character | integer ⟨_, .w8⟩ => true
  | _ => false

/-- A view of memory as items in a native format. A view that has been released shows no memory any more; it has
neither bytes nor a truth value, and is left out here. -/
structure View where
  format : ItemFormat
  /-- Whether the memory may be written to through the view. -/
  writable : Bool
  /-- The type of what the memory belongs to, if values of the type cannot be hashed. -/
  unhashableOwner : Option String
  /-- Whether the items lie in memory one after another, in their order. -/
  compact : Bool
  /-- How many items there are in each dimension. -/
  shape : List Nat
  /-- The bytes of the items, in their order. -/
  content : List UInt8
  sized : content.length = format.size * shape.foldl (· * ·) 1

/-- A value with a machine type. -/
inductive Machine
  | boolean (b : Bool)
  | integer (k : IntegerKind) (n : k.Value)
  | half (x : Half)
  | single (x : Single)
  | double (x : Double)
  | complex64 (re im : Single)
  | complex128 (re im : Double)
  | text (s : String)
  | bytes (content : List UInt8)
  | instant (date : String)
  | duration (seconds : Int)

/-- A scalar that somebody holds: scalars with the same number are one and the same. -/
structure Held where
  identity : Nat
  scalar : Scalar

inductive Value
  | none
  | boolean (b : Bool)
  | integer (n : Int)
  | real (x : Double)
  | complex (re im : Double)
  | text (s : String)
  | bytes (form : BytesForm) (content : List UInt8)
  /-- A view of memory in another way. -/
  | view (w : View)
  | list (items : List Value)
  | tuple (items : List Value)
  | dictionary (entries : List (Value × Value))
  | set (items : List Value)
  /-- A list or dictionary where it stands inside itself. -/
  | cycle (isList : Bool)
  | object
  | date (d : Date)
  | moment (m : Moment)
  | machine (m : Machine)
  | scalar (h : Held)
  | typeId (k : Kind)
  | dataType (d : DataType)

instance : Inhabited Value := ⟨.none⟩

/-- The number of seconds that stands for no duration. -/
def Machine.notATime : Int := -(2 ^ (63 : Nat))

/-- What stands for no date. -/
def Machine.noDate : String := "NaT"

def Machine.storage : Machine → Storage
  | boolean _ => .boolean
  | integer k _ => .integer k
  | half _ => .half
  | single _ => .single
  | double _ => .double
  | complex64 _ _ => .complex 64
  | complex128 _ _ => .complex 128
  | text s => .text s.length
  | bytes b => .bytes b.length
  | instant _ => .instant "[D]"
  | duration _ => .duration "[s]"

def Machine.typeName : Machine → String
  | text _ => "str_"
  | bytes _ => "bytes_"
  | instant _ => "datetime64"
  | duration _ => "timedelta64"
  | m => m.storage.name

/-- What a machine text or byte sequence is shown as: zeros at its end are left out. -/
def Machine.withoutZeros {α : Type} [BEq α] (zero : α) (xs : List α) : List α :=
  (xs.reverse.dropWhile (· == zero)).reverse

/-- What a machine text is shown and copied as. -/
def Machine.plainText (s : String) : String := String.ofList (withoutZeros '\x00' s.toList)

def BytesForm.typeName : BytesForm → String
  | plain => "bytes"
  | mutable => "bytearray"
  | view => "memoryview"

namespace Value

def typeName : Value → String
  | none => "NoneType"
  | boolean _ => "bool"
  | integer _ => "int"
  | real _ => "float"
  | complex _ _ => "complex"
  | text _ => "str"
  | bytes form _ => form.typeName
  | view _ => BytesForm.view.typeName
  | list _ => "list"
  | tuple _ => "tuple"
  | dictionary _ => "dict"
  | set _ => "set"
  | cycle isList => if isList then "list" else "dict"
  | object => "object"
  | date _ => "date"
  | moment _ => "datetime"
  | machine m => m.typeName
  | scalar h => h.scalar.cls.name
  | typeId _ => "TypeId"
  | dataType d => d.className

/-- The type's name with the module it belongs to, which some messages give. -/
def qualifiedTypeName : Value → String
  | machine m => "numpy." ++ m.typeName
  | date _ => "datetime.date"
  | moment _ => "datetime.datetime"
  | v => v.typeName

def isNone : Value → Bool
  | none => true
  | _ => false

/-- The text of a value that is one. -/
def text? : Value → Option String
  | text s | machine (.text s) => some s
  | _ => .none

/-- The text that a value is copied as. -/
def copiedText? : Value → Option String
  | text s => some s
  | machine (.text s) => some (Machine.plainText s)
  | _ => .none

/-- The bytes of a value that is a byte sequence or shows one. -/
def bytes? : Value → Option (List UInt8)
  | bytes _ content | machine (.bytes content) => some content
  | view w => some w.content
  | _ => .none

def boolean? : Value → Option Bool
  | boolean b | machine (.boolean b) => some b
  | _ => .none

/-- The integer that a value is; booleans and durations are none. -/
def integer? : Value → Option Int
  | integer n => some n
  | machine (.integer _ n) => some n.val
  | _ => .none

/-- The real number that a value of a floating type is. -/
def real? : Value → Option Double
  | real x | machine (.double x) => some x
  | machine (.half x) => some (x.convert _)
  | machine (.single x) => some (x.convert _)
  | _ => .none

/-- The day from which dates of machine type are counted, as it is written. -/
def firstDay : String := "1970-01-01"

/-- Whether a value counts as true. Zeros, empty values and the first day do not. -/
def isTruthy : Value → Bool
  | none => false
  | boolean b => b
  | integer n => n != 0
  | real x => !x.isZero
  | complex re im => !re.isZero || !im.isZero
  | text s => !s.isEmpty
  | bytes _ content => !content.isEmpty
  | view w => w.shape.head? != some 0
  | list items | tuple items | set items => !items.isEmpty
  | dictionary entries => !entries.isEmpty
  | machine (.boolean b) => b
  | machine (.integer _ n) => n.val != 0
  | machine (.half x) => !x.isZero
  | machine (.single x) => !x.isZero
  | machine (.double x) => !x.isZero
  | machine (.complex64 re im) => !re.isZero || !im.isZero
  | machine (.complex128 re im) => !re.isZero || !im.isZero
  | machine (.text s) => !s.isEmpty
  | machine (.bytes content) => !content.isEmpty
  | machine (.duration seconds) => seconds != 0
  | machine (.instant day) => day != firstDay
  | _ => true

end Value

end TypedScalar
