import TypedScalar.DataType
import TypedScalar.Text.Numeral

/-! Machine storage of values, and the codes by which it is named: a type name, or an optional byte order
with a letter and a size in bytes. Kinds of fixed width are stored in the native layout of their size. -/

namespace TypedScalar

inductive Storage
  | boolean
  | integer (k : IntegerKind)
  | half
  | single
  | double
  | complex (bits : Nat)
  | text (length : Nat)
  | bytes (length : Nat)
  | raw (length : Nat)
  | reference
  | instant (unit : String)
  | duration (unit : String)
  /-- Numbers of two or more bytes in the byte order that is not native. -/
  | swapped (code : String)
  | swappedText (length : Nat)
  deriving DecidableEq, Repr

namespace Storage

def name : Storage → String
  | boolean => "bool"
  | integer k => k.name
  | half => "float16"
  | single => "float32"
  | double => "float64"
  | complex bits => "complex" ++ toString bits
  | text n => "<U" ++ toString n
  | bytes n => "|S" ++ toString n
  | raw n => "|V" ++ toString n
  | reference => "object"
  | instant unit => "datetime64" ++ unit
  | duration unit => "timedelta64" ++ unit
  | swapped code => ">" ++ code
  | swappedText n => ">U" ++ toString n

/-- The storage of a kind of fixed width. -/
def ofKind? : Kind → Option Storage
  | .boolean => some boolean
  | .integer k => some (integer k)
  | .floating .single => some single
  | .floating .double => some double
  | .null | .string | .binary => none

/-- The kind that is stored so. -/
def kind? (s : Storage) : Option Kind := Kind.all.find? fun k => ofKind? k == some s

def simpleNames : List (String × Storage) :=
  Kind.all.filterMap (fun k => (ofKind? k).map fun s => (s.name, s)) ++
    [("float16", half), ("half", half), ("single", single), ("double", double),
      ("complex64", complex 64), ("complex128", complex 128), ("str", text 0), ("bytes", bytes 0),
      ("object", reference), ("?", boolean)]

/-- Storage of the letter codes with a size. -/
def ofCode? (letter : Char) (size : Nat) : Option Storage :=
  match letter, size with
  | 'b', 1 => some boolean
  | 'i', 1 => some (integer ⟨true, .w8⟩)
  | 'i', 2 => some (integer ⟨true, .w16⟩)
  | 'i', 4 => some (integer ⟨true, .w32⟩)
  | 'i', 8 => some (integer ⟨true, .w64⟩)
  | 'u', 1 => some (integer ⟨false, .w8⟩)
  | 'u', 2 => some (integer ⟨false, .w16⟩)
  | 'u', 4 => some (integer ⟨false, .w32⟩)
  | 'u', 8 => some (integer ⟨false, .w64⟩)
  | 'f', 2 => some half
  | 'f', 4 => some single
  | 'f', 8 => some double
  | 'c', 8 => some (complex 64)
  | 'c', 16 => some (complex 128)
  | 'S', n => some (bytes n)
  | 'U', n => some (text n)
  | 'V', n => some (raw n)
  | _, _ => none

/-- A letter code, where the size may be missing after the letters of variable length. -/
def ofSizedCode? : List Char → Option Storage
  | [] => none
  | letter :: size =>
    if size.all Text.isAsciiDigit && (!size.isEmpty || ['S', 'U', 'V'].contains letter) then
      ofCode? letter (Text.natOfAscii size)
    else if letter :: size = ['?'] then some boolean
    else none

/-- Storage in the byte order that is not native; single bytes have no order. -/
def swap (code : List Char) : Storage → Storage
  | boolean => boolean
  | integer ⟨signed, .w8⟩ => integer ⟨signed, .w8⟩
  | text n => swappedText n
  | s@(integer _) | s@half | s@single | s@double | s@(complex _) =>
    if code.isEmpty then s else swapped (String.ofList code)
  | s => s

/-- A unit of time in square brackets. -/
def isUnit (s : List Char) : Bool :=
  ["Y", "M", "W", "D", "h", "m", "s", "ms", "us", "ns", "ps", "fs", "as"].any fun u =>
    s == '[' :: u.toList ++ [']']

def ofTimeName? (name : String) (make : String → Storage) (s : List Char) : Option Storage :=
  if s.take name.length = name.toList then
    let unit := s.drop name.length
    if unit.isEmpty || isUnit unit then some (make (String.ofList unit)) else none
  else none

def read? (code : String) : Option Storage :=
  let s := code.toList
  (simpleNames.lookup code).or <|
    (ofTimeName? "datetime64" instant s).or <|
      (ofTimeName? "timedelta64" duration s).or <|
        match s with
        | '<' :: rest | '=' :: rest | '|' :: rest => ofSizedCode? rest
        | '>' :: rest => (ofSizedCode? rest).map (swap rest)
        | _ => ofSizedCode? s

end Storage

end TypedScalar
