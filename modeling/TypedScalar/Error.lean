import TypedScalar.DataType
import TypedScalar.Text.Numeral
import TypedScalar.Text.Quoted
import TypedScalar.Text.Utf8

/-! Everything that can go wrong, by cause, with the class each cause belongs to and its message. Values
that a message shows are held as the text they are shown by. -/

namespace TypedScalar

/-- Classes of errors, by which callers tell them apart. -/
inductive ErrorClass
  | scalar
  | scalarType
  | scalarRange
  | scalarParse
  | scalarCast
  | unknownDataType
  | type
  | value
  | key
  | member
  | overflow
  | index
  | fileNotFound
  | isDirectory
  | system
  | recursion
  | pickling
  | unboundReference
  deriving DecidableEq, Repr

namespace ErrorClass

/-- Whether a class lies in another one. The classes of scalar errors lie in that of all scalar errors and
in one of the general classes. -/
def isA : ErrorClass → ErrorClass → Bool
  | scalarType, c => c == scalarType || c == scalar || c == type
  | scalarRange, c => c == scalarRange || c == scalar || c == value
  | scalarParse, c => c == scalarParse || c == scalar || c == value
  | scalarCast, c => c == scalarCast || c == scalar || c == type
  | unknownDataType, c => c == unknownDataType || c == scalar || c == key
  | fileNotFound, c => c == fileNotFound || c == system
  | isDirectory, c => c == isDirectory || c == system
  | a, c => a == c

end ErrorClass

/-- A number beyond the bounds of its kind. -/
inductive RangeFault
  | integer (n : Int) (kind : IntegerKind)
  | real (shown : String) (kind : FloatingKind)
  deriving DecidableEq, Repr

/-- Why a text is not read as a value. -/
inductive ParseFault
  | malformed
  | overflows
  | range (fault : RangeFault)
  deriving DecidableEq, Repr

/-- Why a configuration is refused. -/
inductive ConfigFault
  | emptyToken
  | collidingToken (shown : String)
  | unknownDefault (detail : String)
  | notInteger (shown : String)
  | notFloating (shown : String)
  deriving DecidableEq, Repr

/-- Which part of a date or time lies outside the calendar. -/
inductive CalendarFault
  | year (n : Nat)
  | month
  | day
  | hour
  | minute
  | second
  | offset (shown : String)
  deriving DecidableEq, Repr

/-- What is wrong where a class is looked up. -/
inductive LookupFault
  | noModule
  | missing
  | another
  deriving DecidableEq, Repr

/-- What a view of memory cannot be used for. -/
inductive ViewFault
  | castScattered
  | castEmpty
  | castBetweenFormats
  | hashWritable
  | hashFormat
  deriving DecidableEq, Repr

/-- What may be done to an attribute. -/
inductive AttributeUse
  | set
  | delete
  deriving DecidableEq, Repr

inductive Error
  | abstractClass (name : String)
  | nullHoldsNothing (shown : String)
  | unaccepted (taker wanted given : String)
  | range (fault : RangeFault)
  | parse (shown : String) (kind : Kind) (fault : ParseFault)
  | parseNeedsType
  | uncastable (source target : Kind)
  | truncates (shown : String) (kind : IntegerKind)
  | notUtf8 (fault : Text.Utf8.Fault)
  | unknownId (shown : String)
  | unknownName (shown : String)
  | unmatchedStorage (name : String)
  | notADataType (shown : String)
  | notRegistered (kind : Kind) (registered : List String)
  | uninferable (typeName : String)
  | unknownStorage (code : String)
  | notStorage (shown : String)
  | immutable (className : String)
  | missingMember (typeName member : String)
  | fixedMember (use : AttributeUse) (member : String)
  | readOnly (typeName member : String)
  | undeletable (typeName member : String)
  | undeletableClass
  | uncopyable
  | localClass (qualifiedName : String)
  | unfoundClass (module qualifiedName : String) (fault : LookupFault)
  | unordered (typeName : String)
  | unexpectedField (owner field : String)
  | unhashable (typeName : String)
  | integerTextTooLong (digits : Option Nat)
  | notAnInteger (base : Nat) (shown : String)
  | notAReal (shown : String)
  | noSuchKey (shown : String)
  | emptyNumber
  | noSuchCharacter
  | characterTooLarge
  | tooLargeForReal
  | notAText (typeName : String)
  | nestedTooDeeply
  | shownTooDeep
  | ambiguousTruth
  | emptyTruth
  | ragged (lengths : List Nat)
  | durationTooLarge
  | notACastFormat
  | formatNotText (typeName : String)
  | partItem
  | view (fault : ViewFault)
  | calendar (fault : CalendarFault)
  | machineOverflow (n : String) (kind : IntegerKind)
  | noIntegerOf (typeName : String)
  | noRealOf (typeName : String)
  | negativeTolerance
  | wrongHolder (className : String) (holds asked : Kind)
  | config (fault : ConfigFault)
  | fileNotFound (path : String)
  | isDirectory (path : String)
  | nameTooLong (path : String)
  | invalidDocument (path detail : String)
  | notAMapping (path : String)
  | invalidLevel (level : String)
  | invalidFormat (format : String)
  | unbound (name : String)
  | unknownClass (name : String)
  deriving DecidableEq, Repr

/-- A text between quote marks. -/
def quotedText (s : String) : String := String.ofList (Text.quoted s.toList)

def AttributeUse.name : AttributeUse → String
  | set => "set"
  | delete => "delete"

def RangeFault.message : RangeFault → String
  | integer n k =>
    toString n ++ " is out of range for " ++ k.name ++ " [" ++ toString k.min ++ ", " ++ toString k.max ++ "]"
  | real shown k => shown ++ " is out of range for " ++ (Kind.floating k).name

def ConfigFault.message : ConfigFault → String
  | emptyToken => "null_token must be a non-empty string"
  | collidingToken shown => "null_token " ++ shown ++ " collides with the rendering of a valid value"
  | unknownDefault detail => "Invalid default type: " ++ detail
  | notInteger shown => "default_integer_type must be an integer type, got " ++ shown
  | notFloating shown => "default_float_type must be a floating-point type, got " ++ shown

def CalendarFault.message : CalendarFault → String
  | year n => "year " ++ toString n ++ " is out of range"
  | month => "month must be in 1..12"
  | day => "day is out of range for month"
  | hour => "hour must be in 0..23"
  | minute => "minute must be in 0..59"
  | second => "second must be in 0..59"
  | offset shown =>
    "offset must be a timedelta strictly between -timedelta(hours=24) and timedelta(hours=24), not " ++ shown ++ "."

def ViewFault.message : ViewFault → String
  | castScattered => "memoryview: casts are restricted to C-contiguous views"
  | castEmpty => "memoryview: cannot cast view with zeros in shape or strides"
  | castBetweenFormats => "memoryview: cannot cast between two non-byte formats"
  | hashWritable => "cannot hash writable memoryview object"
  | hashFormat => "memoryview: hashing is restricted to formats 'B', 'b' or 'c'"

/-- A refused cast is a fault of the type, a refused hash one of the value. -/
def ViewFault.errorClass : ViewFault → ErrorClass
  | castScattered | castEmpty | castBetweenFormats => .type
  | hashWritable | hashFormat => .value

def Text.Utf8.Reason.message : Text.Utf8.Reason → String
  | .invalidStart => "invalid start byte"
  | .invalidContinuation => "invalid continuation byte"
  | .unexpectedEnd => "unexpected end of data"

def Text.Utf8.Fault.message (f : Text.Utf8.Fault) : String :=
  "'utf-8' codec can't decode " ++
    (if f.count = 1 then
      "byte 0x" ++ String.ofList (Text.hexNumber 2 f.firstByte.toNat) ++ " in position " ++ toString f.start
    else "bytes in position " ++ toString f.start ++ "-" ++ toString (f.start + f.count - 1)) ++
    ": " ++ f.reason.message

/-- The names of all kinds, in order. -/
def Kind.listing : String := ", ".intercalate (Kind.all.map Kind.name)

namespace Error

def limitAdvice : String :=
  "use sys.set_int_max_str_digits() to increase the limit"

/-- Lengths between round brackets; a single one is followed by a comma. -/
def lengthsShown (lengths : List Nat) : String :=
  "(" ++ ", ".intercalate (lengths.map toString) ++ (if lengths.length = 1 then ",)" else ")")

def message : Error → String
  | abstractClass name => name ++ " is abstract; instantiate a concrete kind or use scalar()"
  | nullHoldsNothing shown => "NullScalar cannot hold a value, got " ++ shown
  | unaccepted taker wanted given => taker ++ " requires " ++ wanted ++ ", got " ++ given
  | range fault => fault.message
  | parse shown kind fault =>
    "Failed to parse " ++ shown ++ " as a scalar of type " ++ kind.name ++
      match fault with
      | .malformed => ""
      | .overflows => ": value overflows to infinity"
      | .range f => ": " ++ f.message
  | parseNeedsType => "Scalar.parse requires a data_type"
  | uncastable source target => "Unsupported cast from " ++ source.name ++ " to " ++ target.name
  | truncates shown kind => "Casting " ++ shown ++ " to " ++ kind.name ++ " would truncate"
  | notUtf8 fault => "Binary value is not valid UTF-8: " ++ fault.message
  | unknownId shown => "Unknown type id: " ++ shown
  | unknownName shown => "Unknown data type: " ++ shown ++ ". Available types: " ++ Kind.listing
  | unmatchedStorage name => "No data type for numpy dtype: " ++ name
  | notADataType shown => "Cannot interpret " ++ shown ++ " as a data type"
  | notRegistered kind registered =>
    "No scalar registered for " ++ kind.name ++ ". Registered types: " ++ ", ".intercalate registered
  | uninferable typeName => "Cannot infer a data type for " ++ typeName
  | unknownStorage code => "data type " ++ quotedText code ++ " not understood"
  | notStorage shown => "Cannot interpret '" ++ shown ++ "' as a data type"
  | immutable className => className ++ " is immutable"
  | missingMember typeName member => "'" ++ typeName ++ "' object has no attribute '" ++ member ++ "'"
  | fixedMember use member =>
    "<enum 'Enum'> cannot " ++ use.name ++ " attribute '" ++ member ++ "'"
  | readOnly typeName member => "'" ++ typeName ++ "' object attribute '" ++ member ++ "' is read-only"
  | undeletable typeName member => "property '" ++ member ++ "' of '" ++ typeName ++ "' object has no deleter"
  | undeletableClass => "can't delete __class__ attribute"
  | uncopyable => "cannot pickle memoryview objects"
  | localClass qualifiedName => "Can't pickle local object " ++ quotedText qualifiedName
  | unfoundClass module qualifiedName fault =>
    "Can't pickle <class '" ++ module ++ "." ++ qualifiedName ++ "'>: " ++
      match fault with
      | .noModule => "import of module " ++ quotedText module ++ " failed"
      | .missing => "attribute lookup " ++ qualifiedName ++ " on " ++ module ++ " failed"
      | .another => "it's not the same object as " ++ module ++ "." ++ qualifiedName
  | unordered typeName => "'<' not supported between instances of '" ++ typeName ++ "' and 'int'"
  | unexpectedField owner field =>
    owner ++ ".__init__() got an unexpected keyword argument '" ++ field ++ "'"
  | unhashable typeName => "unhashable type: '" ++ typeName ++ "'"
  | integerTextTooLong none =>
    "Exceeds the limit (" ++ toString Text.digitLimit ++ " digits) for integer string conversion; " ++ limitAdvice
  | integerTextTooLong (some n) =>
    "Exceeds the limit (" ++ toString Text.digitLimit ++ " digits) for integer string conversion: value has " ++
      toString n ++ " digits; " ++ limitAdvice
  | notAnInteger base shown => "invalid literal for int() with base " ++ toString base ++ ": " ++ shown
  | notAReal shown => "could not convert string to float: " ++ shown
  | noSuchKey shown => shown
  | emptyNumber => "string index out of range"
  | noSuchCharacter => "chr() arg not in range(0x110000)"
  | characterTooLarge => "Python int too large to convert to C int"
  | tooLargeForReal => "int too large to convert to float"
  | notAText typeName => "expected string or bytes-like object, got '" ++ typeName ++ "'"
  | nestedTooDeeply => "maximum recursion depth exceeded"
  | shownTooDeep => "maximum recursion depth exceeded while getting the repr of an object"
  | ambiguousTruth =>
    "The truth value of an array with more than one element is ambiguous. Use a.any() or a.all()"
  | emptyTruth =>
    "The truth value of an empty array is ambiguous. Use \x60array.size > 0\x60 to check that an array is not empty."
  | ragged lengths =>
    "setting an array element with a sequence. The requested array has an inhomogeneous shape after " ++
      toString lengths.length ++ " dimensions. The detected shape was " ++ lengthsShown lengths ++
      " + inhomogeneous part."
  | durationTooLarge => "int too big to convert"
  | notACastFormat =>
    "memoryview: destination format must be a native single character format prefixed with an optional '@'"
  | formatNotText typeName => "cast() argument 'format' must be str, not " ++ typeName
  | partItem => "memoryview: length is not a multiple of itemsize"
  | view fault => fault.message
  | calendar fault => fault.message
  | machineOverflow n kind => "Python integer " ++ n ++ " out of bounds for " ++ kind.name
  | noIntegerOf typeName =>
    "int() argument must be a string, a bytes-like object or a real number, not '" ++ typeName ++ "'"
  | noRealOf typeName => "float() argument must be a string or a real number, not '" ++ typeName ++ "'"
  | negativeTolerance => "atol must be non-negative"
  | wrongHolder className holds asked =>
    className ++ " holds " ++ holds.name ++ ", cannot register it for " ++ asked.name
  | config fault => fault.message
  | fileNotFound path => "Config file not found: " ++ path
  | isDirectory path => "[Errno 21] Is a directory: " ++ quotedText path
  | nameTooLong path => "[Errno 36] File name too long: " ++ quotedText path
  | invalidDocument path detail => "Invalid YAML in config file " ++ path ++ ": " ++ detail
  | notAMapping path => "Config file must contain a mapping: " ++ path
  | invalidLevel level =>
    "Invalid log level: " ++ level ++ ". Must be one of ['DEBUG', 'INFO', 'WARNING', 'ERROR', 'CRITICAL']"
  | invalidFormat format => "Invalid format '" ++ format ++ "' for '%' style"
  | unbound name => name
  | unknownClass name => name

def errorClass : Error → ErrorClass
  | nullHoldsNothing _ | unaccepted .. | parseNeedsType => .scalarType
  | range _ => .scalarRange
  | parse .. => .scalarParse
  | uncastable .. | truncates .. | notUtf8 _ => .scalarCast
  | unknownId _ | unknownName _ | unmatchedStorage _ | notADataType _ | notRegistered .. | uninferable _ =>
    .unknownDataType
  | abstractClass _ | unknownStorage _ | notStorage _ | unordered _ | unexpectedField .. | unhashable _ |
    noIntegerOf _ | noRealOf _ | notAText _ | undeletableClass | uncopyable | formatNotText _ | partItem => .type
  | immutable _ | missingMember .. | fixedMember .. | readOnly .. | undeletable .. | localClass _ => .member
  | ambiguousTruth | emptyTruth | ragged _ | notACastFormat | integerTextTooLong _ | notAnInteger .. | notAReal _ |
    noSuchCharacter | calendar _ | negativeTolerance | wrongHolder .. |
    config _ | invalidDocument .. | notAMapping _ | invalidLevel _ | invalidFormat _ => .value
  | view fault => fault.errorClass
  | noSuchKey _ | unknownClass _ => .key
  | emptyNumber => .index
  | machineOverflow .. | characterTooLarge | tooLargeForReal | durationTooLarge => .overflow
  | nestedTooDeeply | shownTooDeep => .recursion
  | unfoundClass .. => .pickling
  | fileNotFound _ => .fileNotFound
  | isDirectory _ => .isDirectory
  | nameTooLong _ => .system
  | unbound _ => .unboundReference

/-- Whether an error lies in a class. -/
def isA (e : Error) (c : ErrorClass) : Bool := e.errorClass.isA c

end Error

end TypedScalar
