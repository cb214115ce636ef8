import TypedScalar.Floating.Format
import TypedScalar.Text.Blank
import TypedScalar.Text.LetterCase

/-! The fourteen primitive kinds of scalar, the values each of them holds, and their names. -/

namespace TypedScalar

-- Powers are those of core here, also where Mathlib declares its own.
attribute [local instance (high)] instPowNat

inductive Width
  | w8
  | w16
  | w32
  | w64
  deriving DecidableEq, Repr

def Width.bits : Width → Nat
  | .w8 => 8
  | .w16 => 16
  | .w32 => 32
  | .w64 => 64

structure IntegerKind where
  signed : Bool
  width : Width
  deriving DecidableEq, Repr

namespace IntegerKind

def min (k : IntegerKind) : Int := if k.signed then -(2 ^ (k.width.bits - 1) : Nat) else 0

def max (k : IntegerKind) : Int :=
  if k.signed then (2 ^ (k.width.bits - 1) : Nat) - 1 else (2 ^ k.width.bits : Nat) - 1

/-- The integers of the kind. -/
abbrev Value (k : IntegerKind) := { n : Int // k.min ≤ n ∧ n ≤ k.max }

def name (k : IntegerKind) : String := (if k.signed then "int" else "uint") ++ toString k.width.bits

end IntegerKind

inductive FloatingKind
  | single
  | double
  deriving DecidableEq, Repr

def FloatingKind.format : FloatingKind → Floating.Format
  | .single => .single
  | .double => .double

inductive Kind
  | null
  | boolean
  | integer (k : IntegerKind)
  | floating (k : FloatingKind)
  | string
  | binary
  deriving DecidableEq, Repr

namespace Kind

def all : List Kind :=
  [null, boolean,
    integer ⟨true, .w8⟩, integer ⟨true, .w16⟩, integer ⟨true, .w32⟩, integer ⟨true, .w64⟩,
    integer ⟨false, .w8⟩, integer ⟨false, .w16⟩, integer ⟨false, .w32⟩, integer ⟨false, .w64⟩,
    floating .single, floating .double, string, binary]

/-- What a valid scalar of the kind holds. -/
abbrev Payload : Kind → Type
  | null => Empty
  | boolean => Bool
  | integer k => k.Value
  | floating k => Floating.Number k.format
  | string => String
  | binary => List UInt8

/-- The canonical name. -/
def name : Kind → String
  | null => "null"
  | boolean => "bool"
  | integer k => k.name
  | floating .single => "float"
  | floating .double => "double"
  | string => "string"
  | binary => "binary"

/-- The identifier: the canonical name in capitals, but for the null kind. -/
def identifier : Kind → String
  | null => "NA"
  | k => k.name.map Char.toUpper

/-- Accepted spellings besides the canonical names. -/
def aliases : List (String × Kind) :=
  [("na", null), ("boolean", boolean), ("float32", floating .single), ("float64", floating .double),
    ("utf8", string), ("str", string), ("bytes", binary)]

/-- The kind of a spelling, which may be padded and in any letter case. -/
def ofName? (spelling : String) : Option Kind :=
  let key := String.ofList (Text.lower (Text.strip spelling.toList))
  match aliases.lookup key with
  | some k => some k
  | none => all.find? (·.name == key)

def ofIdentifier? (s : String) : Option Kind := all.find? (·.identifier == s)

def isInteger : Kind → Bool
  | integer _ => true
  | _ => false

def isFloating : Kind → Bool
  | floating _ => true
  | _ => false

def isNumeric (k : Kind) : Bool := k.isInteger || k.isFloating

end Kind

end TypedScalar
