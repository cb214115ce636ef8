import TypedScalar.Floating.Text
import TypedScalar.ScalarClass
import TypedScalar.Text.Hex

/-! Scalars: one value of a kind, or the null of that kind, with the class it was built by; and their
text. Only the text of nulls and of bytes depends on settings. -/

namespace TypedScalar

structure Scalar where
  cls : ScalarClass
  kind : Kind
  kind_eq : cls.kind? = some kind
  /-- Nothing for a null. -/
  payload : Option kind.Payload

/-- How scalars are rendered: what stands for a null, and the letter case of hexadecimal digits. -/
structure Rendering where
  nullToken : String
  upperHex : Bool
  deriving DecidableEq, Repr

def FloatingKind.layout : FloatingKind → Floating.Layout
  | .single => .single
  | .double => .double

/-- The text of a valid value. -/
def Kind.payloadText (r : Rendering) : (k : Kind) → k.Payload → String
  | .null, p => nomatch p
  | .boolean, (b : Bool) => if b then "true" else "false"
  | .integer _, (n : IntegerKind.Value _) => toString n.val
  | .floating k, (x : Floating.Number k.format) => String.ofList (x.text k.layout)
  | .string, s => s
  | .binary, bytes =>
    let hex := Text.hexBytes bytes
    String.ofList (if r.upperHex then hex.map Text.upperHexDigit else hex)

namespace Scalar

def isValid (s : Scalar) : Bool := s.payload.isSome

/-- The null of a class. -/
def null (c : ScalarClass) (k : Kind) (h : c.kind? = some k) : Scalar := ⟨c, k, h, none⟩

def dataType (s : Scalar) : DataType := .concrete s.kind

def text (r : Rendering) (s : Scalar) : String :=
  match s.payload with
  | none => r.nullToken
  | some p => s.kind.payloadText r p

/-- The text between angle brackets, after the class. -/
def shown (r : Rendering) (s : Scalar) : String := "<" ++ s.cls.name ++ ": " ++ s.text r ++ ">"

end Scalar

end TypedScalar
