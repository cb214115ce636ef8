import TypedScalar.Value

/-! How values are shown in messages, and their plain text. A shown value tells its type: texts are quoted
and machine types are named. Integers of too many digits have no text, and values are shown down to a number of
levels only, so showing a value may fail. -/

namespace TypedScalar

open Floating (Layout)

/-- The decimal text of an integer. -/
def integerText (n : Int) : Except Error String :=
  if Floating.decimalLength n.natAbs ≤ Text.digitLimit then .ok (toString n)
  else .error (.integerTextTooLong none)

def doubleText (x : Floating.Double) : String := String.ofList (x.text .double)

/-- The text of a real or imaginary part: a whole number has no point. -/
def partText {f : Floating.Format} (l : Layout) (x : Floating.Number f) : String :=
  let s := x.text l
  String.ofList (if s.drop (s.length - 2) = ['.', '0'] then s.take (s.length - 2) else s)

/-- A complex number; a real part of positive zero is left out. -/
def complexText {f : Floating.Format} (l : Layout) (re im : Floating.Number f) : String :=
  let i := partText l im
  if re = .zero false then i ++ "j"
  else "(" ++ partText l re ++ (if i.startsWith "-" then "" else "+") ++ i ++ "j)"

def bytesShown (content : List UInt8) : String := String.ofList (Text.quotedBytes content)

def BytesForm.shown (form : BytesForm) (content : List UInt8) : String :=
  match form with
  | plain => bytesShown content
  | mutable => "bytearray(" ++ String.ofList (Text.quotedMutableBytes content) ++ ")"
  | view => "<memory>"

def booleanShown (b : Bool) : String := if b then "True" else "False"

/-- The plain text of a machine value. -/
def Machine.plain : Machine → String
  | boolean b => booleanShown b
  | integer _ n => toString n.val
  | half x => String.ofList (x.text .half)
  | single x => String.ofList (x.text .single)
  | double x => doubleText x
  | complex64 re im => complexText .single re im
  | complex128 re im => complexText .double re im
  | text s => plainText s
  | bytes content => bytesShown (withoutZeros 0 content)
  | instant date => date
  | duration seconds => if seconds = notATime then noDate else toString seconds ++ " seconds"

/-- A text without the round brackets it stands in. -/
def withoutBrackets (s : String) : String :=
  if s.startsWith "(" then String.ofList ((s.toList.drop 1).dropLast) else s

def Machine.shown (m : Machine) : String :=
  match m with
  | boolean b => "np." ++ booleanShown b ++ "_"
  | text s => "np.str_(" ++ quotedText (plainText s) ++ ")"
  | instant date => "np.datetime64(" ++ quotedText date ++ ")"
  | duration seconds =>
    "np.timedelta64(" ++ (if seconds = notATime then quotedText noDate else toString seconds) ++ "," ++
      quotedText "s" ++ ")"
  | m => "np." ++ m.typeName ++ "(" ++ withoutBrackets m.plain ++ ")"

def DataType.shown (d : DataType) : String := d.className ++ "()"

/-- The canonical name, which families do not have. -/
def DataType.name (d : DataType) : Except Error String :=
  match d with
  | abstract _ => .error (.missingMember "NoneType" "value")
  | concrete k => .ok k.name

namespace Value

/-- Down to how many levels a value is shown: what the interpreter's limit of a thousand nested calls leaves
beside the calls that a value is shown within. -/
def levelLimit : Nat := 990

mutual

/-- A value as it is shown down to a number of levels. The items of a set stand one level deeper than those of
a list, since they are shown as a list inside the set. -/
def shownWithin (r : Rendering) : Nat → Value → Except Error String
  | 0, _ => .error .shownTooDeep
  | _ + 1, none => .ok "None"
  | _ + 1, boolean b => .ok (booleanShown b)
  | _ + 1, integer n => integerText n
  | _ + 1, real x => .ok (doubleText x)
  | _ + 1, complex re im => .ok (complexText .double re im)
  | _ + 1, text s => .ok (quotedText s)
  | _ + 1, bytes form content => .ok (form.shown content)
  | _ + 1, view w => .ok (BytesForm.view.shown w.content)
  | levels + 1, list items => (itemsWithin r levels items).map fun s => "[" ++ ", ".intercalate s ++ "]"
  | levels + 1, tuple items =>
    (itemsWithin r levels items).map fun s =>
      "(" ++ ", ".intercalate s ++ (if items.length = 1 then ",)" else ")")
  | levels + 1, dictionary entries =>
    (entriesWithin r levels entries).map fun s => "\x7b" ++ ", ".intercalate s ++ "\x7d"
  | levels + 1, set items =>
    (itemsWithin r (levels - 1) items).map fun s =>
      if s.isEmpty then "set()" else "\x7b" ++ ", ".intercalate s ++ "\x7d"
  | _ + 1, cycle isList => .ok (if isList then "[...]" else "\x7b...\x7d")
  | _ + 1, object => .ok "<object>"
  | _ + 1, date d => .ok d.shown
  | _ + 1, moment m => .ok m.shown
  | _ + 1, machine m => .ok m.shown
  | _ + 1, scalar h => .ok (h.scalar.shown r)
  | _ + 1, typeId k => .ok ("<TypeId." ++ k.identifier ++ ": " ++ quotedText k.name ++ ">")
  | _ + 1, dataType d => .ok d.shown

def itemsWithin (r : Rendering) (levels : Nat) : List Value → Except Error (List String)
  | [] => .ok []
  | v :: rest => (shownWithin r levels v).bind fun s => (itemsWithin r levels rest).map (s :: ·)

def entriesWithin (r : Rendering) (levels : Nat) : List (Value × Value) → Except Error (List String)
  | [] => .ok []
  | (k, v) :: rest =>
    (shownWithin r levels k).bind fun ks => (shownWithin r levels v).bind fun vs =>
      (entriesWithin r levels rest).map ((ks ++ ": " ++ vs) :: ·)

end

def shown (r : Rendering) (v : Value) : Except Error String := v.shownWithin r levelLimit

/-- The plain text: that of texts, dates, machine values and scalars is their own, and all other values
are shown. -/
def plain (r : Rendering) (v : Value) : Except Error String :=
  match v with
  | text s => .ok s
  | date d => .ok d.text
  | moment m => .ok m.text
  | machine m => .ok m.plain
  | scalar h => .ok (h.scalar.text r)
  | typeId k => .ok ("TypeId." ++ k.identifier)
  | dataType d => d.name
  | v => v.shown r

end Value

end TypedScalar
