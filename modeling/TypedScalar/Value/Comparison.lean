import TypedScalar.Floating.Order
import TypedScalar.Value

/-! Equality of any two values. Plain numbers compare exactly. A machine number compares in its own format
or in doubles: a plain number is rounded to the format of a floating machine number, and integers of
machine type are rounded to doubles where they meet floating numbers. Compared with a sequence, a machine
number compares with every item, which only gives an answer if there is just one. Views of memory compare by
their shapes and by the items that their formats make of the bytes. -/

namespace TypedScalar

open Floating (Half Single Double)

-- Powers are those of core here, also where Mathlib declares its own.
attribute [local instance (high)] instPowNat

namespace Scalar

/-- Equality of payloads: that of numbers where there are numbers. -/
def equalPayloads : (k : Kind) → k.Payload → k.Payload → Bool
  | .null, p, _ => nomatch p
  | .boolean, (a : Bool), (b : Bool) => a == b
  | .integer _, (m : IntegerKind.Value _), (n : IntegerKind.Value _) => m.val == n.val
  | .floating _, x, y => Floating.Number.equals x y
  | .string, (s : String), (t : String) => s == t
  | .binary, (a : List UInt8), (b : List UInt8) => a == b

/-- Scalars of one kind have payloads of one type. -/
theorem payload_congr {a b : Scalar} (h : b.kind = a.kind) : b.kind.Payload = a.kind.Payload :=
  congrArg Kind.Payload h

/-- Exact equality: one kind, and both null or both valid with equal payloads. -/
def equal (a b : Scalar) : Bool :=
  if h : b.kind = a.kind then
    match a.payload, b.payload with
    | none, none => true
    | some p, some q => equalPayloads a.kind p (cast (payload_congr h) q)
    | _, _ => false
  else false

end Scalar

/-- A plain integer as a double, which may be too large for one. -/
def doubleOf (n : Int) : Except Error Double :=
  let x : Double := .ofInt .double n
  if x.isInfinite then .error .tooLargeForReal else .ok x

namespace Machine

/-- The integer that a machine value is; booleans count as zero and one. -/
def whole? : Machine → Option Int
  | boolean b => some (if b then 1 else 0)
  | integer _ n => some n.val
  | _ => none

/-- The real and the imaginary part of a machine number, as doubles. -/
def parts? : Machine → Option (Double × Double)
  | boolean b => some (.ofInt .double (if b then 1 else 0), .zero false)
  | integer _ n => some (.ofInt .double n.val, .zero false)
  | half x => some (x.convert _, .zero false)
  | single x => some (x.convert _, .zero false)
  | double x => some (x, .zero false)
  | complex64 re im => some (re.convert _, im.convert _)
  | complex128 re im => some (re, im)
  | _ => none

/-- Whether a duration is as long as another machine value says, in its own unit if it is a mere number.
Numbers of 64 bits without a sign are no durations. -/
def equalsDuration (seconds : Int) : Machine → Bool
  | duration n => seconds != notATime && n == seconds
  | integer ⟨false, .w64⟩ _ => false
  | m => seconds != notATime && m.whole? == some seconds

/-- Equality of machine values other than texts and bytes. -/
def equals (a b : Machine) : Bool :=
  match a, b with
  | duration n, m | m, duration n => equalsDuration n m
  | instant d, instant e => d == e && d != noDate
  | a, b =>
    match a.whole?, b.whole? with
    | some m, some n => m == n
    | _, _ =>
      match a.parts?, b.parts? with
      | some x, some y => x.1.equals y.1 && x.2.equals y.2
      | _, _ => false

/-- Equality with a plain integer. -/
def equalsInteger (m : Machine) (n : Int) : Except Error Bool :=
  match m with
  | half x => (doubleOf n).map fun y => x.equals (y.convert _)
  | single x => (doubleOf n).map fun y => x.equals (y.convert _)
  | double x => (doubleOf n).map x.equals
  | complex64 re im => (doubleOf n).map fun y => re.equals (y.convert _) && im.isZero
  | complex128 re im => (doubleOf n).map fun y => re.equals y && im.isZero
  | duration s => .ok (s != notATime && s == n)
  | m => .ok (m.whole? == some n)

/-- Equality with a plain complex number; a real one has no imaginary part. -/
def equalsComplex (m : Machine) (re im : Double) : Bool :=
  match m with
  | half x => (x.convert Floating.Format.single).equals (re.convert _) && (im.convert Floating.Format.single).isZero
  | single x => x.equals (re.convert _) && (im.convert Floating.Format.single).isZero
  | complex64 a b => a.equals (re.convert _) && b.equals (im.convert _)
  | m =>
    match m.parts? with
    | some (a, b) => a.equals re && b.equals im
    | none => false

/-- Equality with a plain real number. -/
def equalsReal (m : Machine) (x : Double) : Bool :=
  match m with
  | half y => y.equals (x.convert _)
  | m => m.equalsComplex x (.zero false)

/-- Equality with an integer too large for a machine type, which is exact. -/
def equalsLarge (m : Machine) (n : Int) : Bool :=
  match m.parts? with
  | some (a, b) => a.equalsInt n && b.isZero
  | none => false

/-- The bytes of an integer, the lowest first. -/
def littleEndian : Nat → Nat → List UInt8
  | 0, _ => []
  | width + 1, n => UInt8.ofNat n :: littleEndian width (n / 256)

/-- The bytes that a number of a floating format takes. -/
def numberBytes {f : Floating.Format} (width : Nat) : Floating.Number f → List UInt8
  | .nan => littleEndian width (f.infinity + 2 ^ (f.fractionBits - 1))
  | .signed negative m => littleEndian width (m.val + if negative then 2 ^ (8 * width - 1) else 0)

/-- The bytes that a machine value takes, for those that show them. -/
def memory? : Machine → Option (List UInt8)
  | boolean b => some [if b then 1 else 0]
  | integer k n => some (littleEndian (k.width.bits / 8) (n.val % 2 ^ k.width.bits).toNat)
  | half x => some (numberBytes 2 x)
  | single x => some (numberBytes 4 x)
  | double x => some (numberBytes 8 x)
  | complex64 re im => some (numberBytes 4 re ++ numberBytes 4 im)
  | complex128 re im => some (numberBytes 8 re ++ numberBytes 8 im)
  | text s => some (s.toList.flatMap fun c => littleEndian 4 c.toNat)
  | bytes content => some content
  | instant _ | duration _ => none

/-- The number that bytes stand for, the lowest first. -/
def word : List UInt8 → Nat
  | [] => 0
  | b :: rest => b.toNat + 256 * word rest

/-- The number of a floating format that takes some bytes. -/
def numberOf (f : Floating.Format) (content : List UInt8) : Floating.Number f :=
  let signBit := 2 ^ (f.fractionBits + f.exponentBits)
  let magnitude := word content % signBit
  if h : magnitude < f.infinity + 1 then .signed (decide (signBit ≤ word content)) ⟨magnitude, h⟩ else .nan

/-- The machine value that a plain number becomes as an item of a sequence. -/
def ofInteger? (n : Int) : Option Machine :=
  let signed : IntegerKind := ⟨true, .w64⟩
  let unsigned : IntegerKind := ⟨false, .w64⟩
  if h : signed.min ≤ n ∧ n ≤ signed.max then some (integer signed ⟨n, h⟩)
  else if h : unsigned.min ≤ n ∧ n ≤ unsigned.max then some (integer unsigned ⟨n, h⟩)
  else none

/-- Whether a value takes part in comparisons as a number or a time does. -/
def isQuantity : Machine → Bool
  | text _ | bytes _ => false
  | _ => true

end Machine

/-! ### Views of memory -/

namespace IntegerKind

/-- What the bits of a kind keep of an integer. -/
def kept (k : IntegerKind) (n : Int) : Int :=
  if k.signed then n.bmod (2 ^ k.width.bits) else n % (2 ^ k.width.bits : Nat)

theorem kept_bounds (k : IntegerKind) (n : Int) : k.min ≤ k.kept n ∧ k.kept n ≤ k.max := by
  obtain ⟨signed, width⟩ := k
  cases signed with
  | false =>
    cases width <;> simp only [kept, min, max, Width.bits, Bool.false_eq_true, if_false] <;> omega
  | true =>
    have low : -(((2 ^ width.bits : Nat) : Int) / 2) ≤ n.bmod (2 ^ width.bits) :=
      Int.le_bmod (Nat.two_pow_pos _)
    have high : n.bmod (2 ^ width.bits) < ((2 ^ width.bits : Nat) + 1 : Int) / 2 := Int.bmod_lt (Nat.two_pow_pos _)
    cases width <;> simp only [kept, min, max, Width.bits, if_true] at low high ⊢ <;> omega

def wrap (k : IntegerKind) (n : Int) : k.Value := ⟨k.kept n, k.kept_bounds n⟩

end IntegerKind

namespace ItemFormat

/-- The machine value that the bytes of an item stand for. -/
def read : ItemFormat → List UInt8 → Machine
  | character, content => .bytes content
  | truth, content => .boolean (content.any (· != 0))
  | integer k, content => .integer k (k.wrap (Machine.word content))
  | half, content => .half (Machine.numberOf .half content)
  | single, content => .single (Machine.numberOf .single content)
  | double, content => .double (Machine.numberOf .double content)

/-- A number of items, from the bytes on. -/
def readItems (f : ItemFormat) : Nat → List UInt8 → List Machine
  | 0, _ => []
  | count + 1, content => f.read (content.take f.size) :: readItems f count (content.drop f.size)

end ItemFormat

/-- Items in some dimensions, as memory shows them. -/
structure Items where
  shape : List Nat
  items : List Machine

def View.items (w : View) : Items := ⟨w.shape, w.format.readItems (w.shape.foldl (· * ·) 1) w.content⟩

/-- A row of bytes, as numbers. -/
def Items.ofBytes (content : List UInt8) : Items :=
  ⟨[content.length], (ItemFormat.integer ⟨false, .w8⟩).readItems content.length content⟩

/-- The plain value that an item is compared as. -/
def Machine.unpacked : Machine → Value
  | boolean b => .boolean b
  | integer _ n => .integer n.val
  | half x => .real (x.convert _)
  | single x => .real (x.convert _)
  | double x => .real x
  | bytes content => .bytes .plain content
  | _ => .none

namespace Value

/-- The number that a plain value counts as when plain values are compared. -/
def number? : Value → Option (Int ⊕ Double)
  | boolean b => some (.inl (if b then 1 else 0))
  | integer n => some (.inl n)
  | real x => some (.inr x)
  | complex re im => if im.isZero then some (.inr re) else .none
  | _ => .none

def equalNumbers : Int ⊕ Double → Int ⊕ Double → Bool
  | .inl m, .inl n => m == n
  | .inl m, .inr y => y.equalsInt m
  | .inr x, .inl n => x.equalsInt n
  | .inr x, .inr y => x.equals y

/-- Equality of items that were unpacked. No character is a number. -/
def equalsUnpacked (v w : Value) : Bool :=
  match v.number?, w.number? with
  | some a, some b => equalNumbers a b
  | _, _ =>
    match v.bytes?, w.bytes? with
    | some a, some b => a == b
    | _, _ => false

/-- What a value shows of memory. -/
def memory? : Value → Option Items
  | bytes _ content | machine (.bytes content) => some (.ofBytes content)
  | view w => some w.items
  | machine (.boolean b) => some ⟨[], [.boolean b]⟩
  | machine (.integer k n) => some ⟨[], [.integer k n]⟩
  | machine (.half x) => some ⟨[], [.half x]⟩
  | machine (.single x) => some ⟨[], [.single x]⟩
  | machine (.double x) => some ⟨[], [.double x]⟩
  | _ => .none

/-- Whether there are as many items in each dimension, down to one that has none. -/
def sameShape : List Nat → List Nat → Bool
  | [], [] => true
  | m :: ms, n :: ns => ms.length == ns.length && m == n && (m == 0 || sameShape ms ns)
  | _, _ => false

/-- Equality of what values show of memory, whatever the formats of the items are. -/
def equalsMemory (v w : Value) : Bool :=
  match v.memory?, w.memory? with
  | some a, some b =>
    sameShape a.shape b.shape && (a.items.zip b.items).all fun p => equalsUnpacked p.1.unpacked p.2.unpacked
  | _, _ => false

/-- The lengths of a sequence and of the sequences in it, as far as they agree; the flag tells that they
differ further in. -/
def agree : List (List Nat × Bool) → List Nat × Bool
  | [] => ([], false)
  | [s] => s
  | (s, ragged) :: rest =>
    let (t, ragged') := agree rest
    let common := ((s.zip t).takeWhile fun p => p.1 == p.2).map (·.1)
    (common, ragged || ragged' || common.length != s.length || common.length != t.length)

mutual

/-- The lengths of a value and of its items, and whether they differ further in. -/
def shape : Value → List Nat × Bool
  | list items | tuple items =>
    let (inner, ragged) := agree (shapes items)
    (items.length :: inner, ragged)
  | bytes .mutable content | bytes .view content => ([content.length], false)
  | view w => (w.shape, false)
  | _ => ([], false)

def shapes : List Value → List (List Nat × Bool)
  | [] => []
  | v :: rest => shape v :: shapes rest

end

/-- The one item of a sequence of one item, through all levels. -/
def onlyItem : Value → Value
  | list [v] | tuple [v] => onlyItem v
  | bytes _ (b :: _) => integer b.toNat
  | view w => (w.items.items.head?.map machine).getD (view w)
  | v => v

/-- Equality of a machine number with an item of a sequence. -/
def equalsItem (m : Machine) : Value → Bool
  | machine n => m.equals n
  | boolean b => m.equals (.boolean b)
  | integer n =>
    match Machine.ofInteger? n with
    | some k => m.equals k
    | .none => m.equalsLarge n
  | real x => m.equals (.double x)
  | complex re im => m.equals (.complex128 re im)
  | _ => false

/-- Equality of a machine number with a sequence, item by item. -/
def equalsSequence (m : Machine) (v : Value) : Except Error Bool :=
  match v.shape with
  | (lengths, true) => .error (.ragged lengths)
  | (lengths, false) =>
    match lengths.foldl (· * ·) 1 with
    | 0 => .error .emptyTruth
    | 1 => .ok (equalsItem m (onlyItem v))
    | _ => .error .ambiguousTruth

/-- Equality of a machine number with any value. -/
def equalsMachine (m : Machine) (v : Value) : Except Error Bool :=
  match v with
  | boolean b => .ok (m.equals (.boolean b))
  | integer n => m.equalsInteger n
  | real x => .ok (m.equalsReal x)
  | complex re im => .ok (m.equalsComplex re im)
  | machine n => .ok (m.equals n)
  | list _ | tuple _ | bytes .mutable _ | bytes .view _ | view _ => equalsSequence m v
  | _ => .ok false

/-- Equality of plain values that hold no others. A mutable byte sequence compares bytes with a compact view that
comes second. -/
def equalsPlain (v w : Value) : Bool :=
  match v, w with
  | none, none => true
  | complex re im, complex re' im' => re.equals re' && im.equals im'
  | date d, date e => d == e
  | moment m, moment n => m.same n
  | scalar h, scalar k => h.scalar.equal k.scalar
  | typeId k, typeId l => k == l
  | dataType d, dataType e => d.same e
  | bytes .mutable a, machine n | machine n, bytes .mutable a => n.memory? == some a
  | bytes .mutable a, view u => if u.compact then a == u.content else equalsMemory v w
  | view _, _ | _, view _ => equalsMemory v w
  | _, _ =>
    match v.number?, w.number? with
    | some a, some b => equalNumbers a b
    | _, _ =>
      match v.text?, w.text? with
      | some s, some t => s == t
      | _, _ =>
        match v.bytes?, w.bytes? with
        | some a, some b => a == b
        | _, _ => false

/-- The machine number or time that a value is. -/
def quantity? : Value → Option Machine
  | machine m => if m.isQuantity then some m else .none
  | _ => .none

/-- Whether a value with bytes compares them with those of a machine value, when it comes first. -/
def comparesBytes (v : Value) (m : Machine) : Bool :=
  match v with
  | bytes .mutable _ | bytes .view _ | view _ => m.memory?.isSome
  | _ => false

/-- Whether two values are one and the same scalar. -/
def isSame : Value → Value → Bool
  | scalar h, scalar k => h.identity == k.identity
  | _, _ => false

mutual

/-- Equality of any two values. A scalar equals scalars only. -/
def compare (v w : Value) : Except Error Bool :=
  match v, w with
  | list xs, list ys => if xs.length = ys.length then compareItems xs ys else .ok false
  | tuple xs, tuple ys => compareItems xs ys
  | dictionary xs, dictionary ys => if xs.length = ys.length then compareEntries ys xs else .ok false
  | _, _ =>
    match v.quantity?, w.quantity? with
    | some m, _ => equalsMachine m w
    | .none, some n => if v.comparesBytes n then .ok (equalsPlain v w) else equalsMachine n v
    | .none, .none => .ok (equalsPlain v w)

/-- Equality of items up to the first ones that differ. -/
def compareItems : List Value → List Value → Except Error Bool
  | [], [] => .ok true
  | x :: xs, y :: ys =>
    if x.isSame y then compareItems xs ys
    else
      match compare x y with
      | .ok true => compareItems xs ys
      | other => other
  | _, _ => .ok false

/-- Whether each of the entries equals the one of `ys` with the same key. -/
def compareEntries (ys : List (Value × Value)) : List (Value × Value) → Except Error Bool
  | [] => .ok true
  | (k, v) :: xs =>
    match ys.find? fun y => equalsPlain k y.1 with
    | .none => .ok false
    | some y =>
      if v.isSame y.2 then compareEntries ys xs
      else
        match compare v y.2 with
        | .ok true => compareEntries ys xs
        | other => other

end

/-- Whether two values are equal. -/
def equals (v w : Value) : Bool :=
  match compare v w with
  | .ok b => b
  | .error _ => false

end Value

end TypedScalar
