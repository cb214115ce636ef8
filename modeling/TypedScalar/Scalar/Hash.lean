import TypedScalar.Scalar.Equality
import TypedScalar.Text.Utf8

/-! Hash keys: two values have the same hash exactly when both have keys and these are the same. A number
is hashed by its residue modulo a Mersenne prime, so that equal numbers of any type have one hash; in it,
two to the power of the prime's exponent is one, and minus one is not a residue. A text is hashed as the
bytes that it takes with all its characters of one width, so that it may meet bytes, and no bytes at all
meet zero. A view that has a hash has that of its bytes. A scalar is hashed as the pair of its kind's
identifier and its payload, of which all NaNs are one. Values that are hashed by their identity have no key. -/

namespace TypedScalar

open Floating (Double)

-- Powers are those of core here, also where Mathlib declares its own.
attribute [local instance (high)] instPowNat

namespace Residue

def exponent : Nat := 61

def modulus : Nat := 2 ^ exponent - 1

/-- The residue of infinity. -/
def ofInfinity : Nat := 314159

/-- The weight of the imaginary part of a complex number. -/
def imaginaryWeight : Int := 1000003

def signed (negative : Bool) (residue : Nat) : Int :=
  let r := Text.withSign negative residue
  if r = -1 then -2 else r

def ofInt (n : Int) : Int := signed (decide (n < 0)) (n.natAbs % modulus)

/-- The residue of a number that is not a NaN. -/
def ofDouble : Double → Int
  | .nan => 0
  | .signed negative m =>
    if m.val = Floating.Format.double.infinity then signed negative ofInfinity
    else
      let shift := exponent - Floating.Format.double.unitExponent % exponent
      signed negative (Floating.Format.double.units m * 2 ^ shift % modulus)

/-- The residue of a complex number, which is a sum in 64 bits. -/
def ofComplex (re im : Double) : Int :=
  let r := (ofDouble re + imaginaryWeight * ofDouble im).bmod (2 ^ (64 : Nat))
  if r = -1 then -2 else r

end Residue

inductive HashKey
  | nothing
  | number (residue : Int)
  | memory (content : List UInt8)
  | duration (seconds : Int)
  | date (text : String)
  | tuple (items : List HashKey)
  deriving Repr

namespace HashKey

mutual

/-- Whether two keys are the same. -/
def same : HashKey → HashKey → Bool
  | nothing, nothing => true
  | number m, number n => m == n
  | memory a, memory b => a == b
  | duration m, duration n => m == n
  | date s, date t => s == t
  | tuple xs, tuple ys => sameItems xs ys
  | _, _ => false

def sameItems : List HashKey → List HashKey → Bool
  | [], [] => true
  | x :: xs, y :: ys => same x y && sameItems xs ys
  | _, _ => false

end

def ofBytes (content : List UInt8) : HashKey := if content.isEmpty then number 0 else memory content

/-- The number of bytes that each character of a text takes, so that all fit. -/
def characterWidth (s : List Char) : Nat :=
  if s.all (·.toNat < 2 ^ (8 : Nat)) then 1 else if s.all (·.toNat < 2 ^ (16 : Nat)) then 2 else 4

def ofText (s : String) : HashKey :=
  let cs := s.toList
  ofBytes (cs.flatMap fun c => Machine.littleEndian (characterWidth cs) c.toNat)

/-- The key of a real number; a NaN has none. -/
def ofReal? (x : Double) : Option HashKey := if x.isNaN then none else some (number (Residue.ofDouble x))

def ofComplex? (re im : Double) : Option HashKey :=
  if re.isNaN || im.isNaN then none else some (number (Residue.ofComplex re im))

/-- What all NaNs of a kind are hashed as. -/
def nanName : String := "nan"

def ofPayload : (k : Kind) → k.Payload → HashKey
  | .null, p => nomatch p
  | .boolean, (b : Bool) => number (if b then 1 else 0)
  | .integer _, (n : IntegerKind.Value _) => number (Residue.ofInt n.val)
  | .floating k, x => (ofReal? (k.toDouble x)).getD (ofText nanName)
  | .string, (s : String) => ofText s
  | .binary, (b : List UInt8) => ofBytes b

end HashKey

def Kind.hashKey (k : Kind) : HashKey := .ofText k.identifier

def Scalar.hashKey (s : Scalar) : HashKey :=
  .tuple [s.kind.hashKey, (s.payload.map (HashKey.ofPayload s.kind)).getD .nothing]

def Machine.hashKey? : Machine → Option HashKey
  | text s => some (.ofText s)
  | bytes content => some (.ofBytes content)
  | instant d => if d = noDate then none else some (.date d)
  | duration n => if n = notATime then none else some (.duration n)
  | complex64 re im => HashKey.ofComplex? (re.convert _) (im.convert _)
  | complex128 re im => HashKey.ofComplex? re im
  | m =>
    match m.whole?, m.parts? with
    | some n, _ => some (.number (Residue.ofInt n))
    | none, some (x, _) => HashKey.ofReal? x
    | none, none => none

namespace Value

mutual

/-- Why a value cannot be a key; of the values in it, the first in the order of reading tells. -/
def unhashable? : Value → Option Error
  | v@(list _) | v@(dictionary _) | v@(set _) | v@(cycle _) | v@(bytes .mutable _) => some (.unhashable v.typeName)
  | tuple items => unhashableIn? items
  | view w =>
    if w.writable then some (.view .hashWritable)
    else if w.format.isByte then w.unhashableOwner.map .unhashable
    else some (.view .hashFormat)
  | _ => .none

def unhashableIn? : List Value → Option Error
  | [] => .none
  | v :: rest => (unhashable? v).or (unhashableIn? rest)

end

mutual

def hashKey? : Value → Option HashKey
  | none => some .nothing
  | boolean b => some (.number (if b then 1 else 0))
  | integer n => some (.number (Residue.ofInt n))
  | real x => HashKey.ofReal? x
  | complex re im => HashKey.ofComplex? re im
  | text s => some (.ofText s)
  | bytes _ content => some (.ofBytes content)
  | view w => some (.ofBytes w.content)
  | tuple items => (hashKeys? items).map .tuple
  | date d => some (.date d.text)
  | moment m => some (.tuple [.number m.instant, .number (if m.offset.isSome then 1 else 0)])
  | machine m => m.hashKey?
  | scalar h => some h.scalar.hashKey
  | typeId k | dataType (.concrete k) => some k.hashKey
  | dataType (.abstract _) => some .nothing
  | list _ | dictionary _ | set _ | cycle _ | object => .none

def hashKeys? : List Value → Option (List HashKey)
  | [] => some []
  | v :: rest =>
    match hashKey? v, hashKeys? rest with
    | some k, some ks => some (k :: ks)
    | _, _ => .none

end

def sameKeys (a b : Option HashKey) : Bool :=
  match a, b with
  | some k, some l => k.same l
  | _, _ => false

/-- Whether two values have the same hash. -/
def sameHash (a b : Value) : Except Error Bool :=
  match (unhashable? a).or (unhashable? b) with
  | some e => .error e
  | .none => .ok (sameKeys a.hashKey? b.hashKey?)

/-- Whether two values are the same key: one scalar, or equal values of one hash. -/
def sameKey (a b : Value) : Bool := a.isSame b || (sameKeys a.hashKey? b.hashKey? && a.equals b)

/-- For each item the number of its key in the order of first sight, and how many keys there are. -/
def groups (items : List Value) : List Nat × Nat :=
  let step (acc : List Value × List Nat) (v : Value) : List Value × List Nat :=
    match acc.1.findIdx? (sameKey · v) with
    | some i => (acc.1, acc.2 ++ [i])
    | .none => (acc.1 ++ [v], acc.2 ++ [acc.1.length])
  let (keys, numbers) := items.foldl step ([], [])
  (numbers, keys.length)

end Value

end TypedScalar
