/-! UTF-8. Writing gives each character its one to four bytes. Reading runs over the bytes with the
sequence in progress as its state: after the lead byte it knows how many bytes are missing and between
which bounds the next one lies, which rules out overlong forms, surrogates and numbers above U+10FFFF. -/

namespace TypedScalar.Text.Utf8

def encodeChar (c : Char) : List UInt8 :=
  let n := c.toNat
  if n < 0x80 then [UInt8.ofNat n]
  else if n < 0x800 then [UInt8.ofNat (0xc0 + n / 0x40), UInt8.ofNat (0x80 + n % 0x40)]
  else if n < 0x10000 then
    [UInt8.ofNat (0xe0 + n / 0x1000), UInt8.ofNat (0x80 + n / 0x40 % 0x40), UInt8.ofNat (0x80 + n % 0x40)]
  else
    [UInt8.ofNat (0xf0 + n / 0x40000), UInt8.ofNat (0x80 + n / 0x1000 % 0x40),
      UInt8.ofNat (0x80 + n / 0x40 % 0x40), UInt8.ofNat (0x80 + n % 0x40)]

def encode (s : List Char) : List UInt8 := s.flatMap encodeChar

/-- Why bytes are not well formed. -/
inductive Reason
  | invalidStart
  | invalidContinuation
  | unexpectedEnd
  deriving DecidableEq, Repr

/-- The first ill-formed bytes: the offset of the first one, how many there are, and what is wrong. -/
structure Fault where
  start : Nat
  count : Nat
  firstByte : UInt8
  reason : Reason
  deriving DecidableEq, Repr

/-- A sequence whose lead byte has been read: how many bytes are missing, the bounds of the next byte,
and the bits so far. -/
structure Pending where
  lead : UInt8
  start : Nat
  seen : Nat
  missing : Nat
  low : Nat
  high : Nat
  bits : Nat

/-- What a byte that starts a sequence announces, if it may start one. -/
def Pending.ofLead? (start : Nat) (b : UInt8) : Option Pending :=
  let n := b.toNat
  if n < 0xc2 then none
  else if n < 0xe0 then some ⟨b, start, 1, 1, 0x80, 0xbf, n - 0xc0⟩
  else if n < 0xf0 then
    some ⟨b, start, 1, 2, if n = 0xe0 then 0xa0 else 0x80, if n = 0xed then 0x9f else 0xbf, n - 0xe0⟩
  else if n < 0xf5 then
    some ⟨b, start, 1, 3, if n = 0xf0 then 0x90 else 0x80, if n = 0xf4 then 0x8f else 0xbf, n - 0xf0⟩
  else none

def Pending.fault (p : Pending) (reason : Reason) : Fault := ⟨p.start, p.seen, p.lead, reason⟩

/-- Reads the bytes from an offset on, with the sequence in progress, if there is one. -/
def decodeFrom : Option Pending → Nat → List UInt8 → Except Fault (List Char)
  | none, _, [] => .ok []
  | some p, _, [] => .error (p.fault .unexpectedEnd)
  | none, offset, b :: rest =>
    if b.toNat < 0x80 then (decodeFrom none (offset + 1) rest).map (Char.ofNat b.toNat :: ·)
    else
      match Pending.ofLead? offset b with
      | none => .error ⟨offset, 1, b, .invalidStart⟩
      | some p => decodeFrom (some p) (offset + 1) rest
  | some p, offset, b :: rest =>
    if b.toNat < p.low ∨ p.high < b.toNat then .error (p.fault .invalidContinuation)
    else
      let bits := p.bits * 0x40 + (b.toNat - 0x80)
      if p.missing ≤ 1 then (decodeFrom none (offset + 1) rest).map (Char.ofNat bits :: ·)
      else
        decodeFrom (some ⟨p.lead, p.start, p.seen + 1, p.missing - 1, 0x80, 0xbf, bits⟩) (offset + 1) rest

def decode (bytes : List UInt8) : Except Fault (List Char) := decodeFrom none 0 bytes

end TypedScalar.Text.Utf8
