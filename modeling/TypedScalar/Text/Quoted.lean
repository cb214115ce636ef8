import TypedScalar.Text.Hex
import TypedScalar.Text.Printable

/-! Quoted text, as messages show it. The quote mark is the single one, unless the text holds a single
but no double one; the mark and the backslash are escaped by a backslash, newline, return and tab have
letters, and what does not print is given by number. -/

namespace TypedScalar.Text

def singleMark : Char := '\x27'
def doubleMark : Char := '\x22'

def quoteMark (s : List Char) : Char :=
  if s.contains singleMark && !s.contains doubleMark then doubleMark else singleMark

/-- The escape of a character by number, in the shortest of the three widths that holds it. -/
def escapeByNumber (c : Char) : List Char :=
  let n := c.toNat
  if n < 0x100 then '\\' :: 'x' :: hexNumber 2 n
  else if n < 0x10000 then '\\' :: 'u' :: hexNumber 4 n
  else '\\' :: 'U' :: hexNumber 8 n

/-- How one character is written between marks, where `plain` tells what stands for itself. -/
def escape (plain : Char → Bool) (mark c : Char) : List Char :=
  if c = mark ∨ c = '\\' then ['\\', c]
  else if c = '\n' then ['\\', 'n']
  else if c = '\r' then ['\\', 'r']
  else if c = '\t' then ['\\', 't']
  else if plain c then [c]
  else escapeByNumber c

def quotedWith (plain : Char → Bool) (s : List Char) : List Char :=
  let mark := quoteMark s
  mark :: s.flatMap (escape plain mark) ++ [mark]

def quoted (s : List Char) : List Char := quotedWith isPrintable s

def isPlainAscii (c : Char) : Bool := 32 ≤ c.toNat && c.toNat < 127

/-- Each byte as the character of its number. -/
def byteCharacters (bytes : List UInt8) : List Char := bytes.map fun b => Char.ofNat b.toNat

/-- Quoted bytes, of which only printable ASCII stands for itself. -/
def quotedBytes (bytes : List UInt8) : List Char := 'b' :: quotedWith isPlainAscii (byteCharacters bytes)

/-- Quoted bytes of a mutable sequence, where a single quote is escaped between double marks too. -/
def quotedMutableBytes (bytes : List UInt8) : List Char :=
  let s := byteCharacters bytes
  let mark := quoteMark s
  'b' :: mark :: s.flatMap (escape isPlainAscii singleMark) ++ [mark]

end TypedScalar.Text
