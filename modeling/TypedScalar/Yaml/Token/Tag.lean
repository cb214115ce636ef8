import TypedScalar.Text.Hex
import TypedScalar.Text.Numeral
import TypedScalar.Text.Utf8
import TypedScalar.Yaml.Cursor

/-! Names in a stream: anchors, tags with their handles, and directives. -/

namespace TypedScalar.Yaml

inductive Directive
  | version (major : Nat)
  | tagHandle (handle start : String)
  | other
  deriving DecidableEq, Repr

namespace Name

def isLetter (c : Char) : Bool := ('0' ≤ c && c ≤ '9') || ('A' ≤ c && c ≤ 'Z') || ('a' ≤ c && c ≤ 'z')

def isWord (c : Char) : Bool := isLetter c || c == '-' || c == '_'

def isUri (c : Char) : Bool := isLetter c || "-;/?:@&=+$,_.!~*\x27()[]%".toList.contains c

/-- A name of letters, digits, hyphens and underscores that is not empty. -/
def word (c : Cursor) : Except Fault (String × Cursor) :=
  let (s, c') := c.span isWord
  if s.isEmpty then .error c.fault else .ok (String.ofList s, c')

/-- The name behind an anchor or alias indicator, and what may follow it. -/
def anchor (c : Cursor) : Except Fault (String × Cursor) :=
  (word c.next).bind fun (s, c) =>
    let x := c.peek 0
    if isGap x || "?:,]\x7d%@\x60".toList.contains x then .ok (s, c) else .error c.fault

/-- Bytes escaped by number. -/
def escapedBytes : Nat → Cursor → Except Fault (List UInt8 × Cursor)
  | 0, c => .ok ([], c)
  | fuel + 1, c =>
    if c.peek 0 = '%' then
      if Text.isHexDigit (c.peek 1) && Text.isHexDigit (c.peek 2) then
        let b := UInt8.ofNat (16 * Text.hexValue (c.peek 1) + Text.hexValue (c.peek 2))
        (escapedBytes fuel (c.forward 3)).map fun (bs, c) => (b :: bs, c)
      else .error c.fault
    else .ok ([], c)

/-- The parts of a resource identifier; escaped bytes stand for UTF-8. -/
def uriParts : Nat → Cursor → Except Fault (List Char × Cursor)
  | 0, c => .ok ([], c)
  | fuel + 1, c =>
    if c.peek 0 = '%' then
      (escapedBytes (c.rest.length + 1) c).bind fun (bs, c') =>
        match Text.Utf8.decode bs with
        | .error _ => .error c.fault
        | .ok s => (uriParts fuel c').map fun (t, c) => (s ++ t, c)
    else
      let (s, c') := c.span fun x => isUri x && x != '%'
      if s.isEmpty then .ok ([], c) else (uriParts fuel c').map fun (t, c) => (s ++ t, c)

def uri (c : Cursor) : Except Fault (String × Cursor) :=
  if isUri (c.peek 0) then (uriParts (c.rest.length + 1) c).map fun (s, c) => (String.ofList s, c)
  else .error c.fault

/-- A tag handle: an exclamation mark, or a word between two of them. -/
def handle (c : Cursor) : Except Fault (String × Cursor) :=
  if c.peek 0 ≠ '!' then .error c.fault
  else if c.peek 1 = ' ' then .ok ("!", c.next)
  else
    let (s, c') := c.next.span isWord
    if c'.peek 0 = '!' then .ok (String.ofList ('!' :: s ++ ['!']), c'.next) else .error c'.fault

/-- Whether an exclamation mark stands in the word from the `k`-th character on. -/
def hasHandle (c : Cursor) (k : Nat) : Bool :=
  ((c.rest.drop k).takeWhile fun x => !isBreakOrEnd x && x != ' ').contains '!'

def separated (c : Cursor) : Bool := isBreakOrEnd (c.peek 0) || c.peek 0 == ' '

/-- A tag: its handle, if it has one, and the rest. -/
def tag (c : Cursor) : Except Fault (Option String × String × Cursor) :=
  let x := c.peek 1
  let found : Except Fault (Option String × String × Cursor) :=
    if x = '<' then
      (uri (c.forward 2)).bind fun (s, c) => if c.peek 0 = '>' then .ok (none, s, c.next) else .error c.fault
    else if isGap x then .ok (none, "!", c.next)
    else if hasHandle c 1 then
      (handle c).bind fun (h, c) => (uri c).map fun (s, c) => (some h, s, c)
    else (uri c.next).map fun (s, c) => (some "!", s, c)
  found.bind fun (h, s, c) => if separated c then .ok (h, s, c) else .error c.fault

/-- A decimal number, of which the digits are limited. -/
def number (c : Cursor) : Except Fault (Nat × Cursor) :=
  let (ds, c') := c.span Text.isAsciiDigit
  if ds.isEmpty then .error c.fault
  else if Text.digitLimit < ds.length then .error (.versionTooLong ds.length)
  else .ok (Text.natOfAscii ds, c')

def versionDirective (c : Cursor) : Except Fault (Directive × Cursor) :=
  (number (c.skip (· == ' '))).bind fun (major, c) =>
    if c.peek 0 ≠ '.' then .error c.fault
    else
      (number c.next).bind fun (_, c) => if separated c then .ok (.version major, c) else .error c.fault

def tagDirective (c : Cursor) : Except Fault (Directive × Cursor) :=
  (handle (c.skip (· == ' '))).bind fun (h, c) =>
    if c.peek 0 ≠ ' ' then .error c.fault
    else
      (uri (c.skip (· == ' '))).bind fun (s, c) =>
        if separated c then .ok (.tagHandle h s, c) else .error c.fault

/-- A directive with its line, from the percent sign on. -/
def directive (c : Cursor) : Except Fault (Directive × Cursor) :=
  (word c.next).bind fun (name, c) =>
    if !separated c then .error c.fault
    else
      let found : Except Fault (Directive × Cursor) :=
        if name = "YAML" then versionDirective c
        else if name = "TAG" then tagDirective c
        else .ok (.other, c.skip (!isBreakOrEnd ·))
      found.bind fun (d, c) => c.endLine.map fun c => (d, c)

end Name

end TypedScalar.Yaml
