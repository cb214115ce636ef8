import TypedScalar.Text.Halves
import TypedScalar.Text.Hex
import TypedScalar.Yaml.Cursor

/-! The texts of a stream: quoted ones, whose line breaks fold to spaces, and block ones, whose
indentation is taken off. -/

namespace TypedScalar.Yaml

-- Powers are those of core here, also where Mathlib declares its own.
attribute [local instance (high)] instPowNat

/-- Escapes of one letter between double quotes. -/
def escapes : List (Char × Char) :=
  [('0', '\x00'), ('a', '\x07'), ('b', '\x08'), ('t', '\t'), ('\t', '\t'), ('n', '\n'), ('v', '\x0b'),
    ('f', '\x0c'), ('r', '\r'), ('e', '\x1b'), (' ', ' '), ('\x22', '\x22'), ('\\', '\\'), ('/', '/'),
    ('N', '\u0085'), ('_', '\u00a0'), ('L', '\u2028'), ('P', '\u2029')]

/-- Escapes by number, with their width. -/
def numberEscapes : List (Char × Nat) := [('x', 2), ('u', 4), ('U', 8)]

def hexValue (ds : List Char) : Nat := ds.foldl (fun n d => 16 * n + Text.hexValue d) 0

namespace Quoted

/-- The line breaks from here on, with the blanks around them dropped. A document marker may not stand
inside a quoted text. -/
def breaks : Nat → Cursor → Except Fault (List Char × Cursor)
  | 0, c => .ok ([], c)
  | fuel + 1, c =>
    if c.atMarker then .error c.fault
    else
      let c := c.skip isSpaceOrTab
      if isBreak (c.peek 0) then
        let (b, c) := c.lineBreak
        (breaks fuel c).map fun (bs, c) => (b ++ bs, c)
      else .ok ([], c)

/-- A stretch of blanks between words: one line break folds to a space, further ones are kept. -/
def blanks (c : Cursor) : Except Fault (List Char × Cursor) :=
  let (white, c) := c.span isSpaceOrTab
  if isEnd (c.peek 0) then .error c.fault
  else if isBreak (c.peek 0) then
    let (b, c) := c.lineBreak
    (breaks (c.rest.length + 1) c).map fun (bs, c) =>
      (if b ≠ ['\n'] then b ++ bs else if bs.isEmpty then [' '] else bs, c)
  else .ok (white, c)

def codes (s : List Char) : List Nat := s.map Char.toNat

/-- One escape, from behind its backslash, as the code points that it stands for. -/
def unescape (c : Cursor) : Except Fault (List Nat × Cursor) :=
  let x := c.peek 0
  match escapes.lookup x, numberEscapes.lookup x with
  | some y, _ => .ok ([y.toNat], c.next)
  | none, some width =>
    let digits := c.next.rest.take width
    if digits.length = width ∧ digits.all Text.isHexDigit then
      let n := hexValue digits
      if 2 ^ (31 : Nat) ≤ n then .error .characterTooLarge
      else if 0x110000 ≤ n then .error .noSuchCharacter
      else .ok ([n], c.next.forward width)
    else .error c.fault
  | none, none =>
    if isBreak x then
      let (_, c) := c.lineBreak
      (breaks (c.rest.length + 1) c).map fun (bs, c) => (codes bs, c)
    else .error c.fault

/-- Words and escapes up to the next blank or to what ends the text. -/
def words (double : Bool) : Nat → Cursor → Except Fault (List Nat × Cursor)
  | 0, c => .ok ([], c)
  | fuel + 1, c =>
    let (plain, c) :=
      c.span fun x => x != '\x27' && x != '\x22' && x != '\\' && !isGap x
    let x := c.peek 0
    if !double && x == '\x27' && c.peek 1 == '\x27' then
      (words double fuel (c.forward 2)).map fun (s, c) => (codes plain ++ x.toNat :: s, c)
    else if (double && x == '\x27') || (!double && (x == '\x22' || x == '\\')) then
      (words double fuel c.next).map fun (s, c) => (codes plain ++ x.toNat :: s, c)
    else if double && x == '\\' then
      (unescape c.next).bind fun (e, c) => (words double fuel c).map fun (s, c) => (codes plain ++ e ++ s, c)
    else .ok (codes plain, c)

/-- Words and blanks up to the closing quote. -/
def body (double : Bool) (quote : Char) : Nat → Cursor → Except Fault (List Nat × Cursor)
  | 0, c => .error c.fault
  | fuel + 1, c =>
    (words double (c.rest.length + 1) c).bind fun (s, c) =>
      if c.peek 0 = quote then .ok (s, c.next)
      else
        (blanks c).bind fun (b, c) => (body double quote fuel c).map fun (t, c) => (s ++ codes b ++ t, c)

/-- A quoted text, from its opening quote on. -/
def scan (c : Cursor) : Except Fault (List Char × Cursor) :=
  let quote := c.peek 0
  (body (quote == '\x22') quote (c.rest.length + 2) c.next).map fun (s, c) => (Text.ofCodes s, c)

end Quoted

namespace Block

/-- What happens to the line breaks at the end of a block text. -/
inductive Chomping
  | clip
  | strip
  | keep
  deriving DecidableEq

def chomping? : Char → Option Chomping
  | '+' => some .keep
  | '-' => some .strip
  | _ => none

def isDigit (c : Char) : Bool := '0' ≤ c && c ≤ '9'

/-- An indentation digit, which is not zero. -/
def increment (c : Cursor) : Except Fault (Option Nat × Cursor) :=
  let x := c.peek 0
  if isDigit x then
    if x = '0' then .error c.fault else .ok (some (x.toNat - 48), c.next)
  else .ok (none, c)

/-- The indicators behind the style, in either order. -/
def header (c : Cursor) : Except Fault (Chomping × Option Nat × Cursor) :=
  let found : Except Fault (Chomping × Option Nat × Cursor) :=
    match chomping? (c.peek 0) with
    | some ch => (increment c.next).map fun (i, c) => (ch, i, c)
    | none =>
      (increment c).map fun (i, c) =>
        match i, chomping? (Cursor.peek c 0) with
        | some i, some ch => (ch, some i, Cursor.next c)
        | i, _ => (.clip, i, c)
  found.bind fun (ch, i, c) =>
    if isBreakOrEnd (c.peek 0) || c.peek 0 == ' ' then .ok (ch, i, c) else .error c.fault

/-- The blank lines from here on, and the widest indentation among them. -/
def leading : Nat → Nat → Cursor → List Char × Nat × Cursor
  | 0, widest, c => ([], widest, c)
  | fuel + 1, widest, c =>
    if c.peek 0 = ' ' then
      let c := c.next
      leading fuel (max widest c.column) c
    else if isBreak (c.peek 0) then
      let (b, c) := c.lineBreak
      let (bs, widest, c) := leading fuel widest c
      (b ++ bs, widest, c)
    else ([], widest, c)

/-- Steps over spaces up to a column. -/
def indentTo (indent : Nat) (c : Cursor) : Cursor :=
  c.forward (min ((c.rest.takeWhile (· == ' ')).length) (indent - c.column))

/-- The blank lines from here on, as far as they are not deeper than the text. -/
def breaks (indent : Nat) : Nat → Cursor → List Char × Cursor
  | 0, c => ([], c)
  | fuel + 1, c =>
    let c := indentTo indent c
    if isBreak (c.peek 0) then
      let (b, c) := c.lineBreak
      let (bs, c) := breaks indent fuel c
      (b ++ bs, c)
    else ([], c)

/-- The lines of a block text. `before` are the blank lines in front of the first one. The result is the
text without its last line break, that break, and the blank lines behind it. -/
def lines (folded : Bool) (indent : Nat) : Nat → List Char → Cursor → List Char × List Char × List Char × Cursor
  | 0, before, c => ([], [], before, c)
  | fuel + 1, before, c =>
    if c.column = indent ∧ !isEnd (c.peek 0) then
      let flush := !isSpaceOrTab (c.peek 0)
      let (line, c) := c.span (!isBreakOrEnd ·)
      let (b, c) := c.lineBreak
      let (after, c) := breaks indent (c.rest.length + 1) c
      if c.column = indent ∧ !isEnd (c.peek 0) then
        let joint :=
          if folded && b == ['\n'] && flush && !isSpaceOrTab (c.peek 0) then
            (if after.isEmpty then [' '] else [])
          else b
        let (text, last, rest, c) := lines folded indent fuel after c
        (before ++ line ++ joint ++ text, last, rest, c)
      else (before ++ line, b, after, c)
    else ([], [], before, c)

/-- A block text, from its style indicator on, inside a collection of the given indentation. -/
def scan (parent : Int) (c : Cursor) : Except Fault (List Char × Cursor) :=
  let folded := c.peek 0 == '>'
  (header c.next).bind fun (chomping, increment, c) =>
    c.endLine.map fun c =>
      let least := max 1 (parent + 1).toNat
      let fuel := c.rest.length + 1
      let (before, indent, c) :=
        match increment with
        | some i =>
          let indent := least + i - 1
          let (bs, c) := breaks indent fuel c
          (bs, indent, c)
        | none =>
          let (bs, widest, c) := leading fuel 0 c
          (bs, max least widest, c)
      let (text, last, rest, c) := lines folded indent fuel before c
      (text ++ (if chomping = .strip then [] else last) ++ (if chomping = .keep then rest else []), c)

end Block

end TypedScalar.Yaml
