import TypedScalar.Text.CodeRange

/-! Reading a YAML stream character by character: the rest of the text, and the place of its first
character. Beyond the end stands the null character, which no stream may contain. -/

namespace TypedScalar.Yaml

/-- What is wrong with a stream. Lines and columns are counted from zero. -/
inductive Fault
  | malformed (line column : Nat)
  /-- A character escaped by a number beyond the last one. -/
  | noSuchCharacter
  /-- A character escaped by a number of more than 31 bits. -/
  | characterTooLarge
  /-- A version number of too many digits. -/
  | versionTooLong (digits : Nat)
  | nestedTooDeeply
  | misplacedToken
  | misplacedDirective
  | secondDocument
  | undefinedHandle (handle : String)
  | undefinedAlias (name : String)
  | repeatedAnchor (name : String)
  | unmergeable
  | unhashableKey
  | unfitNode
  | notBase64
  deriving DecidableEq, Repr

def Fault.message : Fault → String
  | malformed line column => "malformed at line " ++ toString (line + 1) ++ ", column " ++ toString (column + 1)
  | noSuchCharacter => "a character beyond the last one"
  | characterTooLarge => "a character number of more than 31 bits"
  | versionTooLong digits => "a version number of " ++ toString digits ++ " digits"
  | nestedTooDeeply => "collections nested too deeply"
  | misplacedToken => "a token that cannot stand where it does"
  | misplacedDirective => "a directive that cannot stand where it does"
  | secondDocument => "more than one document"
  | undefinedHandle h => "undefined tag handle " ++ h
  | undefinedAlias n => "undefined alias " ++ n
  | repeatedAnchor n => "repeated anchor " ++ n
  | unmergeable => "a merge of something other than mappings"
  | unhashableKey => "a collection as a key"
  | unfitNode => "a node that does not fit its tag"
  | notBase64 => "binary data that is not base64"

structure Cursor where
  rest : List Char
  index : Nat
  line : Nat
  column : Nat

def isBreak (c : Char) : Bool :=
  c == '\n' || c == '\r' || c == '\u0085' || c == '\u2028' || c == '\u2029'

def isEnd (c : Char) : Bool := c == '\x00'

def isBreakOrEnd (c : Char) : Bool := isEnd c || isBreak c

/-- Whether a character separates words of one line, or ends the line. -/
def isGap (c : Char) : Bool := isBreakOrEnd c || c == ' ' || c == '\t'

def isSpaceOrTab (c : Char) : Bool := c == ' ' || c == '\t'

/-- The characters that a stream may contain. -/
def printable : List (Nat × Nat) :=
  [(0x9, 0xa), (0xd, 0xd), (0x20, 0x7e), (0x85, 0x85), (0xa0, 0xd7ff), (0xe000, 0xfffd), (0x10000, 0x10ffff)]

namespace Cursor

def start (text : List Char) : Cursor := ⟨text, 0, 0, 0⟩

/-- The `k`-th character from here. -/
def peek (c : Cursor) (k : Nat) : Char := c.rest.getD k '\x00'

/-- One character on. A byte order mark takes no column. -/
def next (c : Cursor) : Cursor :=
  match c.rest with
  | [] => c
  | x :: rest =>
    if isBreak x && !(x == '\r' && rest.head? == some '\n') then ⟨rest, c.index + 1, c.line + 1, 0⟩
    else ⟨rest, c.index + 1, c.line, if x = '\ufeff' then c.column else c.column + 1⟩

def forward (c : Cursor) : Nat → Cursor
  | 0 => c
  | n + 1 => c.next.forward n

/-- The characters up to the first one that `p` rejects, and the place behind them. -/
def span (c : Cursor) (p : Char → Bool) : List Char × Cursor :=
  let taken := c.rest.takeWhile p
  (taken, c.forward taken.length)

def skip (c : Cursor) (p : Char → Bool) : Cursor := (c.span p).2

/-- Steps over one line break, if one is here. All breaks but two count as a newline. -/
def lineBreak (c : Cursor) : List Char × Cursor :=
  let x := c.peek 0
  if x = '\r' ∧ c.peek 1 = '\n' then (['\n'], c.forward 2)
  else if x = '\u2028' ∨ x = '\u2029' then ([x], c.next)
  else if isBreak x then (['\n'], c.next)
  else ([], c)

def fault (c : Cursor) : Fault := .malformed c.line c.column

/-- Whether a marker of three characters stands here on its own. -/
def atMarker (c : Cursor) : Bool :=
  (c.rest.take 3 == ['-', '-', '-'] || c.rest.take 3 == ['.', '.', '.']) && isGap (c.peek 3)

/-- Steps over spaces and a comment to the end of the line, and over the line break; nothing else may
stand there. -/
def endLine (c : Cursor) : Except Fault Cursor :=
  let c := c.skip (· == ' ')
  let c := if c.peek 0 = '#' then c.skip (!isBreakOrEnd ·) else c
  if isBreakOrEnd (c.peek 0) then .ok c.lineBreak.2 else .error c.fault

end Cursor

end TypedScalar.Yaml
