import TypedScalar.Yaml.Cursor

/-! Plain texts of a stream, which stand without quotes and may run over several lines. -/

namespace TypedScalar.Yaml.Plain

/-- The characters with a meaning inside flow collections. -/
def isFlowIndicator (c : Char) : Bool := c == ',' || c == '[' || c == ']' || c == '\x7b' || c == '\x7d'

/-- Whether a plain text ends at a character, given the one behind it. -/
def ends (flow : Bool) (x next : Char) : Bool :=
  isGap x || (x == ':' && (isGap next || (flow && isFlowIndicator next))) ||
    (flow && (x == '?' || isFlowIndicator x))

/-- The length of the word at the front of a text. -/
def wordLength (flow : Bool) : List Char → Nat
  | [] => 0
  | x :: rest => if ends flow x (rest.headD '\x00') then 0 else wordLength flow rest + 1

/-- Further line breaks and the spaces around them, up to a document marker; the flag tells that there is
one. -/
def breaks : Nat → Cursor → List Char × Bool × Cursor
  | 0, c => ([], false, c)
  | fuel + 1, c =>
    if c.peek 0 = ' ' then breaks fuel c.next
    else if isBreak (c.peek 0) then
      let (b, c) := c.lineBreak
      if c.atMarker then ([], true, c)
      else
        let (bs, marker, c) := breaks fuel c
        (b ++ bs, marker, c)
    else ([], false, c)

/-- The space between words: spaces, or line breaks, of which a single one folds to a space. Nothing where
the text ends. The flag tells whether a line was left. -/
def space (c : Cursor) : List Char × Bool × Cursor :=
  let (white, c) := c.span (· == ' ')
  if isBreak (c.peek 0) then
    let (b, c) := c.lineBreak
    if c.atMarker then ([], true, c)
    else
      let (bs, marker, c) := breaks (c.rest.length + 1) c
      if marker then ([], true, c)
      else ((if b ≠ ['\n'] then b ++ bs else if bs.isEmpty then [' '] else bs), true, c)
  else (white, false, c)

/-- Words and the space between them. The text ends before a comment, before a line that is indented less,
and where nothing separates it from what follows. -/
def body (flow : Bool) (indent : Int) : Nat → List Char → Cursor → List Char × Bool × Cursor
  | 0, _, c => ([], false, c)
  | fuel + 1, before, c =>
    let n := if c.peek 0 = '#' then 0 else wordLength flow c.rest
    if n = 0 then ([], false, c)
    else
      let word := c.rest.take n
      let (gap, left, c) := space (c.forward n)
      if gap.isEmpty || c.peek 0 == '#' || (!flow && c.column < indent) then (before ++ word, left, c)
      else
        let (text, left', c) := body flow indent fuel gap c
        (before ++ word ++ text, if text.isEmpty then left else left', c)

/-- A plain text inside a collection of the given indentation. The flag tells whether the line was left
behind it. -/
def scan (flow : Bool) (parent : Int) (c : Cursor) : List Char × Bool × Cursor :=
  body flow (parent + 1) (c.rest.length + 1) [] c

end TypedScalar.Yaml.Plain
