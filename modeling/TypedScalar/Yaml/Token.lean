import TypedScalar.Yaml.Token.Plain
import TypedScalar.Yaml.Token.Scalar
import TypedScalar.Yaml.Token.Tag

/-! The tokens of a YAML stream. Indentation opens and closes block collections; a key is recognised when
its colon is met, and its tokens are put in front of it afterwards. Tokens are read as they are asked for,
and no further than it takes to tell whether the first of them begins a key: of several faults of a stream
the first one is reported. -/

namespace TypedScalar.Yaml

inductive Token
  | streamEnd
  | directive (d : Directive)
  | documentStart
  | documentEnd
  | blockSequenceStart
  | blockMappingStart
  | blockEnd
  | flowSequenceStart
  | flowSequenceEnd
  | flowMappingStart
  | flowMappingEnd
  | key
  | value
  | blockEntry
  | flowEntry
  | alias (name : String)
  | anchor (name : String)
  | tag (handle : Option String) (suffix : String)
  | scalar (text : String) (plain : Bool)
  deriving DecidableEq, Repr

/-- A place where a key may have begun. A required one stands where a block mapping goes on. -/
structure KeyPlace where
  position : Nat
  required : Bool
  index : Nat
  line : Nat
  column : Nat

/-- The state of reading tokens: where the text goes on, the tokens so far and how many of them have been
taken, how deep in flow collections, the indentations of the open block collections, and the places of
possible keys by flow depth. -/
structure Scanner where
  cursor : Cursor
  tokens : Array Token
  taken : Nat
  depth : Nat
  indent : Int
  indents : List Int
  keyAllowed : Bool
  places : List (Nat × KeyPlace)

namespace Scanner

def start (text : List Char) : Scanner := ⟨.start text, #[], 0, 0, -1, [], true, []⟩

abbrev Step := Except Fault Scanner

def inFlow (s : Scanner) : Bool := s.depth != 0

def column (s : Scanner) : Int := s.cursor.column

def push (s : Scanner) (t : Token) : Scanner := { s with tokens := s.tokens.push t }

/-- Steps over spaces, comments and line breaks. A line break in block context allows a key. -/
def skipGap : Nat → Scanner → Scanner
  | 0, s => s
  | fuel + 1, s =>
    let c := s.cursor.skip (· == ' ')
    let c := if c.peek 0 = '#' then c.skip (!isBreakOrEnd ·) else c
    if isBreak (c.peek 0) then
      skipGap fuel { s with cursor := c.lineBreak.2, keyAllowed := s.keyAllowed || !s.inFlow }
    else { s with cursor := c }

def dropPlace (s : Scanner) : Scanner := { s with places := s.places.filter (·.1 != s.depth) }

/-- Gives up the places that lie on an earlier line or too far back; a required one must not be given
up. -/
def dropStale (s : Scanner) : Step :=
  let stale (k : KeyPlace) : Bool := k.line != s.cursor.line || s.cursor.index - k.index > 1024
  if s.places.any fun p => stale p.2 && p.2.required then .error s.cursor.fault
  else .ok { s with places := s.places.filter fun p => !stale p.2 }

/-- Gives up the place at the current depth. -/
def removePlace (s : Scanner) : Step :=
  if s.places.any fun p => p.1 == s.depth && p.2.required then .error s.cursor.fault else .ok s.dropPlace

/-- Remembers the current place as that of a possible key. -/
def savePlace (s : Scanner) : Step :=
  if s.keyAllowed then
    s.removePlace.map fun s =>
      let required := !s.inFlow && s.indent == s.column
      let place : KeyPlace := ⟨s.tokens.size, required, s.cursor.index, s.cursor.line, s.cursor.column⟩
      { s with places := (s.depth, place) :: s.places }
  else .ok s

/-- Closes the block collections that are indented deeper than a column. -/
def unwindFrom (column : Int) : List Int → Scanner → Scanner
  | [], s => s
  | i :: outer, s =>
    if column < s.indent then unwindFrom column outer { s.push .blockEnd with indent := i, indents := outer }
    else s

def unwind (s : Scanner) (column : Int) : Scanner := if s.inFlow then s else unwindFrom column s.indents s

/-- Opens a block collection at a deeper column. -/
def addIndent (s : Scanner) (column : Int) : Option Scanner :=
  if s.indent < column then some { s with indents := s.indent :: s.indents, indent := column } else none

def forward (s : Scanner) (n : Nat) : Scanner := { s with cursor := s.cursor.forward n }

def streamEnd (s : Scanner) : Step :=
  (s.unwind (-1)).removePlace.map fun s => { s with keyAllowed := false, places := [] }.push .streamEnd

def directive (s : Scanner) : Step :=
  (s.unwind (-1)).removePlace.bind fun s =>
    (Name.directive s.cursor).map fun (d, c) => { s with keyAllowed := false, cursor := c }.push (.directive d)

def marker (s : Scanner) (t : Token) : Step :=
  (s.unwind (-1)).removePlace.map fun s => ({ s with keyAllowed := false }.forward 3).push t

def flowStart (s : Scanner) (t : Token) : Step :=
  s.savePlace.map fun s => ({ s with depth := s.depth + 1, keyAllowed := true }.forward 1).push t

def flowEnd (s : Scanner) (t : Token) : Step :=
  s.removePlace.map fun s => ({ s with depth := s.depth - 1, keyAllowed := false }.forward 1).push t

def flowEntry (s : Scanner) : Step :=
  (removePlace { s with keyAllowed := true }).map fun s => (s.forward 1).push .flowEntry

/-- Opens a block collection here, if one begins. -/
def openBlock (s : Scanner) (t : Token) : Scanner :=
  match s.addIndent s.column with
  | some s => s.push t
  | none => s

def blockEntry (s : Scanner) : Step :=
  if !s.inFlow && !s.keyAllowed then .error s.cursor.fault
  else
    let s := if s.inFlow then s else s.openBlock .blockSequenceStart
    (removePlace { s with keyAllowed := true }).map fun s => (s.forward 1).push .blockEntry

def key (s : Scanner) : Step :=
  if !s.inFlow && !s.keyAllowed then .error s.cursor.fault
  else
    let s := if s.inFlow then s else s.openBlock .blockMappingStart
    (removePlace { s with keyAllowed := !s.inFlow }).map fun s => (s.forward 1).push .key

def insertAt (s : Scanner) (position : Nat) (t : Token) : Scanner :=
  { s with tokens := s.tokens.insertIdxIfInBounds position t }

/-- A colon. If a possible key is pending, it was one: its tokens go in front of it. -/
def value (s : Scanner) : Step :=
  match s.places.lookup s.depth with
  | some place =>
    let s := s.dropPlace.insertAt place.position .key
    let s :=
      if s.inFlow then s
      else
        match s.addIndent place.column with
        | some s => s.insertAt place.position .blockMappingStart
        | none => s
    .ok (({ s with keyAllowed := false }.forward 1).push .value)
  | none =>
    if !s.inFlow && !s.keyAllowed then .error s.cursor.fault
    else
      let s := if s.inFlow then s else s.openBlock .blockMappingStart
      (removePlace { s with keyAllowed := !s.inFlow }).map fun s => (s.forward 1).push .value

def named (s : Scanner) (make : String → Token) : Step :=
  s.savePlace.bind fun s =>
    (Name.anchor s.cursor).map fun (n, c) => { s with keyAllowed := false, cursor := c }.push (make n)

def tag (s : Scanner) : Step :=
  s.savePlace.bind fun s =>
    (Name.tag s.cursor).map fun (h, n, c) => { s with keyAllowed := false, cursor := c }.push (.tag h n)

def blockText (s : Scanner) : Step :=
  (removePlace { s with keyAllowed := true }).bind fun s =>
    (Block.scan s.indent s.cursor).map fun (t, c) =>
      { s with cursor := c }.push (.scalar (String.ofList t) false)

def quotedText (s : Scanner) : Step :=
  s.savePlace.bind fun s =>
    (Quoted.scan s.cursor).map fun (t, c) =>
      { s with keyAllowed := false, cursor := c }.push (.scalar (String.ofList t) false)

def plainText (s : Scanner) : Step :=
  s.savePlace.map fun s =>
    let (t, left, c) := Plain.scan s.inFlow s.indent s.cursor
    { s with keyAllowed := left, cursor := c }.push (.scalar (String.ofList t) true)

/-- Whether a plain text may begin here. -/
def startsPlain (s : Scanner) : Bool :=
  let x := s.cursor.peek 0
  !(isGap x || "-?:,[]\x7b\x7d#&*!|>\x27\x22%@\x60".toList.contains x) ||
    (!isGap (s.cursor.peek 1) && (x == '-' || (!s.inFlow && (x == '?' || x == ':'))))

/-- Reads the next token, with those that it implies. -/
def step (s : Scanner) : Step :=
  (skipGap (s.cursor.rest.length + 1) s).dropStale.bind fun s =>
    let s := s.unwind s.column
    let c := s.cursor
    let x := c.peek 0
    let alone := isGap (c.peek 1)
    if isEnd x then s.streamEnd
    else if x = '%' ∧ c.column = 0 then s.directive
    else if x = '-' ∧ c.column = 0 ∧ c.atMarker then s.marker .documentStart
    else if x = '.' ∧ c.column = 0 ∧ c.atMarker then s.marker .documentEnd
    else if x = '[' then s.flowStart .flowSequenceStart
    else if x = '\x7b' then s.flowStart .flowMappingStart
    else if x = ']' then s.flowEnd .flowSequenceEnd
    else if x = '\x7d' then s.flowEnd .flowMappingEnd
    else if x = ',' then s.flowEntry
    else if x = '-' ∧ alone then s.blockEntry
    else if x = '?' ∧ (s.inFlow ∨ alone) then s.key
    else if x = ':' ∧ (s.inFlow ∨ alone) then s.value
    else if x = '*' then s.named .alias
    else if x = '&' then s.named .anchor
    else if x = '!' then s.tag
    else if (x = '|' ∨ x = '>') ∧ !s.inFlow then s.blockText
    else if x = '\x27' ∨ x = '\x22' then s.quotedText
    else if s.startsPlain then s.plainText
    else .error c.fault

def isDone (s : Scanner) : Bool := s.tokens.back? == some .streamEnd

/-- Reads tokens until there is one that is not taken, of which it is clear whether it begins a key. -/
def settle : Nat → Scanner → Step
  | 0, s => .ok s
  | fuel + 1, s =>
    if s.isDone then .ok s
    else if s.taken = s.tokens.size then s.step.bind (settle fuel)
    else
      s.dropStale.bind fun s =>
        if s.places.any (·.2.position == s.taken) then s.step.bind (settle fuel) else .ok s

/-- The first token that is not taken. -/
def peek (s : Scanner) : Except Fault (Token × Scanner) :=
  (s.settle (s.cursor.rest.length + 2)).map fun s => (s.tokens.getD s.taken .streamEnd, s)

/-- Takes the first token. -/
def take (s : Scanner) : Scanner := { s with taken := s.taken + 1 }

end Scanner

/-- All line breaks that belong to a carriage return as newlines. -/
def unifyBreaks : List Char → List Char
  | [] => []
  | '\r' :: '\n' :: rest => '\n' :: unifyBreaks rest
  | '\r' :: rest => '\n' :: unifyBreaks rest
  | c :: rest => c :: unifyBreaks rest

/-- The beginning of a text, which must consist of the characters that a stream may contain. A byte order
mark in front is skipped. -/
def Scanner.ofText? (text : List Char) : Except Fault Scanner :=
  let text := unifyBreaks text
  match text.find? (!Text.within printable ·) with
  | some _ => .error (.malformed 0 0)
  | none => .ok (.start (if text.head? = some '\ufeff' then text.drop 1 else text))

end TypedScalar.Yaml
